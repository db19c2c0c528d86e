/-
Values of the wire format.

A value is an integer of 64 bits, a byte string, a list, or a dictionary with byte-string keys.

* `Value`: the four kinds. The entries of a dictionary stand in ascending order of their keys, and
  no key occurs twice; `Fields.insert` keeps this.
* `Value.WellFormed`: that order, in every dictionary of a value.
* `Value.depth`: how many lists and dictionaries lie inside one another.
* `Value.text?`, `int?`, `list?`, `dict?`: a value as one of the kinds.
-/
import HostedRepl.Wire.Bytes

namespace HostedRepl.Wire

/-- A value of the wire format. -/
inductive Value where
  | int (n : Int64)
  | bytes (b : Bytes)
  | list (items : List Value)
  | dict (entries : List (Bytes × Value))
  deriving Inhabited

/-- The entries of a dictionary. -/
abbrev Fields := List (Bytes × Value)

namespace Value

mutual

/-- Structural equality, as a test. -/
def same : Value → Value → Bool
  | .int a, .int b => a == b
  | .bytes a, .bytes b => a == b
  | .list a, .list b => sameItems a b
  | .dict a, .dict b => sameEntries a b
  | _, _ => false

/-- Equality of lists, item by item. -/
def sameItems : List Value → List Value → Bool
  | [], [] => true
  | a :: as, b :: bs => same a b && sameItems as bs
  | _, _ => false

/-- Equality of dictionaries, entry by entry. -/
def sameEntries : List (Bytes × Value) → List (Bytes × Value) → Bool
  | [], [] => true
  | (k, a) :: as, (l, b) :: bs => k == l && (same a b && sameEntries as bs)
  | _, _ => false

end

mutual

theorem same_iff : ∀ a b : Value, same a b = true ↔ a = b
  | .int a, b => by cases b <;> simp [same]
  | .bytes a, b => by cases b <;> simp [same]
  | .list a, b => by cases b <;> simp [same, sameItems_iff a]
  | .dict a, b => by cases b <;> simp [same, sameEntries_iff a]

theorem sameItems_iff : ∀ as bs : List Value, sameItems as bs = true ↔ as = bs
  | [], bs => by cases bs <;> simp [sameItems]
  | a :: as, bs => by
    cases bs <;> simp [sameItems, same_iff a, sameItems_iff as]

theorem sameEntries_iff : ∀ as bs : List (Bytes × Value), sameEntries as bs = true ↔ as = bs
  | [], bs => by cases bs <;> simp [sameEntries]
  | (k, a) :: as, bs => by
    rcases bs with - | ⟨⟨l, b⟩, bs⟩ <;>
      simp [sameEntries, same_iff a, sameEntries_iff as, and_assoc]

end

instance : DecidableEq Value := fun a b => decidable_of_iff _ (same_iff a b)

/-- A byte string from its text. -/
def text (s : String) : Value := .bytes (Bytes.ofText s)

/-- A list of byte strings from their texts. -/
def texts (ss : List String) : Value := .list (ss.map text)

/-- The text of a byte string that is UTF-8. -/
def text? : Value → Option String
  | .bytes b => b.text?
  | _ => none

/-- The integer of an integer value. -/
def int? : Value → Option Int64
  | .int n => some n
  | _ => none

/-- The items of a list. -/
def list? : Value → Option (List Value)
  | .list items => some items
  | _ => none

/-- The entries of a dictionary. -/
def dict? : Value → Option Fields
  | .dict entries => some entries
  | _ => none

mutual

/-- The nesting of lists and dictionaries; an atom has depth 0. -/
def depth : Value → Nat
  | .int _ => 0
  | .bytes _ => 0
  | .list items => 1 + depthItems items
  | .dict entries => 1 + depthEntries entries

/-- The greatest depth of an item. -/
def depthItems : List Value → Nat
  | [] => 0
  | v :: vs => max (depth v) (depthItems vs)

/-- The greatest depth of an entry's value. -/
def depthEntries : List (Bytes × Value) → Nat
  | [] => 0
  | (_, v) :: es => max (depth v) (depthEntries es)

end

end Value

namespace Fields

/-- Put a value under a key: in place of the old value, or at the key's place in the order. -/
def insert (key : Bytes) (v : Value) : Fields → Fields
  | [] => [(key, v)]
  | (k, w) :: rest =>
    if key = k then (key, v) :: rest
    else if key < k then (key, v) :: (k, w) :: rest
    else (k, w) :: insert key v rest

/-- The value under a key. -/
def get? (fields : Fields) (key : Bytes) : Option Value := List.lookup key fields

/-- The value under the UTF-8 bytes of a text. -/
def field? (fields : Fields) (key : String) : Option Value := fields.get? (Bytes.ofText key)

/-- The text under a key, if there is one. -/
def text? (fields : Fields) (key : String) : Option String := (fields.field? key).bind Value.text?

/-- The fields with a value put under the UTF-8 bytes of a text. -/
def put (fields : Fields) (key : String) (v : Value) : Fields := insert (Bytes.ofText key) v fields

/-- The dictionary entries of pairs put in one after the other; a later pair with the same key
wins. -/
def ofPairs (pairs : List (Bytes × Value)) : Fields :=
  pairs.foldl (fun fields p => insert p.1 p.2 fields) []

/-- The keys ascend strictly. -/
def Sorted (fields : Fields) : Prop := (fields.map Prod.fst).Pairwise (· < ·)

end Fields

/-- In every dictionary of the value the keys ascend strictly. -/
inductive Value.WellFormed : Value → Prop where
  | int (n : Int64) : WellFormed (.int n)
  | bytes (b : Bytes) : WellFormed (.bytes b)
  | list {items : List Value} : (∀ v ∈ items, WellFormed v) → WellFormed (.list items)
  | dict {entries : Fields} : entries.Sorted → (∀ e ∈ entries, WellFormed e.2) →
      WellFormed (.dict entries)

end HostedRepl.Wire
