/-
Tables with text keys, in order of first insertion.

* `Table.find?`, `Table.set`, `Table.erase`: look up, put in or replace, and remove.
* `find?_set`: what a look-up finds after a change.
-/

namespace HostedRepl

/-- Pairs of a key and a value; no operation gives a key twice. -/
abbrev Table (α : Type) := List (String × α)

namespace Table

variable {α : Type}

/-- The value under a key. -/
def find? (t : Table α) (key : String) : Option α := List.lookup key t

/-- Put a value under a key, in place of the old one or at the end. -/
def set (t : Table α) (key : String) (a : α) : Table α :=
  match t with
  | [] => [(key, a)]
  | (k, b) :: rest => if k = key then (key, a) :: rest else (k, b) :: set rest key a

/-- Remove a key. -/
def erase (t : Table α) (key : String) : Table α := t.filter fun e => e.1 != key

theorem find?_cons (k : String) (b : α) (t : Table α) (key : String) :
    find? ((k, b) :: t) key = if key = k then some b else find? t key := by
  by_cases h : key = k
  · simp [find?, h]
  · simp [find?, List.lookup_cons, h, beq_eq_false_iff_ne.2 h]

theorem find?_set (t : Table α) (key key' : String) (a : α) :
    (t.set key a).find? key' = if key' = key then some a else t.find? key' := by
  induction t with
  | nil => simp only [set, find?_cons]
  | cons e rest ih =>
    obtain ⟨k, b⟩ := e
    rw [set]
    split <;> simp only [find?_cons, ih] <;> grind

theorem find?_erase (t : Table α) (key key' : String) :
    (t.erase key).find? key' = if key' = key then none else t.find? key' := by
  induction t with
  | nil => simp [erase, find?]
  | cons e rest ih =>
    obtain ⟨k, b⟩ := e
    by_cases hk : k = key
    · have dropped : erase ((k, b) :: rest) key = erase rest key := by simp [erase, hk]
      rw [dropped, find?_cons, ih]
      grind
    · have kept : erase ((k, b) :: rest) key = (k, b) :: erase rest key := by simp [erase, hk]
      rw [kept, find?_cons, find?_cons, ih]
      grind

end Table

end HostedRepl
