/-
The encoding of a value.

An integer is `i`, its decimal form and `e`; a byte string is its length, a colon and the bytes; a
list is `l`, its items and `e`; a dictionary is `d`, its keys and values in order and `e`.

* `Value.encode`: the bytes of a value. They are collected last byte first, so that a long list
  takes no stack.
* `encode_int`, `encode_bytes`, `encode_list`, `encode_dict`: the encoding by the kind of value.
-/
import HostedRepl.Wire.Value

namespace HostedRepl.Wire

/-- The encoding of a byte string. -/
def Bytes.encode (b : Bytes) : Bytes := Bytes.ofNat b.length ++ 58 :: b

namespace Value

mutual

/-- Put the encoding of a value before the bytes collected so far, last byte first. -/
def collect : Value → Bytes → Bytes
  | .int n, acc => 101 :: (Bytes.ofInt n.toInt).reverseAux (105 :: acc)
  | .bytes b, acc => b.encode.reverseAux acc
  | .list items, acc => 101 :: collectItems items (108 :: acc)
  | .dict entries, acc => 101 :: collectEntries entries (100 :: acc)

/-- The items of a list, in order. -/
def collectItems : List Value → Bytes → Bytes
  | [], acc => acc
  | v :: vs, acc => collectItems vs (collect v acc)

/-- The keys and values of a dictionary, in order. -/
def collectEntries : List (Bytes × Value) → Bytes → Bytes
  | [], acc => acc
  | (k, v) :: es, acc => collectEntries es (collect v (k.encode.reverseAux acc))

end

/-- The bytes of a value. -/
def encode (v : Value) : Bytes := (collect v []).reverse

mutual

theorem collect_eq : ∀ (v : Value) (acc : Bytes), collect v acc = collect v [] ++ acc
  | .int n, acc => by simp [collect, List.reverseAux_eq]
  | .bytes b, acc => by simp [collect, List.reverseAux_eq]
  | .list items, acc => by
    rw [collect, collect, collectItems_eq items, collectItems_eq items [108]]; simp
  | .dict entries, acc => by
    rw [collect, collect, collectEntries_eq entries, collectEntries_eq entries [100]]; simp

theorem collectItems_eq : ∀ (vs : List Value) (acc : Bytes),
    collectItems vs acc = collectItems vs [] ++ acc
  | [], acc => by simp [collectItems]
  | v :: vs, acc => by
    rw [collectItems, collectItems, collectItems_eq vs, collectItems_eq vs (collect v []),
      collect_eq v acc]
    simp

theorem collectEntries_eq : ∀ (es : List (Bytes × Value)) (acc : Bytes),
    collectEntries es acc = collectEntries es [] ++ acc
  | [], acc => by simp [collectEntries]
  | (k, v) :: es, acc => by
    rw [collectEntries, collectEntries, collectEntries_eq es,
      collectEntries_eq es (collect v _), collect_eq v (k.encode.reverseAux acc),
      collect_eq v (k.encode.reverseAux [])]
    simp [List.reverseAux_eq]

end

theorem reverse_collectItems : ∀ vs : List Value, (collectItems vs []).reverse = vs.flatMap encode
  | [] => by simp [collectItems]
  | v :: vs => by
    rw [collectItems, collectItems_eq, List.reverse_append, reverse_collectItems vs]
    simp [encode]

theorem reverse_collectEntries : ∀ es : List (Bytes × Value),
    (collectEntries es []).reverse = es.flatMap fun e => e.1.encode ++ encode e.2
  | [] => by simp [collectEntries]
  | (k, v) :: es => by
    rw [collectEntries, collectEntries_eq, collect_eq, List.reverse_append,
      reverse_collectEntries es]
    simp [encode, List.reverseAux_eq]

theorem encode_int (n : Int64) : encode (.int n) = 105 :: Bytes.ofInt n.toInt ++ [101] := by
  simp [encode, collect, List.reverseAux_eq]

theorem encode_bytes (b : Bytes) : encode (.bytes b) = b.encode := by
  simp [encode, collect, List.reverseAux_eq]

theorem encode_list (items : List Value) :
    encode (.list items) = 108 :: items.flatMap encode ++ [101] := by
  rw [encode, collect, collectItems_eq]
  simp [reverse_collectItems]

theorem encode_dict (entries : Fields) :
    encode (.dict entries) =
      100 :: (entries.flatMap fun e => e.1.encode ++ encode e.2) ++ [101] := by
  rw [encode, collect, collectEntries_eq]
  simp [reverse_collectEntries]

end Value

end HostedRepl.Wire
