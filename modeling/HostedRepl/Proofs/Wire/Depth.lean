/-
The depth of the nodes of a value.

* `Value.ind`: induction over values, with every item of a list and every
  value of a dictionary at hand.
* `Value.Node`: the nodes of a value with their depths, the root at depth 0.
* `Value.height`: the greatest depth of a node; `height_le_iff` ties it to
  the nodes.
-/
import Mathlib.Tactic
import HostedRepl.Wire.Value

namespace HostedRepl.Wire

namespace Value

/-- The induction principle of the nested type: a property holds of every value once lists and
dictionaries inherit it from what is in them. -/
@[elab_as_elim]
theorem ind {P : Value → Prop} (int : ∀ n, P (.int n)) (bytes : ∀ b, P (.bytes b))
    (list : ∀ items : List Value, (∀ v ∈ items, P v) → P (.list items))
    (dict : ∀ entries : Fields, (∀ e ∈ entries, P e.2) → P (.dict entries)) (v : Value) : P v :=
  Value.rec (motive_1 := P) (motive_2 := fun items => ∀ v ∈ items, P v)
    (motive_3 := fun entries => ∀ e ∈ entries, P e.2) (motive_4 := fun e => P e.2)
    int bytes list dict
    (fun _ h => absurd h List.not_mem_nil)
    (fun _ _ head tail v hv => by
      rcases List.mem_cons.mp hv with rfl | hv
      · exact head
      · exact tail v hv)
    (fun _ h => absurd h List.not_mem_nil)
    (fun _ _ head tail e he => by
      rcases List.mem_cons.mp he with rfl | he
      · exact head
      · exact tail e he)
    (fun _ _ h => h) v

/-- A node of a value with its depth: the root has depth 0, and an item of a list or the value of
an entry has one more than its container. -/
inductive Node (root : Value) : Nat → Value → Prop where
  | root : Node root 0 root
  | item {d : Nat} {items : List Value} {v : Value} :
      Node root d (.list items) → v ∈ items → Node root (d + 1) v
  | entry {d : Nat} {entries : Fields} {e : Bytes × Value} :
      Node root d (.dict entries) → e ∈ entries → Node root (d + 1) e.2

mutual

/-- The depth of the deepest node of a value. -/
def height : Value → Nat
  | .int _ => 0
  | .bytes _ => 0
  | .list items => heightItems items
  | .dict entries => heightEntries entries

/-- The depth of the deepest node below a list; 0 if there is none. -/
def heightItems : List Value → Nat
  | [] => 0
  | v :: vs => max (height v + 1) (heightItems vs)

/-- The depth of the deepest node below a dictionary; 0 if there is none. -/
def heightEntries : List (Bytes × Value) → Nat
  | [] => 0
  | (_, v) :: es => max (height v + 1) (heightEntries es)

end

/-! ### Containers -/

lemma height_lt_of_mem {items : List Value} {v : Value} (h : v ∈ items) :
    height v < height (.list items) := by
  rw [height]
  induction items with
  | nil => exact absurd h List.not_mem_nil
  | cons w items ih =>
      rw [heightItems]
      rcases List.mem_cons.mp h with rfl | h
      · omega
      · have := ih h
        omega

lemma height_lt_of_mem_entries {entries : Fields} {e : Bytes × Value} (h : e ∈ entries) :
    height e.2 < height (.dict entries) := by
  rw [height]
  induction entries with
  | nil => exact absurd h List.not_mem_nil
  | cons e' entries ih =>
      rw [heightEntries]
      rcases List.mem_cons.mp h with rfl | h
      · omega
      · have := ih h
        omega

/-- A list with anything in it owes its height to one of its items. -/
lemma exists_height_items (items : List Value) :
    height (.list items) = 0 ∨ ∃ v ∈ items, height (.list items) = height v + 1 := by
  rw [height]
  induction items with
  | nil => exact .inl rfl
  | cons w items ih =>
      rw [heightItems]
      rcases Nat.le_total (heightItems items) (height w + 1) with le | le
      · exact .inr ⟨w, by simp, by omega⟩
      · rcases ih with zero | ⟨v, hv, eq⟩
        · omega
        · exact .inr ⟨v, List.mem_cons_of_mem _ hv, by omega⟩

lemma exists_height_entries (entries : Fields) :
    height (.dict entries) = 0 ∨ ∃ e ∈ entries, height (.dict entries) = height e.2 + 1 := by
  rw [height]
  induction entries with
  | nil => exact .inl rfl
  | cons e' entries ih =>
      rw [heightEntries]
      rcases Nat.le_total (heightEntries entries) (height e'.2 + 1) with le | le
      · exact .inr ⟨e', by simp, by omega⟩
      · rcases ih with zero | ⟨e, he, eq⟩
        · omega
        · exact .inr ⟨e, List.mem_cons_of_mem _ he, by omega⟩

/-! ### Nodes -/

/-- A node and the nodes below it do not go beyond the height of the root. -/
lemma Node.add_height_le {root w : Value} {d : Nat} (h : Node root d w) :
    d + height w ≤ height root := by
  induction h with
  | root => omega
  | item _ mem ih =>
      have := height_lt_of_mem mem
      omega
  | entry _ mem ih =>
      have := height_lt_of_mem_entries mem
      omega

/-- A node of a node is a node. -/
lemma Node.trans {root v w : Value} {d d' : Nat} (h : Node root d v) (h' : Node v d' w) :
    Node root (d + d') w := by
  induction h' with
  | root => exact h
  | item _ mem ih => exact .item ih mem
  | entry _ mem ih => exact .entry ih mem

/-- Some node lies as deep as the height says. -/
lemma exists_node_height (v : Value) : ∃ w, Node v (height v) w := by
  induction v using ind with
  | int n => exact ⟨_, .root⟩
  | bytes b => exact ⟨_, .root⟩
  | list items ih =>
      rcases exists_height_items items with zero | ⟨v, hv, eq⟩
      · exact ⟨_, by rw [zero]; exact .root⟩
      · obtain ⟨w, hw⟩ := ih v hv
        have below := (Node.item .root hv).trans hw
        rw [eq, Nat.add_comm, ← Nat.zero_add 1]
        exact ⟨w, below⟩
  | dict entries ih =>
      rcases exists_height_entries entries with zero | ⟨e, he, eq⟩
      · exact ⟨_, by rw [zero]; exact .root⟩
      · obtain ⟨w, hw⟩ := ih e he
        have below := (Node.entry .root he).trans hw
        rw [eq, Nat.add_comm, ← Nat.zero_add 1]
        exact ⟨w, below⟩

/-- **The height bounds the depth of every node**, and no smaller number does. -/
theorem height_le_iff {v : Value} {n : Nat} : height v ≤ n ↔ ∀ d w, Node v d w → d ≤ n := by
  constructor
  · intro h d w node
    have := node.add_height_le
    omega
  · intro h
    obtain ⟨w, node⟩ := exists_node_height v
    exact h _ w node

end Value

end HostedRepl.Wire
