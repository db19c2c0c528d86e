/-
What the registry knows.

* `Registry.mem_ids_create`, `mem_ids_remove`, `ids_noteOp`: the registered
  ids after each operation of the host.
* `Registry.Knows`: an id is registered or retired, so that its session will
  be closed some day.
* `Registry.Knows.resolve`, `Knows.retireConnection`: what connections do
  makes no id unknown.
-/
import Mathlib.Tactic
import HostedRepl.Session.Registry

namespace HostedRepl.Registry

variable {r : Registry} {id k : SessionId}

/-! ### Registered ids -/

lemma mem_ids_create (origin : Origin) :
    id ∈ (r.create origin).2.ids ↔ id ∈ r.ids ∨ id = (r.create origin).1 := by
  simp [create, ids, eq_comm]

lemma mem_ids_remove : id ∈ (r.remove k).ids ↔ id ∈ r.ids ∧ id ≠ k := by
  simp only [remove, ids, List.mem_map, List.mem_filter, bne_iff_ne]
  constructor
  · rintro ⟨s, ⟨mem, ne⟩, rfl⟩
    exact ⟨⟨s, mem, rfl⟩, ne⟩
  · rintro ⟨⟨s, mem, rfl⟩, ne⟩
    exact ⟨s, ⟨mem, ne⟩, rfl⟩

/-- Noting a request changes no id. -/
lemma ids_noteOp (op : Option Wire.Value) : (r.noteOp k op).ids = r.ids := by
  rw [noteOp, ids, List.map_map]
  refine List.map_congr_left fun s _ => ?_
  rw [Function.comp_apply]
  split <;> rfl

/-! ### Known ids -/

/-- The id is registered, or retired and not yet closed. -/
def Knows (r : Registry) (id : SessionId) : Prop := id ∈ r.ids ∨ id ∈ r.retired

instance : Decidable (r.Knows id) := inferInstanceAs (Decidable (_ ∨ _))

namespace Knows

lemma create (h : r.Knows id) (origin : Origin) : (r.create origin).2.Knows id :=
  h.imp (fun mem => (mem_ids_create origin).mpr (.inl mem)) fun mem => mem

lemma noteOp (op : Option Wire.Value) : (r.noteOp k op).Knows id ↔ r.Knows id := by
  rw [Knows, Knows, ids_noteOp]
  rfl

/-- Removing a session makes no other one unknown. -/
lemma remove (h : r.Knows id) (ne : id ≠ k) : (r.remove k).Knows id :=
  h.imp (fun mem => mem_ids_remove.mpr ⟨mem, ne⟩) fun mem => mem

/-- A session that is retired stays known. -/
lemma retire (h : r.Knows id) : (r.retire k).Knows id := by
  rw [Registry.retire]
  split
  · by_cases same : id = k
    · exact .inr (by simp [same])
    · exact (h.remove same).imp_right fun mem => List.mem_append_left _ mem
  · exact h

lemma retireConnection (h : r.Knows id) (o : Owned) : (r.retireConnection o).Knows id := by
  rw [Registry.retireConnection]
  generalize o.ids = ids
  induction ids generalizing r with
  | nil => exact h
  | cons k ids ih => exact ih h.retire

lemma resolveDefault (h : r.Knows id) (o : Owned) : (r.resolveDefault o).2.1.Knows id := by
  rw [Registry.resolveDefault]
  split
  · exact h
  · exact h.create .connection

lemma resolveUnknown (h : r.Knows id) (o : Owned) (requested : String) :
    (r.resolveUnknown o requested).2.1.Knows id := by
  rw [Registry.resolveUnknown]
  split
  · exact h
  · exact h.create .connection

lemma resolve (h : r.Knows id) (o : Owned) (requested : Option String) :
    (r.resolve o requested).2.1.Knows id := by
  cases requested with
  | none => exact h.resolveDefault o
  | some requested =>
      rw [Registry.resolve]
      split
      · exact h
      · exact h.resolveUnknown o requested

end Knows

end HostedRepl.Registry
