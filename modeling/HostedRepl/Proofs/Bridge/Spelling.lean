/-
Sessions that are asked for twice.

A text names a registered session by the id that it spells, and a session that
stands in for an unknown id by the text itself. So a registered session is the
same one under each spelling of its id, but an unknown id has a session of its
own for each spelling.

* `Registry.spells_resolve_iff`: which texts spell the session that they get.
* `Registry.Kept.standIn_unique`: no session stands in for two texts.
* `Dealing.own_of_registered`: a registered session stays with its owner until
  that one ends.
* `Site.Retains`: a run that removes no session; `Retains.subset`,
  `Retains.own`: what is registered and owned stays so.
* `Site.resolve_again`: **when a connection gets the same session again**.
* `Site.unknown_id_respelled`: two spellings of an unknown id have two sessions.
-/
import Mathlib.Tactic
import HostedRepl.Proofs.Bridge.Ownership

namespace HostedRepl

/-! ### Texts -/

namespace Registry

variable {r : Registry} {o : Owned} {text text' : String}

/-- **A text spells the session that it gets** just if it spells a registered id, or the one that
has just been drawn. -/
lemma spells_resolve_iff (r : Registry) (o : Owned) (text : String) :
    SessionId.parse? text = some (r.resolve o (some text)).1 ↔
      ∃ id, SessionId.parse? text = some id ∧
        (id ∈ r.ids ∨ (r.resolve o (some text)).1 ∉ r.ids ∧ id = (r.create .connection).1) := by
  constructor
  · intro spells
    refine ⟨_, spells, ?_⟩
    by_cases old : (r.resolve o (some text)).1 ∈ r.ids
    · exact .inl old
    · exact .inr ⟨old, resolve_of_not_mem old⟩
  · rintro ⟨id, spells, old | ⟨new, rfl⟩⟩
    · rw [resolve_of_spelling spells old, spells]
    · rw [resolve_of_not_mem new, spells]

/-- A text that spells no registered id has a session that stands in for it. -/
lemma own_resolve (unknown : ∀ id ∈ r.ids, SessionId.parse? text ≠ some id) :
    (r.resolve o (some text)).2.2.at? (.standIn text) = some (r.resolve o (some text)).1 := by
  rw [resolve_of_unknown unknown]
  exact own_resolveUnknown r o text

/-- **No session stands in for two texts.** -/
lemma Kept.standIn_unique {owned : Nat → Owned} {conn : Nat} {id : SessionId} (h : Kept r owned)
    (own : Owns owned (conn, .standIn text) id) (registered : id ∈ r.ids)
    (unknown : ∀ k ∈ r.ids, SessionId.parse? text' ≠ some k)
    (distinct : (r.resolve (owned conn) (some text')).2.1.Distinct)
    (same : (r.resolve (owned conn) (some text')).1 = id) : text = text' := by
  have resolved := resolve_sound r (owned conn) (some text')
  have stays := resolved.own_of_registered own registered
  have given := own_resolve (o := owned conn) unknown
  rw [same] at given
  have role := (h.resolve conn (some text') distinct).once (conn, .standIn text)
    (conn, .standIn text') id (by simpa [Owns] using stays) (by simpa [Owns] using given)
  exact Role.standIn.inj (congrArg Prod.snd role)

end Registry

namespace Bridge

/-- A registered session stays with its owner until that one ends. -/
lemma Dealing.own_of_registered {l l' : Ledger} {a : Action} {e : Event} {closed : List SessionId}
    {id : SessionId} {p : Nat × Role} (d : Dealing l a e closed l') (own : Owns l.owned p id)
    (registered : id ∈ l.registry.ids) (stays : a ≠ .disconnect p.1) : Owns l'.owned p id := by
  cases d with
  | none _ _ => exact own
  | resolved conn requested _ _ =>
      by_cases same : p.1 = conn
      · subst same
        have resolved := Registry.resolve_sound l.registry (l.owned p.1) requested
        simpa [Owns] using resolved.own_of_registered own registered
      · simpa [Owns, same] using own
  | ended conn => exact owns_update_none.mpr ⟨fun same => stays (same ▸ rfl), own⟩
  | begun _ _ => exact own
  | handed _ => exact own
  | panicked _ => exact own
  | settled _ _ => exact own

namespace Site

variable {σ : Type}

/-! ### Runs that remove no session -/

/-- No step of the run removes a session. -/
def Retains (ev : Evaluator σ) : Site σ → List Action → Prop
  | _, [] => True
  | s, a :: as => s.exchange.registry.ids ⊆ (s.act ev a).2.exchange.registry.ids ∧
      Retains ev (s.act ev a).2 as

namespace Retains

variable {ev : Evaluator σ} {s : Site σ} {as : List Action}

lemma subset (h : s.Retains ev as) :
    s.exchange.registry.ids ⊆ (s.run ev as).2.exchange.registry.ids := by
  induction as generalizing s with
  | nil => exact List.Subset.refl _
  | cons a as ih => exact List.Subset.trans h.1 (ih h.2)

/-- A registered session stays with its owner. -/
lemma own (h : s.Retains ev as) {p : Nat × Role} {id : SessionId} (own : Owns s.owned p id)
    (registered : id ∈ s.exchange.registry.ids) (stays : .disconnect p.1 ∉ as) :
    Owns (s.run ev as).2.owned p id := by
  induction as generalizing s with
  | nil => exact own
  | cons a as ih =>
      obtain ⟨closed, d, -⟩ := act_deals ev s a
      obtain ⟨now, later⟩ := not_or.mp (List.mem_cons.not.mp stays)
      exact ih h.2 (d.own_of_registered own registered (Ne.symm now)) (h.1 registered) later

end Retains

/-! ### Asking twice -/

variable (ev : Evaluator σ)

/-- **When a connection gets the same session again.** Two texts that spell the same id, or no id
at all, are asked for one after the other, and no session is removed between. The first one makes at
most one session. If it spells the session that it gets, then the second text gets that session too;
this is so if the id was registered, or has just been drawn. Also if the texts are the same one and
spell no registered id they get the same session, and in neither case does the second one make any.
In all other cases the second session is another one, provided that no id was drawn twice and no
session had two owners. -/
theorem resolve_again (s : Site σ) {conn : Nat} {text text' : String}
    (spelled : SessionId.parse? text = SessionId.parse? text') {as : List Action}
    (retains : (s.act ev (.resolve conn (some text))).2.Retains ev as)
    (stays : .disconnect conn ∉ as) :
    let r := s.exchange.registry
    let first := r.resolve (s.owned conn) (some text)
    let later := ((s.act ev (.resolve conn (some text))).2.run ev as).2
    let second := later.exchange.registry.resolve (later.owned conn) (some text')
    let alike := SessionId.parse? text = some first.1 ∨
      text = text' ∧ ∀ id ∈ later.exchange.registry.ids, SessionId.parse? text ≠ some id
    first.2.1.drawn ≤ r.drawn + 1 ∧
    (SessionId.parse? text = some first.1 ↔
      ∃ id, SessionId.parse? text = some id ∧
        (id ∈ r.ids ∨ first.1 ∉ r.ids ∧ id = (r.create .connection).1)) ∧
    (alike → second = (first.1, later.exchange.registry, later.owned conn)) ∧
    (r.Kept s.owned → second.2.1.Distinct → second.1 = first.1 → alike) := by
  intro r first later second alike
  have resolved : Registry.Resolution r (s.owned conn) first.1 first.2.1 first.2.2 :=
    Registry.resolve_sound r (s.owned conn) (some text)
  have registered : first.1 ∈ later.exchange.registry.ids := retains.subset resolved.registered
  -- a session that stands in for the first text does so ever after
  have own (unknown : ∀ id ∈ later.exchange.registry.ids, SessionId.parse? text ≠ some id) :
      Owns later.owned (conn, .standIn text) first.1 := by
    have unknown_before : ∀ id ∈ r.ids, SessionId.parse? text ≠ some id :=
      fun id mem => unknown id (retains.subset (resolved.subset mem))
    refine retains.own ?_ resolved.registered stays
    simpa [Owns, act] using Registry.own_resolve (o := s.owned conn) unknown_before
  refine ⟨resolved.drawn_le, Registry.spells_resolve_iff r _ text, ?_, fun kept distinct same => ?_⟩
  · rintro (spells | ⟨rfl, unknown⟩)
    · exact Registry.resolve_of_spelling (spelled ▸ spells) registered _
    · exact (Registry.resolve_of_unknown unknown _).trans
        (Registry.resolveUnknown_of_own (own unknown) registered)
  · by_cases known : ∃ id ∈ later.exchange.registry.ids, SessionId.parse? text = some id
    · obtain ⟨id, mem, spells⟩ := known
      have found : second = (id, later.exchange.registry, later.owned conn) :=
        Registry.resolve_of_spelling (spelled ▸ spells) mem _
      refine .inl ?_
      rw [spells, ← same, found]
    · have unknown : ∀ id ∈ later.exchange.registry.ids, SessionId.parse? text ≠ some id :=
        fun id mem spells => known ⟨id, mem, spells⟩
      have again := Registry.resolve_sound later.exchange.registry (later.owned conn) (some text')
      have keptLater : later.exchange.registry.Kept later.owned :=
        run_kept_from kept (.resolve conn (some text) :: as) (again.extends.distinct distinct)
      have one := keptLater.standIn_unique (own unknown) registered (spelled ▸ unknown) distinct same
      exact .inr ⟨one, unknown⟩

/-- An unknown id is asked for again, after another connection and after its other spelling. -/
theorem resolve_again_unknown :
    let ev := Evaluator.ofRuntime
    let s := start (.numbered 0) Lisp.Runtime.start ⟨0⟩
    let text := "deadbeef-0000-4000-8000-000000000000"
    let text' := "DEADBEEF-0000-4000-8000-000000000000"
    let as := [.resolve 1 none, .resolve 0 (some text')]
    let first := (s.exchange.registry.resolve (s.owned 0) (some text)).1
    let later := ((s.act ev (.resolve 0 (some text))).2.run ev as).2
    let r := later.exchange.registry
    SessionId.parse? text = SessionId.parse? text' ∧
      (s.act ev (.resolve 0 (some text))).2.Retains ev as ∧ .disconnect 0 ∉ as ∧
      s.exchange.registry.Kept s.owned ∧ (r.resolve (later.owned 0) (some text')).2.1.Distinct ∧
      r.resolve (later.owned 0) (some text) = (first, r, later.owned 0) ∧
      (r.resolve (later.owned 0) (some text')).1 ≠ first := by
  intro ev s text text' as first later r
  have spelled : SessionId.parse? text = SessionId.parse? text' := by decide +kernel
  have retains : (s.act ev (.resolve 0 (some text))).2.Retains ev as :=
    ⟨by decide +kernel, by decide +kernel, trivial⟩
  have stays : .disconnect 0 ∉ as := by simp [as]
  have kept : s.exchange.registry.Kept s.owned := Registry.Kept.start _
  have distinct : (r.resolve (later.owned 0) (some text')).2.1.Distinct := by decide +kernel
  obtain ⟨-, -, found, -⟩ := resolve_again ev s (rfl : SessionId.parse? text = _) retains stays
  obtain ⟨-, -, -, only⟩ := resolve_again ev s spelled retains stays
  have unknown : ∀ id ∈ r.ids, SessionId.parse? text ≠ some id := by decide +kernel
  have apart : SessionId.parse? text ≠ some first := by decide +kernel
  have differ : text ≠ text' := by decide +kernel
  refine ⟨spelled, retains, stays, kept, distinct, found (.inr ⟨rfl, unknown⟩), fun same => ?_⟩
  rcases only kept distinct same with named | ⟨eq, -⟩
  · exact apart named
  · exact differ eq

/-- **Two spellings of an unknown id** have two sessions, although no session is removed between. -/
theorem unknown_id_respelled :
    ¬∀ (r : Registry) (o : Owned) (text text' : String) (id : SessionId),
      SessionId.parse? text = some id → SessionId.parse? text' = some id →
        let first := r.resolve o (some text)
        let second := first.2.1.resolve first.2.2 (some text')
        second.1 = first.1 ∧ second.2.1.ids.length ≤ r.ids.length + 1 := by
  intro alike
  have one := alike (.empty (.numbered 0)) .none "deadbeef-0000-4000-8000-000000000000"
    "DEADBEEF-0000-4000-8000-000000000000" ⟨0xdeadbeef000040008000000000000000⟩
    (by decide +kernel) (by decide +kernel)
  exact absurd one (by decide +kernel)

end Site

end Bridge

end HostedRepl
