/-
Sessions that are left behind.

The registry knows the sessions that clients may use, and the evaluator keeps
a state for those in which something was evaluated. Both are changed at
different times: a session may be closed or retired while a request for it
waits, and evaluating the request makes its state again.

* `Mark`, `Site.log`: the evaluations and closings of a run.
* `Stray`: something was evaluated in the session while the registry did not
  know it, and it has not been closed since.
* `Upkeep`, `Site.act_upkeep`: what a step does to sessions.
* `Site.run_accounted`: what the evaluator stores is known to the registry,
  about to be closed, or stray.
* `Site.left_behind_iff`: **which sessions are left behind**.
* `Site.not_always_known`: some are.
-/
import Mathlib.Tactic
import HostedRepl.Proofs.Bridge.Deed
import HostedRepl.Proofs.Bridge.Queue
import HostedRepl.Proofs.Session.Registry

namespace HostedRepl.Bridge

open Lisp (Runtime)
open Wire (Request)

/-! ### Strays -/

/-- What happens to a session in the evaluator. -/
inductive Mark where
  /-- Something was evaluated; the registry knew the session or not. -/
  | evaluated (id : SessionId) (known : Bool)
  | closed (id : SessionId)

/-- Something was evaluated in the session while the registry did not know it, and it has not been
closed since. -/
def Stray (log : List Mark) (id : SessionId) : Prop :=
  ∃ before after, log = before ++ .evaluated id false :: after ∧ Mark.closed id ∉ after

lemma not_stray_nil {id : SessionId} : ¬Stray [] id := by
  rintro ⟨before, after, eq, -⟩
  exact absurd eq (by simp)

lemma stray_concat {log : List Mark} {m : Mark} {id : SessionId} :
    Stray (log ++ [m]) id ↔ m = .evaluated id false ∨ Stray log id ∧ m ≠ .closed id := by
  constructor
  · rintro ⟨before, after, eq, unclosed⟩
    rcases List.eq_nil_or_concat after with rfl | ⟨after, last, rfl⟩
    · exact .inl (List.append_inj_right' eq rfl |> List.singleton_inj.mp)
    · have eq' : log ++ [m] = (before ++ .evaluated id false :: after) ++ [last] := by
        rw [eq, List.concat_eq_append, List.append_assoc, List.cons_append]
      obtain ⟨rfl, same⟩ := List.append_inj' eq' rfl
      obtain rfl := List.singleton_inj.mp same
      rw [List.concat_eq_append, List.mem_append, List.mem_singleton, not_or] at unclosed
      exact .inr ⟨⟨before, after, rfl, unclosed.1⟩, fun h => unclosed.2 h.symm⟩
  · rintro (rfl | ⟨⟨before, after, rfl, unclosed⟩, ne⟩)
    · exact ⟨log, [], rfl, List.not_mem_nil⟩
    · refine ⟨before, after ++ [m], by simp, ?_⟩
      rw [List.mem_append, List.mem_singleton, not_or]
      exact ⟨unclosed, Ne.symm ne⟩

/-- What a step can do to the sessions that the evaluator stores and to those that are kept track
of, with its mark. -/
inductive Upkeep (stores keeps stores' keeps' : SessionId → Prop) : List Mark → Prop where
  | none : (∀ id, stores' id ↔ stores id) → (∀ id, keeps id → keeps' id) →
      Upkeep stores keeps stores' keeps' []
  | cloned {k : SessionId} : (∀ id, stores' id ↔ id = k ∨ stores id) →
      (∀ id, keeps id → keeps' id) → keeps' k → Upkeep stores keeps stores' keeps' []
  | evaluated {k : SessionId} {known : Bool} : (∀ id, stores' id ↔ id = k ∨ stores id) →
      (∀ id, keeps id → keeps' id) → (known = true → keeps' k) →
      Upkeep stores keeps stores' keeps' [.evaluated k known]
  | closed {k : SessionId} : (∀ id, stores' id ↔ id ≠ k ∧ stores id) →
      (∀ id, id ≠ k → keeps id → keeps' id) → Upkeep stores keeps stores' keeps' [.closed k]

/-- What is stored is kept track of or stray, and a stray is stored. -/
structure Accounted (log : List Mark) (stores keeps : SessionId → Prop) : Prop where
  stored : ∀ id, stores id → keeps id ∨ Stray log id
  stray : ∀ id, Stray log id → stores id

lemma Upkeep.accounted {stores keeps stores' keeps' : SessionId → Prop} {log marks : List Mark}
    (step : Upkeep stores keeps stores' keeps' marks) (h : Accounted log stores keeps) :
    Accounted (log ++ marks) stores' keeps' := by
  cases step with
  | none same grows =>
      rw [List.append_nil]
      exact ⟨fun id hs => (h.stored id ((same id).mp hs)).imp_left (grows id),
        fun id hs => (same id).mpr (h.stray id hs)⟩
  | cloned same grows kept =>
      rw [List.append_nil]
      refine ⟨fun id hs => ?_, fun id hs => (same id).mpr (.inr (h.stray id hs))⟩
      rcases (same id).mp hs with rfl | hs
      · exact .inl kept
      · exact (h.stored id hs).imp_left (grows id)
  | @evaluated k known same grows kept =>
      refine ⟨fun id hs => ?_, fun id hs => ?_⟩
      · rw [stray_concat]
        rcases (same id).mp hs with rfl | hs
        · cases known with
          | true => exact .inl (kept rfl)
          | false =>
              -- the only way to become stray
              exact .inr (.inl rfl)
        · exact (h.stored id hs).imp (grows id) fun stray => .inr ⟨stray, nofun⟩
      · rcases stray_concat.mp hs with eq | ⟨stray, -⟩
        · cases eq
          exact (same k).mpr (.inl rfl)
        · exact (same id).mpr (.inr (h.stray id stray))
  | @closed k same grows =>
      refine ⟨fun id hs => ?_, fun id hs => ?_⟩
      · obtain ⟨ne, hs⟩ := (same id).mp hs
        rw [stray_concat]
        refine (h.stored id hs).imp (grows id ne) fun stray => .inr ⟨stray, fun eq => ?_⟩
        cases eq
        exact ne rfl
      · rcases stray_concat.mp hs with eq | ⟨stray, ne⟩
        · cases eq
        · exact (same id).mpr ⟨fun eq => ne (eq ▸ rfl), h.stray id stray⟩

/-- Sessions that are about to be closed may be kept track of, too. -/
lemma Upkeep.orMem {stores keeps stores' keeps' : SessionId → Prop} {marks : List Mark}
    (step : Upkeep stores keeps stores' keeps' marks) (c : List SessionId) :
    Upkeep stores (fun id => keeps id ∨ id ∈ c) stores' (fun id => keeps' id ∨ id ∈ c) marks := by
  cases step with
  | none same grows => exact .none same fun id h => h.imp_left (grows id)
  | cloned same grows kept => exact .cloned same (fun id h => h.imp_left (grows id)) (.inl kept)
  | evaluated same grows kept =>
      exact .evaluated same (fun id h => h.imp_left (grows id)) fun known => .inl (kept known)
  | closed same grows => exact .closed same fun id ne h => h.imp_left (grows id ne)

lemma Upkeep.mono {stores keeps earlier stores' keeps' : SessionId → Prop} {marks : List Mark}
    (step : Upkeep stores keeps stores' keeps' marks) (h : ∀ id, earlier id → keeps id) :
    Upkeep stores earlier stores' keeps' marks := by
  cases step with
  | none same grows => exact .none same fun id e => grows id (h id e)
  | cloned same grows kept => exact .cloned same (fun id e => grows id (h id e)) kept
  | evaluated same grows kept => exact .evaluated same (fun id e => grows id (h id e)) kept
  | closed same grows => exact .closed same fun id ne e => grows id ne (h id e)

/-- The mark of a deed. -/
def Deed.marks (registry : Registry) (session : SessionId) : Deed → List Mark
  | .evaluate _ => [.evaluated session (decide (registry.Knows session))]
  | .close => [.closed session]
  | _ => []

/-- What a deed does to sessions. -/
lemma Deed.upkeep (d : Deed) (session : SessionId) (op : Option Wire.Value) (registry : Registry)
    (r : Runtime) :
    Upkeep r.Stores registry.Knows (d.apply session (registry.noteOp session op) r).2.Stores
      (d.apply session (registry.noteOp session op) r).1.Knows (d.marks registry session) := by
  have noted (id : SessionId) (h : registry.Knows id) : (registry.noteOp session op).Knows id :=
    (Registry.Knows.noteOp op).mpr h
  cases d with
  | nothing => exact .none (fun _ => Iff.rfl) noted
  | evaluate code =>
      refine .evaluated (fun id => Lisp.Runtime.stores_evalIn code) noted fun known => ?_
      exact noted session (of_decide_eq_true known)
  | clone =>
      refine .cloned (fun id => Lisp.Runtime.stores_clone _) (fun id h => (noted id h).create _) ?_
      exact .inl ((Registry.mem_ids_create _).mpr (.inr rfl))
  | close =>
      exact .closed (fun id => Lisp.Runtime.stores_close) fun id ne h => (noted id h).remove ne

/-! ### Sites -/

namespace Site

/-- The evaluator keeps a state for the session. -/
def Stores (s : Site Runtime) (id : SessionId) : Prop := s.exchange.evaluator.Stores id

/-- The session is known to the registry, or the pump under way is about to close it. -/
def Keeps (s : Site Runtime) (id : SessionId) : Prop :=
  s.exchange.registry.Knows id ∨ id ∈ s.host.toClose

/-- The mark of a step. -/
def marks (s : Site Runtime) : Action → List Mark
  | .work =>
    match s.host with
    | .closing (id :: _) => [.closed id]
    | .answering _ (item :: _) =>
      if item.channel.abandoned then []
      else (deed item.request).marks s.exchange.registry item.session
    | _ => []
  | _ => []

/-- The marks of a run. -/
def log : Site Runtime → List Action → List Mark
  | _, [] => []
  | s, a :: as => s.marks a ++ log (s.act .ofRuntime a).2 as

lemma log_concat (s : Site Runtime) (as : List Action) (a : Action) :
    s.log (as ++ [a]) = s.log as ++ (s.run .ofRuntime as).2.marks a := by
  induction as generalizing s with
  | nil => simp [log, run]
  | cons b as ih => rw [List.cons_append, log, ih, log, List.append_assoc]; rfl

lemma upkeep_same {s s' : Site Runtime} (evaluator : s'.exchange.evaluator = s.exchange.evaluator)
    (keeps : ∀ id, s.Keeps id → s'.Keeps id) : Upkeep s.Stores s.Keeps s'.Stores s'.Keeps [] :=
  .none (fun id => by rw [Stores, Stores, evaluator]) keeps

/-- The next step of a pump. -/
lemma Work.upkeep {b : Exchange Runtime} {owned : Nat → Owned} {host : Host} {e : Event}
    {s : Site Runtime} (work : Work .ofRuntime b owned host e s) :
    Upkeep (Stores ⟨b, owned, host⟩) (Keeps ⟨b, owned, host⟩) s.Stores s.Keeps
      (marks ⟨b, owned, host⟩ .work) := by
  cases work with
  | idle => exact upkeep_same rfl fun _ h => h
  | closed done =>
      cases done
      refine .closed (fun id => Lisp.Runtime.stores_close) fun id ne h => ?_
      exact h.imp_right fun mem => (List.mem_cons.mp mem).resolve_left ne
  | panicked failed => cases failed
  | taken => exact upkeep_same rfl fun _ h => h
  | @settled answered item items =>
      by_cases gone : item.channel.abandoned = true
      · have same : (b.process .ofRuntime item).2.2.evaluator = b.evaluator ∧
            (b.process .ofRuntime item).2.2.registry = b.registry := by
          rw [Exchange.process, if_pos gone]
          exact ⟨rfl, rfl⟩
        simp only [marks, gone, if_true]
        refine upkeep_same same.1 fun id h => ?_
        rw [Keeps, same.2]
        exact h
      · obtain ⟨registry, evaluator⟩ := process_ofRuntime b (Bool.eq_false_iff.mpr gone)
        have step := ((deed item.request).upkeep item.session item.request.id b.registry
          b.evaluator).orMem []
        rw [← registry, ← evaluator] at step
        simp only [marks, gone]
        exact step
  | returned => exact upkeep_same rfl fun _ h => h

/-- A pump that begins closes what was retired. -/
lemma keeps_begin {s : Site Runtime} {id : SessionId} (h : s.exchange.registry.Knows id) :
    s.begin.Keeps id := by
  rcases h with registered | retired
  · exact .inl (.inl registered)
  · exact .inr retired

lemma keeps_onChannel {s : Site Runtime} {id : SessionId} (h : s.Keeps id) (t : Nat)
    (f : ReplyChannel → ReplyChannel) : (s.onChannel t f).Keeps id := by
  obtain ⟨b, owned, host⟩ := s
  cases host <;> exact h

lemma upkeep_push (s : Site Runtime) (session : SessionId) (request : Request) :
    Upkeep s.Stores s.Keeps (s.act .ofRuntime (.push session request)).2.Stores
      (s.act .ofRuntime (.push session request)).2.Keeps [] := by
  simp only [act]
  rw [Exchange.push_frame]
  exact upkeep_same rfl fun _ h => h

/-- **What a step does to sessions.** -/
theorem act_upkeep (s : Site Runtime) (a : Action) :
    Upkeep s.Stores s.Keeps (s.act .ofRuntime a).2.Stores (s.act .ofRuntime a).2.Keeps
      (s.marks a) := by
  cases a with
  | resolve conn requested =>
      exact upkeep_same rfl fun id h => h.imp_left fun known => known.resolve _ _
  | push session request => exact s.upkeep_push session request
  | send conn request =>
      rw [act_send]
      exact ((s.act .ofRuntime (.resolve conn request.session)).2.upkeep_push _ request).mono
        fun id h => h.imp_left fun known => known.resolve _ _
  | disconnect conn =>
      exact upkeep_same rfl fun id h => h.imp_left fun known => known.retireConnection _
  | abandon ticket => exact upkeep_same rfl fun id h => keeps_onChannel h ticket _
  | hangUp ticket => exact upkeep_same rfl fun id h => keeps_onChannel h ticket _
  | pump =>
      obtain ⟨b, owned, host⟩ := s
      cases host with
      | idle => exact upkeep_same rfl fun id h => keeps_begin (h.resolve_right List.not_mem_nil)
      | closing ids => exact upkeep_same rfl fun _ h => h
      | answering n items => exact upkeep_same rfl fun _ h => h
  | tick =>
      obtain ⟨b, owned, host⟩ := s
      cases host with
      | idle =>
          by_cases running : b.running = true
          · rw [act_tick _ rfl running]
            exact upkeep_same rfl fun id h => keeps_begin (h.resolve_right List.not_mem_nil)
          · simp only [act, running]
            exact upkeep_same rfl fun _ h => h
      | closing ids => exact upkeep_same rfl fun _ h => h
      | answering n items => exact upkeep_same rfl fun _ h => h
  | work => exact (work_sound .ofRuntime s).upkeep
  | drain => rw [act]; split <;> exact upkeep_same rfl fun _ h => h
  | cancel reason => exact upkeep_same rfl fun _ h => h
  | halt => exact upkeep_same rfl fun _ h => h

/-! ### Runs -/

variable (source : Nat → SessionId) (interval : Duration) (as : List Action)

/-- **What the evaluator stores** is kept track of or stray, and all strays are stored. -/
theorem run_accounted :
    let s := start source Runtime.start interval
    Accounted (s.log as) (s.run .ofRuntime as).2.Stores (s.run .ofRuntime as).2.Keeps := by
  intro s
  induction as using List.reverseRecOn with
  | nil => exact ⟨fun id h => (nomatch h), fun id h => absurd h not_stray_nil⟩
  | append_singleton as a ih =>
      rw [log_concat, run_concat]
      exact (act_upkeep _ a).accounted ih

/-- **Which sessions are left behind.** When the host is idle, a session for which the evaluator
keeps a state without the registry knowing it is one in which something was evaluated while the
registry did not know it, and which has not been closed since; and every such session that the
registry does not know is one of these. So nothing is left behind just if no such session is
unknown. -/
theorem left_behind_iff
    (idle : ((start source Runtime.start interval).run .ofRuntime as).2.host = .idle) :
    let log := (start source Runtime.start interval).log as
    let s := ((start source Runtime.start interval).run .ofRuntime as).2
    (∀ id, s.Stores id ∧ ¬s.exchange.registry.Knows id ↔
        Stray log id ∧ ¬s.exchange.registry.Knows id) ∧
      ((∀ id, s.Stores id → s.exchange.registry.Knows id) ↔
        ∀ id, Stray log id → s.exchange.registry.Knows id) := by
  intro log s
  obtain ⟨stored, stray⟩ := run_accounted source interval as
  have known (id : SessionId) (h : s.Stores id) : s.exchange.registry.Knows id ∨ Stray log id := by
    refine (stored id h).imp_left fun keeps => keeps.resolve_right ?_
    rw [idle]
    exact List.not_mem_nil
  refine ⟨fun id => and_congr_left fun unknown => ⟨fun h => ?_, stray id⟩, fun h id hs => ?_,
    fun h id hs => ?_⟩
  · exact (known id h).resolve_left unknown
  · exact h id (stray id hs)
  · exact (known id hs).elim (fun hk => hk) (h id)

/-! ### A session that is left behind -/

/-- An item that somebody waits for is processed. -/
lemma work_item {s : Site Runtime} {n : Nat} {item : WorkItem} {items : List WorkItem}
    (host : s.host = .answering n (item :: items)) (live : item.channel.abandoned = false) :
    let did := (deed item.request).apply item.session
      (s.exchange.registry.noteOp item.session item.request.id) s.exchange.evaluator
    let s' := (s.work .ofRuntime).2
    s'.exchange.registry = did.1 ∧ s'.exchange.evaluator = did.2 ∧
      s'.host = .answering (n + 1) items := by
  obtain ⟨registry, evaluator⟩ := process_ofRuntime s.exchange live
  refine ⟨?_, ?_, ?_⟩ <;> rw [work, host] <;> dsimp only
  · exact registry
  · exact evaluator
  · rw [Exchange.process, if_neg (by simp [live])]
    rfl

/-- A request to evaluate `1` in the default session of its connection. -/
def evaluation : Request := (Request.forOp "eval").put "code" (.text "1")

/-- The text of the first session. -/
def firstText : String := "00000000-0000-4000-8000-000000000000"

/-- Somebody evaluates, another one closes that session, a third one evaluates in it. -/
def batch : List Action :=
  [.send 0 evaluation, .send 1 ((Request.forOp "close").inSession firstText),
    .send 2 (evaluation.inSession firstText), .tick]

/-- The session that is closed while a request for it waits is left behind. -/
lemma batch_leaves :
    let s := ((start (SessionId.numbered 0) Runtime.start ⟨0⟩).run .ofRuntime (batch ++ works 5)).2
    s.host = .idle ∧ s.Stores (.numbered 0 0) ∧
      ¬s.exchange.registry.Knows (.numbered 0 0) := by
  have taken : ((start (SessionId.numbered 0) Runtime.start ⟨0⟩).run .ofRuntime
      (batch ++ works 1)).2.host = .answering 0
        [⟨0, .numbered 0 0, evaluation, .fresh⟩,
          ⟨1, .numbered 0 0, (Request.forOp "close").inSession firstText, .fresh⟩,
          ⟨2, .numbered 0 0, evaluation.inSession firstText, .fresh⟩] := by rfl
  have ids : ((start (SessionId.numbered 0) Runtime.start ⟨0⟩).run .ofRuntime
      (batch ++ works 1)).2.exchange.registry.ids = [.numbered 0 0] := by decide
  have retired : ((start (SessionId.numbered 0) Runtime.start ⟨0⟩).run .ofRuntime
      (batch ++ works 1)).2.exchange.registry.retired = [] := by decide
  have split : batch ++ works 5 = (batch ++ works 1) ++ works 4 := rfl
  rw [split, run_append]
  generalize ((start (SessionId.numbered 0) Runtime.start ⟨0⟩).run .ofRuntime
      (batch ++ works 1)).2 = s at taken ids retired
  -- the items in turn: an evaluation, the closing, and an evaluation after it
  obtain ⟨registry₁, -, host₁⟩ := work_item taken rfl
  obtain ⟨registry₂, -, host₂⟩ := work_item host₁ rfl
  obtain ⟨registry₃, evaluator₃, host₃⟩ := work_item host₂ rfl
  set s₁ := (s.work .ofRuntime).2
  set s₂ := (s₁.work .ofRuntime).2
  set s₃ := (s₂.work .ofRuntime).2
  have noted : s₁.exchange.registry = s.exchange.registry.noteOp (.numbered 0 0) none := registry₁
  have removed : s₂.exchange.registry =
      (s₁.exchange.registry.noteOp (.numbered 0 0) none).remove (.numbered 0 0) := registry₂
  have again : s₃.exchange.registry = s₂.exchange.registry.noteOp (.numbered 0 0) none := registry₃
  have stored : s₃.Stores (.numbered 0 0) := by
    rw [Stores, evaluator₃]
    exact Lisp.Runtime.stores_evalIn "1" |>.mpr (.inl rfl)
  have unknown : ¬s₃.exchange.registry.Knows (.numbered 0 0) := by
    rw [again, Registry.Knows.noteOp, removed]
    rintro (registered | known)
    · exact (Registry.mem_ids_remove.mp registered).2 rfl
    · rw [noted] at known
      exact absurd (retired ▸ known) List.not_mem_nil
  have last : (s.run .ofRuntime (works 4)).2 = { s₃ with host := .idle } := by
    have done : s₃.work .ofRuntime = (.returned 3, { s₃ with host := .idle }) := by
      rw [work, host₃]
    exact congrArg Prod.snd done
  rw [last]
  exact ⟨rfl, stored, unknown⟩

/-- **Sessions may be left behind**: when the host is idle, the evaluator may keep a state for a
session that is neither registered nor retired. -/
theorem not_always_known :
    ¬∀ as : List Action,
      let s := ((start (SessionId.numbered 0) Runtime.start ⟨0⟩).run .ofRuntime as).2
      s.host = .idle → ∀ id, s.Stores id → s.exchange.registry.Knows id := by
  intro known
  obtain ⟨idle, stored, unknown⟩ := batch_leaves
  exact unknown (known _ idle _ stored)

/-- The session left behind by the batch is stray. -/
theorem left_behind_batch :
    Stray ((start (SessionId.numbered 0) Runtime.start ⟨0⟩).log (batch ++ works 5))
      (.numbered 0 0) := by
  obtain ⟨idle, stored, unknown⟩ := batch_leaves
  obtain ⟨each, -⟩ := left_behind_iff (SessionId.numbered 0) ⟨0⟩ (batch ++ works 5) idle
  exact ((each _).mp ⟨stored, unknown⟩).1

end Site

end HostedRepl.Bridge
