/-
Who owns a session while a server is at work.

* `Action.asks`, `Action.begins`: a connection asks for a session; a pump
  begins.
* `Event.closings`: the session that the item just answered has closed.
* `Ledger`, `Site.ledger`: the registry, who owns what, and which sessions the
  pump under way has still to close.
* `Deals`, `Site.act_deals`: what a step can do to the ledger, and which
  sessions it hands to the evaluator to be closed.
* `Site.run_kept`: the sessions of connections stay owned.
* `Site.Pumps.handed`: which sessions a pump hands over, in order.
* `Site.sessions_owned`: **who owns a session and how it ends**.
* `Site.not_handed_once`: a session may be handed over twice.
-/
import Mathlib.Tactic
import HostedRepl.Proofs.Bridge.Closing
import HostedRepl.Proofs.Bridge.Queue
import HostedRepl.Proofs.Session.Ownership

namespace HostedRepl.Bridge

open Wire (Request)

/-- The connection that asks for a session. -/
def Action.asks : Action → Option Nat
  | .resolve conn _ => some conn
  | .send conn _ => some conn
  | _ => none

/-- A pump begins, unless one is under way. -/
def Action.begins : Action → Bool
  | .pump => true
  | .tick => true
  | _ => false

/-- A connection that asks does not end. -/
lemma Action.ne_disconnect {a : Action} {conn : Nat} (h : a.asks = some conn) (c : Nat) :
    a ≠ .disconnect c := by
  rintro rfl
  cases h

/-- The session that the item just answered has closed. -/
def Event.closings : Event → List SessionId
  | .settled item _ =>
    if item.channel.abandoned then [] else Operation.closed item.session (operation? item.request)
  | _ => []

/-! ### Ledgers -/

/-- The registry, who owns what, and which sessions the pump under way has still to close. -/
structure Ledger where
  registry : Registry
  owned : Nat → Owned
  due : List SessionId

/-- What a step can do to a ledger, with what is seen of it and the sessions that are handed to the
evaluator to be closed. -/
inductive Dealing (l : Ledger) : Action → Event → List SessionId → Ledger → Prop where
  /-- Nothing. -/
  | none {a : Action} {e : Event} : (∀ conn, a ≠ .disconnect conn) → e.closings = [] →
      Dealing l a e [] l
  | resolved {a : Action} {e : Event} (conn : Nat) (requested : Option String) :
      a.asks = some conn → e.closings = [] →
      Dealing l a e [] { l with
        registry := (l.registry.resolve (l.owned conn) requested).2.1
        owned := Function.update l.owned conn
          (l.registry.resolve (l.owned conn) requested).2.2 }
  | ended (conn : Nat) : Dealing l (.disconnect conn) .quiet [] { l with
        registry := l.registry.retireConnection (l.owned conn)
        owned := Function.update l.owned conn .none }
  /-- A pump takes the retired sessions. -/
  | begun {a : Action} : a.begins = true → l.due = [] → Dealing l a .quiet [] { l with
        registry := l.registry.takeRetired.2
        due := l.registry.retired }
  | handed {id : SessionId} {ids : List SessionId} : l.due = id :: ids →
      Dealing l .work .quiet [id] { l with due := ids }
  /-- What is left of the sessions to close is given up. -/
  | panicked {p : Panic} {id : SessionId} {ids : List SessionId} : l.due = id :: ids →
      Dealing l .work (.panicked p) [id] { l with due := [] }
  /-- Somebody waits for the answer to the item. -/
  | settled {item after : WorkItem} : item.channel.abandoned = false → l.due = [] →
      Dealing l .work (.settled item after)
        (Operation.closed item.session (operation? item.request)) { l with
          registry := Operation.registryAfter item.session
            (l.registry.noteOp item.session item.request.id) (operation? item.request) }

namespace Dealing

variable {l l' : Ledger} {a : Action} {e : Event} {closed : List SessionId} {id : SessionId}
  {p : Nat × Role}

/-- A step draws from the same source of ids. -/
lemma grows (d : Dealing l a e closed l') : l'.registry.Extends l.registry := by
  cases d with
  | none _ _ => exact .refl _
  | resolved conn requested _ _ => exact (Registry.resolve_sound _ _ _).extends
  | ended conn => exact Registry.extends_retireConnection _ _
  | begun _ _ => exact ⟨rfl, le_refl _⟩
  | handed _ => exact .refl _
  | panicked _ => exact .refl _
  | @settled item after _ _ =>
      have noted : (l.registry.noteOp item.session item.request.id).Extends l.registry :=
        ⟨rfl, le_refl _⟩
      rcases Operation.registryAfter_cases item.session
        (l.registry.noteOp item.session item.request.id) (operation? item.request) with
        eq | eq | eq <;> rw [eq]
      · exact (Registry.extends_create .cloned).trans noted
      · exact ⟨rfl, le_refl _⟩
      · exact noted

/-- A step keeps the sessions of connections owned. -/
lemma kept (d : Dealing l a e closed l') (h : l.registry.Kept l.owned)
    (distinct : l'.registry.Distinct) : l'.registry.Kept l'.owned := by
  cases d with
  | none _ _ => exact h
  | resolved conn requested _ _ => exact h.resolve conn requested distinct
  | ended conn => exact h.retireConnection conn
  | begun _ _ => exact h.takeRetired
  | handed _ => exact h
  | panicked _ => exact h
  | @settled item after _ _ =>
      have noted := h.noteOp item.session item.request.id
      dsimp only at distinct ⊢
      rcases Operation.registryAfter_cases item.session
        (l.registry.noteOp item.session item.request.id) (operation? item.request) with
        eq | eq | eq <;> rw [eq] at distinct ⊢
      · exact noted.cloned distinct
      · exact noted.remove item.session
      · exact noted

/-- A session that is gone does not come back. -/
lemma gone (d : Dealing l a e closed l') (h : l.registry.Gone id) (kept : l.registry.Kept l.owned)
    (distinct : l'.registry.Distinct) : l'.registry.Gone id := by
  cases d with
  | none _ _ => exact h
  | resolved conn requested _ _ => exact h.resolve distinct
  | ended conn => exact h.retireConnection kept conn
  | begun _ _ => exact ⟨h.drawn, h.absent⟩
  | handed _ => exact h
  | panicked _ => exact h
  | @settled item after _ _ =>
      have noted := h.noteOp item.session item.request.id
      dsimp only at distinct ⊢
      rcases Operation.registryAfter_cases item.session
        (l.registry.noteOp item.session item.request.id) (operation? item.request) with
        eq | eq | eq <;> rw [eq] at distinct ⊢
      · exact noted.create distinct
      · exact noted.remove item.session
      · exact noted

/-- A session that a connection owns stays its own or is gone. -/
lemma own_or_gone (d : Dealing l a e closed l') (own : Owns l.owned p id)
    (kept : l.registry.Kept l.owned) (distinct : l'.registry.Distinct) :
    Owns l'.owned p id ∨ l'.registry.Gone id := by
  have drawn := kept.drawn id (.inr ⟨p, own⟩)
  cases d with
  | none _ _ => exact .inl own
  | resolved conn requested _ _ => exact kept.own_or_gone_resolve own distinct
  | ended conn => exact kept.own_or_gone_retireConnection own conn
  | begun _ _ => exact .inl own
  | handed _ => exact .inl own
  | panicked _ => exact .inl own
  | settled _ _ => exact .inl own

/-- A session that waits to be closed waits until a pump begins. -/
lemma waits (d : Dealing l a e closed l') (kept : l.registry.Kept l.owned)
    (none : a.begins = false) (h : id ∈ l.registry.retired) : id ∈ l'.registry.retired := by
  cases d with
  | none _ _ => exact h
  | resolved conn requested _ _ =>
      dsimp only
      rw [(Registry.resolve_sound _ _ _).retired]
      exact h
  | ended conn =>
      dsimp only
      rw [kept.retireConnection_eq]
      exact List.mem_append_left _ h
  | begun begins _ => simp [begins] at none
  | handed _ => exact h
  | panicked _ => exact h
  | @settled item after _ _ =>
      dsimp only
      rcases Operation.registryAfter_cases item.session
        (l.registry.noteOp item.session item.request.id) (operation? item.request) with
        eq | eq | eq <;> rw [eq] <;> exact h

/-- Who owns a session has asked for one, or owned it before and has not ended. -/
lemma owner (d : Dealing l a e closed l') (own : Owns l'.owned p id) :
    a.asks = some p.1 ∨ Owns l.owned p id ∧ a ≠ .disconnect p.1 := by
  cases d with
  | none stays _ => exact .inr ⟨own, stays p.1⟩
  | resolved conn requested asks _ =>
      by_cases same : p.1 = conn
      · exact .inl (same ▸ asks)
      · refine .inr ⟨?_, Action.ne_disconnect asks _⟩
        simpa [Owns, same] using own
  | ended conn =>
      obtain ⟨other, own⟩ := owns_update_none.mp own
      exact .inr ⟨own, fun eq => other (Action.disconnect.inj eq).symm⟩
  | begun begins _ => exact .inr ⟨own, by rintro rfl; cases begins⟩
  | handed _ => exact .inr ⟨own, by rintro ⟨⟩⟩
  | panicked _ => exact .inr ⟨own, by rintro ⟨⟩⟩
  | settled _ _ => exact .inr ⟨own, by rintro ⟨⟩⟩

/-- Until a pump begins or one panics, what is handed over is what was due, and what the items
answered close. -/
lemma account (d : Dealing l a e closed l') (none : a.begins = false)
    (calm : ∀ p, e ≠ .panicked p) : closed ++ l'.due = l.due ++ e.closings := by
  cases d with
  | none _ closings => rw [closings, List.nil_append, List.append_nil]
  | resolved conn requested _ closings => rw [closings, List.nil_append, List.append_nil]
  | ended conn => exact (List.append_nil _).symm
  | begun begins _ => simp [begins] at none
  | handed due => rw [due]; exact (List.append_nil _).symm
  | panicked _ => exact absurd rfl (calm _)
  | settled live due => simp [Event.closings, live, due]

end Dealing

namespace Site

variable {σ : Type} {ev : Evaluator σ}

/-- The ledger of a site. -/
def ledger (s : Site σ) : Ledger := ⟨s.exchange.registry, s.owned, s.host.toClose⟩

variable (ev) in
/-- The step deals with the ledger, and the evaluator is told to close what is handed over. -/
def Deals (s : Site σ) (a : Action) (e : Event) (s' : Site σ) : Prop :=
  ∃ closed, Dealing s.ledger a e closed s'.ledger ∧
    ∀ log, ev.Logs log → log s'.exchange.evaluator = log s.exchange.evaluator ++ closed

/-- Nothing is handed over. -/
lemma deals_same {s s' : Site σ} {a : Action} {e : Event}
    (evaluator : s'.exchange.evaluator = s.exchange.evaluator)
    (d : Dealing s.ledger a e [] s'.ledger) : Deals ev s a e s' :=
  ⟨[], d, fun log _ => by rw [evaluator, List.append_nil]⟩

/-- The next step of a pump. -/
lemma Work.deals {b : Exchange σ} {owned : Nat → Owned} {host : Host} {e : Event} {s : Site σ}
    (work : Work ev b owned host e s) : Deals ev ⟨b, owned, host⟩ .work e s := by
  cases work with
  | idle => exact deals_same rfl (.none (by rintro _ ⟨⟩) rfl)
  | @closed id ids x done =>
      refine ⟨[id], .handed rfl, fun log logs => ?_⟩
      have := logs.close id b.evaluator
      rwa [stateAfter, done] at this
  | @panicked id ids p x failed =>
      refine ⟨[id], .panicked rfl, fun log logs => ?_⟩
      have := logs.close id b.evaluator
      rwa [stateAfter, failed] at this
  | taken => exact deals_same rfl (.none (by rintro _ ⟨⟩) rfl)
  | @settled answered item items =>
      have after : ledger ⟨(b.process ev item).2.2, owned,
          .answering (answered + (b.process ev item).1.toNat) items⟩ =
          ⟨(b.process ev item).2.2.registry, owned, []⟩ := rfl
      by_cases dead : item.channel.abandoned = true
      · obtain ⟨registry, evaluator⟩ := b.process_dead ev dead
        refine deals_same evaluator ?_
        rw [after, registry]
        exact .none (by rintro _ ⟨⟩) (by simp [Event.closings, dead])
      · have live := Bool.eq_false_iff.mpr dead
        obtain ⟨registry, logged⟩ := b.process_effect ev live
        refine ⟨_, ?_, logged⟩
        rw [after, registry]
        exact .settled live rfl
  | returned => exact deals_same rfl (.none (by rintro _ ⟨⟩) rfl)

lemma ledger_onChannel (s : Site σ) (t : Nat) (f : ReplyChannel → ReplyChannel) :
    (s.onChannel t f).ledger = s.ledger := by
  obtain ⟨b, owned, host⟩ := s
  cases host <;> rfl

lemma deals_push (s : Site σ) (session : SessionId) (request : Request) :
    Deals ev s (.push session request) (s.act ev (.push session request)).1
      (s.act ev (.push session request)).2 := by
  simp only [act]
  rw [Exchange.push_frame]
  exact deals_same rfl (.none (by rintro _ ⟨⟩) rfl)

variable (ev) in
/-- **What a step does to the ledger.** -/
theorem act_deals (s : Site σ) (a : Action) : Deals ev s a (s.act ev a).1 (s.act ev a).2 := by
  obtain ⟨b, owned, host⟩ := s
  cases a with
  | resolve conn requested => exact deals_same rfl (.resolved conn requested rfl rfl)
  | push session request => exact deals_push _ session request
  | send conn request =>
      -- a push leaves the ledger as resolving has left it
      simp only [act, Exchange.send]
      rw [Exchange.push_frame]
      exact deals_same rfl (.resolved conn request.session rfl rfl)
  | disconnect conn => exact deals_same rfl (.ended conn)
  | abandon ticket =>
      refine deals_same rfl ?_
      simp only [act]
      rw [ledger_onChannel]
      exact .none (by rintro _ ⟨⟩) rfl
  | hangUp ticket =>
      refine deals_same rfl ?_
      simp only [act]
      rw [ledger_onChannel]
      exact .none (by rintro _ ⟨⟩) rfl
  | pump =>
      cases host with
      | idle => exact deals_same rfl (.begun rfl rfl)
      | closing ids => exact deals_same rfl (.none (by rintro _ ⟨⟩) rfl)
      | answering n items => exact deals_same rfl (.none (by rintro _ ⟨⟩) rfl)
  | tick =>
      cases host with
      | idle =>
          by_cases running : b.running = true
          · simp only [act, running, if_true]
            exact deals_same rfl (.begun rfl rfl)
          · simp only [act, running]
            exact deals_same rfl (.none (by rintro _ ⟨⟩) rfl)
      | closing ids => exact deals_same rfl (.none (by rintro _ ⟨⟩) rfl)
      | answering n items => exact deals_same rfl (.none (by rintro _ ⟨⟩) rfl)
  | work => exact (work_sound ev ⟨b, owned, host⟩).deals
  | drain => cases host <;> exact deals_same rfl (.none (by rintro _ ⟨⟩) rfl)
  | cancel reason => exact deals_same rfl (.none (by rintro _ ⟨⟩) rfl)
  | halt => exact deals_same rfl (.none (by rintro _ ⟨⟩) rfl)

/-! ### Runs -/

/-- A run draws from the same source of ids. -/
lemma run_grows (s : Site σ) (as : List Action) :
    (s.run ev as).2.exchange.registry.Extends s.exchange.registry := by
  induction as generalizing s with
  | nil => exact .refl _
  | cons a as ih =>
      obtain ⟨closed, d, -⟩ := act_deals ev s a
      exact (ih _).trans d.grows

/-- The ids that a run has drawn so far are among those it draws in the end. -/
lemma distinct_of_run {s : Site σ} {as : List Action}
    (distinct : (s.run ev as).2.exchange.registry.Distinct) : s.exchange.registry.Distinct :=
  (run_grows s as).distinct distinct

/-- The sessions of connections stay owned. -/
lemma run_kept_from {s : Site σ} (h : s.exchange.registry.Kept s.owned) (as : List Action)
    (distinct : (s.run ev as).2.exchange.registry.Distinct) :
    (s.run ev as).2.exchange.registry.Kept (s.run ev as).2.owned := by
  induction as generalizing s with
  | nil => exact h
  | cons a as ih =>
      obtain ⟨closed, d, -⟩ := act_deals ev s a
      exact ih (d.kept h (distinct_of_run distinct)) distinct

/-- A session that is gone does not come back. -/
lemma run_gone {s : Site σ} {id : SessionId} (kept : s.exchange.registry.Kept s.owned)
    (h : s.exchange.registry.Gone id) (as : List Action)
    (distinct : (s.run ev as).2.exchange.registry.Distinct) :
    (s.run ev as).2.exchange.registry.Gone id := by
  induction as generalizing s with
  | nil => exact h
  | cons a as ih =>
      obtain ⟨closed, d, -⟩ := act_deals ev s a
      have next : (s.act ev a).2.exchange.registry.Distinct := distinct_of_run distinct
      exact ih (d.kept kept next) (d.gone h kept next) distinct

/-- A session that a connection has owned is its own in the end, or gone. -/
lemma run_own_or_gone {s : Site σ} {id : SessionId} {p : Nat × Role}
    (kept : s.exchange.registry.Kept s.owned) (own : Owns s.owned p id) (as : List Action)
    (distinct : (s.run ev as).2.exchange.registry.Distinct) :
    Owns (s.run ev as).2.owned p id ∨ (s.run ev as).2.exchange.registry.Gone id := by
  induction as generalizing s with
  | nil => exact .inl own
  | cons a as ih =>
      obtain ⟨closed, d, -⟩ := act_deals ev s a
      have next : (s.act ev a).2.exchange.registry.Distinct := distinct_of_run distinct
      rcases d.own_or_gone own kept next with own | gone
      · exact ih (d.kept kept next) own distinct
      · exact .inr (run_gone (d.kept kept next) gone as distinct)

/-- A session that waits to be closed waits until a pump begins. -/
lemma run_waits {s : Site σ} {id : SessionId} (kept : s.exchange.registry.Kept s.owned)
    (h : id ∈ s.exchange.registry.retired) (as : List Action)
    (none : ∀ a ∈ as, a.begins = false)
    (distinct : (s.run ev as).2.exchange.registry.Distinct) :
    id ∈ (s.run ev as).2.exchange.registry.retired := by
  induction as generalizing s with
  | nil => exact h
  | cons a as ih =>
      obtain ⟨closed, d, -⟩ := act_deals ev s a
      obtain ⟨now, later⟩ := List.forall_mem_cons.mp none
      exact ih (d.kept kept (distinct_of_run distinct)) (d.waits kept now h) later distinct

/-- What is handed over while no pump begins and none panics. -/
lemma run_account {s : Site σ} {log : σ → List SessionId} (logs : ev.Logs log) (as : List Action)
    (none : ∀ a ∈ as, a.begins = false) (calm : ∀ p, Event.panicked p ∉ (s.run ev as).1) :
    log (s.run ev as).2.exchange.evaluator ++ (s.run ev as).2.host.toClose =
      log s.exchange.evaluator ++ s.host.toClose ++ (s.run ev as).1.flatMap Event.closings := by
  induction as generalizing s with
  | nil => exact (List.append_nil _).symm
  | cons a as ih =>
      obtain ⟨closed, d, handed⟩ := act_deals ev s a
      obtain ⟨now, later⟩ := List.forall_mem_cons.mp none
      rw [run_cons] at calm ⊢
      have account := d.account now fun p eq => calm p (eq ▸ List.mem_cons_self ..)
      have rest := ih later fun p mem => calm p (List.mem_cons_of_mem _ mem)
      calc
        _ = log (s.act ev a).2.exchange.evaluator ++ (s.act ev a).2.host.toClose ++
            ((s.act ev a).2.run ev as).1.flatMap Event.closings := rest
        _ = log s.exchange.evaluator ++ (closed ++ (s.act ev a).2.host.toClose) ++
            ((s.act ev a).2.run ev as).1.flatMap Event.closings := by
          rw [handed log logs, List.append_assoc (log s.exchange.evaluator)]
        _ = _ := by
          rw [show closed ++ (s.act ev a).2.host.toClose = _ from account, List.flatMap_cons]
          simp only [List.append_assoc]
          rfl

/-- The connection has asked for a session and has not ended since. -/
def Open (as : List Action) (conn : Nat) : Prop :=
  ∃ before a after, as = before ++ a :: after ∧ a.asks = some conn ∧ .disconnect conn ∉ after

variable (ev) in
/-- Whoever owns a session is still there. -/
lemma run_open (source : Nat → SessionId) (x : σ) (interval : Duration) (as : List Action)
    {p : Nat × Role} {id : SessionId}
    (own : Owns ((start source x interval).run ev as).2.owned p id) : Open as p.1 := by
  induction as using List.reverseRecOn with
  | nil => exact absurd own (not_owns_none p id)
  | append_singleton as a ih =>
      rw [run_concat] at own
      obtain ⟨closed, d, -⟩ := act_deals ev ((start source x interval).run ev as).2 a
      rcases d.owner own with asks | ⟨before, stays⟩
      · exact ⟨as, a, [], rfl, asks, List.not_mem_nil⟩
      · obtain ⟨front, b, after, rfl, asks, unended⟩ := ih before
        refine ⟨front, b, after ++ [a], by simp, asks, fun mem => ?_⟩
        rcases List.mem_append.mp mem with mem | mem
        · exact unended mem
        · exact stays (List.mem_singleton.mp mem).symm

variable (ev) in
/-- The first of these steps begins a pump, and it comes to its end in the others, whatever else is
done meanwhile. -/
structure Pumps (s : Site σ) (a : Action) (cs : List Action) : Prop where
  idle : s.host = .idle
  begun : (s.act ev a).2.host ≠ .idle
  once : ∀ c ∈ cs, c.begins = false
  ended : ((s.act ev a).2.run ev cs).2.host = .idle

/-- A pump begins with all retired sessions to close. -/
lemma act_begun {s : Site σ} {a : Action} (idle : s.host = .idle)
    (begun : (s.act ev a).2.host ≠ .idle) :
    (s.act ev a).2.host.toClose = s.exchange.registry.retired ∧
      (s.act ev a).2.exchange.evaluator = s.exchange.evaluator := by
  obtain ⟨b, owned, host⟩ := s
  obtain rfl : host = .idle := idle
  cases a with
  | pump => exact ⟨rfl, rfl⟩
  | tick =>
      by_cases running : b.running = true
      · simp only [act, running, if_true]
        exact ⟨rfl, rfl⟩
      · simp [act, running] at begun
  | _ => exact absurd rfl begun

/-- An idle host can always carry a pump through. -/
lemma exists_pumps {s : Site σ} (idle : s.host = .idle) : ∃ n, s.Pumps ev .pump (works n) := by
  obtain ⟨n, site⟩ : ∃ n, (s.run ev (.pump :: works n)).2 =
      { s with exchange := (s.exchange.pumpOnce ev).2.2 } :=
    (run_pump s idle).imp fun n pumped => pumped.1
  have begun : (s.act ev .pump).2.host = .closing s.exchange.registry.retired := by
    simp only [act, idle]
    rfl
  refine ⟨n, idle, ?_, fun c hc => ?_, ?_⟩
  · rw [begun]
    simp
  · rw [List.eq_of_mem_replicate hc]
    rfl
  · rw [run_cons] at site
    rw [site]
    exact idle

/-- **What a pump hands over**: the retired sessions, in the order in which they were retired, and
after them those that the items close which it answers. -/
theorem Pumps.handed {s : Site σ} {a : Action} {cs : List Action} (pumps : s.Pumps ev a cs)
    (calm : ∀ p, Event.panicked p ∉ ((s.act ev a).2.run ev cs).1) {log : σ → List SessionId}
    (logs : ev.Logs log) :
    log ((s.act ev a).2.run ev cs).2.exchange.evaluator =
      log s.exchange.evaluator ++ s.exchange.registry.retired ++
        ((s.act ev a).2.run ev cs).1.flatMap Event.closings := by
  obtain ⟨due, evaluator⟩ := act_begun pumps.idle pumps.begun
  have account := run_account logs cs pumps.once calm
  have nothing : Host.idle.toClose = [] := rfl
  rwa [pumps.ended, due, evaluator, nothing, List.append_nil] at account

variable (ev) (source : Nat → SessionId) (x : σ) (interval : Duration) (as : List Action)

/-- The sessions of connections are owned after every run. -/
theorem run_kept
    (distinct : ((start source x interval).run ev as).2.exchange.registry.Distinct) :
    ((start source x interval).run ev as).2.exchange.registry.Kept
      ((start source x interval).run ev as).2.owned :=
  run_kept_from (Registry.Kept.start source) as distinct

/-- **Who owns a session and how it ends.** After every run in which no id was drawn twice: a
session that is resolved is registered; a session made by a connection is owned, by one connection
and in one role of it, and this connection is still there; no session is registered and retired, or
retired twice. When a connection ends, the clones stay, and what it has ever owned is not registered
any more, neither then nor later. What was registered and is not any more is retired, once, until
the next pump begins; and a pump hands to the evaluator all retired sessions in order, and after
them those that the items close which it answers, unless the evaluator panics at a retired one. -/
theorem sessions_owned
    (distinct : ((start source x interval).run ev as).2.exchange.registry.Distinct) :
    let s := ((start source x interval).run ev as).2
    let r := s.exchange.registry
    (∀ conn requested, let resolved := r.resolve (s.owned conn) requested
      resolved.1 ∈ resolved.2.1.ids) ∧
    (∀ session ∈ r.sessions, session.origin = .connection →
      ∃! p : Nat × Role, Owns s.owned p session.id) ∧
    (∀ p id, Owns s.owned p id → Open as p.1) ∧
    (∀ id ∈ r.ids, id ∉ r.retired) ∧ r.retired.Nodup ∧
    ∀ conn, let left := (s.act ev (.disconnect conn)).2
      (∀ session ∈ r.sessions, session.origin = .cloned →
        session ∈ left.exchange.registry.sessions) ∧
      (∀ before after role id, as = before ++ after →
        Owns ((start source x interval).run ev before).2.owned (conn, role) id →
        ∀ bs, (left.run ev bs).2.exchange.registry.Distinct →
          id ∉ (left.run ev bs).2.exchange.registry.ids) ∧
      ∀ id ∈ r.ids, id ∉ left.exchange.registry.ids →
        ∀ bs, (∀ b ∈ bs, b.begins = false) → let s' := (left.run ev bs).2
          s'.exchange.registry.Distinct → s'.exchange.registry.retired.count id = 1 ∧
            (s'.host = .idle → ∃ n, s'.Pumps ev .pump (works n)) ∧
            ∀ a cs, s'.Pumps ev a cs → let pumped := (s'.act ev a).2.run ev cs
              (∀ p, Event.panicked p ∉ pumped.1) → ∀ log, ev.Logs log →
                log pumped.2.exchange.evaluator = log s'.exchange.evaluator ++
                  s'.exchange.registry.retired ++ pumped.1.flatMap Event.closings := by
  intro s r
  have kept : r.Kept s.owned := run_kept ev source x interval as distinct
  refine ⟨fun conn requested => (Registry.resolve_sound _ _ _).registered,
    fun session mem made => ?_, fun p id own => run_open ev source x interval as own,
    kept.apart, kept.nodup_retired, fun conn => ?_⟩
  · obtain ⟨p, own⟩ := (kept.belongs session mem).mp made
    exact ⟨p, own, fun q own' => kept.once q p _ own' own⟩
  · intro left
    have keptLeft : left.exchange.registry.Kept left.owned := kept.retireConnection conn
    refine ⟨fun session mem cloned => kept.cloned_mem_retireConnection mem cloned conn,
      fun before after role id split own bs distinct' => ?_, fun id mem removed bs none => ?_⟩
    · -- the session is owned until the connection ends, or gone before
      have ever : Owns s.owned (conn, role) id ∨ r.Gone id := by
        have run : s = (((start source x interval).run ev before).2.run ev after).2 := by
          rw [show s = ((start source x interval).run ev as).2 from rfl, split, run_append]
        have distinctBefore : (((start source x interval).run ev before).2.run ev after).2
            |>.exchange.registry.Distinct := run ▸ distinct
        rw [show r = s.exchange.registry from rfl, run]
        exact run_own_or_gone (run_kept ev source x interval before
          (distinct_of_run distinctBefore)) own after distinctBefore
      have gone : left.exchange.registry.Gone id := by
        rcases ever with own | gone
        · refine (kept.own_or_gone_retireConnection own conn).resolve_left fun own' => ?_
          exact (owns_update_none.mp own').1 rfl
        · exact gone.retireConnection kept conn
      exact (run_gone keptLeft gone bs distinct').absent
    · intro s' distinct'
      have retired : id ∈ left.exchange.registry.retired :=
        kept.mem_retired_retireConnection mem removed
      have waits := run_waits keptLeft retired bs none distinct'
      have nodup := (run_kept_from keptLeft bs distinct').nodup_retired
      exact ⟨List.count_eq_one_of_mem nodup waits, exists_pumps,
        fun a cs pumps calm log logs => pumps.handed calm logs⟩

/-! ### Two connections -/

/-- A server that writes down which sessions the bundled language is told to close. -/
def recorded : Site (Lisp.Runtime × List SessionId) :=
  start (.numbered 0) (Lisp.Runtime.start, []) ⟨0⟩

/-- A connection asks for its default session and for one that does not exist; when it has ended,
the next pump hands both over. -/
theorem sessions_owned_pair :
    let ev := Evaluator.ofRuntime.recording
    let s := (recorded.run ev [.resolve 0 none, .resolve 0 (some "x")]).2
    let left := (s.act ev (.disconnect 0)).2
    s.exchange.registry.Distinct ∧ SessionId.numbered 0 0 ∈ s.exchange.registry.ids ∧
      SessionId.numbered 0 0 ∉ left.exchange.registry.ids ∧
      left.exchange.registry.retired.count (.numbered 0 0) = 1 ∧
      (left.run ev (.pump :: works 4)).2.exchange.evaluator.2 =
        [.numbered 0 0, .numbered 0 1] := by
  intro ev s left
  have distinct : s.exchange.registry.Distinct := by decide
  have registered : SessionId.numbered 0 0 ∈ s.exchange.registry.ids := by decide
  have removed : SessionId.numbered 0 0 ∉ left.exchange.registry.ids := by decide
  have events : ((left.act ev .pump).2.run ev (works 4)).1 =
      [.quiet, .quiet, .taken [], .returned 0] := by rfl
  have calm (p : Panic) : Event.panicked p ∉ ((left.act ev .pump).2.run ev (works 4)).1 := by
    rw [events]
    simp
  have pumps : left.Pumps ev .pump (works 4) := by
    refine ⟨rfl, fun idle => ?_, fun c hc => ?_, rfl⟩
    · cases idle
    · rw [List.eq_of_mem_replicate hc]
      rfl
  obtain ⟨-, -, -, -, -, ended⟩ := sessions_owned ev (.numbered 0) (Lisp.Runtime.start, []) ⟨0⟩
    [.resolve 0 none, .resolve 0 (some "x")] distinct
  obtain ⟨-, -, retired⟩ := ended 0
  obtain ⟨once, -, handed⟩ := retired (.numbered 0 0) registered removed []
    (fun b hb => absurd hb List.not_mem_nil) (by decide)
  have log := handed .pump (works 4) pumps calm Prod.snd (Evaluator.logs_recording _)
  exact ⟨distinct, registered, removed, once, log⟩

/-- **A session may be handed over twice**: by the pump that closes what is retired, and again for
a request to close it that came from another connection. -/
theorem not_handed_once :
    ¬∀ (as : List Action) (conn n : Nat) (id : SessionId),
      let ev := Evaluator.ofRuntime.recording
      let s := (recorded.run ev as).2
      let left := (s.act ev (.disconnect conn)).2
      let pumped := (left.run ev (.pump :: works n)).2
      s.exchange.registry.Distinct → id ∈ s.exchange.registry.ids →
        id ∉ left.exchange.registry.ids → left.host = .idle → pumped.host = .idle →
          pumped.exchange.evaluator.2.count id = left.exchange.evaluator.2.count id + 1 := by
  intro once
  have twice := once [.resolve 0 none,
    .send 1 ((Request.forOp "close").inSession (SessionId.numbered 0 0).render)] 0 4 (.numbered 0 0)
    (by decide) (by decide) (by decide) rfl rfl
  exact absurd twice (by decide)

end Site

end HostedRepl.Bridge
