/-
The current namespace after a call in which namespaces were entered.

A closure runs in its own namespace. When it ends, its caller goes back to its
own one if the current namespace is still that of the closure, and else keeps
the current one. So the caller cannot tell a body that has entered the closure's
own namespace from one that has entered none.

* `Visit`: a closure under way; `Visit.back`: what its caller goes on with.
* `Call.visit?`: the visit of a call that runs a closure.
* `CallTree.landing`: the last namespace entered in a tree, and the visits under
  way then; `landing_fst`: it is the last one of `entered`.
* `Dialogue.Threads`: every call is made in the namespace that the one before it
  has left; `Call.threads_body`: so are those that a call makes.
* `Runs.lands`: so a run ends in the last namespace entered in it, carried back
  through the visits that were under way.
* `switch_carried_back`: **after every call the current namespace is the last
  one entered, carried back through the closures that were under way**.
-/
import HostedRepl.Proofs.Lisp.Entered
import HostedRepl.Proofs.Lisp.Namespaces

namespace HostedRepl.Lisp

/-! ### Visits -/

/-- A closure under way: its own namespace, and the one that was current when it was called. -/
structure Visit where
  own : String
  caller : String
  deriving DecidableEq, Repr

/-- The namespace after a closure has ended in `ns`. -/
def Visit.back (v : Visit) (ns : String) : String := if ns = v.own then v.caller else ns

lemma Visit.back_own (v : Visit) : v.back v.own = v.caller := if_pos rfl

lemma Visit.back_of_ne {v : Visit} {ns : String} (h : v.own ≠ ns) : v.back ns = ns :=
  if_neg fun same => h same.symm

/-- The namespace after closures have ended one after the other, the first one in `ns`. -/
def Visit.unwind (visits : List Visit) (ns : String) : String :=
  visits.foldl (fun ns v => v.back ns) ns

/-- A namespace that is not that of any of the closures is kept. -/
lemma Visit.unwind_of_ne {visits : List Visit} {ns : String} (h : ∀ v ∈ visits, v.own ≠ ns) :
    unwind visits ns = ns := by
  induction visits with
  | nil => rfl
  | cons v visits ih =>
      rw [unwind, List.foldl_cons, back_of_ne (h v (by simp))]
      exact ih fun v' mem => h v' (List.mem_cons_of_mem v mem)

lemma Interp.current_leave (i : Interp) (own caller : String) :
    (i.leave own caller).current = Visit.back ⟨own, caller⟩ i.current := by
  rw [leave_eq, Visit.back]

/-- The visit of a call that is one of a closure. -/
def Call.visit? : Call → Interp → Option Visit
  | .apply _ (.closure f) _, i => some ⟨f.ns, i.current⟩
  | _, _ => none

/-! ### Trees -/

mutual

/-- The last namespace that is entered in a tree, and the visits under way then, the innermost
first. -/
def CallTree.landing : CallTree → Option (String × List Visit)
  | .node c i calls _ =>
    ((landingAll calls).map fun (ns, visits) => (ns, visits ++ (c.visit? i).toList)).or
      (c.enters?.map fun ns => (ns, []))

/-- The last namespace that is entered in trees in a row, and the visits under way then. -/
def CallTree.landingAll : List CallTree → Option (String × List Visit)
  | [] => none
  | t :: ts => (landingAll ts).or t.landing

end

mutual

/-- It is the last of the namespaces that are entered. -/
theorem CallTree.landing_fst : (t : CallTree) → t.landing.map Prod.fst = t.entered.getLast?
  | .node c i calls r => by
    have below := landingAll_fst calls
    rw [landing, entered, List.getLast?_append, ← below]
    cases landingAll calls with
    | some x => rfl
    | none => cases c.enters? <;> rfl

/-- The same for trees in a row. -/
theorem CallTree.landingAll_fst :
    (ts : List CallTree) → (landingAll ts).map Prod.fst = (enteredAll ts).getLast?
  | [] => rfl
  | t :: ts => by
    rw [landingAll, enteredAll, List.getLast?_append, ← landingAll_fst ts, ← landing_fst t]
    cases landingAll ts <;> rfl

end

/-- Where a run that started in `ns` ends, by its landing. -/
def Visit.home (ns : String) : Option (String × List Visit) → String
  | none => ns
  | some (entered, visits) => unwind visits entered

/-! ### The work of each call -/

/-- From `ns` on, every call is made in the namespace that the one before it has left, and the end
is `out` of the last one. -/
def Dialogue.Threads {α : Type} (out : String → String) (ns : String) : Dialogue α → Prop
  | done r => r.state.current = out ns
  | call _ i next => i.current = ns ∧ ∀ r, (next r).Threads out r.state.current

/-- Dialogues in a row. -/
lemma Dialogue.Threads.bind {α β : Type} {out : String → String} {ns : String} {d : Dialogue α}
    {k : Ended α → Dialogue β} (first : d.Threads id ns)
    (rest : ∀ r, (k r).Threads out r.state.current) : (d.bind k).Threads out ns := by
  induction d generalizing ns with
  | done r =>
      have same : r.state.current = ns := first
      rw [← same]
      exact rest r
  | call c i next ih => exact ⟨first.1, fun r => ih r (first.2 r)⟩

namespace Caller

variable {α β : Type}

/-- From every state, the computation hands the current namespace on from call to call. -/
def Threads (x : Caller α) : Prop := ∀ i, (x i).Threads id i.current

lemma threads_lift {x : Eval α} (h : Eval.Stays x) : Threads (liftM x) := h

lemma threads_bind {x : Caller α} {f : α → Caller β} (first : Threads x)
    (rest : ∀ a, Threads (f a)) : Threads (x >>= f) := by
  refine fun i => (first i).bind fun r => ?_
  cases r with
  | ok a j => exact rest a j
  | error e j => exact rfl

lemma threads_serial : Serial fun _ => Threads where
  lift := threads_lift
  call _ _ := ⟨rfl, fun _ => rfl⟩
  bind := threads_bind

/-- In the namespace of a closure, the calls are handed that one on, and the caller goes back. -/
lemma threads_inNamespace {x : Caller α} (own : String) (h : Threads x) (i : Interp) :
    (inNamespace own x i).Threads (Visit.back ⟨own, i.current⟩) own := by
  refine (h { i with current := own }).bind fun r => ?_
  cases r with
  | ok a j => exact j.current_leave own i.current
  | error e j => exact j.current_leave own i.current

end Caller

/-- A closure starts in its own namespace, and its caller goes back when it ends. A call that is
refused ends where it was made. -/
lemma Call.threads_closure (b : ℕ) (f : Closure) (args : List Value) (i : Interp) :
    (closure b f args i).Threads (Visit.back ⟨f.ns, i.current⟩) f.ns := by
  have refused : i.current = Visit.back ⟨f.ns, i.current⟩ f.ns :=
    (Visit.back_own ⟨f.ns, i.current⟩).symm
  rw [closure]
  split
  · cases bound : f.bind args with
    | ok vars =>
        exact Caller.threads_inNamespace f.ns (Caller.threads_serial.sequence _ _) i
    | error e => exact refused
  · exact refused

/-- **The work of every call** that is no form `ns` hands the current namespace on from call to
call. -/
theorem Call.threads_body {c : Call} (h : c.enters? = none) (i : Interp) :
    (c.body i).Threads (((c.visit? i).map Visit.back).getD id)
      (((c.visit? i).map Visit.own).getD i.current) := by
  by_cases runs : ∃ b f args, c = .apply b (.closure f) args
  · obtain ⟨b, f, args, rfl⟩ := runs
    exact threads_closure b f args i
  · have other : ∀ b f args, c ≠ .apply b (.closure f) args :=
      fun b f args same => runs ⟨b, f, args, same⟩
    have none : c.visit? i = none := by
      rw [visit?]
      exact other
    rw [none]
    exact Caller.threads_serial.body h other i

/-! ### Runs -/

/-- A call that threads the namespace ends where its calls have brought it, through its visit. -/
lemma Visit.home_through (v : Option Visit) (ns : String) (landing : Option (String × List Visit)) :
    (v.map Visit.back).getD id (home ((v.map Visit.own).getD ns) landing) =
      home ((v.map Visit.caller).getD ns)
        (landing.map fun (ns, visits) => (ns, visits ++ v.toList)) := by
  cases landing with
  | none =>
      cases v with
      | none => rfl
      | some v => exact v.back_own
  | some x =>
      cases v with
      | none => simp [home]
      | some v => simp [home, unwind]

/-- The visit of a call has the namespace that the call is made in. -/
lemma Call.caller_visit? (c : Call) (i : Interp) :
    ((c.visit? i).map Visit.caller).getD i.current = i.current := by
  fun_cases visit? c i <;> rfl

/-- **A run ends in the last namespace entered in it**, carried back through its visits. -/
theorem Dialogue.Runs.lands {α : Type} {d : Dialogue α} {ts : List CallTree} {r : Ended α}
    (h : d.Runs ts r) : ∀ {out : String → String} {ns : String}, d.Threads out ns →
      r.state.current = out (Visit.home ns (CallTree.landingAll ts)) := by
  induction h with
  | done r => exact fun threads => threads
  | @call α c i next ts ts' r r' body _ inner others =>
      rintro out ns ⟨rfl, rest⟩
      rw [others (rest r), CallTree.landingAll]
      -- Where the last call that entered a namespace is not among the later ones, it is this one.
      cases CallTree.landingAll ts' with
      | some x => rfl
      | none =>
          refine congrArg out ?_
          change r.state.current = _
          rw [Option.none_or, CallTree.landing]
          cases entered : c.enters? with
          | some name =>
              rw [Call.body_of_enters? entered] at body
              cases body
              rfl
          | none =>
              rw [inner (Call.threads_body entered i), Visit.home_through, c.caller_visit?]
              simp

/-- **The last namespace entered is carried back through the closures under way.** Every call has
one run, which ends as the evaluator says. If the forms `ns` in it have entered namespaces, the last
of them `ns`, the current namespace after the call is `ns` carried back through the closures that
were under way then, the innermost first: a closure that ends in its own namespace gives that of its
caller, and any other namespace is kept. So it is `ns` if that is the own namespace of none of
them. -/
theorem switch_carried_back (c : Call) (i : Interp) :
    ∃ t : CallTree,
      (∀ ts r, (Dialogue.call c i .done).Runs ts r ↔ ts = [t] ∧ r = c.outcome i) ∧
      t.landing.map Prod.fst = t.entered.getLast? ∧
      ∀ ns visits, t.landing = some (ns, visits) →
        (Ended.state (c.outcome i)).current = Visit.unwind visits ns ∧
        ((∀ v ∈ visits, v.own ≠ ns) → (Ended.state (c.outcome i)).current = ns) := by
  obtain ⟨calls, runs⟩ := c.runs_alone i
  refine ⟨_, runs, CallTree.landing_fst _, fun ns visits landing => ?_⟩
  have run := (runs _ _).mpr ⟨rfl, rfl⟩
  have lands := run.lands (Caller.threads_serial.call c i)
  rw [CallTree.landingAll, CallTree.landingAll, landing] at lands
  exact ⟨lands, fun others => lands.trans (Visit.unwind_of_ne others)⟩

/-- A function of one namespace calls a function of another one, which enters that of the first. -/
theorem switch_carried_back_twice :
    let inner : Closure :=
      { id := 0, name := none, params := [], rest := none,
        body := [.list [.symbol "ns", .symbol "outer"]], scope := [], ns := "inner", depth := 1 }
    let outer : Closure :=
      { id := 1, name := none, params := [], rest := none, body := [.list [.symbol "f"]],
        scope := [("f", .closure inner)], ns := "outer", depth := 2 }
    let c : Call := .apply evalLimit (.closure outer) []
    let ended := c.outcome (.start "user")
    ∃ t : CallTree, (Dialogue.call c (.start "user") .done).Runs [t] ended ∧
      t.landing = some ("outer", [⟨"inner", "outer"⟩, ⟨"outer", "user"⟩]) ∧
      (Ended.state ended).current = "user" := by
  intro inner outer c ended
  obtain ⟨t, runs, -, carried⟩ := switch_carried_back c (.start "user")
  have traced : ((Dialogue.call c (.start "user") .done).trace 20).map
      (fun x => CallTree.landingAll x.1) =
        some (some ("outer", [⟨"inner", "outer"⟩, ⟨"outer", "user"⟩])) := by
    decide +kernel
  obtain ⟨⟨ts, r⟩, found, same⟩ := Option.map_eq_some_iff.mp traced
  obtain ⟨rfl, rfl⟩ := (runs _ _).mp (Dialogue.runs_of_trace found)
  have landing : t.landing = some ("outer", [⟨"inner", "outer"⟩, ⟨"outer", "user"⟩]) := same
  exact ⟨t, (runs _ _).mpr ⟨rfl, rfl⟩, landing, (carried _ _ landing).1⟩

/-- A function that enters its own namespace, called from another one: the call has a value, and
its caller is not in the namespace that was entered. -/
theorem own_namespace_left :
    let f : Closure :=
      { id := 0, name := none, params := [], rest := none,
        body := [.list [.symbol "ns", .symbol "user"]], scope := [], ns := "user", depth := 1 }
    let c : Call := .apply evalLimit (.closure f) []
    let before := (Interp.start "user").enter "other"
    ∃ t : CallTree, (Dialogue.call c before .done).Runs [t] (c.outcome before) ∧
      (Ended.result (c.outcome before)).1.isOk ∧ t.entered = ["user"] ∧
      (Ended.state (c.outcome before)).current = "other" := by
  intro f c before
  obtain ⟨calls, runs⟩ := c.runs_alone before
  have traced : ((Dialogue.call c before .done).trace 20).map (fun x =>
      (CallTree.enteredAll x.1, (Ended.result x.2).1.isOk, (Ended.state x.2).current)) =
        some (["user"], true, "other") := by
    decide +kernel
  obtain ⟨⟨ts, r⟩, found, same⟩ := Option.map_eq_some_iff.mp traced
  obtain ⟨rfl, rfl⟩ := (runs _ _).mp (Dialogue.runs_of_trace found)
  obtain ⟨entered, ok, current⟩ := Prod.mk.inj same |>.imp id Prod.mk.inj
  refine ⟨_, (runs _ _).mpr ⟨rfl, rfl⟩, ok, ?_, current⟩
  simpa [CallTree.enteredAll] using entered

end HostedRepl.Lisp
