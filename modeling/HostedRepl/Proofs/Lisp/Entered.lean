/-
The current namespace after an evaluation.

A closure runs in its own namespace. Afterwards the current namespace is that of
the caller again, unless the body has left that of the closure. The only call
that leaves a namespace by itself is the form `ns`.

* `CallTree.entered`: the namespaces that were entered in a run, in that order.
* `Caller.Stays`: the current namespace at the end is the one at the start, as
  long as this is so for the calls; `stays_closed`: this is handed on to what is
  made of such computations, a call in another namespace too.
* `Runs.stays`: a run in which no namespace was entered ends where it started.
* `Dialogue.trace`: the run of a dialogue, if it is not too long;
  `runs_of_trace`: it is the run.
* `call_restores_namespace`: **without `ns`, every evaluation and every call
  ends in the namespace in which it started**, however it ends.
-/
import HostedRepl.Proofs.Lisp.Closed
import HostedRepl.Proofs.Lisp.Termination

namespace HostedRepl.Lisp

/-! ### Trees -/

mutual

/-- The namespaces entered by the calls of a tree, in the order of these calls. -/
def CallTree.entered : CallTree → List String
  | .node c _ calls _ => c.enters?.toList ++ enteredAll calls

/-- The namespaces entered by the calls of trees in a row. -/
def CallTree.enteredAll : List CallTree → List String
  | [] => []
  | t :: ts => t.entered ++ enteredAll ts

end

/-! ### The work of each call -/

/-- The current namespace at the end is the one at the start, as long as this is so for every call
made in between. -/
def Caller.Stays {α : Type} (x : Caller α) : Prop :=
  ∀ i, (x i).Meets (fun _ _ => True) (fun _ i' r => r.state.current = i'.current)
    fun r => r.state.current = i.current

namespace Caller

variable {α β : Type}

lemma stays_call (c : Call) : Stays (call c) := fun _ => ⟨trivial, fun _ same => same⟩

lemma stays_bind {x : Caller α} {f : α → Caller β} (first : Stays x) (rest : ∀ a, Stays (f a)) :
    Stays (x >>= f) := by
  refine fun i => (first i).bind fun r before => ?_
  cases r with
  | ok a j =>
      exact (rest a j).mono (fun _ _ => id) (fun _ _ _ => id) fun r after => after.trans before
  | error e j => exact before

/-- Back in the namespace that it was given, a closure hands over to its caller. -/
lemma stays_inNamespace {x : Caller α} (own : String) (h : Stays x) :
    Stays (inNamespace own x) := by
  intro i
  have back (i' : Interp) (same : i'.current = own) : (i'.leave own i.current).current =
      i.current := by
    rw [Interp.leave, if_pos same]
  refine (h { i with current := own }).bind fun r same => ?_
  cases r with
  | ok a j => exact back j same
  | error e j => exact back j same

lemma stays_closed : Closed fun _ => Stays where
  lift := id
  call := stays_call
  bind := stays_bind
  inNamespace := stays_inNamespace

end Caller

/-! ### Runs -/

/-- A run in which no namespace was entered ends in the namespace in which it started. -/
theorem Dialogue.Runs.stays {α : Type} {d : Dialogue α} {ts : List CallTree} {r : Ended α}
    (h : d.Runs ts r) (silent : CallTree.enteredAll ts = []) : ∀ {final : Ended α → Prop},
      d.Meets (fun _ _ => True) (fun _ i r => r.state.current = i.current) final → final r := by
  induction h with
  | done r => exact fun meets => meets
  | @call α c i next ts ts' r r' _ _ inner others =>
      intro final meets
      rw [CallTree.enteredAll, CallTree.entered] at silent
      simp only [List.append_eq_nil_iff, Option.toList_eq_nil_iff] at silent
      obtain ⟨⟨other, below⟩, rest⟩ := silent
      have same : r.state.current = i.current := inner below (Caller.stays_closed.body other i)
      exact others rest (meets.2 r same)

/-- The run of a dialogue, if `fuel` is enough: the work of a call and what follows it have one
less. -/
def Dialogue.trace : (fuel : ℕ) → {α : Type} → Dialogue α → Option (List CallTree × Ended α)
  | _, _, .done r => some ([], r)
  | 0, _, .call _ _ _ => none
  | fuel + 1, _, .call c i next => do
    let (ts, r) ← trace fuel (c.body i)
    let (ts', r') ← trace fuel (next r)
    return (.node c i ts r :: ts', r')

/-- What is traced is the run. -/
lemma Dialogue.runs_of_trace {fuel : ℕ} {α : Type} {d : Dialogue α} {ts : List CallTree}
    {r : Ended α} (h : d.trace fuel = some (ts, r)) : d.Runs ts r := by
  induction fuel generalizing α ts r with
  | zero =>
      cases d with
      | done =>
          cases h
          exact .done _
      | call c i next => cases h
  | succ fuel ih =>
      cases d with
      | done =>
          cases h
          exact .done _
      | call c i next =>
          obtain ⟨⟨inner, r'⟩, body, h⟩ := Option.bind_eq_some_iff.mp h
          obtain ⟨⟨others, r''⟩, rest, h⟩ := Option.bind_eq_some_iff.mp h
          cases h
          exact .call (ih body) (ih rest)

/-- **A call restores the namespace of its caller.** Each evaluation of a form and each call of a
value has one run, which ends as the evaluator says; and if no form `ns` in it enters a namespace,
the current namespace at its end is the one at its start, whether it has a value or an error. -/
theorem call_restores_namespace (c : Call) (i : Interp) :
    ∃ t : CallTree,
      (∀ ts r, (Dialogue.call c i .done).Runs ts r ↔ ts = [t] ∧ r = c.outcome i) ∧
      (t.entered = [] → (Ended.state (c.outcome i)).current = i.current) := by
  obtain ⟨calls, runs⟩ := c.runs_alone i
  refine ⟨_, runs, fun silent => ?_⟩
  have run := (runs _ _).mpr ⟨rfl, rfl⟩
  refine run.stays ?_ (Caller.stays_call c i)
  rw [CallTree.enteredAll, silent]
  rfl

/-- A function of one namespace that maps a function of another one over a vector, and fails at its
second item. -/
theorem call_restores_namespace_failing :
    let inner : Closure :=
      { id := 0, name := none, params := ["x"], rest := none,
        body := [.list [.symbol "inc", .symbol "x"]], scope := [], ns := "inner", depth := 1 }
    let outer : Closure :=
      { id := 1, name := none, params := ["xs"], rest := none,
        body := [.list [.symbol "map", .symbol "f", .symbol "xs"]],
        scope := [("f", .closure inner)], ns := "outer", depth := 2 }
    let c : Call :=
      .eval evalLimit [("g", .closure outer)] (.list [.symbol "g", .vector [.int 1, .nil]])
    let ended := c.outcome (.start "user")
    ∃ t : CallTree, (Dialogue.call c (.start "user") .done).Runs [t] ended ∧ t.entered = [] ∧
      (Ended.result ended).1.isOk = false ∧ (Ended.state ended).current = "user" := by
  intro inner outer c ended
  obtain ⟨t, runs, kept⟩ := call_restores_namespace c (.start "user")
  have traced : ((Dialogue.call c (.start "user") .done).trace 20).map
      (fun x => (CallTree.enteredAll x.1, (Ended.result x.2).1.isOk)) = some ([], false) := by
    decide +kernel
  obtain ⟨⟨ts, r⟩, found, same⟩ := Option.map_eq_some_iff.mp traced
  obtain ⟨silent, failed⟩ := Prod.mk.inj same
  obtain ⟨rfl, rfl⟩ := (runs _ _).mp (Dialogue.runs_of_trace found)
  have silent : t.entered = [] := by simpa [CallTree.enteredAll] using silent
  exact ⟨t, (runs _ _).mpr ⟨rfl, rfl⟩, silent, failed, kept silent⟩

end HostedRepl.Lisp
