/-
What an evaluation can see of the past.

* `Value.Like.meet`: values that correspond, and have numbers of their own
  kinds, correspond by numbers of these kinds.
* `Interp.Fresh`: all closures of a state have numbers below the next one;
  `Reachable.fresh`: this is so in every reachable state.
* `Runtime.Reached`: the states of a runtime after any history.
* `history_independent`: an evaluation depends on the variables and on the
  namespace of its session, and on nothing else that has happened before.
-/
import HostedRepl.Proofs.Lisp.Counter
import HostedRepl.Proofs.Lisp.Nesting
import HostedRepl.Proofs.Lisp.Renaming

namespace HostedRepl.Lisp

/-! ### Numbers in use -/

/-- Values that correspond by some numbers, one of which has numbers in `J` and the other in `K`,
correspond by such numbers. -/
lemma Value.Like.meet {I J K R : ℕ → ℕ → Prop}
    (le : ∀ m m', I m m' → J m m → K m' m' → R m m') {v w : Value} (h : v.Like I w)
    (hv : v.Like J v) (hw : w.Like K w) : v.Like R w := by
  have items {L : ℕ → ℕ → Prop} {vs : List Value}
      (h : ∀ a b, (a, b) ∈ vs.zip vs → a.Like L b) : ∀ a ∈ vs, a.Like L a :=
    List.forall₂_same.mp (List.forall₂_iff_zip.mpr ⟨rfl, fun mem => h _ _ mem⟩)
  induction h with
  | atom h => exact .atom h
  | list length _ ih =>
      cases hv with
      | atom ha => exact ha.elim
      | list _ hvs =>
          cases hw with
          | atom ha => exact ha.elim
          | list _ hws =>
              refine .list length fun a b mem => ih a b mem (items hvs a ?_) (items hws b ?_)
              · exact (List.of_mem_zip mem).1
              · exact (List.of_mem_zip mem).2
  | vector length _ ih =>
      cases hv with
      | atom ha => exact ha.elim
      | vector _ hvs =>
          cases hw with
          | atom ha => exact ha.elim
          | vector _ hws =>
              refine .vector length fun a b mem => ih a b mem (items hvs a ?_) (items hws b ?_)
              · exact (List.of_mem_zip mem).1
              · exact (List.of_mem_zip mem).2
  | closure hid hname hparams hrest hlength _ hsome _ hscope hns hdepth ihbody ihscope =>
      cases hv with
      | atom ha => exact ha.elim
      | closure hid₁ _ _ _ _ hbody₁ _ hvars₁ =>
          cases hw with
          | atom ha => exact ha.elim
          | closure hid₂ _ _ _ _ hbody₂ _ hvars₂ =>
              refine .closure (le _ _ hid hid₁ hid₂) hname hparams hrest hlength ?_ hsome ?_ hscope
                hns hdepth
              · intro a b mem
                exact ihbody a b mem (items hbody₁ a (List.of_mem_zip mem).1)
                  (items hbody₂ b (List.of_mem_zip mem).2)
              · intro x a b found found'
                exact ihscope x a b found found' (hvars₁ x a a found found)
                  (hvars₂ x b b found' found')

namespace Interp

/-- All numbers of closures in the tables are below the next one. -/
def Fresh (i : Interp) : Prop := i.Renumbered (fun _ _ => False) 0 0 i

lemma renumber_fresh {n m m' : ℕ} (h : Renumber (fun _ _ => False) 0 0 n m m') :
    m = m' ∧ m < n := by
  rcases h with ⟨none, -⟩ | ⟨k, rfl, rfl, lt⟩
  · exact none.elim
  · exact ⟨rfl, lt⟩

/-- The tables of a start hold built-in functions, which are like themselves. -/
lemma tablesLike_start (I : ℕ → ℕ → Prop) (ns : String) : (start ns).TablesLike I (start ns) := by
  have atoms : (start ns).Holds Value.IsAtom := by
    refine all_set (P := fun vars : Table Value => ∀ x ∈ vars, x.2.IsAtom) (fun t ht => ?_) (by simp)
    obtain rfl := List.mem_singleton.mp ht
    intro x hx
    obtain ⟨b, -, rfl⟩ := List.mem_map.mp hx
    exact trivial
  refine ⟨fun _ => Iff.rfl, fun ns' name => ?_⟩
  cases found : (start ns).binding? ns' name with
  | none => exact .none
  | some v => exact .some (.atom (atoms.binding found))

lemma oneToOne_none : OneToOne fun _ _ => False := fun _ _ _ _ h => h.elim

lemma Fresh.enter {i : Interp} (h : i.Fresh) (ns : String) : (i.enter ns).Fresh :=
  ((Tandem.renumbered_lawful oneToOne_none 0 0).enter ns h).state

lemma Fresh.take {i : Interp} (h : i.Fresh) : Fresh { i with output := "" } :=
  ⟨⟨h.tables.has, h.tables.binding⟩, rfl, rfl, h.made⟩

/-- The closures that an evaluation makes are numbered on. -/
lemma Fresh.evalText {i : Interp} (h : i.Fresh) (code : String) : (i.evalText code).2.Fresh := by
  have ended := (Tandem.renumbered_lawful oneToOne_none 0 0).match_text h code
  rw [evalText_eq]
  generalize (i.dialogue code).settle Call.outcome = r at ended
  cases r with
  | ok v i' =>
      cases ended with
      | ok move => exact move.state
  | error e i' =>
      cases ended with
      | error _ move => exact move.state
      | short rich => exact rich.elim

lemma Reachable.fresh {i : Interp} (h : i.Reachable) : i.Fresh := by
  induction h with
  | start ns => exact ⟨tablesLike_start _ ns, rfl, rfl, 0, rfl, rfl⟩
  | evalText code _ ih => exact ih.evalText code
  | enter ns _ ih => exact ih.enter ns
  | take _ ih => exact ih.take

/-- Tables that correspond correspond by numbers of closures that have been made. -/
lemma TablesLike.renumber {I : ℕ → ℕ → Prop} {i j : Interp} (h : i.TablesLike I j) (hi : i.Fresh)
    (hj : j.Fresh) : i.TablesLike (Renumber I i.closures j.closures i.closures) j := by
  refine ⟨h.has, fun ns name => ?_⟩
  have own := hi.tables.binding ns name
  have own' := hj.tables.binding ns name
  have both := h.binding ns name
  generalize i.binding? ns name = v at own both
  generalize j.binding? ns name = w at own' both
  cases both with
  | none => exact .none
  | some hvw =>
      cases own with
      | some hv =>
          cases own' with
          | some hw =>
              refine .some (hvw.meet (fun m m' corresponds used used' => ?_) hv hw)
              exact .inl ⟨corresponds, (renumber_fresh used).2, (renumber_fresh used').2⟩

end Interp

/-! ### Histories -/

namespace Runtime

/-- The states of a runtime after any operations. -/
inductive Reached : Runtime → Prop
  | start : Reached .start
  | evalIn {r : Runtime} (session code : String) : Reached r → Reached (r.evalIn session code).2
  | evalText {r : Runtime} (code : String) : Reached r → Reached (r.evalText code).2
  | evalFile {r : Runtime} (files : Files) (path : String) :
      Reached r → Reached (r.evalFile files path).2
  | clone {r : Runtime} (parent : Option String) (child : String) :
      Reached r → Reached (r.clone parent child)
  | close {r : Runtime} (session : String) : Reached r → Reached (r.close session)

lemma reachable_run {r : Runtime} (h : r.interp.Reachable) (ns code : String) :
    (r.run ns code).2.interp.Reachable :=
  .take (.evalText code (.take (.enter ns h)))

lemma Reached.reachable {r : Runtime} (h : r.Reached) : r.interp.Reachable := by
  induction h with
  | start => exact .start _
  | evalIn session code _ ih => exact reachable_run ih _ code
  | evalText code _ ih => exact reachable_run ih _ code
  | @evalFile r files path _ ih =>
      rw [Runtime.evalFile]
      split
      · exact reachable_run ih _ _
      · exact ih
  | clone _ _ _ ih => exact ih
  | close _ _ ih => exact ih

end Runtime

/-- A text evaluated in two corresponding states has corresponding results, and leaves such
states. -/
lemma Interp.Renumbered.evalText {I : ℕ → ℕ → Prop} (one : OneToOne I) {c c' : ℕ} {i j : Interp}
    (h : i.Renumbered I c c' j) (code : String) :
    Agree (Value.Like (Renumber I c c' (i.evalText code).2.closures)) (i.evalText code).1
      (j.evalText code).1 ∧
    (i.evalText code).2.Renumbered I c c' (j.evalText code).2 := by
  have ended := (Tandem.renumbered_lawful one c c').match_text h code
  rw [evalText_eq, evalText_eq]
  generalize (i.dialogue code).settle Call.outcome = x at ended
  generalize (j.dialogue code).settle Call.outcome = y at ended
  cases ended with
  | ok move hv => exact ⟨.ok hv, move.state⟩
  | error e move => exact ⟨.error e, move.state⟩
  | short rich => exact rich.elim

/-- A session in one namespace is entered alike after two histories with the same variables. -/
lemma Runtime.renumbered_enter {r r' : Runtime} (h : r.Reached) (h' : r'.Reached)
    {I : ℕ → ℕ → Prop} (tables : r.interp.TablesLike I r'.interp) {session : String}
    (ns : r'.namespaceOf session = r.namespaceOf session) :
    (r.enter session).Renumbered I r.interp.closures r'.interp.closures (r'.enter session) := by
  have entered := (tables.renumber h.reachable.fresh h'.reachable.fresh).enter
    (r.namespaceOf session)
  rw [Runtime.enter, Runtime.enter, ns]
  refine ⟨⟨entered.has, fun ns name => ?_⟩, rfl, rfl, 0, ?_, ?_⟩
  · have found := entered.binding ns name
    dsimp only
    rwa [Interp.closures_enter]
  · exact Interp.closures_enter _ _
  · exact Interp.closures_enter _ _

/-- **Evaluation is independent of history.** Take the states of two runtimes after any histories,
whose variables are the same up to the numbers of closures, and a session that is in the same
namespace in both. A text evaluated in the session has the same result in both, up to numbers that
still correspond one to one, the same output and the same namespace, and leaves the same variables.
The result prints alike. The namespaces of other sessions and the one outside stay as they were. The
counter of lists under evaluation is at rest after the text, whatever its end is. -/
theorem history_independent {r r' : Runtime} (h : r.Reached) (h' : r'.Reached)
    {I : ℕ → ℕ → Prop} (one : OneToOne I) (tables : r.interp.TablesLike I r'.interp)
    (session code : String) (ns : r'.namespaceOf session = r.namespaceOf session) :
    let x := r.evalIn session code
    let x' := r'.evalIn session code
    (∃ J, OneToOne J ∧
      (∀ m m', I m m' → m < r.interp.closures → m' < r'.interp.closures → J m m') ∧
      Agree (Value.Like J) x.1.result x'.1.result ∧ x.2.interp.TablesLike J x'.2.interp) ∧
    x'.1.result.map Value.print = x.1.result.map Value.print ∧
    x'.1.output = x.1.output ∧ x'.1.ns = x.1.ns ∧
    (∀ other, other ≠ session → x.2.sessions.find? other = r.sessions.find? other) ∧
    x.2.outside = r.outside ∧
    ∃ ts, ∀ ts' ended n, ((r.enter session).dialogue code).Counts 0 ts' ended n ↔
      ts' = ts ∧ ended.result = (r.enter session).evalText code ∧ n = 0 := by
  intro x x'
  obtain ⟨result, after⟩ := (r.renumbered_enter h h' tables ns).evalText one code
  refine ⟨⟨_, oneToOne_renumber one, fun m m' corresponds hm hm' => .inl ⟨corresponds, hm, hm'⟩,
    result, after.tables.has, after.tables.binding⟩, ?_, after.output, after.current, ?_, rfl,
    (r.enter session).dialogue_counts code⟩
  · change Except.map Value.print ((r'.enter session).evalText code).1 =
      Except.map Value.print ((r.enter session).evalText code).1
    generalize ((r.enter session).evalText code).1 = y at result
    generalize ((r'.enter session).evalText code).1 = y' at result
    cases result with
    | ok hv => exact congrArg Except.ok ((Likeness.upTo_faithful (oneToOne_renumber one)).print_eq hv)
    | error e => rfl
  · intro other distinct
    change (r.sessions.set session _).find? other = _
    rw [Table.find?_set, if_neg distinct]

/-- A text that cannot be read has been evaluated in another session before. -/
theorem history_independent_unread :
    let r := Runtime.start
    let r' := (Runtime.start.evalIn "a" "(").2
    let x := r.evalIn "b" "(fn [] 1)"
    let x' := r'.evalIn "b" "(fn [] 1)"
    OneToOne (fun _ _ => False) ∧ r'.namespaceOf "b" = r.namespaceOf "b" ∧
      r'.sessions.find? "a" = some "user" ∧
      x'.1.result.map Value.print = x.1.result.map Value.print ∧ x'.1.output = x.1.output ∧
      x'.1.ns = x.1.ns ∧ x.2.sessions.find? "a" = none := by
  have reached : (Runtime.start.evalIn "a" "(").2.Reached := .evalIn "a" "(" .start
  have unread : (read "(").isOk = false := by decide +kernel
  have tables : Runtime.start.interp.TablesLike (fun _ _ => False)
      (Runtime.start.evalIn "a" "(").2.interp := by
    have start := Interp.tablesLike_start (fun _ _ => False) defaultNamespace
    cases failed : read "(" with
    | ok forms =>
        rw [failed] at unread
        cases unread
    | error e =>
        have known : Runtime.start.interp.Has defaultNamespace := by
          rw [Interp.Has]
          decide +kernel
        have left : (Runtime.start.evalIn "a" "(").2.interp =
            { Runtime.start.interp.enter defaultNamespace with output := "" } := by
          rw [Runtime.evalIn, Runtime.run, Interp.evalText, failed]
          rfl
        rw [left, Interp.enter_of_has known]
        exact ⟨start.has, start.binding⟩
  have ns : (Runtime.start.evalIn "a" "(").2.namespaceOf "b" = Runtime.start.namespaceOf "b" := by
    decide +kernel
  have recorded : (Runtime.start.evalIn "a" "(").2.sessions.find? "a" = some "user" := by
    decide +kernel
  obtain ⟨-, printed, output, current, others, -⟩ :=
    history_independent .start reached Interp.oneToOne_none tables "b" "(fn [] 1)" ns
  exact ⟨Interp.oneToOne_none, ns, recorded, printed, output, current, others "a" (by decide)⟩

end HostedRepl.Lisp
