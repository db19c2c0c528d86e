/-
The evaluator keeps two runs in step.

* `match_…`: operations on the state, from corresponding states.
* `pair_…`: the parts of the work of a call, on like forms, scopes and values.
* `pair_body`: corresponding calls do corresponding work; `match_settle`: so
  corresponding work has corresponding ends, by induction on a run of the first.
* `match_text`: a text evaluated in two corresponding states.
-/
import HostedRepl.Proofs.Lisp.Legible
import HostedRepl.Proofs.Lisp.Tandem
import HostedRepl.Proofs.Lisp.Termination

namespace HostedRepl.Lisp

/-- A value without functions is like itself. -/
lemma Likeness.Faithful.over {L : Likeness} (F : L.Faithful) {V : Vocabulary} {v : Value}
    (h : v.Over V) : L.value v v := by
  induction h with
  | list _ ih => exact F.list (List.forall₂_same.mpr ih)
  | vector _ ih => exact F.vector (List.forall₂_same.mpr ih)
  | _ => exact F.atom trivial

namespace Tandem

namespace Lawful

variable {α β : Type} {T : Tandem} (law : T.Lawful) {A : Interp → α → β → Prop} {i : Interp}
include law

/-! ### Operations on the state -/

lemma match_define {v w : Value} (name : String) {j : Interp} (h : T.state i j)
    (hv : T.values i v w) :
    T.Match T.values i (Lisp.define name v i) (Lisp.define name w j) := by
  have moved := law.define name h hv
  have named : T.values (i.define name v) (.symbol ("#'" ++ i.current ++ "/" ++ name))
      (.symbol ("#'" ++ j.current ++ "/" ++ name)) := by
    rw [law.current h]
    exact (law.faithful _).atom trivial
  exact .ok moved named

lemma match_enter (name : String) {j : Interp} (h : T.state i j) :
    T.Match T.values i (Call.enter name i) (Call.enter name j) :=
  .ok (law.enter name h) ((law.faithful _).atom trivial)

lemma match_resolve {s t : Scope} {j : Interp} (h : T.state i j) (hs : (T.like i).scope s t)
    (name : String) : T.Match T.values i (resolve s name i) (resolve t name j) := by
  have inScope := (law.faithful i).find name hs
  have global := law.global name h
  have read (f : Interp → Eval Value) (i : Interp) : (get >>= f) i = f i i := rfl
  rw [resolve, resolve]
  generalize s.find? name = v at inScope
  generalize t.find? name = w at inScope
  cases inScope with
  | some hv => exact .ok (law.move h) hv
  | none =>
      simp only [read]
      generalize i.global? name = v at global
      generalize j.global? name = w at global
      cases global with
      | some hv => exact .ok (law.move h) hv
      | none => exact .error _ (law.move h)

lemma match_run (p : Primitive) {vs ws : List Value} {j : Interp} (h : T.state i j)
    (hs : List.Forall₂ (T.values i) vs ws) : T.Match T.values i (p.run vs i) (p.run ws j) := by
  have computed := (law.faithful i).compute p hs
  have printed := (law.faithful i).printed_eq p hs
  have moved := law.print (p.printed vs) h
  rw [Primitive.run, Primitive.run, printed]
  generalize p.compute vs = x at computed
  generalize p.compute ws = y at computed
  cases computed with
  | ok hv => exact .ok moved (law.value moved.later hv)
  | error e => exact .error e (law.move h)

lemma match_makeClosure (name : Option String) {s t : Scope} {vs ws : List Value} {j : Interp}
    (h : T.state i j) (hs : (T.like i).scope s t) (hforms : List.Forall₂ (T.values i) vs ws) :
    T.Match T.values i (makeClosure name s vs i) (makeClosure name t ws j) := by
  have F := law.faithful i
  have malformed : T.Match T.values i (malformed .fnParameters i) (malformed .fnParameters j) :=
    .error _ (law.move h)
  cases hforms with
  | nil => exact malformed
  | @cons v w body body' hv hbody =>
      cases F.level hv with
      | vector hparams =>
          rename_i params params'
          rw [makeClosure, makeClosure, F.parseParams_eq hparams, F.depth hs]
          cases parseParams params with
          | error fault => exact .error _ (law.move h)
          | ok parsed =>
              obtain ⟨made, moved⟩ := law.made h
              dsimp only
              split
              · exact .error _ (law.move h)
              · exact .ok moved ((law.faithful _).value (.closure made rfl rfl rfl
                  (law.values_mono moved.later hbody) (law.scope moved.later hs)
                  (law.current h) rfl))
      | atom ha => cases v <;> first | exact malformed | exact ha.elim
      | list | closure => exact malformed

lemma match_defineClosure (name : String) {s t : Scope} {vs ws : List Value} {j : Interp}
    (h : T.state i j) (hs : (T.like i).scope s t) (hforms : List.Forall₂ (T.values i) vs ws) :
    T.Match T.values i (Call.defineClosure name s vs i) (Call.defineClosure name t ws j) := by
  have made := law.match_makeClosure (some name) h hs hforms
  change T.Match T.values i (EStateM.bind _ _ i) (EStateM.bind _ _ j)
  rw [EStateM.bind, EStateM.bind]
  generalize makeClosure (some name) s vs i = r at made
  generalize makeClosure (some name) t ws j = r' at made
  cases made with
  | ok move hv => exact law.match_mono (law.match_define name move.state hv) move.later
  | error e move => exact .error e move
  | short rich => exact .short rich

/-! ### Special forms -/

variable {b b' : ℕ} {s t : Scope}

lemma twin_eval (budget : T.Budget b b') (hs : (T.like i).scope s t) {v w : Value}
    (hv : T.values i v w) (i' : Interp) (later : T.later i i') :
    T.Twin i' (.eval b s v) (.eval b' t w) :=
  .eval budget (law.scope later hs) (law.value later hv)

lemma twin_apply (budget : T.Budget b b') {f g : Value} (hf : T.values i f g)
    {vs ws : List Value} (hargs : List.Forall₂ (T.values i) vs ws) (i' : Interp)
    (later : T.later i i') : T.Twin i' (.apply b f vs) (.apply b' g ws) :=
  .apply budget (law.value later hf) (law.values_mono later hargs)

lemma pair_sequence (budget : T.Budget b b') (hs : (T.like i).scope s t) {last last' : Value}
    (hlast : T.values i last last') {vs ws : List Value}
    (hforms : List.Forall₂ (T.values i) vs ws) :
    T.Pair T.values i (Call.sequence b s last vs) (Call.sequence b' t last' ws) :=
  law.pair_combine law.lasting law.lasting
    (fun _ later _ _ _ _ _ hv => .call fun _ later' =>
      law.twin_eval budget (law.scope later hs) hv _ later') hforms hlast

lemma pair_each (budget : T.Budget b b') (hs : (T.like i).scope s t) {vs ws : List Value}
    (hforms : List.Forall₂ (T.values i) vs ws) :
    T.Pair (fun i => List.Forall₂ (T.values i)) i (Call.each b s vs) (Call.each b' t ws) :=
  law.pair_collect law.lasting law.lasting
    (fun _ later _ _ hv => .call fun _ later' =>
      law.twin_eval budget (law.scope later hs) hv _ later') hforms .nil

lemma pair_choose (budget : T.Budget b b') (hs : (T.like i).scope s t) {test test' : Value}
    (htest : T.values i test test') {yes yes' no no' : Caller Value}
    (hyes : T.Pair T.values i yes yes') (hno : T.Pair T.values i no no') :
    T.Pair T.values i (Call.choose b s test yes no) (Call.choose b' t test' yes' no') := by
  refine law.pair_bind (.call (law.twin_eval budget hs htest)) fun i' u v later hu => ?_
  rw [(law.faithful i').isTruthy_eq hu]
  split
  · exact law.pair_mono hyes later
  · exact law.pair_mono hno later

lemma pair_bindings (budget : T.Budget b b') (hs : (T.like i).scope s t) {vs ws : List Value}
    (hforms : List.Forall₂ (T.values i) vs ws) :
    T.Pair (fun i => (T.like i).scope) i (Call.bindings b s vs) (Call.bindings b' t ws) := by
  fun_induction Call.bindings b s vs generalizing i t ws with
  | case1 s name form more ih =>
      rcases hforms with _ | ⟨hname, _ | ⟨hform, hmore⟩⟩
      obtain rfl := (law.faithful i).eq_of_atom hname trivial
      refine law.pair_bind (.call (law.twin_eval budget hs hform)) fun i' v w later hv => ?_
      exact ih v ((law.faithful i').bind name (law.scope later hs) hv)
        (law.values_mono later hmore)
  | case2 s head tail other =>
      cases hforms with
      | @cons _ head' _ tail' hhead htail =>
          have other' (name : String) (form : Value) (more : List Value) :
              head' = .symbol name → tail' = form :: more → False := by
            intro named two
            subst two
            cases htail with
            | cons => exact other name _ _ (((law.faithful i).eq_symbol_iff hhead name).mp named) rfl
          rw [Call.bindings]
          · exact law.pair_throw _
          · exact other'
  | case3 s =>
      cases hforms
      exact law.pair_pure fun _ later => law.scope later hs

lemma pair_special (budget : T.Budget b b') (hs : (T.like i).scope s t) (form : SpecialForm)
    {vs ws : List Value} (hforms : List.Forall₂ (T.values i) vs ws) :
    T.Pair T.values i (Call.special b s form vs) (Call.special b' t form ws) := by
  have F := law.faithful i
  have malformed (fault : FormFault) : T.Pair T.values i
      (liftM (Lisp.malformed fault : Eval Value)) (liftM (Lisp.malformed fault : Eval Value)) :=
    law.pair_throw _
  have evaluated {v w : Value} (hv : T.values i v w) :
      T.Pair T.values i (Caller.call (.eval b s v)) (Caller.call (.eval b' t w)) :=
    .call (law.twin_eval budget hs hv)
  have nothing : T.Pair T.values i (pure .nil) (pure .nil) :=
    law.pair_pure fun i' _ => (law.faithful i').atom trivial
  have body {vs ws : List Value} (hforms : List.Forall₂ (T.values i) vs ws) :
      T.Pair T.values i (Call.sequence b s .nil vs) (Call.sequence b' t .nil ws) :=
    law.pair_sequence budget hs (F.atom (v := .nil) trivial) hforms
  have closure (name : Option String) {vs ws : List Value}
      (hforms : List.Forall₂ (T.values i) vs ws) : T.Pair T.values i
        (liftM (makeClosure name s vs)) (liftM (makeClosure name t ws)) :=
    .lift fun i' j' m => law.match_makeClosure name m.state (law.scope m.later hs)
      (law.values_mono m.later hforms)
  have defined (name : String) {vs ws : List Value} (hforms : List.Forall₂ (T.values i) vs ws) :
      T.Pair T.values i (liftM (Call.defineClosure name s vs))
        (liftM (Call.defineClosure name t ws)) :=
    .lift fun i' j' m => law.match_defineClosure name m.state (law.scope m.later hs)
      (law.values_mono m.later hforms)
  cases form with
  | quote =>
      rcases hforms with _ | ⟨hv, _ | ⟨hw, hforms⟩⟩
      · exact malformed _
      · exact law.pair_pure fun _ later => law.value later hv
      · exact malformed _
  | conditional =>
      rcases hforms with _ | ⟨htest, _ | ⟨hyes, _ | ⟨hno, _ | ⟨hw, hforms⟩⟩⟩⟩
      · exact malformed _
      · exact malformed _
      · exact law.pair_choose budget hs htest (evaluated hyes) nothing
      · exact law.pair_choose budget hs htest (evaluated hyes) (evaluated hno)
      · exact malformed _
  | when =>
      cases hforms with
      | nil => exact malformed _
      | cons htest hforms => exact law.pair_choose budget hs htest (body hforms) nothing
  | sequence => exact body hforms
  | define =>
      rcases hforms with _ | ⟨hname, _ | ⟨hform, _ | ⟨hw, hforms⟩⟩⟩
      · exact malformed _
      · obtain ⟨name, rfl, rfl⟩ | ⟨other, other'⟩ := F.symbol_or hname
        · exact .lift fun i' j' m => law.match_define name m.state ((law.faithful i').atom trivial)
        · rw [Call.special, Call.special]
          · exact malformed _
          all_goals simp [other, other']
      · obtain ⟨name, rfl, rfl⟩ | ⟨other, other'⟩ := F.symbol_or hname
        · exact law.pair_bind (evaluated hform) fun i' v w later hv =>
            .lift fun i'' j'' m => law.match_define name m.state (law.value m.later hv)
        · rw [Call.special, Call.special]
          · exact malformed _
          all_goals simp [other, other']
      · rw [Call.special, Call.special]
        · exact malformed _
        all_goals simp
  | defineFn =>
      rcases hforms with _ | ⟨hname, hforms⟩
      · exact malformed _
      · obtain ⟨name, rfl, rfl⟩ | ⟨other, other'⟩ := F.symbol_or hname
        · rcases hforms with _ | @⟨doc, _, _, _, hdoc, hforms⟩
          · exact defined name .nil
          · have whole := defined name (.cons hdoc hforms)
            cases F.level hdoc with
            | atom => cases doc <;> first | exact whole | exact defined name hforms
            | list | vector | closure => exact whole
        · rw [Call.special, Call.special]
          · exact malformed _
          all_goals simp [other, other']
  | bind =>
      rcases hforms with _ | @⟨v, _, _, _, hv, hforms⟩
      · exact malformed _
      · cases F.level hv with
        | vector hbs =>
            rw [Call.special, Call.special, ← hbs.length_eq]
            split
            · exact law.pair_bind (law.pair_bindings budget hs hbs) fun i' s' t' later hs' =>
                law.pair_sequence budget hs' ((law.faithful i').atom (v := .nil) trivial)
                  (law.values_mono later hforms)
            · exact malformed _
        | atom ha => cases v <;> first | exact malformed _ | exact ha.elim
        | list | closure => exact malformed _
  | function =>
      rcases hforms with _ | ⟨hname, hforms⟩
      · exact closure none .nil
      · obtain ⟨name, rfl, rfl⟩ | ⟨other, other'⟩ := F.symbol_or hname
        · exact closure (some name) hforms
        · rw [Call.special, Call.special]
          · exact closure none (.cons hname hforms)
          all_goals simp [other, other']
  | enter =>
      rcases hforms with _ | ⟨hname, hforms⟩
      · exact malformed _
      · obtain ⟨name, rfl, rfl⟩ | ⟨other, other'⟩ := F.symbol_or hname
        · exact .lift fun i' j' m => law.match_enter name m.state
        · rw [Call.special, Call.special]
          · exact malformed _
          all_goals simp [other, other']

lemma pair_list (budget : T.Budget b b') (hs : (T.like i).scope s t) {head head' : Value}
    {vs ws : List Value} (hhead : T.values i head head')
    (hforms : List.Forall₂ (T.values i) vs ws) :
    T.Pair T.values i (Call.list b s head vs) (Call.list b' t head' ws) := by
  rw [Call.list, Call.list, (law.faithful i).specialHead?_eq hhead]
  cases specialHead? head with
  | some form => exact law.pair_special budget hs form hforms
  | none =>
      refine law.pair_bind (.call (law.twin_eval budget hs hhead)) fun i₁ f g later hf => ?_
      refine law.pair_bind (law.pair_each budget (law.scope later hs)
        (law.values_mono later hforms)) fun i₂ args args' later' hargs => ?_
      refine .call fun i₃ later'' => .apply budget ?_ (law.values_mono later'' hargs)
      exact law.value later'' (law.value later' hf)

/-! ### Calls of values -/

lemma pair_closure (budget : T.Budget b b') {f g : Closure}
    (hf : T.values i (.closure f) (.closure g)) {vs ws : List Value}
    (hargs : List.Forall₂ (T.values i) vs ws) :
    T.Pair T.values i (Call.closure b f vs) (Call.closure b' g ws) := by
  have F := law.faithful i
  obtain ⟨hname, hns, hbody, hscope⟩ : g.name = f.name ∧ g.ns = f.ns ∧
      List.Forall₂ (T.values i) f.body g.body ∧ (T.like i).scope f.scope g.scope := by
    cases F.level hf with
    | atom ha => exact ha.elim
    | closure _ hname _ _ hbody hscope hns _ => exact ⟨hname, hns, hbody, hscope⟩
  rw [Call.closure, Call.closure, F.accepts_eq hf, ← hargs.length_eq]
  split
  · refine law.pair_bind (law.pair_result (A := fun i => (T.like i).Vars) fun i' later =>
      (law.faithful i').bind_closure (law.value later hf) (law.values_mono later hargs))
        fun i₁ vars vars' later hvars => ?_
    rw [hns]
    refine law.pair_inNamespace f.ns fun i₂ later' => ?_
    have there : T.like { i₂ with current := f.ns } = T.like i₂ := law.like_at i₂ f.ns
    have since : T.later i i₂ := law.trans later later'
    refine law.pair_sequence budget ?_ ((law.faithful _).atom (v := .nil) trivial) ?_
    · rw [there]
      exact (law.vars_mono later' hvars).scope (law.faithful i₂) (law.scope since hscope)
    · rw [values, there]
      exact law.values_mono since hbody
  · rw [hname]
    exact law.pair_throw _

lemma pair_higher (budget : T.Budget b b') (h : HigherOrder) {vs ws : List Value}
    (hargs : List.Forall₂ (T.values i) vs ws) :
    T.Pair T.values i (Call.higher b h vs) (Call.higher b' h ws) := by
  have refused : T.Pair T.values i (liftM (Eval.lift (wrongArity (.higher h) vs : Except _ Value)))
      (liftM (Eval.lift (wrongArity (.higher h) ws : Except _ Value))) := by
    rw [wrongArity, wrongArity, hargs.length_eq]
    exact law.pair_throw _
  have items {xs xs' : Value} (hxs : T.values i xs xs') :
      T.Pair (fun i => List.Forall₂ (T.values i)) i (liftM (Eval.lift (seqArg (.higher h) xs)))
        (liftM (Eval.lift (seqArg (.higher h) xs'))) :=
    law.pair_result fun i' later => (law.faithful i').seqArg _ (law.value later hxs)
  have listed {i' : Interp} {vs ws : List Value} (hvs : List.Forall₂ (T.values i') vs ws) :
      T.Pair T.values i' (pure (.list vs)) (pure (.list ws)) :=
    law.pair_pure fun i'' later => (law.faithful i'').list (law.values_mono later hvs)
  cases h with
  | map =>
      rcases hargs with _ | ⟨hg, _ | ⟨hxs, _ | ⟨hv, hargs⟩⟩⟩
      · exact refused
      · exact refused
      · refine law.pair_bind (items hxs) fun i₁ us us' later hus => ?_
        refine law.pair_bind ?_ fun i₂ vs ws later' hvs => listed hvs
        refine law.pair_collect law.lasting law.lasting (fun i₂ later' v w hv => ?_) hus .nil
        exact .call (law.twin_apply budget (law.value (law.trans later later') hg) (.cons hv .nil))
      · exact refused
  | filter =>
      rcases hargs with _ | ⟨hg, _ | ⟨hxs, _ | ⟨hv, hargs⟩⟩⟩
      · exact refused
      · exact refused
      · refine law.pair_bind (items hxs) fun i₁ us us' later hus => ?_
        refine law.pair_bind ?_ fun i₂ vs ws later' hvs => listed hvs
        refine law.pair_sift (fun i₂ later' v w hv => ?_) hus .nil
        exact .call (law.twin_apply budget (law.value (law.trans later later') hg) (.cons hv .nil))
      · exact refused
  | reduce =>
      have combined {i₁ : Interp} {g g' init init' : Value} {us us' : List Value}
          (hg : T.values i₁ g g') (hinit : T.values i₁ init init')
          (hus : List.Forall₂ (T.values i₁) us us') : T.Pair T.values i₁
            (Caller.combine (fun acc v => Caller.call (.apply b g [acc, v])) init us)
            (Caller.combine (fun acc v => Caller.call (.apply b' g' [acc, v])) init' us') :=
        law.pair_combine law.lasting law.lasting (fun i₂ later' _ _ _ _ hacc hv =>
          .call (law.twin_apply budget (law.value later' hg) (.cons hacc (.cons hv .nil)))) hus hinit
      rcases hargs with _ | ⟨hg, _ | ⟨hxs, _ | ⟨hys, _ | ⟨hv, hargs⟩⟩⟩⟩
      · exact refused
      · exact refused
      · refine law.pair_bind (items hxs) fun i₁ us us' later hus => ?_
        cases hus with
        | nil => exact .call (law.twin_apply budget (law.value later hg) .nil)
        | cons hfirst hrest => exact combined (law.value later hg) hfirst hrest
      · exact law.pair_bind (items hys) fun i₁ us us' later hus =>
          combined (law.value later hg) (law.value later hxs) hus
      · exact refused
  | apply =>
      rcases hargs with _ | ⟨hg, _ | @⟨a, a', more, more', ha, hmore⟩⟩
      · exact refused
      · exact refused
      · have hargs := List.Forall₂.cons ha hmore
        have init : List.Forall₂ (T.values i) (a :: more).dropLast (a' :: more').dropLast := by
          rw [List.dropLast_eq_take, List.dropLast_eq_take, hargs.length_eq]
          exact List.forall₂_take _ hargs
        have last : T.values i ((a :: more).getLast (List.cons_ne_nil a more))
            ((a' :: more').getLast (List.cons_ne_nil a' more')) := by
          simp only [List.getLast_eq_getElem, ← hargs.length_eq]
          exact hargs.get _ _
        refine law.pair_bind (items last) fun i₁ us us' later hus => .call fun i₂ later' => ?_
        exact law.twin_apply budget (law.value later hg)
          (List.rel_append (law.values_mono later init) hus) i₂ later'

/-- **Corresponding calls do corresponding work.** -/
theorem pair_body {c c' : Call} (h : T.Twin i c c') : T.Pair T.values i c.body c'.body := by
  have F := law.faithful i
  have bounded {i' : Interp} {v w : Value} (hv : T.values i' v w) :
      T.Pair T.values i' (liftM (Eval.lift v.bounded)) (liftM (Eval.lift w.bounded)) :=
    law.pair_result fun i'' later => (law.faithful i'').bounded (law.value later hv)
  cases h with
  | @eval b b' s t form form' budget hs hform =>
      have itself (v w : Value) (hv : T.values i v w) : T.Pair T.values i (pure v) (pure w) :=
        law.pair_pure fun i' later => law.value later hv
      cases F.level hform with
      | atom ha =>
          cases form with
          | symbol name =>
              exact .lift fun i' j' m => law.match_resolve m.state (law.scope m.later hs) name
          | list | vector | closure => exact ha.elim
          | _ => cases b <;> cases b' <;> exact itself _ _ hform
      | closure => cases b <;> cases b' <;> exact itself _ _ hform
      | vector hitems =>
          have work := law.pair_bind (law.pair_each budget hs hitems) fun i' vs ws later hvs =>
            bounded ((law.faithful i').vector hvs)
          cases b <;> cases b' <;> exact work
      | list hitems =>
          cases hitems with
          | nil => cases b <;> cases b' <;> exact itself _ _ (F.list .nil)
          | cons hhead hforms =>
              cases b with
              | zero =>
                  rcases budget with rfl | ⟨rich, -⟩
                  · exact law.pair_throw _
                  · exact fun i' j' m => .short rich
              | succ b =>
                  obtain ⟨k, rfl, inner⟩ : ∃ k, b' = k + 1 ∧ T.Budget b k := by
                    rcases budget with rfl | ⟨rich, le⟩
                    · exact ⟨b, rfl, .inl rfl⟩
                    · exact ⟨b' - 1, by omega, .inr ⟨rich, by omega⟩⟩
                  exact law.pair_list inner hs hhead hforms
  | @apply b b' f g vs ws budget hf hargs =>
      have uncallable : T.Pair T.values i (liftM (throw (.notCallable f.print) : Eval Value))
          (liftM (throw (.notCallable g.print) : Eval Value)) := by
        rw [F.print_eq hf]
        exact law.pair_throw _
      cases F.level hf with
      | atom ha =>
          cases f with
          | builtin f =>
              cases f with
              | primitive p =>
                  refine law.pair_bind (.lift fun i' j' m => ?_) fun i' v w _ hv => bounded hv
                  exact law.match_run p m.state (law.values_mono m.later hargs)
              | higher h =>
                  exact law.pair_bind (law.pair_higher budget h hargs) fun i' v w _ hv => bounded hv
          | list | vector | closure => exact ha.elim
          | _ => exact law.pair_throw _
      | closure => exact law.pair_closure budget hf hargs
      | vector | list => exact uncallable

/-- **Corresponding work has corresponding ends.** -/
theorem match_settle {d : Dialogue α} {d' : Dialogue β} {ts : List CallTree} {r : Ended α}
    (run : d.Runs ts r) (h : T.Step A i d d') : T.Match A i r (d'.settle Call.outcome) := by
  induction run generalizing i β d' with
  | done r =>
      cases h with
      | done m => exact m
      | short rich => exact .short rich
  | @call α c i₁ next ts ts' r r' _ _ inner rest =>
      cases h with
      | @call _ j₁ _ c' _ next' state twin goOn =>
          have ended := inner (law.pair_body twin i₁ j₁ (law.move state))
          change T.Match T.values i₁ r (Caller.settle Call.outcome c'.body j₁) at ended
          rw [← Call.outcome_eq] at ended
          have settled := rest (goOn r _ ended)
          exact settled

/-- Corresponding calls have corresponding outcomes. -/
theorem match_call {c c' : Call} {j : Interp} (state : T.state i j) (h : T.Twin i c c') :
    T.Match T.values i (c.outcome i) (c'.outcome j) := by
  obtain ⟨ts, r, run⟩ := c.runs i
  have ended := law.match_settle run (law.pair_body h i j (law.move state))
  rw [run.eq_settle] at ended
  rw [Call.outcome_eq, Call.outcome_eq]
  exact ended

/-- Like forms in a row, in corresponding states. -/
lemma match_sequence {j : Interp} (state : T.state i j) {vs ws : List Value}
    (hforms : List.Forall₂ (T.values i) vs ws) :
    T.Match T.values i ((Call.sequence evalLimit [] .nil vs i).settle Call.outcome)
      ((Call.sequence evalLimit [] .nil ws j).settle Call.outcome) := by
  have F := law.faithful i
  obtain ⟨ts, r, run⟩ := Call.sequence_runs evalLimit [] vs i
  have work := law.pair_sequence (b := evalLimit) (.inl rfl) F.empty
    (F.atom (v := .nil) trivial) hforms
  have ended := law.match_settle run (work i j (law.move state))
  rwa [run.eq_settle] at ended

/-- Like top-level forms, in corresponding states. -/
lemma match_forms {j : Interp} (state : T.state i j) {vs ws : List Value}
    (hforms : List.Forall₂ (T.values i) vs ws) :
    T.Match T.values i (evalForms vs i) (evalForms ws j) := by
  have settled (forms : List Value) :
      Caller.settle Call.outcome (Call.sequence evalLimit [] .nil forms) = evalForms forms :=
    Call.settle_sequence evalLimit [] .nil forms
  rw [← settled, ← settled]
  exact law.match_sequence state hforms

/-- **A text evaluated in corresponding states** has corresponding results and leaves corresponding
states. -/
theorem match_text {j : Interp} (state : T.state i j) (code : String) :
    T.Match T.values i ((i.dialogue code).settle Call.outcome)
      ((j.dialogue code).settle Call.outcome) := by
  rw [Interp.dialogue, Interp.dialogue]
  cases found : read code with
  | error e => exact .error _ (law.move state)
  | ok forms =>
      have itself : List.Forall₂ (T.values i) forms forms :=
        List.forall₂_same.mpr fun v hv => (law.faithful i).over (read_legible found v hv).1
      exact law.match_sequence state itself

end Lawful

end Tandem

end HostedRepl.Lisp
