/-
Definitions and the names they are found under.

A definition is kept under its own name in the namespace that is current when
its value is known. A symbol with text before and after its first slash is
looked up in the namespace before that slash only, and any other symbol in the
current namespace and then in the core. So what a definition is found under
depends on the slashes in its name and in that of its namespace.

* `qualified?_eq_some_iff`: which symbols are qualified, and how they are cut.
* `Interp.valueAt`: the value of a symbol at top level, in some namespace.
* `Interp.Defines`: what a definition changes; `defines_define`: `define` does.
* `makeClosure_eq_ok`: the closure that a function form gives.
* `definition_found`: **what `def` and `defn` have defined is found under its
  own name and its qualified one**, as far as slashes allow, and nothing else
  has changed.
-/
import HostedRepl.Proofs.Lisp.DepthLimit
import HostedRepl.Proofs.Lisp.Namespaces

namespace HostedRepl.Lisp

namespace Interp

/-! ### Qualified names -/

lemma ofList_ne_empty {cs : List Char} (h : cs ≠ []) : String.ofList cs ≠ "" :=
  fun same => h (by simpa using congrArg String.toList same)

/-- A name is qualified if there is text before and after its first slash, where it is cut. -/
lemma qualified?_eq_some_iff {name x y : String} :
    qualified? name = some (x, y) ↔
      x ≠ "" ∧ '/' ∉ x.toList ∧ y ≠ "" ∧ name = x ++ "/" ++ y := by
  rw [qualified?]
  constructor
  · intro cut
    have whole := List.takeWhile_append_dropWhile (p := (· != '/')) (l := name.toList)
    have noSlash (c : Char) (mem : c ∈ name.toList.takeWhile (· != '/')) : c ≠ '/' := by
      simpa using List.mem_takeWhile_imp mem
    have slash := List.head?_dropWhile_not (· != '/') name.toList
    generalize name.toList.takeWhile (· != '/') = before at cut whole noSlash
    generalize name.toList.dropWhile (· != '/') = rest at cut whole slash
    split at cut
    · cases cut
    · next parts =>
      cases cut
      simp only [Bool.or_eq_true, List.isEmpty_iff, not_or] at parts
      cases rest with
      | nil => exact absurd rfl parts.2
      | cons c inner =>
          obtain rfl : c = '/' := by simpa using slash
          refine ⟨ofList_ne_empty parts.1, fun mem => ?_, ofList_ne_empty parts.2, ?_⟩
          · exact noSlash '/' (by simpa using mem) rfl
          · refine String.ext ?_
            rw [← whole]
            simp
  · rintro ⟨hx, noSlash, hy, rfl⟩
    have before : ∀ c ∈ x.toList, (c != '/') = true :=
      fun c mem => bne_iff_ne.mpr fun same => noSlash (same ▸ mem)
    have split : (x ++ "/" ++ y).toList = x.toList ++ '/' :: y.toList := by simp
    rw [split, List.takeWhile_append_of_pos before, List.dropWhile_append_of_pos before]
    have filled : x.toList ≠ [] ∧ y.toList ≠ [] :=
      ⟨fun empty => hx (String.ext empty), fun empty => hy (String.ext empty)⟩
    simp [filled]

/-- A name is shorter than after a namespace. -/
lemma length_lt_full (x y : String) : y.length < (x ++ "/" ++ y).length := by
  simp only [String.length_append]
  have : ("/" : String).length = 1 := rfl
  omega

/-! ### The value of a symbol -/

/-- The value of a symbol at top level, with `ns` as the current namespace. -/
def valueAt (i : Interp) (ns name : String) : Except EvalError Value :=
  (Ended.result (evalForms [.symbol name] { i with current := ns })).1

end Interp

lemma get_bind {α : Type} (f : Interp → Eval α) (i : Interp) : (get >>= f) i = f i i := rfl

/-- Without a scope, a symbol stands for a global variable. -/
lemma resolve_nil (name : String) (i : Interp) :
    resolve [] name i =
      (i.global? name).elim (.error (.unbound name) i) (EStateM.Result.ok · i) := by
  rw [resolve]
  change (get >>= _ : Eval Value) i = _
  rw [get_bind]
  cases i.global? name <;> rfl

lemma evalForms_singleton (form : Value) : evalForms [form] = evalAt evalLimit [] form :=
  bind_pure (evalAt evalLimit [] form)

namespace Interp

/-- It is that of the global variable. -/
lemma valueAt_eq (i : Interp) (ns name : String) :
    i.valueAt ns name =
      (({ i with current := ns } : Interp).global? name).elim (.error (.unbound name)) .ok := by
  have run : evalAt evalLimit [] (.symbol name) { i with current := ns } =
      resolve [] name { i with current := ns } := rfl
  rw [valueAt, evalForms_singleton, run, resolve_nil]
  cases ({ i with current := ns } : Interp).global? name <;> rfl

/-- A qualified name stands for a variable of one namespace, whatever the current one is. -/
lemma valueAt_of_qualified {name x y : String} (cut : qualified? name = some (x, y)) (i : Interp)
    (ns : String) : i.valueAt ns name = (i.binding? x y).elim (.error (.unbound name)) .ok := by
  rw [valueAt_eq, global?, cut]
  rfl

/-- Any other name stands for a variable of the current namespace or of the core. -/
lemma valueAt_of_plain {name : String} (plain : qualified? name = none) (i : Interp) (ns : String) :
    i.valueAt ns name =
      ((i.binding? ns name).or (i.binding? coreNamespace name)).elim
        (.error (.unbound name)) .ok := by
  rw [valueAt_eq, global?, plain]
  rfl

/-! ### What a definition changes -/

/-- `after` has the value `v` for `name` in `ns`, and is else as `before`. -/
structure Defines (before after : Interp) (ns name : String) (v : Value) : Prop where
  current : before.current = ns ∧ after.current = ns
  /-- No other variable has changed. -/
  others : ∀ x y, ¬ (x = ns ∧ y = name) → after.binding? x y = before.binding? x y
  /-- A name that is not qualified has the value in its namespace. -/
  own : qualified? name = none → after.valueAt ns name = .ok v
  /-- After the name of its namespace it has the value everywhere, if that has no slash. -/
  full : ns ≠ "" → '/' ∉ ns.toList → name ≠ "" → ∀ x, after.valueAt x (ns ++ "/" ++ name) = .ok v
  /-- What a qualified name stands for has not changed. -/
  own_other : qualified? name ≠ none → ∀ x, after.valueAt x name = before.valueAt x name
  /-- Nor has what a name after one with a slash stands for. -/
  full_other : ns = "" ∨ '/' ∈ ns.toList ∨ name = "" →
    ∀ x, after.valueAt x (ns ++ "/" ++ name) = before.valueAt x (ns ++ "/" ++ name)

/-- A definition is the value of its variable, and changes no other one. -/
lemma defines_define (i : Interp) (name : String) (v : Value) :
    i.Defines (i.define name v) i.current name v where
  current := ⟨rfl, rfl⟩
  others x y other := by rw [binding?_define, if_neg other]
  own plain := by
    rw [valueAt_of_plain plain, binding?_define, if_pos ⟨rfl, rfl⟩]
    rfl
  full filled noSlash named x := by
    rw [valueAt_of_qualified (qualified?_eq_some_iff.mpr ⟨filled, noSlash, named, rfl⟩),
      binding?_define, if_pos ⟨rfl, rfl⟩]
    rfl
  own_other qualified x := by
    obtain ⟨⟨ns, y⟩, cut⟩ := Option.ne_none_iff_exists'.mp qualified
    obtain ⟨-, -, -, whole⟩ := qualified?_eq_some_iff.mp cut
    have shorter : y ≠ name := fun same =>
      absurd (congrArg String.length (same.trans whole)) (length_lt_full ns y).ne
    rw [valueAt_of_qualified cut, valueAt_of_qualified cut, binding?_define,
      if_neg fun same => shorter same.2]
  full_other slashed x := by
    cases cut : qualified? (i.current ++ "/" ++ name) with
    | some p =>
        obtain ⟨filled, noSlash, named, -⟩ := qualified?_eq_some_iff.mp cut
        have other : ¬ (p.1 = i.current ∧ p.2 = name) := by
          rintro ⟨same, same'⟩
          rw [same] at filled noSlash
          rw [same'] at named
          simp [filled, noSlash, named] at slashed
        rw [valueAt_of_qualified cut, valueAt_of_qualified cut, binding?_define, if_neg other]
    | none =>
        have longer : i.current ++ "/" ++ name ≠ name := fun same =>
          absurd (congrArg String.length same) (length_lt_full i.current name).ne'
        simp only [valueAt_of_plain cut, binding?_define, longer, and_false, if_false]

end Interp

/-! ### Definitions at top level -/

/-- What `define` gives and leaves. -/
lemma define_eq (name : String) (v : Value) (i : Interp) :
    define name v i = .ok (.symbol ("#'" ++ i.current ++ "/" ++ name)) (i.define name v) := rfl

/-- The symbol that names a variable tells its namespace. -/
lemma current_of_symbol {x ns name : String}
    (h : Value.symbol ("#'" ++ x ++ "/" ++ name) = .symbol ("#'" ++ ns ++ "/" ++ name)) :
    x = ns := by
  have same := congrArg String.toList (Value.symbol.inj h)
  refine String.ext ?_
  simpa using same

/-- A computation that is followed by a definition. -/
lemma defined_of_bind {x : Eval Value} {i i' : Interp} {ns name : String}
    (h : (x >>= fun v => define name v) i = .ok (.symbol ("#'" ++ ns ++ "/" ++ name)) i') :
    ∃ v j, x i = .ok v j ∧ j.Defines i' ns name v := by
  change EStateM.bind x _ i = _ at h
  rw [EStateM.bind] at h
  cases first : x i with
  | error e j =>
      rw [first] at h
      cases h
  | ok v j =>
      rw [first] at h
      dsimp only at h
      rw [define_eq] at h
      obtain ⟨named, rfl⟩ := EStateM.Result.ok.inj h
      obtain rfl := current_of_symbol named
      exact ⟨v, j, rfl, j.defines_define name v⟩

/-- The closure that a function form gives. -/
lemma makeClosure_eq_ok {name : Option String} {scope : Scope} {operands : List Value}
    {i j : Interp} {v : Value} (h : makeClosure name scope operands i = .ok v j) :
    ∃ (f : Closure) (params : List Value), v = .closure f ∧ operands = .vector params :: f.body ∧
      parseParams params = .ok (f.params, f.rest) ∧ f.name = name ∧ f.scope = scope ∧
      f.ns = i.current := by
  revert h
  fun_cases makeClosure name scope operands with
  | case1 | case2 | case4 =>
      intro h
      cases h
  | case3 params body ps rest parsed =>
      intro h
      cases h
      exact ⟨_, params, rfl, rfl, parsed, rfl, rfl, rfl⟩

/-- **What is defined is found, as far as slashes allow.** If a definition at top level succeeds and
gives the symbol of `name` in `ns`, the value of its expression (or its function) has become that of
this variable and no other variable has changed since it was evaluated. The name stands for it in
that namespace unless it is a qualified one, and the name after that of the namespace stands for it
everywhere unless there is a slash in the namespace. In these two cases the symbol stands for what
it stood for before the definition. -/
theorem definition_found (name : String) (i i' : Interp) (ns : String) :
    (∀ form, evalForms [.list [.symbol "def", .symbol name, form]] i =
        .ok (.symbol ("#'" ++ ns ++ "/" ++ name)) i' →
      ∃ v j, evalForms [form] i = .ok v j ∧ j.Defines i' ns name v) ∧
    ∀ params body, evalForms [.list (.symbol "defn" :: .symbol name :: .vector params :: body)] i =
        .ok (.symbol ("#'" ++ ns ++ "/" ++ name)) i' →
      ∃ (f : Closure) (j : Interp),
        evalForms [.list (.symbol "fn" :: .symbol name :: .vector params :: body)] i =
          .ok (.closure f) j ∧
        f.name = some name ∧ parseParams params = .ok (f.params, f.rest) ∧ f.body = body ∧
        f.ns = ns ∧ j.Defines i' ns name (.closure f) := by
  constructor
  · intro form h
    rw [evalForms_singleton] at h
    change (evalAt (evalLimit - 1) [] form >>= fun v => define name v) i = _ at h
    obtain ⟨v, j, first, defines⟩ := defined_of_bind h
    -- The expression has one list less to enter than at top level, which does not matter.
    have enough : ¬ Ended.Fails .stackOverflow (evalAt (evalLimit - 1) [] form i) := by
      rw [first]
      rintro ⟨j', failed⟩
      cases failed
    refine ⟨v, j, ?_, defines⟩
    rw [evalForms_singleton, evalAt_mono (by decide) [] form i enough, first]
  · intro params body h
    rw [evalForms_singleton] at h
    change (makeClosure (some name) [] (.vector params :: body) >>= fun v => define name v) i = _
      at h
    obtain ⟨v, j, made, defines⟩ := defined_of_bind h
    obtain ⟨f, params', rfl, same, parsed, named, -, own⟩ := makeClosure_eq_ok made
    obtain ⟨rfl, rfl⟩ : params = params' ∧ body = f.body := by simpa using same
    have stays : j.current = i.current := by
      have kept := stays_makeClosure (some name) [] (.vector params :: f.body) i
      rwa [made] at kept
    refine ⟨f, j, ?_, named, parsed, rfl, own.trans (stays.symm.trans defines.current.1), defines⟩
    rw [evalForms_singleton]
    exact made

/-- A function of the core is defined anew, in a namespace that its expression has entered. -/
theorem definition_found_entered :
    let form : Value := .list [.symbol "do", .list [.symbol "ns", .symbol "other"], .int 1]
    ∃ i' v j,
      evalForms [.list [.symbol "def", .symbol "inc", form]] (.start "user") =
        .ok (.symbol ("#'" ++ "other" ++ "/" ++ "inc")) i' ∧
      evalForms [form] (.start "user") = .ok v j ∧ j.Defines i' "other" "inc" v := by
  intro form
  have defined : ∃ i', evalForms [.list [.symbol "def", .symbol "inc", form]] (.start "user") =
      .ok (.symbol ("#'" ++ "other" ++ "/" ++ "inc")) i' := ⟨_, rfl⟩
  obtain ⟨i', defined⟩ := defined
  obtain ⟨v, j, value, defines⟩ :=
    (definition_found "inc" (.start "user") i' "other").1 form defined
  exact ⟨i', v, j, defined, value, defines⟩

/-- Two definitions whose symbols stand for nothing: one of a name with a slash, and one in a
namespace with a slash. -/
theorem slashed_names_unbound :
    let first := (Interp.start "user").evalText "(def a/b 1)"
    let second := (Interp.start "user").evalText "(ns a/b) (def x 1)"
    first.1.map Value.print = .ok "#'user/a/b" ∧ second.1.map Value.print = .ok "#'a/b/x" ∧
      (first.2.valueAt "user" "a/b").map Value.print = .error (.unbound "a/b") ∧
      (second.2.valueAt "user" "a/b/x").map Value.print = .error (.unbound "a/b/x") := by
  decide +kernel

end HostedRepl.Lisp
