/-
Values up to the numbers of their closures.

Closures are numbered in the order in which they are made, so what has been
made before an evaluation shows in the numbers of the closures that it makes,
and in nothing else.

* `Value.Like`: two values are the same but for the numbers of closures, which
  correspond as given, and for the order in which closures list their variables.
* `Likeness.upTo`: this is a faithful comparison when numbers correspond one
  to one.
* `Interp.TablesLike`: two states have the same variables, up to numbers.
* `Numbering`: which numbers correspond: some that are given, and those of the
  closures that two runs make side by side from then on.
* `Tandem.renumbered`: two runs with such states go in step.
-/
import HostedRepl.Proofs.Lisp.Likeness
import HostedRepl.Proofs.Lisp.Lockstep
import HostedRepl.Proofs.Lisp.Namespaces

namespace HostedRepl.Lisp

/-! ### Values -/

/-- The values are the same, with corresponding numbers of closures. The scopes of closures are
compared by what is found in them. -/
inductive Value.Like (I : ℕ → ℕ → Prop) : Value → Value → Prop
  | atom {v : Value} : v.IsAtom → Like I v v
  | list {vs ws : List Value} : vs.length = ws.length →
      (∀ v w, (v, w) ∈ vs.zip ws → Like I v w) → Like I (.list vs) (.list ws)
  | vector {vs ws : List Value} : vs.length = ws.length →
      (∀ v w, (v, w) ∈ vs.zip ws → Like I v w) → Like I (.vector vs) (.vector ws)
  | closure {f g : Closure} : I f.id g.id → g.name = f.name → g.params = f.params →
      g.rest = f.rest → f.body.length = g.body.length →
      (∀ v w, (v, w) ∈ f.body.zip g.body → Like I v w) →
      (∀ x, (Scope.find? f.scope x).isSome = (Scope.find? g.scope x).isSome) →
      (∀ x v w, Scope.find? f.scope x = some v → Scope.find? g.scope x = some w → Like I v w) →
      Scope.depth g.scope = Scope.depth f.scope → g.ns = f.ns → g.depth = f.depth →
      Like I (.closure f) (.closure g)

/-- The same variables are found, with like values, and the greatest depth is the same. -/
structure Scope.Like (I : ℕ → ℕ → Prop) (s t : Scope) : Prop where
  find : ∀ x, Option.Rel (Value.Like I) (s.find? x) (t.find? x)
  depth : Scope.depth t = Scope.depth s

variable {I J : ℕ → ℕ → Prop}

/-- Numbers correspond one to one. -/
def OneToOne (I : ℕ → ℕ → Prop) : Prop :=
  ∀ ⦃m m' n n' : ℕ⦄, I m m' → I n n' → (m = n ↔ m' = n')

lemma rel_option_iff {α β : Type} {R : α → β → Prop} {a : Option α} {b : Option β} :
    Option.Rel R a b ↔ a.isSome = b.isSome ∧ ∀ x y, a = some x → b = some y → R x y := by
  cases a <;> cases b <;> simp

/-- More numbers correspond. -/
lemma Value.Like.mono (le : ∀ m m', I m m' → J m m') {v w : Value} (h : v.Like I w) :
    v.Like J w := by
  induction h with
  | atom h => exact .atom h
  | list length _ ih => exact .list length ih
  | vector length _ ih => exact .vector length ih
  | closure hid hname hparams hrest hlength _ hsome _ hscope hns hdepth ihbody ihscope =>
      exact .closure (le _ _ hid) hname hparams hrest hlength ihbody hsome ihscope hscope hns
        hdepth

/-- Options that are related by more. -/
lemma rel_option_mono {α β : Type} {R S : α → β → Prop} (le : ∀ a b, R a b → S a b)
    {a : Option α} {b : Option β} (h : Option.Rel R a b) : Option.Rel S a b := by
  cases h with
  | some h => exact .some (le _ _ h)
  | none => exact .none

lemma Scope.Like.mono (le : ∀ m m', I m m' → J m m') {s t : Scope} (h : Scope.Like I s t) :
    Scope.Like J s t :=
  ⟨fun x => rel_option_mono (fun _ _ => Value.Like.mono le) (h.find x), h.depth⟩

namespace Scope

lemma depth_cons (x : String) (v : Value) (s : Scope) :
    Scope.depth ((x, v) :: s) = max v.depth s.depth :=
  eq_of_forall_ge_iff fun n => by simp [depth_le_iff]

lemma find?_cons (x : String) (v : Value) (s : Scope) (y : String) :
    Scope.find? ((x, v) :: s) y = if y = x then some v else s.find? y :=
  Table.find?_cons x v s y

end Scope

namespace Likeness

/-- The same up to the numbers of closures. -/
def upTo (I : ℕ → ℕ → Prop) : Likeness := ⟨Value.Like I, Scope.Like I, I⟩

lemma upTo_levelled : (upTo I).Levelled := by
  intro v w h
  cases h with
  | atom h => exact .atom h
  | list length items => exact .list (List.forall₂_iff_zip.mpr ⟨length, fun h => items _ _ h⟩)
  | vector length items => exact .vector (List.forall₂_iff_zip.mpr ⟨length, fun h => items _ _ h⟩)
  | closure hid hname hparams hrest hlength hbody hsome hvars hscope hns hdepth =>
      exact .closure hid hname hparams hrest
        (List.forall₂_iff_zip.mpr ⟨hlength, fun h => hbody _ _ h⟩)
        ⟨fun x => rel_option_iff.mpr ⟨hsome x, hvars x⟩, hscope⟩ hns hdepth

lemma like_of_level {v w : Value} (h : (upTo I).Level v w) : v.Like I w := by
  cases h with
  | atom h => exact .atom h
  | list h => exact .list h.length_eq fun _ _ => List.forall₂_zip h
  | vector h => exact .vector h.length_eq fun _ _ => List.forall₂_zip h
  | closure hid hname hparams hrest hbody hscope hns hdepth =>
      exact .closure hid hname hparams hrest hbody.length_eq (fun _ _ => List.forall₂_zip hbody)
        (fun x => (rel_option_iff.mp (hscope.find x)).1)
        (fun x => (rel_option_iff.mp (hscope.find x)).2) hscope.depth hns hdepth

lemma upTo_faithful (one : OneToOne I) : (upTo I).Faithful where
  level := upTo_levelled
  value := like_of_level
  oneToOne h h' := one h h'
  empty := ⟨fun _ => .none, rfl⟩
  bind {s t v w} x hs hv := by
    refine ⟨fun y => ?_, ?_⟩
    · rw [Scope.find?_cons, Scope.find?_cons]
      split
      · exact .some hv
      · exact hs.find y
    · rw [Scope.depth_cons, Scope.depth_cons, hs.depth, upTo_levelled.depth_eq hv]
  find x hs := hs.find x
  depth hs := hs.depth

end Likeness

/-! ### States -/

/-- The same namespaces with the same variables, up to the numbers of closures. -/
structure Interp.TablesLike (I : ℕ → ℕ → Prop) (i j : Interp) : Prop where
  has : ∀ ns, i.Has ns ↔ j.Has ns
  binding : ∀ ns name, Option.Rel (Value.Like I) (i.binding? ns name) (j.binding? ns name)

namespace Interp.TablesLike

variable {i j : Interp}

lemma mono (le : ∀ m m', I m m' → J m m') (h : i.TablesLike I j) : i.TablesLike J j :=
  ⟨h.has, fun ns name => rel_option_mono (fun _ _ => Value.Like.mono le) (h.binding ns name)⟩

lemma global (h : i.TablesLike I j) (current : j.current = i.current) (name : String) :
    Option.Rel (Value.Like I) (i.global? name) (j.global? name) := by
  rw [global?, global?, current]
  split
  · exact h.binding _ _
  · have own := h.binding i.current name
    have core := h.binding coreNamespace name
    generalize i.binding? i.current name = v at own
    generalize j.binding? i.current name = w at own
    cases own with
    | some hv => exact .some hv
    | none => exact core

lemma define (h : i.TablesLike I j) (current : j.current = i.current) (name : String)
    {v w : Value} (hv : v.Like I w) : (i.define name v).TablesLike I (j.define name w) where
  has ns := by rw [has_define, has_define, current, h.has]
  binding ns x := by
    rw [binding?_define, binding?_define, current]
    split
    · exact .some hv
    · exact h.binding ns x

lemma enter (h : i.TablesLike I j) (ns : String) :
    (i.enter ns).TablesLike I (j.enter ns) where
  has x := by rw [has_enter, has_enter, h.has]
  binding x name := by
    rw [binding?_enter, binding?_enter]
    exact h.binding x name

end Interp.TablesLike

/-! ### New closures -/

/-- The numbers that correspond when `n` is the next number of the first run: of those before `c`
and `c'` the given ones, and from there on those of closures that were made at the same time. -/
def Renumber (I : ℕ → ℕ → Prop) (c c' n m m' : ℕ) : Prop :=
  (I m m' ∧ m < c ∧ m' < c') ∨ ∃ k, m = c + k ∧ m' = c' + k ∧ m < n

variable {c c' n : ℕ}

lemma oneToOne_renumber (one : OneToOne I) : OneToOne (Renumber I c c' n) := by
  rintro m m' k k' (⟨h, hm, hm'⟩ | ⟨a, rfl, rfl, -⟩) (⟨h', hk, hk'⟩ | ⟨b, rfl, rfl, -⟩)
  · exact one h h'
  all_goals omega

lemma renumber_mono {n' : ℕ} (le : n ≤ n') {m m' : ℕ} (h : Renumber I c c' n m m') :
    Renumber I c c' n' m m' := by
  rcases h with old | ⟨k, hm, hm', lt⟩
  · exact .inl old
  · exact .inr ⟨k, hm, hm', lt.trans_le le⟩

/-- Two states with the same variables, up to numbers, whose closures have been made side by side
since the next numbers were `c` and `c'`. -/
structure Interp.Renumbered (I : ℕ → ℕ → Prop) (c c' : ℕ) (i j : Interp) : Prop where
  tables : i.TablesLike (Renumber I c c' i.closures) j
  current : j.current = i.current
  output : j.output = i.output
  made : ∃ k, i.closures = c + k ∧ j.closures = c' + k

/-- Two runs from such states. -/
def Tandem.renumbered (I : ℕ → ℕ → Prop) (c c' : ℕ) : Tandem where
  like i := .upTo (Renumber I c c' i.closures)
  state := Interp.Renumbered I c c'
  later i i' := i.closures ≤ i'.closures
  richer := False

lemma Tandem.renumbered_lawful (one : OneToOne I) (c c' : ℕ) :
    (Tandem.renumbered I c c').Lawful where
  faithful _ := Likeness.upTo_faithful (oneToOne_renumber one)
  refl _ := le_rfl
  trans := le_trans
  value later h := h.mono fun _ _ => renumber_mono later
  scope later h := h.mono fun _ _ => renumber_mono later
  current h := h.current
  global name h := h.tables.global h.current name
  define name h hv := ⟨le_rfl, h.tables.define h.current name hv, h.current, h.output, h.made⟩
  enter {i j} ns h := by
    refine ⟨(i.closures_enter ns).ge, ?_, rfl, ?_, ?_⟩
    · rw [Interp.closures_enter]
      exact h.tables.enter ns
    · rw [Interp.output_enter, Interp.output_enter, h.output]
    · rw [Interp.closures_enter, Interp.closures_enter]
      exact h.made
  print text h := ⟨le_rfl, ⟨h.tables.has, h.tables.binding⟩, h.current,
    congrArg (· ++ text) h.output, h.made⟩
  made {i j} h := by
    obtain ⟨k, hi, hj⟩ := h.made
    have tables : i.TablesLike (Renumber I c c' (i.closures + 1)) j :=
      h.tables.mono fun _ _ => renumber_mono (Nat.le_succ _)
    exact ⟨.inr ⟨k, hi, hj, Nat.lt_succ_self _⟩, Nat.le_succ _, ⟨tables.has, tables.binding⟩,
      h.current, h.output, k + 1, congrArg Nat.succ hi, congrArg Nat.succ hj⟩
  like_at _ _ := rfl
  visit ns h := ⟨⟨h.tables.has, h.tables.binding⟩, rfl, h.output, h.made⟩
  back {i j i' j'} own h later h' := by
    rw [Interp.leave_eq, Interp.leave_eq, h'.current, h.current]
    exact ⟨later, ⟨h'.tables.has, h'.tables.binding⟩, rfl, h'.output, h'.made⟩

end HostedRepl.Lisp
