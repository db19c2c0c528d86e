/-
Equality of values.

`=` compares neighbours only. This is enough, since equality is symmetric and
transitive. It is not reflexive: a float that is no number does not equal itself.

* `beq_float_iff`: which floats are equal.
* `Value.equal_induction`: induction over two equal values, whose sequences may
  be a list and a vector; `equal_symm`, `equal_trans`, `equal_self_iff`.
* `Value.Interchangeable`: equal values with the same depth; by
  `interchangeable_of_equal` all equal values are such.
* `Primitive.Interchanges`: calls that fail alike or have equal results.
* `equality_sound`: **equality is an equivalence but for floats that are no
  numbers, and equal sequences can stand for each other**.
-/
import HostedRepl.Proofs.Lisp.Identity
import HostedRepl.Proofs.Lisp.Likeness
import HostedRepl.Proofs.Lisp.Primitive
import HostedRepl.Proofs.Lisp.ReadPrint

namespace HostedRepl.Lisp

/-! ### Floats -/

section

open Float.Model

variable {x y z : Float}

/-- Floats are equal that are one number; the two zeros are. -/
lemma beq_float_iff : (x == y) = true ↔
    x.toModel.unpack ≠ .notANumber ∧ y.toModel.unpack ≠ .notANumber ∧
      (x.toModel.unpack = y.toModel.unpack ∨
        x.toModel.unpack = .zero .positive ∧ y.toModel.unpack = .zero .negative ∨
        x.toModel.unpack = .zero .negative ∧ y.toModel.unpack = .zero .positive) :=
  UnpackedFloat.beq_iff_ne_notANumber_and_eq _ _

lemma beq_float_symm (h : (x == y) = true) : (y == x) = true := by
  rw [beq_float_iff] at h ⊢
  obtain ⟨hx, hy, same | ⟨px, ny⟩ | ⟨nx, py⟩⟩ := h
  · exact ⟨hy, hx, .inl same.symm⟩
  · exact ⟨hy, hx, .inr (.inr ⟨ny, px⟩)⟩
  · exact ⟨hy, hx, .inr (.inl ⟨py, nx⟩)⟩

lemma beq_float_trans (hxy : (x == y) = true) (hyz : (y == z) = true) : (x == z) = true := by
  rw [beq_float_iff] at *
  obtain ⟨hx, -, hxy⟩ := hxy
  obtain ⟨-, hz, hyz⟩ := hyz
  refine ⟨hx, hz, ?_⟩
  rcases hxy with same | ⟨px, ny⟩ | ⟨nx, py⟩
  · rwa [same]
  · rcases hyz with same | ⟨py, -⟩ | ⟨-, pz⟩
    · exact .inr (.inl ⟨px, same ▸ ny⟩)
    · exact absurd (py.symm.trans ny) (by simp)
    · exact .inl (px.trans pz.symm)
  · rcases hyz with same | ⟨-, nz⟩ | ⟨ny, -⟩
    · exact .inr (.inr ⟨nx, same ▸ py⟩)
    · exact .inl (nx.trans nz.symm)
    · exact absurd (ny.symm.trans py) (by simp)

/-- A float equals itself unless it is no number. -/
lemma beq_float_self_iff : (x == x) = true ↔ x.isNaN = false := by
  rw [beq_float_iff]
  change _ ↔ x.toModel.unpack.isNaN = false
  cases x.toModel.unpack with
  | notANumber => simp [UnpackedFloat.isNaN]
  | infinity | zero | finite => simp [UnpackedFloat.isNaN]

end

namespace Value

/-! ### Equal values -/

lemma equalItems_iff {vs ws : List Value} :
    equalItems vs ws = true ↔ List.Forall₂ (fun v w => v.equal w = true) vs ws := by
  induction vs generalizing ws with
  | nil => cases ws <;> simp [equalItems]
  | cons v vs ih => cases ws <;> simp [equalItems, ih]

/-- A list and a vector are compared like two lists. -/
lemma equal_build (b c : Bracket) (vs ws : List Value) :
    (b.build vs).equal (c.build ws) = equalItems vs ws := by
  cases b <;> cases c <;> simp only [Bracket.build, equal]

/-- Only a sequence equals a sequence. -/
lemma exists_build_of_equal {b : Bracket} {vs : List Value} {w : Value}
    (h : (b.build vs).equal w = true) : ∃ c ws, w = Bracket.build c ws ∧
      List.Forall₂ (fun v w => v.equal w = true) vs ws := by
  have items (c : Bracket) (ws : List Value) (same : w = c.build ws) :
      ∃ c ws, w = Bracket.build c ws ∧ List.Forall₂ (fun v w => v.equal w = true) vs ws := by
    rw [same, equal_build, equalItems_iff] at h
    exact ⟨c, ws, same, h⟩
  cases w with
  | list ws => exact items .round ws rfl
  | vector ws => exact items .square ws rfl
  | _ => cases b <;> cases h

/-- An atom without floats equals nothing else. -/
lemma eq_of_equal {v w : Value} (h : v.equal w = true) (atom : v.IsAtom)
    (exactly : v.floats = []) : w = v := by
  cases v with
  | list | vector | closure => exact atom.elim
  | float => cases exactly
  | _ => cases w <;> simp_all [equal]

/-- An item of a sequence is smaller than the sequence. -/
lemma size_lt_build {b : Bracket} {v : Value} {vs : List Value} (mem : v ∈ vs) :
    v.size < (b.build vs).size := by
  have seq : (b.build vs).seq? = some vs := by cases b <;> rfl
  exact Nat.lt_of_le_of_lt (size_le_of_mem mem) (sizeOfItems_lt_size seq)

/-- Induction over two equal values. -/
@[elab_as_elim]
theorem equal_induction {motive : (v w : Value) → v.equal w = true → Prop}
    (atom : ∀ (v : Value) (h), v.IsAtom → v.floats = [] → motive v v h)
    (float : ∀ (x y : Float) (h : (x == y) = true), motive (.float x) (.float y) h)
    (closure : ∀ (f g : Closure) (h), f.id = g.id → motive (.closure f) (.closure g) h)
    (sequence : ∀ (b c : Bracket) (vs ws : List Value) (h),
      List.Forall₂ (fun v w => ∃ h, motive v w h) vs ws → motive (b.build vs) (c.build ws) h)
    {v w : Value} (h : v.equal w = true) : motive v w h := by
  induction size : v.size using Nat.strong_induction_on generalizing v w with
  | _ n ih =>
    have items (b : Bracket) (vs : List Value) (shape : v = b.build vs) : motive v w h := by
      subst shape
      obtain ⟨c, ws, rfl, same⟩ := exists_build_of_equal h
      refine sequence b c vs ws h
        (List.forall₂_iff_zip.mpr ⟨same.length_eq, fun {x y} mem => ?_⟩)
      have equal : x.equal y = true := (List.forall₂_iff_zip.mp same).2 mem
      exact ⟨equal, ih _ (size ▸ size_lt_build (List.of_mem_zip mem).1) equal rfl⟩
    cases v with
    | list vs => exact items .round vs rfl
    | vector vs => exact items .square vs rfl
    | closure f =>
        cases w with
        | closure g => exact closure f g h (beq_iff_eq.mp h)
        | _ => cases h
    | float x =>
        cases w with
        | float y => exact float x y h
        | _ => cases h
    | _ =>
        obtain rfl := eq_of_equal h trivial rfl
        exact atom _ h trivial rfl

lemma equal_symm {v w : Value} (h : v.equal w = true) : w.equal v = true := by
  induction h using equal_induction with
  | atom v h => exact h
  | float x y h => exact beq_float_symm h
  | closure f g h same => exact beq_iff_eq.mpr same.symm
  | sequence b c vs ws h same =>
      rw [equal_build, equalItems_iff]
      exact (same.imp fun v w both => both.elim fun _ back => back).flip

lemma equal_trans {u v w : Value} (huv : u.equal v = true) (hvw : v.equal w = true) :
    u.equal w = true := by
  induction huv using equal_induction generalizing w with
  | atom v h => exact hvw
  | float x y h =>
      cases w with
      | float z => exact beq_float_trans h hvw
      | _ => cases hvw
  | closure f g h same =>
      cases w with
      | closure k => exact beq_iff_eq.mpr (same.trans (beq_iff_eq.mp hvw))
      | _ => cases hvw
  | sequence b c us vs h same =>
      obtain ⟨d, ws, rfl, rest⟩ := exists_build_of_equal hvw
      rw [equal_build, equalItems_iff]
      clear h hvw
      induction same generalizing ws with
      | nil =>
          cases rest
          exact .nil
      | cons first _ ih =>
          obtain ⟨_, onward⟩ := first
          cases rest with
          | cons next rest => exact .cons (onward next) (ih _ rest)

mutual

/-- A value equals itself unless it has a float that is no number. -/
lemma equal_self_iff : ∀ {v : Value}, v.equal v = true ↔ ∀ x ∈ v.floats, x.isNaN = false
  | .list vs | .vector vs => by rw [equal, floats, equalItems_self_iff]
  | .float x => by
      rw [floats, List.forall_mem_singleton, ← beq_float_self_iff]
      rfl
  | .nil | .bool _ | .int _ | .str _ | .keyword _ | .symbol _ | .builtin _ | .closure _ => by
      simp [equal, floats]

lemma equalItems_self_iff : ∀ {vs : List Value},
    equalItems vs vs = true ↔ ∀ x ∈ floatsOfItems vs, x.isNaN = false
  | [] => by simp [equalItems, floatsOfItems]
  | v :: vs => by
      rw [equalItems, floatsOfItems, List.forall_mem_append, ← equal_self_iff,
        ← equalItems_self_iff]
      simp

end

/-! ### Depth -/

/-- The values are equal and nest equally deep. -/
structure Interchangeable (v w : Value) : Prop where
  equal : v.equal w = true
  depth : v.depth = w.depth

lemma seq?_build (b : Bracket) (vs : List Value) : (b.build vs).seq? = some vs := by
  cases b <;> rfl

lemma depth_build (b : Bracket) (vs : List Value) : (b.build vs).depth = 1 + deepest 0 vs := by
  cases b <;> rw [Bracket.build, depth]

lemma ToldApart.items {b c : Bracket} {vs ws : List Value} {v w : Value}
    (apart : (b.build vs).ToldApart (c.build ws)) (hv : v ∈ vs) (hw : w ∈ ws) :
    v.ToldApart w := by
  intro f g hf hg
  exact apart f g (.item (seq?_build b vs) hv hf) (.item (seq?_build c ws) hw hg)

lemma deepest_congr {vs ws : List Value} (h : List.Forall₂ (fun v w => v.depth = w.depth) vs ws)
    (least : ℕ) : deepest least vs = deepest least ws := by
  induction h generalizing least with
  | nil => rfl
  | cons same _ ih => rw [deepest, deepest, same, ih]

/-- Equal values nest equally deep if closures are told apart by their numbers. -/
lemma depth_eq_of_equal {v w : Value} (h : v.equal w = true) (apart : v.ToldApart w) :
    v.depth = w.depth := by
  induction h using equal_induction with
  | atom | float => rfl
  | closure f g h same => rw [apart f g (.self f) (.self g) same]
  | sequence b c vs ws h same =>
      obtain ⟨length, each⟩ := List.forall₂_iff_zip.mp same
      rw [depth_build, depth_build]
      refine congrArg (1 + ·) (deepest_congr (List.forall₂_iff_zip.mpr ⟨length, ?_⟩) 0)
      intro v w mem
      obtain ⟨_, deep⟩ := each mem
      exact deep (apart.items (List.of_mem_zip mem).1 (List.of_mem_zip mem).2)

lemma interchangeable_of_equal {v w : Value} (h : v.equal w = true) (apart : v.ToldApart w) :
    v.Interchangeable w :=
  ⟨h, depth_eq_of_equal h apart⟩

lemma isTruthy_of_equal {v w : Value} (h : v.equal w = true) : v.isTruthy = w.isTruthy := by
  induction h using equal_induction with
  | atom | float | closure => rfl
  | sequence b c => cases b <;> cases c <;> rfl

namespace Interchangeable

/-- Sequences of interchangeable items are interchangeable. -/
lemma build (b c : Bracket) {vs ws : List Value} (h : List.Forall₂ Interchangeable vs ws) :
    (b.build vs).Interchangeable (c.build ws) where
  equal := by
    rw [equal_build, equalItems_iff]
    exact h.imp fun _ _ both => both.equal
  depth := by
    rw [depth_build, depth_build, deepest_congr (h.imp fun _ _ both => both.depth)]

lemma bounded {v w : Value} (h : v.Interchangeable w) :
    Agree Interchangeable v.bounded w.bounded := by
  rw [Value.bounded, Value.bounded, h.depth]
  split
  · exact .error _
  · exact .ok h

end Interchangeable

variable {v w : Value} (h : v.equal w = true)
include h

/-- Equal values have the same number of characters or items, or none. -/
lemma countItems_agree : Agree Eq (countItems v) (countItems w) := by
  induction h using equal_induction with
  | atom v => exact .self fun _ _ => rfl
  | float | closure => exact .error _
  | sequence b c vs ws h same => cases b <;> cases c <;> exact .ok same.length_eq

/-- Equal values are sequences of interchangeable items, or no sequences of one kind. -/
lemma seqArg_agree (b : Builtin) (apart : v.ToldApart w) :
    Agree (List.Forall₂ Interchangeable) (seqArg b v) (seqArg b w) := by
  induction h using equal_induction with
  | atom v h atom =>
      cases v with
      | nil => exact .ok .nil
      | list | vector | closure => exact atom.elim
      | _ => exact .error _
  | float | closure => exact .error _
  | sequence c d vs ws h _ =>
      rw [equal_build, equalItems_iff] at h
      obtain ⟨length, each⟩ := List.forall₂_iff_zip.mp h
      have items : List.Forall₂ Interchangeable vs ws := by
        refine List.forall₂_iff_zip.mpr ⟨length, fun mem => ?_⟩
        exact interchangeable_of_equal (each mem)
          (apart.items (List.of_mem_zip mem).1 (List.of_mem_zip mem).2)
      cases c <;> cases d <;> exact .ok items

end Value

/-! ### Calls -/

namespace Primitive

open Value

/-- Calls with the one or the other arguments fail alike, or have equal results. -/
def Interchanges (p : Primitive) (args args' : List Value) : Prop :=
  ∃ result result', p.Returns args result ∧ p.Returns args' result' ∧
    Agree (fun v w => v.equal w = true) result result'

lemma interchanges {p : Primitive} {args args' : List Value} (quiet : p.printed args = "")
    (quiet' : p.printed args' = "")
    (agree : Agree Interchangeable (p.compute args) (p.compute args')) :
    p.Interchanges args args' := by
  have bounded := agree.bind fun _ _ both => both.bounded
  have equal := bounded.imp fun _ _ both => both.equal
  exact ⟨_, _, returns_bounded quiet, returns_bounded quiet', equal⟩

variable {v w : Value} (h : v.equal w = true)
include h

lemma interchanges_count : count.Interchanges [v] [w] := by
  refine interchanges rfl rfl ((countItems_agree h).bind fun m n same => ?_)
  subst same
  cases Decimal.int64? m with
  | none => exact .error _
  | some n => exact .ok ⟨beq_self_eq_true n, rfl⟩

variable (apart : v.ToldApart w)
include apart

lemma interchanges_first : first.Interchanges [v] [w] := by
  refine interchanges rfl rfl ((seqArg_agree h _ apart).bind fun vs ws items => .ok ?_)
  cases items with
  | nil => exact ⟨rfl, rfl⟩
  | cons both => exact both

lemma interchanges_rest : rest.Interchanges [v] [w] := by
  refine interchanges rfl rfl ((seqArg_agree h _ apart).bind fun vs ws items => .ok ?_)
  refine Interchangeable.build .round .round ?_
  cases items with
  | nil => exact .nil
  | cons _ items => exact items

lemma interchanges_cons {x : Value} (clean : ∀ y ∈ x.floats, y.isNaN = false) :
    cons.Interchanges [x, v] [x, w] := by
  refine interchanges rfl rfl ((seqArg_agree h _ apart).bind fun vs ws items => .ok ?_)
  exact Interchangeable.build .round .round (.cons ⟨equal_self_iff.mpr clean, rfl⟩ items)

end Primitive

/-! ### Comparing more than two -/

/-- Neighbours being equal is enough for all values to be equal. -/
lemma neighbours_equal_iff {vs : List Value} :
    neighbours Value.equal vs = true ↔ vs.Pairwise fun v w => v.equal w = true := by
  have trans : IsTrans Value fun v w => v.equal w = true := ⟨fun _ _ _ => Value.equal_trans⟩
  rw [neighbours_iff, List.isChain_iff_pairwise]

/-- Two or more values of which every two are equal are also equal to themselves. -/
lemma pairwise_equal_iff {vs : List Value} (several : 2 ≤ vs.length) :
    (vs.Pairwise fun v w => v.equal w = true) ↔ ∀ v ∈ vs, ∀ w ∈ vs, v.equal w = true := by
  constructor
  · intro pairs
    obtain ⟨a, b, rest, rfl⟩ : ∃ a b rest, vs = a :: b :: rest := by
      rcases vs with _ | ⟨a, _ | ⟨b, rest⟩⟩
      · simp at several
      · simp at several
      · exact ⟨a, b, rest, rfl⟩
    have others : ∀ w ∈ b :: rest, a.equal w = true := (List.pairwise_cons.mp pairs).1
    have itself : a.equal a = true :=
      Value.equal_trans (others b (by simp)) (Value.equal_symm (others b (by simp)))
    have all : ∀ w ∈ a :: b :: rest, a.equal w = true := by
      intro w hw
      rcases List.mem_cons.mp hw with rfl | hw
      · exact itself
      · exact others w hw
    exact fun v hv w hw => Value.equal_trans (Value.equal_symm (all v hv)) (all w hw)
  · exact fun all => List.pairwise_of_forall_mem_list all

lemma neighbours_equal_perm {vs ws : List Value} (perm : vs.Perm ws) :
    neighbours Value.equal vs = neighbours Value.equal ws := by
  rw [Bool.eq_iff_iff, neighbours_equal_iff, neighbours_equal_iff]
  exact perm.pairwise_iff Value.equal_symm

lemma Primitive.returns_eq {vs : List Value} (nonempty : vs ≠ []) :
    Primitive.eq.Returns vs (.ok (.bool (neighbours Value.equal vs))) := by
  obtain ⟨v, vs, rfl⟩ := List.exists_cons_of_ne_nil nonempty
  refine returns_of_compute rfl rfl fun w returned => ?_
  cases returned
  exact Nat.zero_le depthLimit

/-- **Equality is an equivalence but for floats that are no numbers.** It is symmetric and
transitive, and a value equals itself just if it has no such float. So `=`, which compares
neighbours, tells whether every two of its arguments are equal, in whatever order they come. And
equal values can stand for each other in a sequence function, where their closures are told apart
by their numbers: they count as true alike and nest equally deep, and `count`, `first`, `rest` and
`cons` fail on both with the same error, or have equal results. The arguments of every call that is
made while a text is evaluated are told apart. -/
theorem equality_sound :
    (∀ v w : Value, v.equal w = w.equal v) ∧
    (∀ u v w : Value, u.equal v = true → v.equal w = true → u.equal w = true) ∧
    (∀ v : Value, v.equal v = true ↔ ∀ x ∈ v.floats, x.isNaN = false) ∧
    (∀ vs : List Value, 2 ≤ vs.length → ∃ b : Bool, Primitive.eq.Returns vs (.ok (.bool b)) ∧
      (b = true ↔ vs.Pairwise fun v w => v.equal w = true) ∧
      (b = true ↔ ∀ v ∈ vs, ∀ w ∈ vs, v.equal w = true) ∧
      ∀ ws, vs.Perm ws → Primitive.eq.Returns ws (.ok (.bool b))) ∧
    (∀ v w : Value, v.equal w = true → v.ToldApart w →
      v.isTruthy = w.isTruthy ∧ v.depth = w.depth ∧
      Primitive.count.Interchanges [v] [w] ∧ Primitive.first.Interchanges [v] [w] ∧
      Primitive.rest.Interchanges [v] [w] ∧
      ∀ x : Value, (∀ y ∈ x.floats, y.isNaN = false) →
        Primitive.cons.Interchanges [x, v] [x, w]) ∧
    ∀ i : Interp, i.Reachable → ∀ (code : String) (ts : List CallTree) (ended : Ended Value),
      (i.dialogue code).Runs ts ended → ∀ t ∈ ts, ∀ (b : ℕ) (f : Value) (args : List Value)
        (before : Interp) (calls : List CallTree) (after : Ended Value),
        CallTree.Within (.node (.apply b f args) before calls after) t →
          ∀ v ∈ args, ∀ w ∈ args, v.ToldApart w := by
  refine ⟨fun v w => ?_, fun u v w => Value.equal_trans, fun v => Value.equal_self_iff,
    fun vs several => ?_, fun v w h apart => ?_, fun i reachable code ts ended runs t mem b f args
      before calls after within => closures_told_apart reachable runs mem within⟩
  · exact Bool.eq_iff_iff.mpr ⟨Value.equal_symm, Value.equal_symm⟩
  · have nonempty : vs ≠ [] := List.ne_nil_of_length_pos (by omega)
    refine ⟨neighbours Value.equal vs, Primitive.returns_eq nonempty, neighbours_equal_iff,
      neighbours_equal_iff.trans (pairwise_equal_iff several), fun ws perm => ?_⟩
    rw [neighbours_equal_perm perm]
    exact Primitive.returns_eq fun empty => nonempty (empty ▸ perm).eq_nil
  · exact ⟨Value.isTruthy_of_equal h, Value.depth_eq_of_equal h apart,
      Primitive.interchanges_count h, Primitive.interchanges_first h apart,
      Primitive.interchanges_rest h apart, fun x => Primitive.interchanges_cons h apart⟩

/-- A list and a vector of the two zeros and one function; and a float that is no number. -/
theorem equality_sound_zeros :
    let f : Closure := ⟨7, none, [], none, [], [], "user", 1⟩
    let v : Value := .list [.float 0.0, .closure f]
    let w : Value := .vector [.float (-0.0), .closure f]
    let nan : Value := .float (0.0 / 0.0)
    (v.equal w = true ∧ w.equal v = true ∧ v.equal v = true) ∧ v.ToldApart w ∧
      v.depth = w.depth ∧ Primitive.rest.Interchanges [v] [w] ∧
      Primitive.cons.Interchanges [.int 1, v] [.int 1, w] ∧
      (∃ b : Bool, Primitive.eq.Returns [w, v, v] (.ok (.bool b)) ∧
        (b = true ↔ [v, w, v].Pairwise fun v w => v.equal w = true)) ∧
      nan.equal nan = false := by
  intro f v w nan
  obtain ⟨symm, trans, self, all, further, -⟩ := equality_sound
  have same : v.equal w = true := by decide +kernel
  have back : w.equal v = true := symm v w ▸ same
  have only {u : Value} {x : Float} {g : Closure} (items : u.seq? = some [.float x, .closure f])
      (other : ∀ h, u ≠ .closure h) (found : u.Contains g) : g = f := by
    cases found with
    | self => exact absurd rfl (other g)
    | item seq mem within =>
        cases items.symm.trans seq
        simp only [List.mem_cons, List.not_mem_nil, or_false] at mem
        rcases mem with rfl | rfl
        · cases within with
          | item seq => cases seq
        · cases within with
          | self => rfl
          | item seq => cases seq
  have apart : v.ToldApart w := by
    intro g h hg hh _
    rw [only (x := 0.0) rfl (by simp [v]) hg, only (x := -0.0) rfl (by simp [w]) hh]
  obtain ⟨-, depth, -, -, rest, cons⟩ := further v w same apart
  obtain ⟨b, -, pairs, -, orders⟩ := all [v, w, v] (by simp)
  have perm : [v, w, v].Perm [w, v, v] := .swap w v [v]
  have itself : v.equal v = true := trans v w v same back
  refine ⟨⟨same, back, itself⟩, apart, depth, rest, ?_, ⟨b, orders _ perm, pairs⟩, ?_⟩
  · exact cons (.int 1) (by simp [Value.floats])
  · decide +kernel

end HostedRepl.Lisp
