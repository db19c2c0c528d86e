/-
Incomplete and malformed texts.

A text that cannot be read has either come to its end too early, inside a
string or with something open, or it holds a character or an atom that nothing
after it can mend.

* `ReadError.isIncomplete`: the errors of the first kind.
* `read_append_error`: an error of the second kind is final, once a line break
  ends the text.
* `Reading.Leads`: some more characters lead from one reading to another;
  `leads_between`, `leads_closed`: to the end of the token, and to where
  nothing is open.
* `exists_completion`: so a text with an error of the first kind can go on to
  one that is read.
* `read_pieces`: **what reading a text says of texts that begin with it.**
-/
import HostedRepl.Proofs.Lisp.Concatenation
import HostedRepl.Proofs.Lisp.Legible

namespace HostedRepl.Lisp

/-- The text ended too early. -/
def ReadError.isIncomplete : ReadError → Bool
  | .unbalanced _ | .unterminatedString | .danglingQuote => true
  | _ => false

lemma bind_eq_error {ε α β : Type} {x : Except ε α} {f : α → Except ε β} {e : ε} :
    x.bind f = .error e ↔ x = .error e ∨ ∃ a, x = .ok a ∧ f a = .error e := by
  cases x <;> simp [Except.bind]

/-! ### Malformed texts -/

namespace Reading

variable {r r' : Reading} {e : ReadError}

/-- What is open at the end of a text is missing its end. -/
lemma isIncomplete_of_closed (failed : r.closed = .error e) : e.isIncomplete = true := by
  rw [closed] at failed
  split at failed
  · cases failed
  · cases failed
    rfl
  · cases failed
    rfl

/-- An atom is refused as a number that is none. -/
lemma not_isIncomplete_of_endAtom {acc : List Char} (failed : r.endAtom acc = .error e) :
    e.isIncomplete = false := by
  rw [endAtom] at failed
  cases value : Value.ofAtom acc.reverse with
  | ok v =>
      rw [value] at failed
      cases failed
  | error e' =>
      rw [value] at failed
      cases failed
      unfold Value.ofAtom at value
      dsimp only at value
      repeat' split at value
      all_goals cases value
      rfl

lemma not_isIncomplete_of_begin {c : Char} (failed : r.begin c = .error e) :
    e.isIncomplete = false := by
  have entered {f : Frame} (failed : r.enter f = .error e) : e.isIncomplete = false := by
    rw [enter] at failed
    split at failed <;> cases failed
    rfl
  have left {b : Bracket} (failed : r.leave b = .error e) : e.isIncomplete = false := by
    rw [leave] at failed
    split at failed
    · split at failed <;> cases failed
      rfl
    · cases failed
      rfl
  rw [begin.eq_def] at failed
  split at failed
  · exact entered failed
  · exact entered failed
  · exact left failed
  · exact left failed
  · exact entered failed
  · cases failed
  · cases failed
  · cases failed
  · split at failed <;> cases failed

/-- **A character is refused for what has been read**, and not for want of more. -/
lemma not_isIncomplete_of_step {c : Char} (failed : r.step c = .error e) :
    e.isIncomplete = false := by
  rw [step] at failed
  split at failed
  · exact not_isIncomplete_of_begin failed
  · cases failed
  · split at failed
    · cases failed
    · split at failed <;> cases failed
  · split at failed
    · cases failed
    · cases failed
      rfl
  · split at failed
    · rcases bind_eq_error.mp failed with ended | ⟨r', -, begun⟩
      · exact not_isIncomplete_of_endAtom ended
      · exact not_isIncomplete_of_begin begun
    · cases failed

lemma not_isIncomplete_of_steps {cs : List Char} (failed : r.steps cs = .error e) :
    e.isIncomplete = false := by
  induction cs generalizing r with
  | nil => cases failed
  | cons c cs ih =>
      rw [steps] at failed
      split at failed
      · exact ih failed
      · rename_i stepped
        cases failed
        exact not_isIncomplete_of_step stepped

/-- A line break ends an atom. -/
lemma step_newline_atom {acc : List Char} (atom : r.mode = .atom acc) :
    r.step '\n' = (r.endAtom acc).bind fun r => .ok { r with mode := .between } := by
  have delimiter : isDelimiter '\n' = true := by decide
  rw [step, atom]
  dsimp only
  rw [if_pos delimiter]
  rfl

/-- An error at the end of a text that is not for want of characters comes from an atom, and is met
at a line break as well. -/
lemma newline_of_finish_error (failed : r.finish = .error e) (final : e.isIncomplete = false) :
    r.step '\n' = .error e := by
  cases mode : r.mode with
  | between | comment =>
      rw [finish, mode] at failed
      exact absurd (isIncomplete_of_closed failed) (final ▸ Bool.false_ne_true)
  | string acc | escape acc =>
      rw [finish, mode] at failed
      cases failed
      cases final
  | atom acc =>
      rw [finish, mode] at failed
      rcases bind_eq_error.mp failed with ended | ⟨r', -, closed⟩
      · rw [step_newline_atom mode, ended]
        rfl
      · exact absurd (isIncomplete_of_closed closed) (final ▸ Bool.false_ne_true)

end Reading

/-- **A malformed text stays so**, whatever is on the lines after it. -/
theorem read_append_error {a : String} {e : ReadError} (failed : read a = .error e)
    (final : e.isIncomplete = false) (b : String) : read (a ++ "\n" ++ b) = .error e := by
  have chars : (a ++ "\n" ++ b).toList = a.toList ++ '\n' :: b.toList := by simp
  rw [read, chars, Reading.steps_append]
  rcases bind_eq_error.mp failed with stepped | ⟨r, stepped, ended⟩
  · rw [stepped]
    rfl
  · rw [stepped, Except.bind, Reading.steps, Reading.newline_of_finish_error ended final]
    rfl

/-! ### Incomplete texts -/

namespace Reading

variable {r r' r'' : Reading} {e : ReadError}

/-- Some more characters lead from one reading to the other. -/
def Leads (r r' : Reading) : Prop := ∃ cs, r.steps cs = .ok r'

lemma Leads.refl (r : Reading) : r.Leads r := ⟨[], rfl⟩

lemma Leads.trans (h : r.Leads r') (h' : r'.Leads r'') : r.Leads r'' := by
  obtain ⟨cs, first⟩ := h
  obtain ⟨ds, second⟩ := h'
  refine ⟨cs ++ ds, ?_⟩
  rw [steps_append, first]
  exact second

/-- One character. -/
lemma leads_of_step {c : Char} (h : r.step c = .ok r') : r.Leads r' :=
  ⟨[c], by rw [steps, h]; rfl⟩

/-- After a form nothing more is open than before it. -/
lemma place_frames (forms : List Value) (frames : List Frame) (v : Value) :
    (place forms frames v).mode = .between ∧
      (place forms frames v).frames.length ≤ frames.length := by
  induction frames generalizing v with
  | nil => exact ⟨rfl, Nat.le_refl _⟩
  | cons f frames ih =>
      cases f with
      | bracket b items => exact ⟨rfl, Nat.le_refl _⟩
      | quote => exact ⟨(ih _).1, (ih _).2.trans (Nat.le_succ _)⟩

/-- A token that has not ended can be ended, if the text can end there or ends too early. -/
lemma leads_between (failed : r.finish = .error e) (short : e.isIncomplete = true) :
    ∃ r', r.Leads r' ∧ r'.mode = .between := by
  have quote {r : Reading} {acc : List Char} (string : r.mode = .string acc) :
      ∃ r', r.Leads r' ∧ r'.mode = .between := by
    refine ⟨r.add (.str (String.ofList acc.reverse)), leads_of_step (c := '"') ?_,
      (place_frames _ _ _).1⟩
    rw [step, string]
    rfl
  cases mode : r.mode with
  | between => exact ⟨r, .refl r, mode⟩
  | comment =>
      refine ⟨{ r with mode := .between }, leads_of_step (c := '\n') ?_, rfl⟩
      rw [step, mode]
      rfl
  | string acc => exact quote mode
  | escape acc =>
      -- any escape will do
      have escaped : r.step 'n' = .ok { r with mode := .string ('\n' :: acc) } := by
        rw [step, mode]
        rfl
      obtain ⟨r', leads, between⟩ := quote (r := { r with mode := .string ('\n' :: acc) }) rfl
      exact ⟨r', (leads_of_step escaped).trans leads, between⟩
  | atom acc =>
      rw [finish, mode] at failed
      rcases bind_eq_error.mp failed with ended | ⟨r', ended, -⟩
      · exact absurd ((not_isIncomplete_of_endAtom ended).symm.trans short) Bool.false_ne_true
      · refine ⟨{ r' with mode := .between }, leads_of_step (c := '\n') ?_, rfl⟩
        rw [step_newline_atom mode, ended]
        rfl

/-- What is open can be closed: a bracket by its closing character, and a quote by any form. -/
lemma leads_closed (between : r.mode = .between) :
    ∃ r', r.Leads r' ∧ r'.mode = .between ∧ r'.frames = [] := by
  induction length : r.frames.length using Nat.strong_induction_on generalizing r with
  | _ n ih =>
      obtain ⟨forms, frames, mode⟩ := r
      obtain rfl : mode = .between := between
      have onward (v : Value) {frames' : List Frame} (fewer : frames'.length < n)
          (leads : Leads ⟨forms, frames, .between⟩ (place forms frames' v)) :
          ∃ r', Leads ⟨forms, frames, .between⟩ r' ∧ r'.mode = .between ∧ r'.frames = [] := by
        obtain ⟨still, le⟩ := place_frames forms frames' v
        obtain ⟨r', leads', closed⟩ := ih _ (le.trans_lt fewer) still rfl
        exact ⟨r', leads.trans leads', closed⟩
      cases frames with
      | nil => exact ⟨_, .refl _, rfl, rfl⟩
      | cons f frames =>
          subst length
          cases f with
          | bracket b items =>
              refine onward (b.build items.reverse) (Nat.lt_succ_self _)
                (leads_of_step (c := b.close) ?_)
              cases b <;> rfl
          | quote =>
              exact onward (quoteForm (.str "")) (Nat.lt_succ_self _) ⟨['"', '"'], by rfl⟩

end Reading

/-- **An incomplete text can be completed.** -/
theorem exists_completion {a : String} {e : ReadError} (failed : read a = .error e)
    (short : e.isIncomplete = true) : ∃ t forms, read (a ++ t) = .ok forms := by
  rcases bind_eq_error.mp failed with stepped | ⟨r, stepped, ended⟩
  · exact absurd ((Reading.not_isIncomplete_of_steps stepped).symm.trans short)
      Bool.false_ne_true
  · obtain ⟨r₁, token, between⟩ := Reading.leads_between ended short
    obtain ⟨r₂, closing, between', closed⟩ := Reading.leads_closed between
    obtain ⟨cs, steps⟩ := token.trans closing
    refine ⟨String.ofList cs, r₂.forms.reverse, ?_⟩
    rw [read, String.toList_append, String.toList_ofList, Reading.steps_append, stepped]
    change (r.steps cs).bind Reading.finish = _
    rw [steps, Except.bind, Reading.finish, between']
    dsimp only
    rw [Reading.closed, closed]

/-! ### Both -/

/-- **Reading in pieces, and incomplete texts.** When a text is read, it and another one from a new
line on are read as the forms of both, or refused as the other one is. When a text is refused
because it ends too early, it can go on to one that is read; when it is refused for another reason,
so is every text that goes on from a new line. -/
theorem read_pieces (a : String) :
    (∀ forms, read a = .ok forms → ∀ b,
      (∀ forms', read b = .ok forms' → read (a ++ "\n" ++ b) = .ok (forms ++ forms')) ∧
      ∀ e, read b = .error e → read (a ++ "\n" ++ b) = .error e) ∧
    (∀ e, read a = .error e → e.isIncomplete = true → ∃ t forms, read (a ++ t) = .ok forms) ∧
    ∀ e, read a = .error e → e.isIncomplete = false → ∀ b, read (a ++ "\n" ++ b) = .error e := by
  refine ⟨fun forms first b => ⟨fun forms' second => ?_, fun e second => ?_⟩,
    fun e failed short => exists_completion failed short,
    fun e failed final => read_append_error failed final⟩
  · rw [read_append first, second]
    rfl
  · rw [read_append first, second]
    rfl

/-- A text that ends in an escape inside a string, behind a quote and a bracket, can be completed.
One with the wrong bracket cannot go on. After one with a comment at its end, the next line counts
alone. -/
theorem read_pieces_open :
    (∃ t forms, read ("[(+ 1) '(f \"a\\" ++ t) = .ok forms) ∧
      (∀ b, read ("(f 1]" ++ "\n" ++ b) = .error (.unexpectedClose ']')) ∧
      read ("1 ; (" ++ "\n" ++ "x") = .ok ([.int 1] ++ [.symbol "x"]) ∧
      read ("1 ; (" ++ "\n" ++ "(x") = .error (.unbalanced ')') := by
  have escape : read "[(+ 1) '(f \"a\\" = .error .unterminatedString := by rfl
  have bracket : read "(f 1]" = .error (.unexpectedClose ']') := by rfl
  have comment : read "1 ; (" = .ok [.int 1] := by rfl
  have onward := (read_pieces "1 ; (").1 _ comment
  exact ⟨(read_pieces _).2.1 _ escape rfl, (read_pieces _).2.2 _ bracket rfl,
    (onward "x").1 _ (by rfl), (onward "(x").2 _ (by rfl)⟩

end HostedRepl.Lisp
