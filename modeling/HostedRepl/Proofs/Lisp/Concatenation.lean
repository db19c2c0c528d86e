/-
Reading texts one after the other.

* `Reading.after`: a reading with forms that were finished before it began;
  `step_after`, `steps_after`, `finish_after`: these play no part in it.
* `newline_of_finish`: a line break closes whatever the end of the text would
  have closed.
* `read_append`: so a text that can be read, and another one from a new line
  on, are read as the forms of the one and then those of the other.
-/
import Mathlib.Tactic
import HostedRepl.Lisp.Reader

namespace HostedRepl.Lisp

namespace Reading

/-! ### Forms from before -/

/-- The reading with forms that were finished before it began, last one first. -/
def after (before : List Value) (r : Reading) : Reading := { r with forms := r.forms ++ before }

variable (before : List Value) (r : Reading)

lemma place_after (forms : List Value) (frames : List Frame) (v : Value) :
    place (forms ++ before) frames v = (place forms frames v).after before := by
  induction frames generalizing v with
  | nil => rfl
  | cons f frames ih =>
      cases f with
      | bracket b items => rfl
      | quote => exact ih (quoteForm v)

lemma add_after (v : Value) : (r.after before).add v = (r.add v).after before :=
  place_after before r.forms r.frames v

lemma enter_after (f : Frame) : (r.after before).enter f = (r.enter f).map (after before) := by
  by_cases full : depthLimit ≤ r.frames.length <;> simp [enter, after, full, Except.map]

lemma leave_after (b : Bracket) : (r.after before).leave b = (r.leave b).map (after before) := by
  obtain ⟨forms, frames, mode⟩ := r
  rcases frames with _ | ⟨_ | _, frames⟩
  · rfl
  · simp only [leave, after]
    split
    · exact congrArg Except.ok (place_after before _ _ _)
    · rfl
  · rfl

lemma begin_after (c : Char) : (r.after before).begin c = (r.begin c).map (after before) := by
  fun_cases begin r c with
  | case1 | case2 | case5 => exact enter_after before r _
  | case3 | case4 => exact leave_after before r _
  | case6 | case7 | case8 => rfl
  | case9 c _ _ _ _ _ _ _ _ blank => simp_all [begin, after, Except.map]
  | case10 c _ _ _ _ _ _ _ _ notBlank => simp_all [begin, after, Except.map]

lemma endAtom_after (acc : List Char) :
    (r.after before).endAtom acc = (r.endAtom acc).map (after before) := by
  rw [endAtom, endAtom]
  cases Value.ofAtom acc.reverse with
  | ok v => exact congrArg Except.ok (add_after before r v)
  | error e => rfl

lemma step_after (c : Char) : (r.after before).step c = (r.step c).map (after before) := by
  have ended (acc : List Char) : ((r.after before).endAtom acc).bind (fun r => r.begin c) =
      ((r.endAtom acc).bind fun r => r.begin c).map (after before) := by
    rw [endAtom_after]
    cases r.endAtom acc with
    | ok r => exact begin_after before r c
    | error e => rfl
  have mode : (r.after before).mode = r.mode := rfl
  rw [step, step, mode]
  split
  · exact begin_after before r c
  · split <;> rfl
  · split
    · exact congrArg Except.ok (add_after before r _)
    · split <;> rfl
  · split <;> rfl
  · split
    · exact ended _
    · rfl

lemma steps_after (cs : List Char) :
    (r.after before).steps cs = (r.steps cs).map (after before) := by
  induction cs generalizing r with
  | nil => rfl
  | cons c cs ih =>
      rw [steps, steps, step_after]
      cases r.step c with
      | ok r => exact ih r
      | error e => rfl

lemma closed_after : (r.after before).closed = r.closed.map (before.reverse ++ ·) := by
  obtain ⟨forms, frames, mode⟩ := r
  rcases frames with _ | ⟨_ | _, frames⟩
  · simp [closed, after, Except.map]
  · rfl
  · rfl

lemma finish_after : (r.after before).finish = r.finish.map (before.reverse ++ ·) := by
  have mode : (r.after before).mode = r.mode := rfl
  rw [finish, finish, mode]
  split
  · exact closed_after before r
  · exact closed_after before r
  · rfl
  · rfl
  · rw [endAtom_after]
    cases r.endAtom _ with
    | ok r => exact closed_after before r
    | error e => rfl

/-! ### A line break -/

/-- A line break where the text may end ends all tokens. -/
lemma newline_of_finish {r : Reading} {forms : List Value} (h : r.finish = .ok forms) :
    r.step '\n' = .ok (start.after forms.reverse) := by
  have whole {r : Reading} (h : r.closed = .ok forms) :
      r.forms = forms.reverse ∧ r.frames = [] := by
    rw [closed] at h
    split at h <;> cases h
    exact ⟨by simp, ‹_›⟩
  have between {r : Reading} (h : r.closed = .ok forms) :
      r.begin '\n' = .ok (start.after forms.reverse) := by
    obtain ⟨finished, done⟩ := whole h
    change Except.ok (⟨r.forms, r.frames, .between⟩ : Reading) = _
    rw [finished, done]
    rfl
  cases mode : r.mode with
  | between | comment =>
      rw [finish, mode] at h
      rw [step, mode]
      exact between h
  | string acc | escape acc =>
      rw [finish, mode] at h
      cases h
  | atom acc =>
      have delimiter : isDelimiter '\n' = true := by decide
      rw [finish, mode] at h
      rw [step, mode]
      dsimp only at h ⊢
      rw [if_pos delimiter]
      cases ended : r.endAtom acc with
      | ok r' =>
          rw [ended] at h
          exact between h
      | error e =>
          rw [ended] at h
          cases h

end Reading

/-- **A text is read line by line**, from a line on up to which it can be read. -/
theorem read_append {a : String} {forms : List Value} (h : read a = .ok forms) (b : String) :
    read (a ++ "\n" ++ b) = (read b).map (forms ++ ·) := by
  rw [read] at h
  cases first : Reading.start.steps a.toList with
  | error e =>
      rw [first] at h
      cases h
  | ok r =>
      rw [first] at h
      have line : r.step '\n' = .ok (.after forms.reverse .start) := Reading.newline_of_finish h
      have rest : (Reading.after forms.reverse .start).steps b.toList = _ :=
        Reading.steps_after forms.reverse .start b.toList
      have chars : (a ++ "\n" ++ b).toList = a.toList ++ '\n' :: b.toList := by simp
      rw [read, read, chars, Reading.steps_append, first, Except.bind, Reading.steps, line]
      dsimp only
      rw [rest]
      cases Reading.start.steps b.toList with
      | ok r' =>
          have ended := Reading.finish_after forms.reverse r'
          rwa [List.reverse_reverse] at ended
      | error e => rfl

end HostedRepl.Lisp
