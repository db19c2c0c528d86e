/-
The tick interval of a configuration.

A configuration gives the time between ticks as a double, and the host ticks
by whole nanoseconds. A double that is accepted is positive, but it may be too
large for a span of time.

* `Duration.inSeconds`: the seconds of a span, as a rational number.
* `durationOfSeconds?_of_lt`, `durationOfSeconds?_of_le`: the span nearest to a
  number of seconds, and when there is none.
* `ServerConfig.validate_eq_ok_iff`: which configurations are accepted.
* `ServerConfig.tickInterval_near`: **how far the host ticks from the interval
  that was asked for**.
* `ServerConfig.long_interval_replaced`: an interval of `2 ^ 64` seconds is
  accepted, and the host ticks ten times a second.
-/
import Mathlib
import HostedRepl.Config.Basic
import HostedRepl.Proofs.Decimal.Exact

namespace HostedRepl

open Decimal (Double)

/-! ### Spans of time -/

/-- The seconds of a span. -/
def Duration.inSeconds (d : Duration) : ℚ := d.nanoseconds / 10 ^ 9

lemma Duration.ne_zero_of_inSeconds_pos {d : Duration} (pos : 0 < d.inSeconds) :
    d.nanoseconds ≠ 0 := by
  intro zero
  rw [inSeconds, zero, Nat.cast_zero, zero_div] at pos
  exact lt_irrefl 0 pos

section

variable {x : Float}

/-- A positive number of seconds as a quotient, and the span that it is rounded to. -/
lemma durationOfSeconds?_of_pos (pos : 0 < (Double.ofFloat x).value) :
    ∃ num den : ℕ, 0 < den ∧ (Double.ofFloat x).value = num / den ∧
      durationOfSeconds? x = if den * Nat.pow 2 64 ≤ num then none
        else some ⟨Decimal.roundHalfEven (num * 1000000000) den⟩ := by
  obtain ⟨m, e, denoted⟩ := Double.exists_of_value_pos pos
  refine ⟨_, _, Nat.pow_pos two_pos, denoted ▸ Double.value_finite m e, ?_⟩
  rw [durationOfSeconds?, denoted]
  simp only [Bool.false_and, Bool.false_or, decide_eq_true_eq]
  rfl

/-- **The span of a number of seconds** is the nearest one. -/
lemma durationOfSeconds?_of_lt (pos : 0 < (Double.ofFloat x).value)
    (short : (Double.ofFloat x).value < 2 ^ 64) :
    ∃ d, durationOfSeconds? x = some d ∧
      |d.inSeconds - (Double.ofFloat x).value| ≤ 1 / 2 / 10 ^ 9 := by
  obtain ⟨num, den, denPos, value, rounded⟩ := durationOfSeconds?_of_pos pos
  have positive : (0 : ℚ) < den := by exact_mod_cast denPos
  rw [value, div_lt_iff₀ positive] at short
  have inside : ¬den * Nat.pow 2 64 ≤ num := by
    rw [Nat.not_le, mul_comm]
    exact_mod_cast short
  refine ⟨_, rounded.trans (if_neg inside), ?_⟩
  have near := Decimal.abs_roundHalfEven_sub_le (num * 1000000000) denPos
  have scaled : (Decimal.roundHalfEven (num * 1000000000) den : ℚ) / 10 ^ 9 - num / den =
      (Decimal.roundHalfEven (num * 1000000000) den - (num * 1000000000 : ℕ) / den) / 10 ^ 9 := by
    push_cast
    ring
  rw [value, Duration.inSeconds, scaled, abs_div, abs_of_pos (by positivity : (0 : ℚ) < 10 ^ 9)]
  exact div_le_div_of_nonneg_right near (by positivity)

/-- There is no span of so many seconds. -/
lemma durationOfSeconds?_of_le (long : 2 ^ 64 ≤ (Double.ofFloat x).value) :
    durationOfSeconds? x = none := by
  have pos : 0 < (Double.ofFloat x).value := lt_of_lt_of_le (by positivity) long
  obtain ⟨num, den, denPos, value, rounded⟩ := durationOfSeconds?_of_pos pos
  have positive : (0 : ℚ) < den := by exact_mod_cast denPos
  rw [value, le_div_iff₀ positive] at long
  have outside : den * Nat.pow 2 64 ≤ num := by
    rw [mul_comm]
    exact_mod_cast long
  exact rounded.trans (if_pos outside)

end

/-! ### Configurations -/

namespace ServerConfig

variable {c : ServerConfig}

/-- **Which configurations are accepted**: the host is a word without quotes, and the exact value of
the interval is positive. -/
lemma validate_eq_ok_iff : c.validate = .ok () ↔ Text.isBlankText c.host = false ∧
    c.host.contains '"' = false ∧ 0 < (Double.ofFloat c.interval).value := by
  rw [validate, Double.value_pos_iff]
  split_ifs with host interval
  · refine iff_of_false (by rintro ⟨⟩) ?_
    rintro ⟨visible, unquoted, -⟩
    rw [visible, unquoted] at host
    cases host
  · refine iff_of_false (by rintro ⟨⟩) ?_
    rintro ⟨-, -, finite, above⟩
    rw [finite, decide_eq_false above] at interval
    cases interval
  · refine iff_of_true rfl ?_
    simpa [and_assoc] using And.intro host interval

/-- **How far the host ticks from the interval that was asked for.** An interval that is accepted
has a positive value. Below `2 ^ 64` seconds the time between ticks differs from it by half a
nanosecond at most, and it is not zero if the interval is longer than that. No span of time has
`2 ^ 64` seconds or more, and for these intervals the host ticks ten times a second. -/
theorem tickInterval_near (valid : c.validate = .ok ()) :
    let x := (Double.ofFloat c.interval).value
    0 < x ∧
    (x < 2 ^ 64 → |c.tickInterval.inSeconds - x| ≤ 1 / 2 / 10 ^ 9 ∧
      (1 / 2 / 10 ^ 9 < x → c.tickInterval.nanoseconds ≠ 0)) ∧
    (2 ^ 64 ≤ x → c.tickInterval = .ofMilliseconds 100) := by
  intro x
  have pos : 0 < x := (validate_eq_ok_iff.mp valid).2.2
  refine ⟨pos, fun short => ?_, fun long => ?_⟩
  · obtain ⟨d, rounded, near⟩ := durationOfSeconds?_of_lt pos short
    have interval : c.tickInterval = d := by rw [tickInterval, rounded, Option.getD_some]
    rw [interval]
    refine ⟨near, fun visible => d.ne_zero_of_inSeconds_pos ?_⟩
    have below := (abs_le.mp near).1
    linarith
  · rw [tickInterval, durationOfSeconds?_of_le long, Option.getD_none]

/-- The default settings with another interval. -/
def every (seconds : Float) : ServerConfig := { default with interval := seconds }

lemma validate_every {x : Float} (pos : 0 < (Double.ofFloat x).value) :
    (every x).validate = .ok () := by
  have visible : Text.isBlankText "127.0.0.1" = false := by decide
  have unquoted : "127.0.0.1".contains '"' = false := by simp
  exact validate_eq_ok_iff.mpr ⟨visible, unquoted, pos⟩

/-- A 1024th of a second is halfway between two nanoseconds. -/
theorem tickInterval_near_halfway :
    let c := every 0.0009765625
    let x := (Double.ofFloat c.interval).value
    c.validate = .ok () ∧ x = 1 / 1024 ∧ x < 2 ^ 64 ∧ 1 / 2 / 10 ^ 9 < x ∧
      c.tickInterval = ⟨976562⟩ ∧ |c.tickInterval.inSeconds - x| ≤ 1 / 2 / 10 ^ 9 ∧
      c.tickInterval.nanoseconds ≠ 0 := by
  intro c x
  have denoted : Double.ofFloat c.interval = .finite false (2 ^ 52) (-62) := by decide +kernel
  have value : x = 1 / 1024 := by
    rw [show x = (Double.finite false (2 ^ 52) (-62)).value from congrArg Double.value denoted,
      Double.value]
    norm_num
  have pos : 0 < x := by rw [value]; norm_num
  have valid : c.validate = .ok () := validate_every pos
  have short : x < 2 ^ 64 := by rw [value]; norm_num
  have visible : 1 / 2 / 10 ^ 9 < x := by rw [value]; norm_num
  obtain ⟨near, ticks⟩ := (tickInterval_near valid).2.1 short
  exact ⟨valid, value, short, visible, by decide +kernel, near, ticks visible⟩

/-- **An interval of `2 ^ 64` seconds** is accepted, and the host ticks ten times a second. -/
theorem long_interval_replaced :
    ¬∀ c : ServerConfig, c.validate = .ok () →
      let x := (Double.ofFloat c.interval).value
      c.tickInterval.nanoseconds ≠ 0 ∧ |c.tickInterval.inSeconds - x| ≤ 1 / 2 / 10 ^ 9 := by
  intro near
  have denoted : Double.ofFloat 18446744073709551616.0 = .finite false (2 ^ 52) 12 := by
    decide +kernel
  have value : (Double.ofFloat 18446744073709551616.0).value = 2 ^ 64 := by
    rw [denoted, Double.value]
    norm_num
  have replaced : (every 18446744073709551616.0).tickInterval = .ofMilliseconds 100 := by
    decide +kernel
  obtain ⟨-, far⟩ := near (every 18446744073709551616.0)
    (validate_every (by rw [value]; positivity))
  rw [replaced, show (every 18446744073709551616.0).interval = 18446744073709551616.0 from rfl,
    value, Duration.inSeconds, Duration.ofMilliseconds] at far
  norm_num [abs_le] at far

end ServerConfig

end HostedRepl
