import Mathlib.Order.Bounds.Defs
import Telemetry.Proofs.Text.Words
import Telemetry.Relation.Call

/-!
# Instants in whole units

An instant in a unit of time is the number of nanoseconds since the epoch, divided by those of the
unit and rounded down, before the epoch as after it. One equivalence says so, and the rest follows
from it: an instant is never expressed by a later one, no unit is lost, order is kept, and coarser
units are found from finer ones. A window holds its points to whole seconds after its instant, and
to no fewer.
-/

namespace Telemetry

/-- The nanoseconds from the epoch to the instant. -/
def Instant.elapsed (t : Instant) : Int := t.seconds * 1000000000 + t.nanos.val

namespace Precision

/-- The nanoseconds of a unit. -/
def unit : Precision → Int
  | seconds => 1000000000
  | milliseconds => 1000000
  | microseconds => 1000

theorem unit_pos (p : Precision) : 0 < p.unit := by
  cases p <;> decide

theorem scale_eq (p : Precision) (t : Instant) : p.scale t = t.elapsed / p.unit := by
  have fraction := t.nanos.isLt
  cases p <;> simp only [scale, perSecond, unit, Instant.elapsed] <;> omega

theorem le_scale_iff {p : Precision} {t : Instant} {n : Int} :
    n ≤ p.scale t ↔ n * p.unit ≤ t.elapsed := by
  rw [scale_eq]
  exact Int.le_ediv_iff_mul_le p.unit_pos

theorem isGreatest_scale (p : Precision) (t : Instant) :
    IsGreatest {n : Int | n * p.unit ≤ t.elapsed} (p.scale t) :=
  ⟨le_scale_iff.mp (Int.le_refl _), fun _ earlier => le_scale_iff.mpr earlier⟩

theorem scale_mono (p : Precision) {t u : Instant} (h : t.elapsed ≤ u.elapsed) :
    p.scale t ≤ p.scale u :=
  le_scale_iff.mpr (Int.le_trans (p.isGreatest_scale t).1 h)

/-- The unit of a coarser precision is found by rounding down once more. -/
theorem scale_fdiv {fine coarse : Precision} {factor : Int} (positive : 0 ≤ fine.unit)
    (nonneg : 0 ≤ factor) (h : coarse.unit = fine.unit * factor) (t : Instant) :
    (fine.scale t).fdiv factor = coarse.scale t := by
  rw [Int.fdiv_eq_ediv_of_nonneg _ nonneg, scale_eq, scale_eq, h, Int.ediv_ediv_of_nonneg positive]

/-- Some 266000 years before and after the epoch fit into 64 bits, in microseconds too. -/
theorem scale_bounds (p : Precision) {t : Instant} (range : t.seconds.natAbs < 8400000000000) :
    Int64.minValue.toInt ≤ p.scale t ∧ p.scale t ≤ Int64.maxValue.toInt := by
  have lowest : Int64.minValue.toInt = -9223372036854775808 := by decide
  have highest : Int64.maxValue.toInt = 9223372036854775807 := by decide
  have fraction := t.nanos.isLt
  rw [lowest, highest]
  cases p <;> simp only [scale, perSecond] <;> omega

end Precision

namespace Window

theorem text_clause_since (t : Instant) :
    (since t).clause.text = "(time > " ++ toString t.seconds ++ "s)" := by
  have parts : (since t).clause.text = "(" ++ ("time > " ++ toString t.seconds ++ "s") ++ ")" := rfl
  rw [parts]
  apply String.toList_injective
  simp

/-- A whole number of seconds comes after an instant just when it is more than the seconds of the
instant. -/
theorem seconds_lt_iff (t : Instant) (n : Int) :
    t.seconds < n ↔ t.elapsed < (Instant.mk n 0).elapsed := by
  have fraction := t.nanos.isLt
  simp only [Instant.elapsed, Fin.val_zero]
  omega

end Window

/-- Every instant whose seconds are within the range is expressed in 64 bits in all three units. In
each it is expressed by the last whole number of units not after it, order is kept, and the coarser
numbers are those of microseconds rounded down. The one bound that a window since the instant is
written with is passed by just those whole seconds that lie after the instant. -/
theorem Precision.scale_exact (t : Instant) :
    (t.seconds.natAbs < 8400000000000 →
      ∀ p : Precision,
        Int64.minValue.toInt ≤ p.scale t ∧ p.scale t ≤ Int64.maxValue.toInt) ∧
    (∀ p : Precision, IsGreatest {n : Int | n * p.unit ≤ t.elapsed} (p.scale t)) ∧
    (∀ (p : Precision) (u : Instant), t.elapsed ≤ u.elapsed → p.scale t ≤ p.scale u) ∧
    (microseconds.scale t).fdiv 1000 = milliseconds.scale t ∧
    (microseconds.scale t).fdiv 1000000 = seconds.scale t ∧
    ∃ bound : Int,
      (∀ n : Int, (Window.since t).clause.text = "(time > " ++ toString n ++ "s)" ↔ n = bound) ∧
      ∀ n : Int, n > bound ↔ t.elapsed < (Instant.mk n 0).elapsed := by
  refine ⟨fun range p => p.scale_bounds range, fun p => p.isGreatest_scale t,
    fun p u later => p.scale_mono later, scale_fdiv (by decide) (by decide) (by decide) t,
    scale_fdiv (by decide) (by decide) (by decide) t, t.seconds, fun n => ?_,
    Window.seconds_lt_iff t⟩
  rw [Window.text_clause_since, String.append_left_inj, String.append_right_inj]
  exact ⟨fun same => (Text.toString_int_injective same).symm, fun same => same ▸ rfl⟩

/-- An instant near the lower end of the range, and one a nanosecond before the epoch. -/
theorem Precision.scale_exact_before_epoch :
    let t : Instant := ⟨-8399999999999, 1⟩
    let u : Instant := ⟨-1, 999999999⟩
    t.seconds.natAbs < 8400000000000 ∧ Int64.minValue.toInt ≤ microseconds.scale t ∧
    microseconds.scale t = -8399999999999000000 ∧
    t.elapsed ≤ u.elapsed ∧ milliseconds.scale t ≤ milliseconds.scale u ∧
    milliseconds.scale u = -1 ∧ (microseconds.scale u).fdiv 1000 = -1 := by
  intro t u
  obtain ⟨fits, -, ordered, -⟩ := scale_exact t
  obtain ⟨-, -, -, coherent, -⟩ := scale_exact u
  have range : t.seconds.natAbs < 8400000000000 := by decide
  have later : t.elapsed ≤ u.elapsed := by decide
  have last : milliseconds.scale u = -1 := by decide
  exact ⟨range, (fits range _).1, by decide, later, ordered _ u later, last, coherent.trans last⟩

end Telemetry
