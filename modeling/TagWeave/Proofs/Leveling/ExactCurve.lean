import Mathlib.Tactic.Ring
import TagWeave.Leveling.Curve

/-! The experience curve in exact arithmetic. An amount of the curve is told exactly if it fits into a
word, whatever is multiplied and added on the way; where it does not fit, some step overflows. The
total of a level has a closed form, so levels whose total fits are small. -/
namespace TagWeave

variable {first second level levels amount exact sum target total : Nat} {overflow : Overflow}

/-- Where an amount is told exactly or else overflows, it is told just if it fits. -/
theorem exact_or_overflow_eq_ok_iff :
    (if exact < amountLimit then .ok exact else .error overflow) = Except.ok amount ↔
      exact = amount ∧ amount < amountLimit := by
  split
  · simp only [Except.ok.injEq]
    omega
  · simp only [reduceCtorEq, false_iff]
    omega

theorem addAmounts_eq_ok_iff :
    addAmounts first second = .ok sum ↔ first + second = sum ∧ sum < amountLimit :=
  exact_or_overflow_eq_ok_iff

def exactTarget (level : Nat) : Nat := 5 * level * level + 50 * level + 100

/-- The experience from nothing to a level, exactly. -/
def exactTotal : Nat → Nat
  | 0 => 0
  | level + 1 => exactTotal level + exactTarget level

/-- A target that does not fit overflows at its square, or else at the last additions. -/
theorem targetXp_eq (level : Nat) :
    targetXp level =
      if exactTarget level < amountLimit then .ok (exactTarget level)
      else .error (if 5 * level * level < amountLimit then .addition else .multiplication) := by
  have limit : amountLimit = 18446744073709551616 := rfl
  by_cases square : 5 * level * level < amountLimit
  · have small : level < 4294967296 := by
      by_contra high
      have reached : 5 * 4294967296 * 4294967296 ≤ 5 * level * level :=
        Nat.mul_le_mul (by omega) (by omega)
      omega
    have scaled : multiplyAmounts 5 level = .ok (5 * level) := if_pos (by omega)
    have squared : multiplyAmounts (5 * level) level = .ok (5 * level * level) := if_pos square
    have linear : multiplyAmounts 50 level = .ok (50 * level) := if_pos (by omega)
    simp only [targetXp, scaled, squared, linear, addAmounts, exactTarget, bind, Except.bind]
    by_cases most : 5 * level * level + 50 * level < amountLimit
    · simp only [if_pos most, if_pos square]
    · simp only [if_neg most, if_pos square]
      rw [if_neg (by omega)]
  · have large : ¬ exactTarget level < amountLimit := by
      unfold exactTarget
      omega
    rw [if_neg large, if_neg square]
    by_cases scaled : 5 * level < amountLimit
    · have once : multiplyAmounts 5 level = .ok (5 * level) := if_pos scaled
      have twice : multiplyAmounts (5 * level) level = .error .multiplication := if_neg square
      simp only [targetXp, once, twice, bind, Except.bind]
    · have once : multiplyAmounts 5 level = .error .multiplication := if_neg scaled
      simp only [targetXp, once, bind, Except.bind]

theorem targetXp_eq_ok_iff :
    targetXp level = .ok target ↔ exactTarget level = target ∧ target < amountLimit := by
  rw [targetXp_eq, exact_or_overflow_eq_ok_iff]

theorem exactTotal_mono {lower upper : Nat} (below : lower ≤ upper) :
    exactTotal lower ≤ exactTotal upper := by
  induction below with
  | refl => exact Nat.le_refl _
  | step _ ih => exact Nat.le_trans ih (Nat.le_add_right _ _)

theorem six_mul_exactTotal (level : Nat) :
    6 * exactTotal level = 5 * level * (level + 7) * (2 * level + 13) := by
  induction level with
  | zero => rfl
  | succ level ih =>
    rw [exactTotal, Nat.mul_add, ih, exactTarget]
    ring

theorem level_lt_of_exactTotal_lt (fits : exactTotal level < amountLimit) : level < 4194304 := by
  by_contra high
  have reached := exactTotal_mono (Nat.le_of_not_lt high)
  have closed := six_mul_exactTotal 4194304
  have limit : amountLimit = 18446744073709551616 := rfl
  omega

theorem level_lt_levelLimit (fits : exactTotal level < amountLimit) : level < levelLimit :=
  Nat.lt_trans (level_lt_of_exactTotal_lt fits) (by decide)

/-- Where the total of a level fits, so does the target of the next. -/
theorem exactTarget_lt_of_exactTotal_lt (fits : exactTotal level < amountLimit) :
    exactTarget level < amountLimit := by
  have below := level_lt_of_exactTotal_lt fits
  have square : 5 * level * level ≤ 5 * 4194304 * 4194304 := Nat.mul_le_mul (by omega) (by omega)
  have limit : amountLimit = 18446744073709551616 := rfl
  unfold exactTarget
  omega

/-- Targets are added up exactly as long as their sum fits, and no target overflows before the sum
does. -/
theorem sumTargets_eq (start : exactTotal level < amountLimit) :
    sumTargets level (exactTotal level) levels =
      if exactTotal (level + levels) < amountLimit then .ok (exactTotal (level + levels))
      else .error .addition := by
  induction levels generalizing level with
  | zero => rw [sumTargets, Nat.add_zero, if_pos start]
  | succ levels ih =>
    have target : targetXp level = .ok (exactTarget level) :=
      targetXp_eq_ok_iff.mpr ⟨rfl, exactTarget_lt_of_exactTotal_lt start⟩
    by_cases fits : exactTotal (level + 1) < amountLimit
    · have added : addAmounts (exactTotal level) (exactTarget level) =
          .ok (exactTotal (level + 1)) := if_pos fits
      simp only [sumTargets, target, added]
      rw [ih fits, Nat.add_assoc, Nat.add_comm 1 levels]
    · have added : addAmounts (exactTotal level) (exactTarget level) = .error .addition :=
        if_neg fits
      have later : exactTotal (level + 1) ≤ exactTotal (level + (levels + 1)) :=
        exactTotal_mono (by omega)
      simp only [sumTargets, target, added]
      rw [if_neg (by omega)]

theorem totalXp_eq (level : Nat) :
    totalXp level =
      if exactTotal level < amountLimit then .ok (exactTotal level) else .error .addition := by
  have start : exactTotal 0 < amountLimit := by decide
  have summed : sumTargets 0 (exactTotal 0) level = _ := sumTargets_eq start
  rwa [Nat.zero_add] at summed

theorem totalXp_eq_ok_iff :
    totalXp level = .ok total ↔ exactTotal level = total ∧ total < amountLimit := by
  rw [totalXp_eq, exact_or_overflow_eq_ok_iff]

/-- The curve is an exact polynomial as long as it fits. The target of a level and the total to it are
their polynomials wherever these fit into a word, so no product and no sum on the way overflows; where
they do not fit, an operation overflows, and no other amount is told. -/
theorem curve_exact_or_overflow (level : Nat) :
    targetXp level =
      (if 5 * level ^ 2 + 50 * level + 100 < 2 ^ 64 then .ok (5 * level ^ 2 + 50 * level + 100)
      else .error (if 5 * level ^ 2 < 2 ^ 64 then .addition else .multiplication)) ∧
    6 ∣ 5 * level * (level + 7) * (2 * level + 13) ∧
    totalXp level =
      (if 5 * level * (level + 7) * (2 * level + 13) / 6 < 2 ^ 64 then
        .ok (5 * level * (level + 7) * (2 * level + 13) / 6)
      else .error .addition) := by
  have square : 5 * level * level = 5 * level ^ 2 := by ring
  have target : exactTarget level = 5 * level ^ 2 + 50 * level + 100 := by rw [exactTarget, square]
  have closed := six_mul_exactTotal level
  have total : exactTotal level = 5 * level * (level + 7) * (2 * level + 13) / 6 := by
    rw [← closed, Nat.mul_div_cancel_left _ (by decide)]
  have limit : amountLimit = 2 ^ 64 := rfl
  refine ⟨?_, ⟨_, closed.symm⟩, ?_⟩
  · rw [targetXp_eq, target, square, limit]
  · rw [totalXp_eq, total, limit]

end TagWeave
