import TagWeave.Leveling.Progress
import TagWeave.Proofs.Leveling.ExactCurve

/-! Experience is conserved. Whatever amounts are gathered one after the other, the level and what was
gathered towards the next make up the exact sum of the amounts that fitted. An amount with which that
sum no longer fits overflows before anything is written, and no later step of a call can overflow. -/
namespace TagWeave

namespace Progress

/-- The progress after amounts were gathered one after the other, whatever calls overflow. -/
def gainAll (progress : Progress) : List Nat → Progress
  | [] => progress
  | amount :: rest => (progress.gain amount).2.gainAll rest

def sumGained (progress : Progress) : List Nat → Nat
  | [] => 0
  | amount :: rest =>
    match progress.gain amount with
    | (.ok _, gained) => amount + gained.sumGained rest
    | (.error _, left) => left.sumGained rest

/-- Progress that accounts for a sum of experience: its level and what was gathered towards the next
make up the sum, and the sum fits. -/
structure Balanced (progress : Progress) (sum : Nat) : Prop where
  required : progress.required = exactTarget progress.level
  total : progress.total = sum
  reached : exactTotal progress.level + progress.current = sum
  fits : sum < amountLimit

variable {progress : Progress} {sum amount : Nat}

theorem balanced_start : start.Balanced 0 := ⟨rfl, rfl, rfl, by decide⟩

namespace Balanced

theorem level_fits (balanced : progress.Balanced sum) : exactTotal progress.level < amountLimit := by
  have reached := balanced.reached
  have fits := balanced.fits
  omega

theorem targetXp_eq (balanced : progress.Balanced sum) :
    targetXp progress.level = .ok progress.required := by
  rw [balanced.required]
  exact targetXp_eq_ok_iff.mpr ⟨rfl, exactTarget_lt_of_exactTotal_lt balanced.level_fits⟩

theorem totalXp_eq (balanced : progress.Balanced sum) :
    totalXp progress.level = .ok (exactTotal progress.level) :=
  totalXp_eq_ok_iff.mpr ⟨rfl, balanced.level_fits⟩

theorem totalWith_eq (balanced : progress.Balanced sum) (amount : Nat) :
    progress.totalWith amount = addAmounts sum amount := by
  have counted : addAmounts (exactTotal progress.level) progress.current = .ok sum :=
    addAmounts_eq_ok_iff.mpr ⟨balanced.reached, balanced.fits⟩
  simp only [totalWith, balanced.totalXp_eq, bind, Except.bind, counted]

/-- A sum that does not fit is found out before anything is written. -/
theorem gain_of_exceeds (balanced : progress.Balanced sum) (exceeds : amountLimit ≤ sum + amount) :
    progress.gain amount = (.error .addition, progress) := by
  have overflow : addAmounts sum amount = .error .addition := if_neg (Nat.not_lt.mpr exceeds)
  simp only [gain, balanced.totalWith_eq, overflow]

theorem gathered_eq (balanced : progress.Balanced sum) (fits : sum + amount < amountLimit) :
    addAmounts progress.current amount = .ok (progress.current + amount) := by
  have reached := balanced.reached
  exact addAmounts_eq_ok_iff.mpr ⟨rfl, by omega⟩

theorem gain_of_le (balanced : progress.Balanced sum) (fits : sum + amount < amountLimit)
    (within : progress.current + amount ≤ progress.required) :
    progress.gain amount =
      (.ok none, { progress with current := progress.current + amount, total := sum + amount }) := by
  have total : addAmounts sum amount = .ok (sum + amount) := addAmounts_eq_ok_iff.mpr ⟨rfl, fits⟩
  simp only [gain, balanced.totalWith_eq, total, balanced.gathered_eq fits,
    if_neg (Nat.not_lt.mpr within)]

/-- Where the sum fits, the total of a level that is passed fits too. -/
theorem next_fits (balanced : progress.Balanced sum) (fits : sum + amount < amountLimit)
    (passed : progress.required < progress.current + amount) :
    exactTotal (progress.level + 1) < amountLimit := by
  have reached := balanced.reached
  have required := balanced.required
  rw [exactTotal]
  omega

theorem gain_of_lt (balanced : progress.Balanced sum) (fits : sum + amount < amountLimit)
    (passed : progress.required < progress.current + amount) :
    progress.gain amount =
      (.ok (some (progress.level + 1)),
        ⟨progress.level + 1, progress.current + amount - progress.required,
          exactTarget (progress.level + 1), sum + amount⟩) := by
  have total : addAmounts sum amount = .ok (sum + amount) := addAmounts_eq_ok_iff.mpr ⟨rfl, fits⟩
  have next := balanced.next_fits fits passed
  have level : nextLevel progress.level = .ok (progress.level + 1) := if_pos (level_lt_levelLimit next)
  have target : targetXp (progress.level + 1) = .ok (exactTarget (progress.level + 1)) :=
    targetXp_eq_ok_iff.mpr ⟨rfl, exactTarget_lt_of_exactTotal_lt next⟩
  simp only [gain, balanced.totalWith_eq, total, balanced.gathered_eq fits, if_pos passed, rise, level,
    target, Except.map]

/-- A call that returns accounts for its amount too. It tells a new level exactly if it goes up one
level, and never goes up more than one. -/
theorem gain_of_fits (balanced : progress.Balanced sum) (fits : sum + amount < amountLimit) :
    ∃ reached gained, progress.gain amount = (.ok reached, gained) ∧
      gained.Balanced (sum + amount) ∧
      (reached = none ∧ gained.level = progress.level ∨
        reached = some gained.level ∧ gained.level = progress.level + 1) := by
  have reached := balanced.reached
  have required := balanced.required
  by_cases passed : progress.required < progress.current + amount
  · refine ⟨_, _, balanced.gain_of_lt fits passed, ⟨rfl, rfl, ?_, fits⟩, .inr ⟨rfl, rfl⟩⟩
    simp only [exactTotal]
    omega
  · have within := Nat.le_of_not_lt passed
    refine ⟨_, _, balanced.gain_of_le fits within, ⟨required, rfl, ?_, fits⟩, .inl ⟨rfl, rfl⟩⟩
    rw [← Nat.add_assoc, reached]

theorem gainAll (balanced : progress.Balanced sum) (amounts : List Nat) :
    (progress.gainAll amounts).Balanced (sum + progress.sumGained amounts) := by
  induction amounts generalizing progress sum with
  | nil => exact balanced
  | cons amount rest ih =>
    unfold Progress.gainAll sumGained
    by_cases fits : sum + amount < amountLimit
    · obtain ⟨reached, gained, called, gained_balanced, -⟩ := balanced.gain_of_fits fits
      have later := ih gained_balanced
      rw [called]
      rwa [Nat.add_assoc] at later
    · rw [balanced.gain_of_exceeds (Nat.le_of_not_lt fits)]
      exact ih balanced

end Balanced

/-- Experience is conserved, and an overflow is all or nothing. Whatever amounts were gathered from the
start, a call that returns leaves progress that takes what the curve says, whose total is the total of
the level and what was gathered towards the next, and is the exact sum of all amounts that were
gathered; the level went up by one if the call tells a level, which is then the new one, and stays
otherwise. A call overflows exactly if the sum with its amount no longer fits, and changes nothing. -/
theorem gain_conserves (amounts : List Nat) (amount : Nat) :
    match (start.gainAll amounts).gain amount with
    | (.ok reached, after) =>
      start.sumGained amounts + amount < amountLimit ∧
      targetXp after.level = .ok after.required ∧
      (∃ base, totalXp after.level = .ok base ∧ after.total = base + after.current) ∧
      after.total = start.sumGained amounts + amount ∧
      (reached = none ∧ after.level = (start.gainAll amounts).level ∨
        reached = some after.level ∧ after.level = (start.gainAll amounts).level + 1)
    | (.error _, after) =>
      amountLimit ≤ start.sumGained amounts + amount ∧ after = start.gainAll amounts := by
  have balanced := balanced_start.gainAll amounts
  rw [Nat.zero_add] at balanced
  by_cases fits : start.sumGained amounts + amount < amountLimit
  · obtain ⟨reached, after, called, after_balanced, level⟩ := balanced.gain_of_fits fits
    simp only [called]
    refine ⟨fits, after_balanced.targetXp_eq, ?_, after_balanced.total, level⟩
    exact ⟨_, after_balanced.totalXp_eq, after_balanced.total.trans after_balanced.reached.symm⟩
  · have exceeds := Nat.le_of_not_lt fits
    simp only [balanced.gain_of_exceeds exceeds]
    exact ⟨exceeds, trivial⟩

/-- Far over the first level, up one level a call, and then an amount that does not fit. -/
example : start.gainAll [1000, 0, amountLimit - 1000, 5] = ⟨3, 530, 295, 1005⟩ := by decide +kernel

end Progress

end TagWeave
