import Mathlib.Order.Bounds.Basic
import Mathlib.Order.Nat
import TagWeave.Proofs.Leveling.Conservation

/-! Level-ups are put off but never lost. Every sum of experience is due one level, and a member who
gathered that sum is at no higher one. Calls that add nothing bring a member up level by level to the
one that is due, where nothing changes any more; the progress there is a function of the sum. -/
namespace TagWeave

variable {level sum amount : Nat}

theorem le_exactTotal_succ (level : Nat) : level ≤ exactTotal (level + 1) := by
  induction level with
  | zero => exact Nat.zero_le _
  | succ level ih =>
    rw [exactTotal]
    unfold exactTarget
    omega

theorem exists_le_exactTotal (sum : Nat) : ∃ level, sum ≤ exactTotal (level + 1) :=
  ⟨sum, le_exactTotal_succ sum⟩

/-- The level that a sum of experience is due: the least whose next level the sum does not pass. -/
def dueLevel (sum : Nat) : Nat := Nat.find (exists_le_exactTotal sum)

theorem dueLevel_le_iff : dueLevel sum ≤ level ↔ sum ≤ exactTotal (level + 1) := by
  constructor
  · intro due
    have reached : sum ≤ exactTotal (dueLevel sum + 1) := Nat.find_spec (exists_le_exactTotal sum)
    exact reached.trans (exactTotal_mono (by omega))
  · exact Nat.find_min' (exists_le_exactTotal sum)

theorem isLeast_dueLevel (sum : Nat) :
    IsLeast {level | sum ≤ exactTotal (level + 1)} (dueLevel sum) :=
  ⟨dueLevel_le_iff.mp (Nat.le_refl _), fun _ within => dueLevel_le_iff.mpr within⟩

theorem dueLevel_mono {other : Nat} (less : sum ≤ other) : dueLevel sum ≤ dueLevel other :=
  dueLevel_le_iff.mpr (less.trans (dueLevel_le_iff.mp (Nat.le_refl _)))

theorem eq_dueLevel_iff (positive : 0 < sum) :
    level = dueLevel sum ↔ exactTotal level < sum ∧ sum ≤ exactTotal (level + 1) := by
  have above := @dueLevel_le_iff level sum
  cases level with
  | zero =>
    rw [exactTotal]
    omega
  | succ level =>
    have below := @dueLevel_le_iff level sum
    omega

namespace Progress

/-- The progress of a member who is at the level that a sum is due. -/
def settled (sum : Nat) : Progress :=
  ⟨dueLevel sum, sum - exactTotal (dueLevel sum), exactTarget (dueLevel sum), sum⟩

/-- Progress that accounts for a sum, at no higher level than the sum is due. -/
structure Behind (progress : Progress) (sum : Nat) : Prop extends progress.Balanced sum where
  level_le : progress.level ≤ dueLevel sum

variable {progress : Progress}

theorem behind_start : start.Behind 0 := ⟨balanced_start, Nat.zero_le _⟩

theorem Balanced.eq_settled (balanced : progress.Balanced sum) (due : progress.level = dueLevel sum) :
    progress = settled sum := by
  have reached := balanced.reached
  obtain ⟨level, current, required, total⟩ := progress
  have required_eq := balanced.required
  have total_eq := balanced.total
  simp only [settled, mk.injEq, ← due]
  dsimp only at reached
  exact ⟨trivial, by omega, required_eq, total_eq⟩

/-- The next target is passed exactly by sums that are due a higher level. -/
theorem Balanced.passes_iff (balanced : progress.Balanced sum) :
    progress.required < progress.current + amount ↔ progress.level < dueLevel (sum + amount) := by
  have reached := balanced.reached
  have required := balanced.required
  rw [← Nat.not_le, ← Nat.not_le, not_iff_not, dueLevel_le_iff, exactTotal]
  omega

namespace Behind

/-- A call goes up one level, or it leaves the member where the new sum is due. -/
theorem gain (behind : progress.Behind sum) (amount : Nat) (fits : sum + amount < amountLimit) :
    ∃ reached gained, progress.gain amount = (.ok reached, gained) ∧ gained.Behind (sum + amount) ∧
      (reached = none ∧ gained.level = progress.level ∧ gained.level = dueLevel (sum + amount) ∨
        reached = some gained.level ∧ gained.level = progress.level + 1) := by
  have balanced := behind.toBalanced
  obtain ⟨reached, gained, called, after, level⟩ := balanced.gain_of_fits fits
  refine ⟨reached, gained, called, ?_⟩
  by_cases passed : progress.required < progress.current + amount
  · rw [balanced.gain_of_lt fits passed] at called
    cases called
    exact ⟨⟨after, balanced.passes_iff.mp passed⟩, .inr ⟨rfl, rfl⟩⟩
  · have due := Nat.le_of_not_lt (mt balanced.passes_iff.mpr passed)
    have later := behind.level_le.trans (dueLevel_mono (Nat.le_add_right sum amount))
    rw [balanced.gain_of_le fits (Nat.le_of_not_lt passed)] at called
    cases called
    exact ⟨⟨after, later⟩, .inl ⟨rfl, rfl, Nat.le_antisymm later due⟩⟩

theorem gainAll (behind : progress.Behind sum) (amounts : List Nat)
    (fits : sum + amounts.sum < amountLimit) :
    (progress.gainAll amounts).Behind (sum + amounts.sum) := by
  induction amounts generalizing progress sum with
  | nil => exact behind
  | cons amount rest ih =>
    rw [List.sum_cons, ← Nat.add_assoc] at fits ⊢
    obtain ⟨_, gained, called, after, -⟩ := behind.gain amount (by omega)
    rw [Progress.gainAll, called]
    exact ih after fits

theorem gain_zero_of_lt (behind : progress.Behind sum) (below : progress.level < dueLevel sum) :
    ∃ risen, progress.gain 0 = (.ok (some (progress.level + 1)), risen) ∧
      risen.level = progress.level + 1 ∧ risen.Behind sum := by
  obtain ⟨reached, gained, called, after, stays | rises⟩ := behind.gain 0 behind.fits
  · rw [Nat.add_zero] at stays
    omega
  · obtain ⟨rfl, level⟩ := rises
    exact ⟨gained, level ▸ called, level, after⟩

/-- At the level that is due, a call that adds nothing changes nothing. -/
theorem gain_zero_of_due (behind : progress.Behind sum) (due : progress.level = dueLevel sum) :
    progress.gain 0 = (.ok none, progress) := by
  obtain ⟨reached, gained, called, after, stays | rises⟩ := behind.gain 0 behind.fits
  · obtain ⟨rfl, -, gained_due⟩ := stays
    rw [called, after.eq_settled gained_due, behind.eq_settled due, Nat.add_zero]
  · have level_le := after.level_le
    rw [Nat.add_zero] at level_le
    omega

/-- As many calls that add nothing as levels are missing settle the progress. -/
theorem gainAll_zeros (behind : progress.Behind sum) {missing : Nat}
    (due : progress.level + missing = dueLevel sum) :
    progress.gainAll (List.replicate missing 0) = settled sum := by
  induction missing generalizing progress with
  | zero => exact behind.eq_settled due
  | succ missing ih =>
    obtain ⟨risen, called, level, after⟩ := behind.gain_zero_of_lt (by omega)
    have settles := ih after (by omega)
    rwa [List.replicate_succ, Progress.gainAll, called]

end Behind

/-- Level-ups are put off but never lost or made up. Of amounts whose sum fits none overflows, and the
member is at no higher level than the sum is due, the least whose next level the sum does not pass. A
further call that adds nothing tells a new level and goes up by just one as long as the member is
below, and changes nothing once the member is there. As many such calls as levels are missing leave
progress that the sum alone determines. -/
theorem gain_zero_settles (amounts : List Nat) (fits : amounts.sum < amountLimit) :
    start.sumGained amounts = amounts.sum ∧
    IsLeast {level | amounts.sum ≤ exactTotal (level + 1)} (dueLevel amounts.sum) ∧
    (start.gainAll amounts).level ≤ dueLevel amounts.sum ∧
    ((start.gainAll amounts).level < dueLevel amounts.sum →
      ∃ risen, (start.gainAll amounts).gain 0 =
          (.ok (some ((start.gainAll amounts).level + 1)), risen) ∧
        risen.level = (start.gainAll amounts).level + 1) ∧
    ((start.gainAll amounts).level = dueLevel amounts.sum →
      (start.gainAll amounts).gain 0 = (.ok none, start.gainAll amounts)) ∧
    (start.gainAll amounts).gainAll
        (List.replicate (dueLevel amounts.sum - (start.gainAll amounts).level) 0) =
      settled amounts.sum := by
  have behind : (start.gainAll amounts).Behind amounts.sum := by
    have gathered := behind_start.gainAll amounts (by omega)
    rwa [Nat.zero_add] at gathered
  have level_le := behind.level_le
  refine ⟨?_, isLeast_dueLevel _, level_le, ?_, behind.gain_zero_of_due, ?_⟩
  · have balanced := balanced_start.gainAll amounts
    rw [Nat.zero_add] at balanced
    exact balanced.total.symm.trans behind.total
  · intro below
    obtain ⟨risen, called, level, -⟩ := behind.gain_zero_of_lt below
    exact ⟨risen, called, level⟩
  · exact behind.gainAll_zeros (by omega)

theorem dueLevel_thousand : dueLevel 1000 = 4 :=
  ((eq_dueLevel_iff (by decide)).mpr ⟨by decide, by decide⟩).symm

/-- A thousand points at once are due level four, and three calls that add nothing make up for it. -/
theorem gain_zero_settles_thousand :
    [1000].sum < amountLimit ∧ (start.gainAll [1000]).level = 1 ∧
    (start.gainAll [1000]).gainAll [0, 0, 0] = ⟨4, 230, 380, 1000⟩ := by
  have fits : [1000].sum < amountLimit := by decide
  obtain ⟨-, -, -, -, -, settles⟩ := gain_zero_settles [1000] fits
  have level : (start.gainAll [1000]).level = 1 := by decide +kernel
  have settled_eq : settled 1000 = ⟨4, 230, 380, 1000⟩ := by
    rw [settled, dueLevel_thousand]
    decide
  have sum : [1000].sum = 1000 := rfl
  rw [sum, dueLevel_thousand, level, settled_eq] at settles
  exact ⟨fits, level, settles⟩

end Progress

end TagWeave
