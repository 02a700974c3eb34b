import TagWeave.Leveling.Rates
import TagWeave.Proofs.Leveling.Settlement

/-! Experience from messages. With amounts no greater than what the second level takes a level-up is
never put off, so a member is where the sum is due after every call, and neither the order of the
amounts nor how they are batched matters. -/
namespace TagWeave

variable {sum amount : Nat}

theorem exactTarget_mono {lower upper : Nat} (below : lower ≤ upper) :
    exactTarget lower ≤ exactTarget upper := by
  have square : 5 * lower * lower ≤ 5 * upper * upper := Nat.mul_le_mul (by omega) below
  unfold exactTarget
  omega

/-- An amount no greater than the least target of a level that was reached puts off no level. -/
theorem dueLevel_add_le (small : amount ≤ exactTarget 1) :
    dueLevel (sum + amount) ≤ dueLevel sum + 1 := by
  have due : sum ≤ exactTotal (dueLevel sum + 1) := dueLevel_le_iff.mp (Nat.le_refl _)
  have target := exactTarget_mono (Nat.le_add_left 1 (dueLevel sum))
  rw [dueLevel_le_iff, exactTotal]
  omega

namespace Progress

variable {progress : Progress}

theorem Behind.gain_small (behind : progress.Behind sum) (due : progress.level = dueLevel sum)
    (small : amount ≤ exactTarget 1) (fits : sum + amount < amountLimit) :
    (progress.gain amount).2.Behind (sum + amount) ∧
      (progress.gain amount).2.level = dueLevel (sum + amount) := by
  obtain ⟨_, gained, called, after, stays | rises⟩ := behind.gain amount fits
  · rw [called]
    exact ⟨after, stays.2.2⟩
  · have most := @dueLevel_add_le sum amount small
    have level_le := after.level_le
    rw [called]
    exact ⟨after, by dsimp only; omega⟩

theorem Behind.gainAll_small (behind : progress.Behind sum) (due : progress.level = dueLevel sum)
    {amounts : List Nat} (small : ∀ amount ∈ amounts, amount ≤ exactTarget 1)
    (fits : sum + amounts.sum < amountLimit) :
    progress.gainAll amounts = settled (sum + amounts.sum) := by
  induction amounts generalizing progress sum with
  | nil => exact behind.eq_settled due
  | cons amount rest ih =>
    rw [List.sum_cons, ← Nat.add_assoc] at fits ⊢
    obtain ⟨after, level⟩ := behind.gain_small due (small amount List.mem_cons_self)
      (show sum + amount < amountLimit by omega)
    exact ih after level (fun other later => small other (List.mem_cons_of_mem _ later)) fits

/-- Small amounts lead to the settled progress of their sum. -/
theorem gainAll_start_small {amounts : List Nat} (small : ∀ amount ∈ amounts, amount ≤ exactTarget 1)
    (fits : amounts.sum < amountLimit) : start.gainAll amounts = settled amounts.sum := by
  have due : start.level = dueLevel 0 := (Nat.le_zero.mp (dueLevel_le_iff.mpr (Nat.zero_le _))).symm
  have gathered := behind_start.gainAll_small due small (by omega)
  rwa [Nat.zero_add] at gathered

theorem settled_current_le (sum : Nat) : (settled sum).current ≤ (settled sum).required := by
  have due : sum ≤ exactTotal (dueLevel sum + 1) := dueLevel_le_iff.mp (Nat.le_refl _)
  rw [exactTotal] at due
  simp only [settled]
  omega

/-- Of amounts no greater than the target of level one, every amount for a message among them, neither
the order nor the batching matters. Two rows of such amounts with one sum lead to the same progress.
After every call what was gathered stays within what the level takes, and the level is the only one
whose total is below the sum and whose next total is not, or zero as long as there is no sum. -/
theorem gainAll_small_determined (amounts others : List Nat)
    (small : ∀ amount ∈ amounts, amount ≤ 155) (others_small : ∀ amount ∈ others, amount ≤ 155)
    (sums : amounts.sum = others.sum) (fits : amounts.sum < amountLimit) :
    start.gainAll amounts = start.gainAll others ∧
    (∀ before, before <+: amounts →
      (start.gainAll before).current ≤ (start.gainAll before).required) ∧
    (amounts.sum = 0 → (start.gainAll amounts).level = 0) ∧
    (0 < amounts.sum → ∀ level, level = (start.gainAll amounts).level ↔
      exactTotal level < amounts.sum ∧ amounts.sum ≤ exactTotal (level + 1)) ∧
    targetXp 1 = .ok 155 ∧ ∀ draw, messageXp draw ≤ 155 := by
  have settles := gainAll_start_small small fits
  refine ⟨?_, ?_, ?_, ?_, rfl, ?_⟩
  · rw [settles, gainAll_start_small others_small (sums ▸ fits), sums]
  · intro before first
    obtain ⟨rest, rfl⟩ := first
    rw [List.sum_append] at fits
    have front := gainAll_start_small
      (fun amount listed => small amount (List.mem_append_left rest listed)) (by omega)
    rw [front]
    exact settled_current_le before.sum
  · intro nothing
    rw [settles, nothing]
    exact Nat.le_zero.mp (dueLevel_le_iff.mpr (Nat.zero_le _))
  · intro positive level
    rw [settles]
    exact eq_dueLevel_iff positive
  · intro draw
    have bound := draw.isLt
    simp only [messageXp, messageXpBounds]
    omega

/-- A hundred points as three messages and then a large one, or the two the other way round. -/
theorem gainAll_small_determined_messages :
    (∀ amount ∈ [25, 39, 36, 155], amount ≤ 155) ∧ (∀ amount ∈ [155, 100], amount ≤ 155) ∧
    [25, 39, 36, 155].sum = [155, 100].sum ∧ [25, 39, 36, 155].sum < amountLimit ∧
    start.gainAll [25, 39, 36, 155] = start.gainAll [155, 100] ∧
    start.gainAll [155, 100] = ⟨1, 155, 155, 255⟩ := by
  have small : ∀ amount ∈ [25, 39, 36, 155], amount ≤ 155 := by decide
  have others_small : ∀ amount ∈ [155, 100], amount ≤ 155 := by decide
  have sums : [25, 39, 36, 155].sum = [155, 100].sum := rfl
  have fits : [25, 39, 36, 155].sum < amountLimit := by decide
  have determined := gainAll_small_determined _ _ small others_small sums fits
  exact ⟨small, others_small, sums, fits, determined.1, by decide +kernel⟩

end Progress

end TagWeave
