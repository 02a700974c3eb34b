import Mathlib.Tactic.Ring
import TagWeave.Number.Layout
import TagWeave.Proofs.Text.Plain

/-! The texts of numbers in templates. They are made of digits, a sign, a point and the words for what
is not finite, so they hold no brace; and since the magnitudes of doubles are bounded on both sides,
so are the lengths of their texts. -/
namespace TagWeave

theorem Text.length_ofNat_le {n places : Nat} (positive : 0 < places) (small : n < 10 ^ places) :
    (ofNat n).length ≤ places :=
  (Nat.length_toDigits_le_iff (by decide) positive).mpr small

namespace Double

theorem plain_withSign {magnitude : Text} (negative : Bool) (plain : magnitude.Plain) :
    (withSign negative magnitude).Plain := by
  unfold withSign
  split
  · have sign : Text.Plain ['-'] := by decide
    exact sign.append plain
  · exact plain

theorem plain_plainDigits (decimal : Decimal) : (plainDigits [] decimal).Plain := by
  have digits := Text.plain_ofNat decimal.digits
  have zeros (count : Nat) : Text.Plain (List.replicate count '0') :=
    Text.plain_replicate (by decide) count
  unfold plainDigits
  dsimp only
  split
  · exact (digits.append (zeros _)).append Text.plain_nil
  · split
    · have point : Text.Plain ['.'] := by decide
      exact (digits.of_sublist (List.take_sublist _ _)).append
        (point.append (digits.of_sublist (List.drop_sublist _ _)))
    · have front : Text.Plain ['0', '.'] := by decide
      exact (front.append (zeros _)).append digits

theorem plain_text (n : Double) : n.text.Plain := by
  cases n with
  | nan => decide
  | signed negative rank =>
    simp only [text]
    split
    · exact plain_withSign negative (by decide)
    · split
      · decide
      · split
        · exact plain_withSign negative (Text.plain_ofNat _)
        · exact plain_withSign negative (plain_plainDigits _)

theorem two_pow_add (power : Nat) : 2 ^ (power + 1074) = 2 ^ power * unitsOfOne := by
  unfold unitsOfOne
  generalize 1074 = places
  exact pow_add 2 power places

theorem unitsOfOne_pos : 0 < unitsOfOne := by
  unfold unitsOfOne
  generalize 1074 = places
  exact Nat.pow_pos (by decide)

/-- A magnitude is below the power of two that its rank tells. -/
theorem unitsOfRank_lt (rank : Nat) : unitsOfRank rank < 2 ^ (rank / rankBlock + 52) := by
  have block : rankBlock = 2 ^ 52 := rfl
  have positive : 0 < rankBlock := by rw [block]; decide
  rw [unitsOfRank]
  split
  · rename_i small
    rw [Nat.div_eq_of_lt small, zero_add, ← block]
    exact small
  · rename_i large
    have quotient : 0 < rank / rankBlock := Nat.div_pos (by omega) positive
    have digits : rankBlock + rank % rankBlock < 2 ^ 53 := by
      have := Nat.mod_lt rank positive
      omega
    calc (rankBlock + rank % rankBlock) * Nat.pow 2 (rank / rankBlock - 1)
        < 2 ^ 53 * 2 ^ (rank / rankBlock - 1) :=
          Nat.mul_lt_mul_of_pos_right digits (Nat.pow_pos (by decide))
      _ = 2 ^ (rank / rankBlock + 52) := by rw [← pow_add]; congr 1; omega

theorem log2_unitsOfRank_le {rank : Nat} (finite : rank < topRank) :
    Nat.log2 (unitsOfRank rank) ≤ 2097 := by
  have block : topRank = 2047 * rankBlock := rfl
  have below : rank / rankBlock < 2047 := by
    apply (Nat.div_lt_iff_lt_mul (by decide)).mpr
    omega
  by_cases zero : unitsOfRank rank = 0
  · simp [zero]
  · have := (Nat.log2_lt zero).mpr (unitsOfRank_lt rank)
    omega

theorem unitsOfRank_lt_tens {rank tens : Nat} (bits : Nat)
    (few : Nat.log2 (unitsOfRank rank) < bits + 1074)
    (enough : 2 ^ bits ≤ 10 ^ tens) : unitsOfRank rank < 10 ^ tens * unitsOfOne := by
  calc unitsOfRank rank < 2 ^ (Nat.log2 (unitsOfRank rank) + 1) := Nat.lt_log2_self
    _ ≤ 2 ^ (bits + 1074) := Nat.pow_le_pow_right (by decide) few
    _ = 2 ^ bits * unitsOfOne := two_pow_add bits
    _ ≤ 10 ^ tens * unitsOfOne := Nat.mul_le_mul_right _ enough

variable {tie : Tie} {rank : Nat}

/-- The digits on a grid are those of the magnitude, rounded up at most. -/
theorem digits_le_of_pointOn {exponent : Int} {digits : Nat}
    (found : pointOn tie rank exponent = some digits) :
    digits ≤ 2 * unitsOfRank rank * (gridStep exponent).2 / (gridStep exponent).1 + 1 := by
  unfold pointOn at found
  dsimp only at found
  split at found
  · cases found
  · cases found
    omega
  · cases found
    omega
  · split at found
    · cases found
      omega
    · split at found
      · cases found
        omega
      · split at found
        · cases found
          omega
        · cases found
          split <;> omega

/-- What a search finds lies on one of the grids that it tries. -/
theorem searchFrom_spec (grids : Nat) (start : Int) :
    start - grids ≤ (searchFrom tie rank grids start).exponent ∧
    (searchFrom tie rank grids start).exponent ≤ start ∧
    ((searchFrom tie rank grids start).digits = 0 ∨
      pointOn tie rank (searchFrom tie rank grids start).exponent =
        some (searchFrom tie rank grids start).digits) := by
  induction grids generalizing start with
  | zero => simp [searchFrom]
  | succ grids ih =>
    simp only [searchFrom]
    split
    · rename_i digits found
      exact ⟨by simp; omega, Int.le_refl _, .inr found⟩
    · obtain ⟨low, high, digits⟩ := ih (start - 1)
      exact ⟨by push_cast; omega, by omega, digits⟩

theorem length_digits_le_of_whole {digits power : Nat} (tens : Nat)
    (small : unitsOfRank rank < 10 ^ (tens + power) * unitsOfOne)
    (found : pointOn tie rank power = some digits) : (Text.ofNat digits).length ≤ tens + 1 := by
  have bound := digits_le_of_pointOn found
  have step : gridStep (power : Int) = (2 * unitsOfOne * 10 ^ power, 1) := by simp [gridStep]
  have positive : 0 < 2 * unitsOfOne * 10 ^ power :=
    Nat.mul_pos (Nat.mul_pos (by decide) unitsOfOne_pos) (Nat.pow_pos (by decide))
  have quotient : 2 * unitsOfRank rank / (2 * unitsOfOne * 10 ^ power) < 10 ^ tens := by
    rw [Nat.div_lt_iff_lt_mul positive]
    calc 2 * unitsOfRank rank < 2 * (10 ^ (tens + power) * unitsOfOne) := by omega
      _ = 10 ^ tens * (2 * unitsOfOne * 10 ^ power) := by rw [pow_add]; ring
  have next : 10 ^ tens < 10 ^ (tens + 1) := Nat.pow_lt_pow_right (by decide) (by omega)
  apply Text.length_ofNat_le (by omega)
  rw [step] at bound
  simp only [mul_one] at bound
  omega

theorem length_digits_le_of_fraction {digits places : Nat} (tens : Nat) (positive : 0 < places)
    (small : unitsOfRank rank < 10 ^ tens * unitsOfOne)
    (found : pointOn tie rank (-places) = some digits) :
    (Text.ofNat digits).length ≤ tens + places + 1 := by
  have bound := digits_le_of_pointOn found
  have step : gridStep (-(places : Int)) = (2 * unitsOfOne, 10 ^ places) := by
    simp [gridStep, positive.ne']
  have quotient : 2 * unitsOfRank rank * 10 ^ places / (2 * unitsOfOne) < 10 ^ (tens + places) := by
    rw [Nat.div_lt_iff_lt_mul (Nat.mul_pos (by decide) unitsOfOne_pos)]
    calc 2 * unitsOfRank rank * 10 ^ places
        < 2 * (10 ^ tens * unitsOfOne) * 10 ^ places :=
          Nat.mul_lt_mul_of_pos_right (by omega) (Nat.pow_pos (by decide))
      _ = 10 ^ (tens + places) * (2 * unitsOfOne) := by rw [pow_add]; ring
  have next : 10 ^ (tens + places) < 10 ^ (tens + places + 1) :=
    Nat.pow_lt_pow_right (by decide) (by omega)
  apply Text.length_ofNat_le (by omega)
  rw [step] at bound
  dsimp only at bound
  omega

theorem length_plainDigits (decimal : Decimal) :
    (plainDigits [] decimal).length ≤
      (Text.ofNat decimal.digits).length + decimal.exponent.toNat + 1 ∨
    (plainDigits [] decimal).length ≤ 2 + (-decimal.exponent).toNat := by
  unfold plainDigits
  dsimp only
  split
  · left
    simp
  · split
    · left
      simp only [List.length_append, List.length_cons, List.length_take, List.length_drop]
      omega
    · right
      simp only [List.length_append, List.length_cons, List.length_replicate]
      omega

theorem length_magnitude_le (finite : rank < topRank) :
    (templateLayout.magnitude rank).length ≤ 370 := by
  have high := log2_unitsOfRank_le finite
  have magnitude : templateLayout.magnitude rank = plainDigits [] (shortest .upward rank) := rfl
  rw [magnitude, shortest]
  generalize start_eq : ((Nat.log2 (unitsOfRank rank) + 1 - 1074 : Int) * 30103 / 100000 + 2) = start
  obtain ⟨low, top, origin⟩ := @searchFrom_spec .upward rank 22 start
  have shape := length_plainDigits (searchFrom .upward rank 22 start)
  generalize searchFrom .upward rank 22 start = decimal at low top origin shape ⊢
  have digits : (Text.ofNat decimal.digits).length + decimal.exponent.toNat ≤ 368 := by
    rcases origin with zero | found
    · have single : (Text.ofNat decimal.digits).length = 1 := by rw [zero]; decide
      omega
    · rcases lt_or_ge decimal.exponent 0 with fraction | whole
      · obtain ⟨places, places_eq⟩ := Int.eq_ofNat_of_zero_le (a := -decimal.exponent) (by omega)
        rw [show decimal.exponent = -(places : Int) by omega] at found
        have bound := length_digits_le_of_fraction 21 (by omega)
          (unitsOfRank_lt_tens 67 (by omega) (by decide)) found
        omega
      · obtain ⟨power, power_eq⟩ := Int.eq_ofNat_of_zero_le whole
        rw [power_eq] at found
        have bound := length_digits_le_of_whole (310 - power)
          (unitsOfRank_lt_tens 1024 (by omega) (by
            rw [show 310 - power + power = 310 by omega]
            decide +kernel)) found
        omega
  omega

theorem length_text_le (n : Double) : n.text.length ≤ 400 := by
  cases n with
  | nan => decide
  | signed negative rank =>
    have sign : ∀ magnitude : Text, (withSign negative magnitude).length ≤ magnitude.length + 1 := by
      intro magnitude
      cases negative <;> simp [withSign]
    simp only [text]
    split
    · exact (sign _).trans (by decide)
    · split
      · decide
      · split
        · rename_i whole
          simp only [Bool.and_eq_true, decide_eq_true_eq] at whole
          have digits : (Text.ofNat (signed negative rank).whole).length ≤ 21 :=
            Text.length_ofNat_le (by decide) whole.2
          exact (sign _).trans (by omega)
        · have finite : rank.val < topRank := by omega
          have digits := length_magnitude_le finite
          exact (sign _).trans (by omega)

end Double

end TagWeave
