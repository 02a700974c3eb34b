import TagWeave.Number.Operand
import TagWeave.Proofs.Number.Exact
import TagWeave.Proofs.Text.Digits
import TagWeave.Proofs.Text.Trimming

/-! Whole numbers read from digits. A numeral is read through its quotient by a power of ten, rounded
once; a whole number of fifty-three bits is a double, so nothing is lost on it and it is its own
index. -/
namespace TagWeave

namespace Double

variable {n : Nat}

/-- A quotient is rounded alike in its terms and in multiples of them. -/
theorem rankOfUnits_mul {factor : Nat} (positive : 0 < factor) (numerator denominator : Nat) :
    rankOfUnits (factor * numerator) (factor * denominator) = rankOfUnits numerator denominator := by
  have rounded (scale : Nat) :
      roundDiv (factor * numerator) (factor * (denominator * scale)) =
        roundDiv numerator (denominator * scale) := by
    have half (rest : Nat) : 2 * (factor * rest) = factor * (2 * rest) := Nat.mul_left_comm _ _ _
    simp only [roundDiv, Nat.mul_div_mul_left _ _ positive, Nat.mul_mod_mul_left, half,
      Nat.mul_lt_mul_left positive, Nat.mul_right_inj positive.ne']
  simp only [rankOfUnits, Nat.mul_div_mul_left _ _ positive, Nat.mul_assoc, rounded]

theorem ofRatio_mul {factor : Nat} (positive : 0 < factor) (negative : Bool)
    (numerator denominator : Nat) :
    ofRatio negative (factor * numerator) (factor * denominator) =
      ofRatio negative numerator denominator := by
  have same := rankOfUnits_mul positive (numerator * unitsOfOne) denominator
  rw [← Nat.mul_assoc] at same
  simp only [ofRatio, ofUnits, same]

/-- The magnitude of a rank by its block and its place there. -/
theorem unitsOfRank_shifted {shift significand : Nat} (low : rankBlock ≤ significand)
    (high : significand < 2 * rankBlock) :
    unitsOfRank (shift * rankBlock + significand) = significand * 2 ^ shift := by
  obtain ⟨place, rfl⟩ := Nat.exists_eq_add_of_le low
  have inside : place < rankBlock := by omega
  have positive : 0 < rankBlock := by omega
  have parts : shift * rankBlock + (rankBlock + place) = rankBlock * (shift + 1) + place := by ring
  have large : ¬ rankBlock * (shift + 1) + place < rankBlock := by
    rw [← parts]
    omega
  rw [parts, unitsOfRank, if_neg large, Nat.mul_add_mod, Nat.mod_eq_of_lt inside,
    Nat.mul_add_div positive, Nat.div_eq_of_lt inside]
  rfl

/-- Whole numbers of fifty-three bits are magnitudes of doubles. -/
theorem exists_unitsOfRank_eq (small : n < 2 ^ 53) :
    ∃ rank < topRank, unitsOfRank rank = n * unitsOfOne := by
  have positive : 0 < rankBlock := by decide
  have top : topRank = 2047 * rankBlock := rfl
  by_cases zero : n = 0
  · refine ⟨0, by omega, ?_⟩
    rw [zero, Nat.zero_mul, unitsOfRank, if_pos positive]
  · have bits : Nat.log2 n < 53 := (Nat.log2_lt zero).mpr small
    obtain ⟨shift, total⟩ : ∃ shift, Nat.log2 n + shift = 52 := ⟨52 - Nat.log2 n, by omega⟩
    have block : rankBlock = 2 ^ Nat.log2 n * 2 ^ shift := by
      rw [← pow_add, total, rankBlock_eq]
    have low : rankBlock ≤ n * 2 ^ shift := by
      rw [block]
      exact Nat.mul_le_mul_right _ (Nat.log2_self_le zero)
    have high : n * 2 ^ shift < 2 * rankBlock := by
      rw [block, ← Nat.mul_assoc, ← pow_succ']
      exact Nat.mul_lt_mul_of_pos_right Nat.lt_log2_self (Nat.two_pow_pos shift)
    have exponent : shift + (Nat.log2 n + 1022) = 0 + 1074 := by omega
    refine ⟨(Nat.log2 n + 1022) * rankBlock + n * 2 ^ shift, ?_, ?_⟩
    · have block_le := Nat.mul_le_mul_right rankBlock (by omega : Nat.log2 n + 1022 ≤ 1074)
      omega
    · rw [unitsOfRank_shifted low high, Nat.mul_assoc, ← pow_add, exponent, two_pow_add 0]
      simp

theorem ofNat_whole (small : n < 2 ^ 53) :
    (ofNat n).isIntegral = true ∧ (ofNat n).isNegative = false ∧ (ofNat n).whole = n := by
  obtain ⟨rank, finite, units⟩ := exists_unitsOfRank_eq small
  have exact : ofNat n = .signed false ⟨rank, by omega⟩ := by
    rw [← ofUnits_unitsOfRank, units, ofNat, ofRatio]
  rw [exact]
  refine ⟨?_, rfl, ?_⟩
  · simp [isIntegral, isFinite, isNan, isInfinite, Double.units, units, finite.ne]
  · simp [whole, Double.units, units, unitsOfOne_pos]

/-- A whole number may be read with one place more. -/
theorem ofDecimal_tenfold (n : Nat) : ofDecimal false (10 * n) (-1) = ofNat n := by
  by_cases zero : n = 0
  · have least : ofUnits false (unitsOfRank 0) 1 = zeroOf false := ofUnits_unitsOfRank false 0
    have none : unitsOfRank 0 = 0 := unitsOfRank_eq_zero_iff.mpr rfl
    rw [none] at least
    rw [zero, ofNat, ofRatio, Nat.zero_mul, least]
    rfl
  · have some_digits : 10 * n ≠ 0 := by omega
    have place : Nat.pow 10 (- -1 : Int).toNat = 10 * 1 := rfl
    rw [ofDecimal, if_neg some_digits, if_neg (by omega), if_neg (by omega), if_neg (by omega),
      place, ofRatio_mul (by decide), ofNat]

end Double

namespace Number

variable {digits : Text}

/-- Digits spell the double that is nearest to their number. -/
theorem spelled_digits (decimal : ∀ c ∈ digits, c.isDigit = true)
    (few : Text.natOfDigits digits < 10 ^ decisiveDigits) :
    spelled false digits [] 0 = .ofNat (Text.natOfDigits digits) := by
  have short := Text.length_dropWhile_zero_le decimal few
  have whole := Text.natOfDigits_dropWhile_zero digits
  unfold spelled
  rw [List.append_nil]
  generalize digits.dropWhile (· == '0') = counted at short whole ⊢
  simp only [List.drop_eq_nil_of_le short, List.take_of_length_le short, List.all_nil, if_true,
    Text.natOfDigits_concat, whole]
  exact Double.ofDecimal_tenfold _

theorem takeSign_digits (decimal : ∀ c ∈ digits, c.isDigit = true) :
    takeSign digits = (false, digits) := by
  have unsigned (sign : Char) (other : sign.isDigit = false) :=
    Text.not_mem_of_isDigit decimal other
  unfold takeSign
  split
  · exact absurd List.mem_cons_self (unsigned '-' rfl)
  · exact absurd List.mem_cons_self (unsigned '+' rfl)
  · rfl

theorem numeral?_digits (nonempty : digits ≠ []) (decimal : ∀ c ∈ digits, c.isDigit = true) :
    numeral? digits = some (spelled false digits [] 0) := by
  have without {mark : Char} (other : mark.isDigit = false) := Text.not_mem_of_isDigit decimal other
  have unpowered : (digits.dropWhile fun c => c != 'e' && c != 'E') = [] := by
    rw [List.dropWhile_eq_nil_iff]
    intro c member
    have lower : c ≠ 'e' := fun same => without rfl (same ▸ member)
    have upper : c ≠ 'E' := fun same => without rfl (same ▸ member)
    simp [lower, upper]
  have mantissa : mantissa? digits = some (digits, []) := by
    rw [mantissa?, Text.cutAt_eq_none_iff.mpr (without rfl)]
    simpa [nonempty] using decimal
  rw [numeral?, takeSign_digits decimal]
  simp only [unpowered, mantissa, Option.map_some]

/-- A numeral of few digits stands for the double that is nearest to its number. -/
theorem operand?_digits (decimal : Text.isDigits digits = true)
    (few : Text.natOfDigits digits < 10 ^ decisiveDigits) :
    operand? digits = some (.ofNat (Text.natOfDigits digits)) := by
  obtain ⟨nonempty, each⟩ := Text.isDigits_iff.mp decimal
  have trimmed := Text.trim_eq_self fun c member => Text.isBlank_of_isDigit (each c member)
  have wordless : digits ≠ "Infinity".toList := by
    intro word
    have letter : 'I' ∈ digits := word ▸ List.mem_cons_self
    exact Text.not_mem_of_isDigit each rfl letter
  rw [operand?, trimmed, if_neg nonempty, takeSign_digits each, if_neg wordless,
    numeral?_digits nonempty each, spelled_digits each few]

/-- Digits are an index of their own number, as long as it is a double. -/
theorem index?_digits (decimal : Text.isDigits digits = true)
    (small : Text.natOfDigits digits < 2 ^ 53) :
    index? digits = some (Text.natOfDigits digits) := by
  have few : Text.natOfDigits digits < 10 ^ decisiveDigits := by
    have bits : 2 ^ 53 < 10 ^ 16 := by decide
    have places : 10 ^ 16 ≤ 10 ^ decisiveDigits := Nat.pow_le_pow_right (by decide) (by decide)
    omega
  obtain ⟨integral, natural, whole⟩ := Double.ofNat_whole small
  rw [index?, operand?_digits decimal few]
  simp [integral, natural, whole]

end Number

end TagWeave
