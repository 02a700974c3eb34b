import TagWeave.Proofs.Number.Written

/-! Doubles that are rounded from their own magnitudes come out as they were. So a whole double is the
one nearest to its integer, whatever its size. -/
namespace TagWeave.Double

variable {rank shift significand : Nat} {n : Double}

theorem rankBlock_eq : rankBlock = 2 ^ 52 := rfl

theorem roundDiv_mul (quotient : Nat) {denominator : Nat} (positive : 0 < denominator) :
    roundDiv (quotient * denominator) denominator = quotient := by
  unfold roundDiv
  simp only [Nat.mul_div_cancel _ positive, Nat.mul_mod_left]
  rw [if_pos (.inl positive)]

/-- The leading bit of a significand of fifty-three bits, shifted. -/
theorem log2_shifted (low : rankBlock ≤ significand) (high : significand < 2 * rankBlock) :
    Nat.log2 (significand * 2 ^ shift) = 52 + shift := by
  rw [rankBlock_eq] at low high
  have positive : 0 < 2 ^ shift := Nat.two_pow_pos shift
  have least := Nat.mul_le_mul_right (2 ^ shift) low
  have most := Nat.mul_lt_mul_of_pos_right high positive
  have nonzero : significand * 2 ^ shift ≠ 0 := (Nat.mul_pos (by omega) positive).ne'
  rw [Nat.log2_eq_iff nonzero, pow_add, Nat.add_right_comm, pow_add]
  exact ⟨least, by omega⟩

theorem rankOfUnits_of_small (small : rank < rankBlock) : rankOfUnits rank 1 = min topRank rank := by
  have few : Nat.log2 rank - 52 = 0 := by
    rcases Nat.eq_zero_or_pos rank with rfl | positive
    · rfl
    · have below := (Nat.log2_lt positive.ne').mpr small
      omega
  have whole := roundDiv_mul rank Nat.one_pos
  rw [Nat.mul_one] at whole
  simp only [rankOfUnits, Nat.div_one, few, Nat.pow_eq, pow_zero, Nat.mul_one, whole, Nat.zero_mul,
    Nat.zero_add]

theorem rankOfUnits_shifted (low : rankBlock ≤ significand) (high : significand < 2 * rankBlock) :
    rankOfUnits (significand * 2 ^ shift) 1 = min topRank (shift * rankBlock + significand) := by
  have bits : Nat.log2 (significand * 2 ^ shift) = 52 + shift := log2_shifted low high
  have whole := roundDiv_mul significand (Nat.two_pow_pos shift)
  simp only [rankOfUnits, Nat.div_one, bits, Nat.add_sub_cancel_left, Nat.pow_eq, Nat.one_mul, whole]

theorem rankOfUnits_unitsOfRank (bounded : rank ≤ topRank) : rankOfUnits (unitsOfRank rank) 1 = rank := by
  have positive : 0 < rankBlock := by decide
  rw [unitsOfRank]
  split
  · rename_i small
    rw [rankOfUnits_of_small small, Nat.min_eq_right bounded]
  · rename_i large
    have block : 0 < rank / rankBlock := Nat.div_pos (Nat.le_of_not_lt large) positive
    have rest : rank % rankBlock < rankBlock := Nat.mod_lt rank positive
    have parts : rankBlock * (rank / rankBlock) + rank % rankBlock = rank := Nat.div_add_mod rank rankBlock
    obtain ⟨shift, shift_eq⟩ := Nat.exists_eq_add_one_of_ne_zero block.ne'
    rw [shift_eq, Nat.mul_add, Nat.mul_one, Nat.mul_comm] at parts
    rw [shift_eq, Nat.add_sub_cancel, Nat.pow_eq,
      rankOfUnits_shifted (Nat.le_add_right _ _) (by omega)]
    omega

theorem unitsOfRank_eq_zero_iff : unitsOfRank rank = 0 ↔ rank = 0 := by
  have positive : 0 < rankBlock := by decide
  rw [unitsOfRank]
  split
  · rfl
  · rename_i large
    have some_units : 0 < (rankBlock + rank % rankBlock) * Nat.pow 2 (rank / rankBlock - 1) :=
      Nat.mul_pos (by omega) (Nat.pow_pos (by decide))
    omega

theorem ofUnits_unitsOfRank (negative : Bool) (rank : Fin (topRank + 1)) :
    ofUnits negative (unitsOfRank rank.val) 1 = .signed negative rank := by
  simp only [ofUnits, rankOfUnits_unitsOfRank (Nat.le_of_lt_succ rank.isLt)]

/-- A whole double is the one nearest to its integer; only the sign of zero is lost. -/
theorem ofInt_whole_same (integral : n.isIntegral = true) :
    (ofInt (if n.isNegative then -n.whole else n.whole)).same n = true := by
  cases n with
  | nan => cases integral
  | signed negative rank =>
    simp only [isIntegral, Bool.and_eq_true, beq_iff_eq] at integral
    have units : (signed negative rank).whole * unitsOfOne = unitsOfRank rank.val :=
      Nat.div_mul_cancel (Nat.dvd_of_mod_eq_zero integral.2)
    generalize (signed negative rank).whole = whole at units ⊢
    have ofInt_eq (k : Int) (magnitude : k.natAbs = whole) : ofInt k = signed (decide (k < 0)) rank := by
      rw [ofInt, ofRatio, magnitude, units, ofUnits_unitsOfRank]
    cases negative with
    | false =>
      have sign : ¬ (whole : Int) < 0 := by omega
      simp [isNegative, ofInt_eq whole rfl, same, compareWith, sign]
    | true =>
      by_cases zero : whole = 0
      · rw [zero, Nat.zero_mul] at units
        have least := unitsOfRank_eq_zero_iff.mp units.symm
        simp [isNegative, ofInt_eq (-whole) (Int.natAbs_neg _), same, compareWith, key, least]
      · have sign : 0 < whole := by omega
        simp [isNegative, ofInt_eq (-whole) (Int.natAbs_neg _), same, compareWith, sign]

/-- Equal doubles are identical but for the sign of zero. -/
theorem eq_or_isZero_of_same {m n : Double} (equal : m.same n = true) :
    m = n ∨ m.isZero = true ∧ n.isZero = true := by
  cases m with
  | nan => cases equal
  | signed negative rank =>
    cases n with
    | nan => cases equal
    | signed other_negative other =>
      simp only [same, compareWith, key, beq_iff_eq] at equal
      simp only [isZero, beq_iff_eq, signed.injEq, Fin.ext_iff]
      cases negative <;> cases other_negative <;>
        simp only [Bool.false_eq_true, reduceCtorEq, ↓reduceIte, true_and, false_and, false_or] at equal ⊢ <;>
        omega

end TagWeave.Double
