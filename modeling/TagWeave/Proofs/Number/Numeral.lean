import TagWeave.Proofs.Number.Grammar

/-! The characters that numerals are made of: digits, signs, points and the letters of exponents. A text
with any other character in it is no numeral, the word for infinity apart; white space is in none. -/
namespace TagWeave

namespace Number

variable {text part sign mantissa exponent : Text}

def isNumeralChar (c : Char) : Bool := c.isDigit || ['+', '-', '.', 'e', 'E'].contains c

theorem isNumeralChar_of_isDigit {c : Char} (digit : c.isDigit = true) : isNumeralChar c = true := by
  simp [isNumeralChar, digit]

theorem IsSign.all_isNumeralChar (signed : IsSign sign) : ∀ c ∈ sign, isNumeralChar c = true := by
  rcases signed with rfl | rfl | rfl <;> simp [isNumeralChar]

theorem all_isNumeralChar_of_isDigits (decimal : Text.isDigits text = true) :
    ∀ c ∈ text, isNumeralChar c = true := fun c member =>
  isNumeralChar_of_isDigit ((Text.isDigits_iff.mp decimal).2 c member)

/-- What follows the sign decides whether a text is made of the characters of numerals. -/
theorem all_isNumeralChar_of_takeSign
    (rest : ∀ c ∈ (takeSign text).2, isNumeralChar c = true) : ∀ c ∈ text, isNumeralChar c = true := by
  obtain ⟨sign, signed, whole, -⟩ := exists_sign text
  rw [whole]
  exact List.forall_mem_append.mpr ⟨signed.all_isNumeralChar, rest⟩

theorem IsMantissa.all_isNumeralChar (counted : IsMantissa mantissa) :
    ∀ c ∈ mantissa, isNumeralChar c = true := by
  intro c member
  rcases counted.forall c member with digit | rfl
  · exact isNumeralChar_of_isDigit digit
  · rfl

theorem IsExponent.all_isNumeralChar (scaled : IsExponent exponent) :
    ∀ c ∈ exponent, isNumeralChar c = true := by
  cases scaled with
  | missing => simp
  | power named signed decimal =>
    refine List.forall_mem_cons.mpr ⟨?_, List.forall_mem_append.mpr
      ⟨signed.all_isNumeralChar, all_isNumeralChar_of_isDigits decimal⟩⟩
    rcases named with rfl | rfl <;> rfl

theorem IsDecimal.all_isNumeralChar (decimal : IsDecimal text) :
    ∀ c ∈ text, isNumeralChar c = true := by
  obtain ⟨mantissa, exponent, counted, scaled, rfl⟩ := decimal
  exact List.forall_mem_append.mpr ⟨counted.all_isNumeralChar, scaled.all_isNumeralChar⟩

theorem all_isNumeralChar_of_numeral? {n : Double} (read : numeral? text = some n) :
    ∀ c ∈ text, isNumeralChar c = true := by
  obtain ⟨sign, body, signed, decimal, rfl⟩ := exists_decimal_of_numeral? read
  exact List.forall_mem_append.mpr ⟨signed.all_isNumeralChar, decimal.all_isNumeralChar⟩

theorem isBlank_of_isNumeralChar {c : Char} (numeral : isNumeralChar c = true) :
    Text.isBlank c = false := by
  rcases Bool.or_eq_true_iff.mp numeral with digit | other
  · exact Text.isBlank_of_isDigit digit
  · have each : ['+', '-', '.', 'e', 'E'].all (fun c => !Text.isBlank c) = true := by decide
    simpa using List.all_eq_true.mp each c (by simpa using other)

theorem IsNumeral.forall_solid (numeral : IsNumeral part) : ∀ c ∈ part, Text.isBlank c = false := by
  cases numeral with
  | infinity signed =>
    have letters : "Infinity".toList.all (fun c => !Text.isBlank c) = true := by decide
    refine List.forall_mem_append.mpr ⟨fun c member =>
      isBlank_of_isNumeralChar (signed.all_isNumeralChar c member), fun c member => ?_⟩
    simpa using List.all_eq_true.mp letters c member
  | decimal signed decimal =>
    exact List.forall_mem_append.mpr ⟨fun c member =>
      isBlank_of_isNumeralChar (signed.all_isNumeralChar c member), fun c member =>
      isBlank_of_isNumeralChar (decimal.all_isNumeralChar c member)⟩

end Number

end TagWeave
