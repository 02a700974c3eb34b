import TagWeave.Proofs.Number.Numeral
import TagWeave.Proofs.Text.Digits
import TagWeave.Settings.Layer

/-! How a text comes through a variable. A variable is read as a flag, a whole number or a double before
it is taken for a text, and where a text is needed after all, that is written again. So a text is kept if
it spells none of these, or spells it just as it is written; every other spelling is lost. -/
namespace TagWeave

namespace Text

variable {digits : Text}

/-- A whole number as it is written: a sign only below zero, and no zero before other digits. -/
def IsWhole (text : Text) : Prop :=
  text = ['0'] ∨ ∃ digits, isDigits digits = true ∧ digits.head? ≠ some '0' ∧
    (text = digits ∨ text = '-' :: digits)

theorem not_isDigits_cons {sign : Char} (other : sign.isDigit = false) :
    ¬ isDigits (sign :: digits) = true := by
  intro decimal
  rw [(isDigits_iff.mp decimal).2 sign List.mem_cons_self] at other
  cases other

theorem isWhole_iff_of_isDigits (decimal : isDigits digits = true) :
    digits.IsWhole ↔ digits = ['0'] ∨ digits.head? ≠ some '0' := by
  constructor
  · rintro (zero | ⟨others, -, leading, rfl | rfl⟩)
    · exact .inl zero
    · exact .inr leading
    · exact absurd decimal (not_isDigits_cons rfl)
  · rintro (zero | leading)
    · exact .inl zero
    · exact .inr ⟨digits, decimal, leading, .inl rfl⟩

theorem isWhole_minus_iff (decimal : isDigits digits = true) :
    IsWhole ('-' :: digits) ↔ digits.head? ≠ some '0' := by
  constructor
  · rintro (zero | ⟨others, others_decimal, leading, rfl | same⟩)
    · cases zero
    · exact absurd others_decimal (not_isDigits_cons rfl)
    · cases same
      exact leading
  · intro leading
    exact .inr ⟨digits, decimal, leading, .inr rfl⟩

theorem not_isWhole_plus (digits : Text) : ¬ IsWhole ('+' :: digits) := by
  rintro (zero | ⟨others, others_decimal, -, rfl | same⟩)
  · cases zero
  · exact absurd others_decimal (not_isDigits_cons rfl)
  · cases same

end Text

namespace Setting

variable {text : Text}

/-- The text that a variable gives where a text is needed. -/
def respelled (text : Text) : Text := ((ofText text).asText?).getD []

theorem asText?_ofText (text : Text) : (ofText text).asText? = some (respelled text) := by
  unfold respelled ofText
  cases flagWord? text with
  | some value => rfl
  | none =>
    cases integerText? text with
    | some n => rfl
    | none => cases doubleText? text <;> rfl

def flagWords : List Text := ["true".toList, "false".toList]

def numberWords : List Text := ["nan".toList, "inf".toList, "infinity".toList]

/-- A text that comes through a variable as it is. What it spells, it spells as it is written. -/
structure KeepsSpelling (text : Text) : Prop where
  /-- A word for a flag is in lower case. -/
  flag : Text.lower text ∈ flagWords → Text.lower text = text
  integer : (integerText? text).isSome = true → text.IsWhole
  /-- A number that fits no whole one is written in its shortest digits, without an exponent. -/
  number : ∀ n, integerText? text = none → doubleText? text = some n → numberText n = text

/-- A text that spells a whole number is digits, with a sign before them or without. -/
theorem exists_digits_of_integerText? {n : Int} (read : integerText? text = some n) :
    ∃ digits, Text.isDigits digits = true ∧
      ((text = '-' :: digits ∧ n = -(Text.natOfDigits digits : Int)) ∨
        (text = '+' :: digits ∧ n = Text.natOfDigits digits) ∨
        (text = digits ∧ n = Text.natOfDigits digits)) := by
  change wordOfDigits? (Number.takeSign text).1 (Number.takeSign text).2 = some n at read
  obtain ⟨decimal, read⟩ := Option.ite_none_right_eq_some.mp read
  obtain ⟨value, below, read⟩ := Option.bind_eq_some_iff.mp read
  obtain ⟨-, same⟩ := Option.ite_none_right_eq_some.mp read
  have number := Option.some.inj same
  rw [Text.eq_natOfDigits_of_natBelow? below] at number
  rcases Number.takeSign_cases text with ⟨digits, whole, signed⟩ | ⟨digits, whole, signed⟩ | signed
  · rw [signed] at decimal number
    exact ⟨digits, decimal, .inl ⟨whole, number.symm⟩⟩
  · rw [signed] at decimal number
    exact ⟨digits, decimal, .inr (.inl ⟨whole, number.symm⟩)⟩
  · rw [signed] at decimal number
    exact ⟨text, decimal, .inr (.inr ⟨rfl, number.symm⟩)⟩

theorem text_natural (n : Nat) : Json.Number.text (.integer n) = Text.ofNat n := by
  have natural : ¬ (n : Int) < 0 := by omega
  rw [Json.Number.text, decide_eq_false natural, Int.natAbs_natCast]
  rfl

theorem text_negative {n : Nat} (positive : 0 < n) :
    Json.Number.text (.integer (-n)) = '-' :: Text.ofNat n := by
  have negative : -(n : Int) < 0 := by omega
  rw [Json.Number.text, decide_eq_true negative, Int.natAbs_neg, Int.natAbs_natCast]
  rfl

/-- Of the spellings of a whole number only the one that it is written with is kept. -/
theorem text_integer_eq_iff {n : Int} (read : integerText? text = some n) :
    Json.Number.text (.integer n) = text ↔ text.IsWhole := by
  obtain ⟨digits, decimal, written⟩ := exists_digits_of_integerText? read
  have spelled := Text.ofNat_natOfDigits_iff decimal
  rcases written with ⟨rfl, rfl⟩ | ⟨rfl, rfl⟩ | ⟨rfl, rfl⟩
  · rw [Text.isWhole_minus_iff decimal]
    by_cases zero : Text.natOfDigits digits = 0
    · rw [zero]
      constructor
      · intro same
        cases same
      · intro leading
        have only : digits = ['0'] := by
          rw [← Text.ofNat_natOfDigits decimal leading, zero]
          rfl
        rw [only] at leading
        exact absurd rfl leading
    · rw [text_negative (Nat.pos_of_ne_zero zero), List.cons.injEq, and_iff_right rfl, spelled,
        or_iff_right]
      rintro rfl
      exact zero rfl
  · rw [text_natural]
    refine iff_of_false (fun same => ?_) (Text.not_isWhole_plus digits)
    have sign : '+' ∈ Text.ofNat (Text.natOfDigits digits) := same ▸ List.mem_cons_self
    exact absurd (Nat.isDigit_of_mem_toDigits (by decide) (by decide) sign) (by decide)
  · rw [text_natural, spelled, Text.isWhole_iff_of_isDigits decimal]

theorem mem_flagWords_iff : text ∈ flagWords ↔ text = "true".toList ∨ text = "false".toList :=
  List.mem_cons.trans (or_congr_right List.mem_singleton)

theorem flagWord?_eq_none_iff : flagWord? text = none ↔ Text.lower text ∉ flagWords := by
  unfold flagWord? flagWords
  dsimp only
  split
  · simp_all
  · split <;> simp_all

theorem respelled_of_flag (flag : Text.lower text ∈ flagWords) :
    respelled text = Text.lower text := by
  have truth : flagWord? text = some (Text.lower text == "true".toList) := by
    rcases mem_flagWords_iff.mp flag with word | word <;> rw [flagWord?, word] <;> rfl
  rw [respelled, ofText, truth]
  rcases mem_flagWords_iff.mp flag with word | word <;> rw [word] <;> rfl

theorem respelled_of_integer {n : Int} (flag : Text.lower text ∉ flagWords)
    (integer : integerText? text = some n) : respelled text = Json.Number.text (.integer n) := by
  rw [respelled, ofText, flagWord?_eq_none_iff.mpr flag, integer]
  rfl

theorem respelled_of_number {n : Double} (flag : Text.lower text ∉ flagWords)
    (integer : integerText? text = none) (number : doubleText? text = some n) :
    respelled text = numberText n := by
  rw [respelled, ofText, flagWord?_eq_none_iff.mpr flag, integer, number]
  rfl

theorem respelled_of_text (flag : Text.lower text ∉ flagWords) (integer : integerText? text = none)
    (number : doubleText? text = none) : respelled text = text := by
  rw [respelled, ofText, flagWord?_eq_none_iff.mpr flag, integer, number]
  rfl

/-- A text comes through a variable as it is exactly if it keeps its spelling. -/
theorem respelled_eq_self_iff : respelled text = text ↔ KeepsSpelling text := by
  by_cases flag : Text.lower text ∈ flagWords
  · rw [respelled_of_flag flag]
    refine ⟨fun same => ?_, fun kept => kept.flag flag⟩
    -- No word for a flag is read as a number too.
    have single : integerText? text = none ∧ doubleText? text = none := by
      rw [same] at flag
      rcases mem_flagWords_iff.mp flag with rfl | rfl <;> exact ⟨rfl, rfl⟩
    exact ⟨fun _ => same, by simp [single.1], by simp [single.2]⟩
  · cases integer : integerText? text with
    | some n =>
      rw [respelled_of_integer flag integer, text_integer_eq_iff integer]
      exact ⟨fun whole => ⟨fun word => absurd word flag, fun _ => whole, by simp [integer]⟩,
        fun kept => kept.integer (by simp [integer])⟩
    | none =>
      cases number : doubleText? text with
      | some n =>
        rw [respelled_of_number flag integer number]
        refine ⟨fun shortest => ⟨fun word => absurd word flag, by simp [integer], fun other _ read => ?_⟩,
          fun kept => kept.number n integer number⟩
        rw [number] at read
        exact Option.some.inj read ▸ shortest
      | none =>
        exact iff_of_true (respelled_of_text flag integer number)
          ⟨fun word => absurd word flag, by simp [integer], by simp [number]⟩

/-- A text with a character that no numeral has keeps its spelling, unless it is one of a few words. -/
theorem keepsSpelling_of_not_isNumeralChar
    (letter : ∃ c ∈ text, Number.isNumeralChar c = false) (flag : Text.lower text ∉ flagWords)
    (number : Text.lowerAscii (Number.takeSign text).2 ∉ numberWords) : KeepsSpelling text := by
  obtain ⟨c, member, other⟩ := letter
  have no_numeral (all : ∀ c ∈ text, Number.isNumeralChar c = true) : False := by
    rw [all c member] at other
    cases other
  have integer : integerText? text = none := by
    rw [Option.eq_none_iff_forall_ne_some]
    intro n read
    obtain ⟨decimal, -⟩ := Option.ite_none_right_eq_some.mp read
    exact no_numeral (Number.all_isNumeralChar_of_takeSign fun c member =>
      Number.isNumeralChar_of_isDigit ((Text.isDigits_iff.mp decimal).2 c member))
  have double : doubleText? text = none := by
    simp only [numberWords, List.mem_cons, List.not_mem_nil, or_false, not_or] at number
    have numeral : Number.numeral? text = none := by
      rw [Option.eq_none_iff_forall_ne_some]
      exact fun n read => no_numeral (Number.all_isNumeralChar_of_numeral? read)
    simp only [doubleText?, number, numeral, if_false, or_self]
  exact respelled_eq_self_iff.mp (respelled_of_text flag integer double)

end Setting

end TagWeave
