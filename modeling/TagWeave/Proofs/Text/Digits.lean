import Mathlib.Data.List.Induction
import Mathlib.Tactic.Ring
import TagWeave.Text.Blank

/-! Numbers spelled in decimal digits. Leading zeros add nothing, every other digit counts by its
place, and a number below the limit is read whole. Digits are what their number is spelled with exactly
if no zero stands before others. -/
namespace TagWeave.Text

variable {digit : Char} {digits rest : Text} {limit places : Nat}

theorem isDigits_iff : isDigits digits = true ↔ digits ≠ [] ∧ ∀ c ∈ digits, c.isDigit = true := by
  cases digits <;> simp [isDigits]

theorem not_mem_of_isDigit {mark : Char} (decimal : ∀ c ∈ digits, c.isDigit = true)
    (other : mark.isDigit = false) : mark ∉ digits := by
  intro member
  rw [decimal mark member] at other
  cases other

/-- Digits behind a number move it up by as many places. -/
theorem foldl_digits (value : Nat) (digits : Text) :
    digits.foldl (fun value digit => 10 * value + digitValue digit) value =
      value * 10 ^ digits.length + natOfDigits digits := by
  induction digits generalizing value with
  | nil => simp [natOfDigits]
  | cons digit rest ih =>
    rw [natOfDigits, List.foldl_cons, List.foldl_cons, ih, ih, List.length_cons]
    ring

theorem natOfDigits_cons (digit : Char) (rest : Text) :
    natOfDigits (digit :: rest) = digitValue digit * 10 ^ rest.length + natOfDigits rest := by
  rw [natOfDigits, List.foldl_cons, foldl_digits]
  simp

theorem natOfDigits_concat (digits : Text) (digit : Char) :
    natOfDigits (digits ++ [digit]) = 10 * natOfDigits digits + digitValue digit := by
  rw [natOfDigits, List.foldl_append]
  rfl

theorem natOfDigits_dropWhile_zero (digits : Text) :
    natOfDigits (digits.dropWhile (· == '0')) = natOfDigits digits := by
  induction digits with
  | nil => rfl
  | cons digit rest ih =>
    by_cases zero : digit = '0'
    · rw [zero, List.dropWhile_cons_of_pos (by simp), ih, natOfDigits_cons]
      simp [digitValue]
    · rw [List.dropWhile_cons_of_neg (by simpa using zero)]

theorem isDigit_iff_toNat {c : Char} : c.isDigit = true ↔ 48 ≤ c.toNat ∧ c.toNat ≤ 57 := by
  simp only [Char.isDigit, Bool.and_eq_true, decide_eq_true_eq, ge_iff_le, UInt32.le_iff_toNat_le]
  rfl

theorem isBlank_of_isDigit {c : Char} (decimal : c.isDigit = true) : isBlank c = false := by
  have range := isDigit_iff_toNat.mp decimal
  have apart : ∀ blanks ∈ blankRanges, blanks.2 < 48 ∨ 57 < blanks.1 := by decide
  simp only [isBlank, within, List.any_eq_false, Bool.and_eq_true, decide_eq_true_eq]
  intro blanks listed
  have outside := apart blanks listed
  omega

theorem digitValue_pos (decimal : digit.isDigit = true) (other : digit ≠ '0') :
    0 < digitValue digit := by
  have least := (isDigit_iff_toNat.mp decimal).1
  have apart : digit.toNat ≠ '0'.toNat := fun same => other (Char.toNat_inj.mp same)
  have zero : '0'.toNat = 48 := rfl
  unfold digitValue
  omega

/-- A number below a power of ten has no more digits than that, but for leading zeros. -/
theorem length_dropWhile_zero_le (decimal : ∀ c ∈ digits, c.isDigit = true)
    (small : natOfDigits digits < 10 ^ places) :
    (digits.dropWhile (· == '0')).length ≤ places := by
  induction digits with
  | nil => simp
  | cons digit rest ih =>
    obtain ⟨first, later⟩ := List.forall_mem_cons.mp decimal
    rw [natOfDigits_cons] at small
    by_cases zero : digit = '0'
    · rw [List.dropWhile_cons_of_pos (by simpa using zero)]
      exact ih later (by omega)
    · have leading : 10 ^ rest.length ≤ digitValue digit * 10 ^ rest.length :=
        Nat.le_mul_of_pos_left _ (digitValue_pos first zero)
      have fewer : rest.length < places :=
        (Nat.pow_lt_pow_iff_right (by decide)).mp (by omega : 10 ^ rest.length < 10 ^ places)
      rwa [List.dropWhile_cons_of_neg (by simpa using zero), List.length_cons]

/-- What is spelled so far never exceeds the whole number, so the limit is not met on the way. -/
theorem natBelow?_eq_some (small : natOfDigits digits < limit) :
    natBelow? limit digits = some (natOfDigits digits) := by
  unfold natBelow?
  unfold natOfDigits at small ⊢
  generalize 0 = value at small ⊢
  induction digits generalizing value with
  | nil => rfl
  | cons digit rest ih =>
    have grows : 10 * value + digitValue digit ≤
        rest.foldl (fun value digit => 10 * value + digitValue digit)
          (10 * value + digitValue digit) := by
      rw [foldl_digits]
      exact (Nat.le_mul_of_pos_right _ (Nat.pow_pos (by decide))).trans (Nat.le_add_right _ _)
    rw [List.foldl_cons] at small ⊢
    rw [List.foldlM_cons, if_pos (by omega)]
    exact ih _ small

theorem digitChar_digitValue (decimal : digit.isDigit = true) :
    (digitValue digit).digitChar = digit := by
  have range := isDigit_iff_toNat.mp decimal
  have zero : '0'.toNat = 48 := rfl
  have small : digitValue digit < 10 := by
    unfold digitValue
    omega
  rw [← Char.toNat_inj, Nat.toNat_digitChar_of_lt_ten small]
  unfold digitValue
  omega

theorem ofNat_natOfDigits (decimal : isDigits digits = true) (leading : digits.head? ≠ some '0') :
    ofNat (natOfDigits digits) = digits := by
  obtain ⟨nonempty, each⟩ := isDigits_iff.mp decimal
  clear decimal
  induction digits using List.reverseRecOn with
  | nil => exact absurd rfl nonempty
  | append_singleton front last ih =>
    have last_decimal : last.isDigit = true := each last (by simp)
    have small : digitValue last < 10 := by
      have range := isDigit_iff_toNat.mp last_decimal
      have zero : '0'.toNat = 48 := rfl
      unfold digitValue
      omega
    have single : Nat.toDigits 10 (digitValue last) = [last] := by
      rw [Nat.toDigits_of_lt_base small, digitChar_digitValue last_decimal]
    cases front with
    | nil => simpa [ofNat, natOfDigits] using single
    | cons first others =>
      have first_decimal : first.isDigit = true := each first (by simp)
      have other : first ≠ '0' := by simpa using leading
      have positive : 0 < natOfDigits (first :: others) := by
        rw [natOfDigits_cons]
        exact Nat.add_pos_left
          (Nat.mul_pos (digitValue_pos first_decimal other) (Nat.pow_pos (by decide))) _
      have front_spelled := ih (by simpa using other) (by simp) fun c member =>
        each c (List.mem_append_left _ member)
      rw [natOfDigits_concat, ofNat, ← Nat.toDigits_append_toDigits (by decide) positive small,
        single, ← ofNat, front_spelled]

/-- A number is spelled without zeros before other digits. -/
theorem ofNat_natOfDigits_iff (decimal : isDigits digits = true) :
    ofNat (natOfDigits digits) = digits ↔ digits = ['0'] ∨ digits.head? ≠ some '0' := by
  constructor
  · intro spelled
    have each := (isDigits_iff.mp decimal).2
    have value := natOfDigits_dropWhile_zero digits
    have leading : (digits.dropWhile (· == '0')).head? ≠ some '0' := by
      intro zero
      have kept := List.head?_dropWhile_not (· == '0') digits
      rw [zero] at kept
      cases kept
    cases counted : digits.dropWhile (· == '0') with
    | nil =>
      left
      rw [counted] at value
      rw [← spelled, ← value]
      rfl
    | cons first rest =>
      right
      have counted_decimal : isDigits (digits.dropWhile (· == '0')) = true :=
        isDigits_iff.mpr ⟨by simp [counted], fun c member =>
          each c ((List.dropWhile_sublist _).subset member)⟩
      rw [← spelled, ← value, ofNat_natOfDigits counted_decimal leading]
      exact leading
  · rintro (rfl | leading)
    · rfl
    · exact ofNat_natOfDigits decimal leading

theorem eq_natOfDigits_of_natBelow? {n : Nat} (read : natBelow? limit digits = some n) :
    n = natOfDigits digits := by
  unfold natBelow? at read
  unfold natOfDigits
  generalize 0 = value at read ⊢
  induction digits generalizing value with
  | nil => exact (Option.some.inj read).symm
  | cons digit rest ih =>
    rw [List.foldlM_cons] at read
    obtain ⟨next, here, later⟩ := Option.bind_eq_some_iff.mp read
    obtain ⟨-, same⟩ := Option.ite_none_right_eq_some.mp here
    cases same
    rw [List.foldl_cons]
    exact ih _ later

end TagWeave.Text
