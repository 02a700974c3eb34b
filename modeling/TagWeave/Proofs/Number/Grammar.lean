import TagWeave.Number.Operand
import TagWeave.Proofs.Text.Digits

/-! The grammar of numerals: a sign, digits with a point among them, and an exponent. A whole text denotes a
number exactly if it is of the grammar, and what it denotes is told by its parts. -/
namespace TagWeave.Number

variable {text part rest sign integer fraction mantissa exponent body digits : Text}

def IsSign (text : Text) : Prop := text = [] ∨ text = ['+'] ∨ text = ['-']

/-- Digits that may have a point and more digits behind them, or a point with a digit at least. -/
inductive IsMantissa : Text → Prop where
  | whole {integer : Text} (decimal : Text.isDigits integer = true) : IsMantissa integer
  | pointed {integer fraction : Text} (decimal : Text.isDigits integer = true)
      (digits : ∀ c ∈ fraction, c.isDigit = true) : IsMantissa (integer ++ '.' :: fraction)
  | fraction {fraction : Text} (decimal : Text.isDigits fraction = true) :
      IsMantissa ('.' :: fraction)

/-- An exponent with a digit at least, which may be left out. -/
inductive IsExponent : Text → Prop where
  | missing : IsExponent []
  | power {letter : Char} {sign digits : Text} (named : letter = 'e' ∨ letter = 'E')
      (signed : IsSign sign) (decimal : Text.isDigits digits = true) :
      IsExponent (letter :: (sign ++ digits))

def IsDecimal (text : Text) : Prop :=
  ∃ mantissa exponent, IsMantissa mantissa ∧ IsExponent exponent ∧ text = mantissa ++ exponent

inductive IsNumeral : Text → Prop where
  | infinity {sign : Text} (signed : IsSign sign) : IsNumeral (sign ++ "Infinity".toList)
  | decimal {sign body : Text} (signed : IsSign sign) (decimal : IsDecimal body) :
      IsNumeral (sign ++ body)

def denoted? (text : Text) : Option Double :=
  if (takeSign text).2 = "Infinity".toList then some (.infinity (takeSign text).1)
  else numeral? text

theorem takeSign_cases (text : Text) :
    (∃ rest, text = '-' :: rest ∧ takeSign text = (true, rest)) ∨
    (∃ rest, text = '+' :: rest ∧ takeSign text = (false, rest)) ∨
    takeSign text = (false, text) := by
  unfold takeSign
  split
  · exact .inl ⟨_, rfl, rfl⟩
  · exact .inr (.inl ⟨_, rfl, rfl⟩)
  · exact .inr (.inr rfl)

theorem exists_sign (text : Text) : ∃ sign, IsSign sign ∧ text = sign ++ (takeSign text).2 ∧
    (takeSign text).1 = (sign == ['-']) := by
  rcases takeSign_cases text with ⟨rest, rfl, signed⟩ | ⟨rest, rfl, signed⟩ | signed
  · exact ⟨['-'], .inr (.inr rfl), rfl, rfl⟩
  · exact ⟨['+'], .inr (.inl rfl), rfl, rfl⟩
  · refine ⟨[], .inl rfl, ?_, ?_⟩ <;> rw [signed] <;> rfl

/-- What begins with no sign of its own is what follows the sign before it. -/
theorem takeSign_append (signed : IsSign sign)
    (unsigned : ∀ c, rest.head? = some c → c ≠ '+' ∧ c ≠ '-') :
    takeSign (sign ++ rest) = (sign == ['-'], rest) := by
  rcases signed with rfl | rfl | rfl
  · cases rest with
    | nil => rfl
    | cons c others =>
      obtain ⟨plus, minus⟩ := unsigned c rfl
      rcases takeSign_cases (c :: others) with ⟨_, same, -⟩ | ⟨_, same, -⟩ | signed
      · exact absurd (List.cons.inj same).1 minus
      · exact absurd (List.cons.inj same).1 plus
      · exact signed
  · rfl
  · rfl

theorem digits_unsigned (decimal : Text.isDigits digits = true) (c : Char)
    (first : digits.head? = some c) : c ≠ '+' ∧ c ≠ '-' := by
  have digit := (Text.isDigits_iff.mp decimal).2 c (List.mem_of_mem_head? first)
  constructor <;> rintro rfl <;> cases digit

theorem isMantissa_pointed (digits : ∀ c ∈ integer ++ fraction, c.isDigit = true)
    (nonempty : integer ++ fraction ≠ []) : IsMantissa (integer ++ '.' :: fraction) := by
  obtain ⟨before, after⟩ := List.forall_mem_append.mp digits
  by_cases absent : integer = []
  · subst absent
    exact .fraction (Text.isDigits_iff.mpr ⟨nonempty, after⟩)
  · exact .pointed (Text.isDigits_iff.mpr ⟨absent, before⟩) after

theorem mantissa?_whole (decimal : Text.isDigits integer = true) :
    mantissa? integer = some (integer, []) := by
  obtain ⟨nonempty, digits⟩ := Text.isDigits_iff.mp decimal
  have pointless : Text.cutAt '.' integer = none :=
    Text.cutAt_eq_none_iff.mpr (Text.not_mem_of_isDigit digits rfl)
  simpa [mantissa?, pointless, nonempty] using digits

theorem mantissa?_pointed (digits : ∀ c ∈ integer ++ fraction, c.isDigit = true)
    (nonempty : integer ++ fraction ≠ []) :
    mantissa? (integer ++ '.' :: fraction) = some (integer, fraction) := by
  have point : Text.cutAt '.' (integer ++ '.' :: fraction) = some (integer, fraction) :=
    Text.cutAt_append _ _ (Text.not_mem_of_isDigit (List.forall_mem_append.mp digits).1 rfl)
  have decimal : ((integer ++ fraction).all Char.isDigit && !(integer ++ fraction).isEmpty) = true := by
    simp only [List.all_eq_true.mpr digits, Bool.true_and, Bool.not_eq_true', List.isEmpty_eq_false_iff]
    exact nonempty
  simp only [mantissa?, point, Option.getD_some, decimal, if_true]

/-- The digits before and behind the point are read exactly where the grammar has them. -/
theorem mantissa?_isSome_iff : (mantissa? text).isSome = true ↔ IsMantissa text := by
  constructor
  · intro read
    unfold mantissa? at read
    dsimp only at read
    split at read
    · rename_i digits
      simp only [Bool.and_eq_true, List.all_eq_true, Bool.not_eq_true', List.isEmpty_eq_false_iff]
        at digits
      cases point : Text.cutAt '.' text with
      | none =>
        rw [point, Option.getD_none, List.append_nil] at digits
        exact .whole (Text.isDigits_iff.mpr ⟨digits.2, digits.1⟩)
      | some parts =>
        rw [point] at digits
        rw [(Text.cutAt_eq_some point).1]
        exact isMantissa_pointed digits.1 digits.2
    · cases read
  · intro counted
    cases counted with
    | whole decimal => rw [mantissa?_whole decimal, Option.isSome_some]
    | pointed decimal digits =>
      obtain ⟨nonempty, before⟩ := Text.isDigits_iff.mp decimal
      rw [mantissa?_pointed (List.forall_mem_append.mpr ⟨before, digits⟩) (by simp [nonempty]),
        Option.isSome_some]
    | @fraction fraction decimal =>
      obtain ⟨nonempty, digits⟩ := Text.isDigits_iff.mp decimal
      have pointed : mantissa? ([] ++ '.' :: fraction) = some ([], fraction) :=
        mantissa?_pointed digits nonempty
      rw [← List.nil_append ('.' :: fraction), pointed, Option.isSome_some]

theorem IsMantissa.forall (counted : IsMantissa mantissa) :
    ∀ c ∈ mantissa, c.isDigit = true ∨ c = '.' := by
  have whole {digits : Text} (decimal : Text.isDigits digits = true) :
      ∀ c ∈ digits, c.isDigit = true ∨ c = '.' := fun c member =>
    .inl ((Text.isDigits_iff.mp decimal).2 c member)
  cases counted with
  | whole decimal => exact whole decimal
  | pointed decimal digits =>
    exact List.forall_mem_append.mpr ⟨whole decimal,
      List.forall_mem_cons.mpr ⟨.inr rfl, fun c member => .inl (digits c member)⟩⟩
  | fraction decimal => exact List.forall_mem_cons.mpr ⟨.inr rfl, whole decimal⟩

theorem IsMantissa.ne_nil (counted : IsMantissa mantissa) : mantissa ≠ [] := by
  cases counted with
  | whole decimal => exact (Text.isDigits_iff.mp decimal).1
  | pointed decimal digits => simp
  | fraction decimal => simp

/-- What begins with digits or a point begins with no sign and no word. -/
theorem IsDecimal.head (decimal : IsDecimal body) :
    body ≠ [] ∧ ∀ c, body.head? = some c → c ≠ '+' ∧ c ≠ '-' ∧ c ≠ 'I' := by
  obtain ⟨mantissa, exponent, counted, scaled, rfl⟩ := decimal
  refine ⟨by simp [counted.ne_nil], fun c first => ?_⟩
  cases mantissa with
  | nil => exact absurd rfl counted.ne_nil
  | cons d others =>
    cases first
    rcases counted.forall c List.mem_cons_self with digit | rfl
    · refine ⟨?_, ?_, ?_⟩ <;> rintro rfl <;> cases digit
    · decide

theorem IsDecimal.unsigned (decimal : IsDecimal body) (c : Char) (first : body.head? = some c) :
    c ≠ '+' ∧ c ≠ '-' := ⟨(decimal.head.2 c first).1, (decimal.head.2 c first).2.1⟩

def exponentValue : Text → Int
  | [] => 0
  | _ :: power => (exponent? power).getD 0

theorem exponent?_append (signed : IsSign sign) (decimal : Text.isDigits digits = true) :
    exponent? (sign ++ digits) = some (exponentOf (sign == ['-']) digits) := by
  simp only [exponent?, takeSign_append signed (digits_unsigned decimal), decimal, if_true]

theorem isExponent_of_exponent? {letter : Char} {value : Int} (named : letter = 'e' ∨ letter = 'E')
    (read : exponent? text = some value) : IsExponent (letter :: text) := by
  obtain ⟨decimal, -⟩ := Option.ite_none_right_eq_some.mp read
  obtain ⟨sign, signed, whole, -⟩ := exists_sign text
  rw [whole]
  exact .power named signed decimal

theorem IsExponent.head (scaled : IsExponent exponent) {c : Char}
    (first : exponent.head? = some c) : c = 'e' ∨ c = 'E' := by
  cases scaled with
  | missing => cases first
  | power named _ _ =>
    cases first
    exact named

theorem denoted?_infinity (signed : IsSign sign) :
    denoted? (sign ++ "Infinity".toList) = some (.infinity (sign == ['-'])) := by
  have unsigned (c : Char) (first : "Infinity".toList.head? = some c) : c ≠ '+' ∧ c ≠ '-' := by
    cases first
    decide
  simp only [denoted?, takeSign_append signed unsigned, if_true]

/-- What a decimal denotes is spelled by its digits and its exponent. -/
theorem denoted?_decimal (signed : IsSign sign) (counted : IsMantissa mantissa)
    (scaled : IsExponent exponent) :
    denoted? (sign ++ (mantissa ++ exponent)) =
      (mantissa? mantissa).map fun parts =>
        spelled (sign == ['-']) parts.1 parts.2 (exponentValue exponent) := by
  have decimal : IsDecimal (mantissa ++ exponent) := ⟨_, _, counted, scaled, rfl⟩
  have other : mantissa ++ exponent ≠ "Infinity".toList := fun word =>
    (decimal.head.2 'I' (by rw [word]; rfl)).2.2 rfl
  have before : ∀ c ∈ mantissa, (c != 'e' && c != 'E') = true := by
    intro c member
    rcases counted.forall c member with digit | rfl
    · simp only [Bool.and_eq_true, bne_iff_ne]
      constructor <;> rintro rfl <;> cases digit
    · decide
  rw [denoted?, takeSign_append signed decimal.unsigned, if_neg other, numeral?,
    takeSign_append signed decimal.unsigned]
  dsimp only
  rw [List.takeWhile_append_of_pos before, List.dropWhile_append_of_pos before]
  cases scaled with
  | missing =>
    rw [List.append_nil]
    rfl
  | @power letter its_sign digits named its_signed decimal_digits =>
    have letter_stops : (letter != 'e' && letter != 'E') = false := by
      rcases named with rfl | rfl <;> rfl
    simp only [List.dropWhile_cons, List.takeWhile_cons, letter_stops, Bool.false_eq_true, if_false,
      List.append_nil, exponent?_append its_signed decimal_digits, exponentValue,
      Option.getD_some]
    cases mantissa? mantissa <;> rfl

theorem exists_decimal_of_numeral? {n : Double} (read : numeral? text = some n) :
    ∃ sign body, IsSign sign ∧ IsDecimal body ∧ text = sign ++ body := by
  obtain ⟨sign, signed, whole, -⟩ := exists_sign text
  refine ⟨sign, _, signed, ?_, whole⟩
  unfold numeral? at read
  generalize takeSign text = parts at read ⊢
  obtain ⟨negative, body⟩ := parts
  dsimp only at read ⊢
  split at read
  · obtain ⟨parts, counted, -⟩ := Option.map_eq_some_iff.mp read
    exact ⟨body, [], mantissa?_isSome_iff.mp (by rw [counted, Option.isSome_some]), .missing,
      (List.append_nil body).symm⟩
  · rename_i letter power scaled
    obtain ⟨parts, counted, read⟩ := Option.bind_eq_some_iff.mp read
    obtain ⟨value, power_read, -⟩ := Option.bind_eq_some_iff.mp read
    have named : letter = 'e' ∨ letter = 'E' := by
      have stopped := List.head?_dropWhile_not (fun c => c != 'e' && c != 'E') body
      rw [scaled] at stopped
      by_cases lower : letter = 'e'
      · exact .inl lower
      · exact .inr (by simpa [lower] using stopped)
    refine ⟨_, _, mantissa?_isSome_iff.mp (by rw [counted, Option.isSome_some]),
      isExponent_of_exponent? named power_read, ?_⟩
    rw [← scaled, List.takeWhile_append_dropWhile]

/-- The texts of the grammar are exactly those that denote a number. -/
theorem denoted?_isSome_iff : (denoted? text).isSome = true ↔ IsNumeral text := by
  constructor
  · intro read
    by_cases word : (takeSign text).2 = "Infinity".toList
    · obtain ⟨sign, signed, whole, -⟩ := exists_sign text
      rw [whole, word]
      exact .infinity signed
    · rw [denoted?, if_neg word] at read
      obtain ⟨n, read⟩ := Option.isSome_iff_exists.mp read
      obtain ⟨sign, body, signed, decimal, rfl⟩ := exists_decimal_of_numeral? read
      exact .decimal signed decimal
  · intro numeral
    cases numeral with
    | @infinity sign signed => rw [denoted?_infinity signed, Option.isSome_some]
    | decimal signed decimal =>
      obtain ⟨mantissa, exponent, counted, scaled, rfl⟩ := decimal
      rw [denoted?_decimal signed counted scaled, Option.isSome_map]
      exact mantissa?_isSome_iff.mpr counted

end TagWeave.Number
