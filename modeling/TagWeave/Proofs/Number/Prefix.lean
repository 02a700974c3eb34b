import Mathlib.Data.List.TakeWhile
import TagWeave.Proofs.Number.Numeral
import TagWeave.Proofs.Text.Trimming

/-! The number that a text begins with. The scan takes as many digits as there are, and what it takes for a
point or an exponent and cannot complete, it gives back; so it reads the longest numeral that the text
begins with, and nothing only where there is none. -/
namespace TagWeave.Number

variable {text part rest sign integer fraction mantissa exponent digits : Text}

/-- The longest of the texts of some kind that a text begins with. -/
structure IsLongest (kind : Text → Prop) (part text : Text) : Prop where
  begins : part <+: text
  member : kind part
  longest : ∀ other, other <+: text → kind other → other.length ≤ part.length

theorem prefix_of_sign_append (signed : IsSign sign) (nonempty : part ≠ [])
    (unsigned : ∀ c, part.head? = some c → c ≠ '+' ∧ c ≠ '-') (begins : sign ++ part <+: text) :
    part <+: (takeSign text).2 ∧ text = sign ++ (takeSign text).2 ∧
      (takeSign text).1 = (sign == ['-']) := by
  obtain ⟨tail, rfl⟩ := begins
  have unsigned_tail (c : Char) (first : (part ++ tail).head? = some c) : c ≠ '+' ∧ c ≠ '-' := by
    cases part with
    | nil => exact absurd rfl nonempty
    | cons d others => exact unsigned c first
  rw [List.append_assoc, takeSign_append signed unsigned_tail]
  exact ⟨List.prefix_append _ _, rfl, rfl⟩

theorem prefix_takeWhile_isDigit (decimal : ∀ c ∈ digits, c.isDigit = true)
    (begins : digits <+: text) : digits <+: text.takeWhile Char.isDigit := by
  obtain ⟨tail, rfl⟩ := begins
  rw [List.takeWhile_append_of_pos decimal]
  exact List.prefix_append _ _

theorem forall_isDigit_takeWhile (text : Text) :
    ∀ c ∈ text.takeWhile Char.isDigit, c.isDigit = true := fun _ => List.mem_takeWhile_imp

theorem isDigits_takeWhile (some_digit : text.takeWhile Char.isDigit ≠ []) :
    Text.isDigits (text.takeWhile Char.isDigit) = true :=
  Text.isDigits_iff.mpr ⟨some_digit, forall_isDigit_takeWhile text⟩

/-- Digits and something else that a text begins with are divided where its first digits end. -/
theorem prefix_of_digits_append (decimal : ∀ c ∈ digits, c.isDigit = true)
    (ended : ∀ c, rest.head? = some c → c.isDigit = false) (begins : digits ++ rest <+: text) :
    digits <+: text.takeWhile Char.isDigit ∧ rest <+: text.dropWhile Char.isDigit := by
  refine ⟨prefix_takeWhile_isDigit decimal ((List.prefix_append _ _).trans begins), ?_⟩
  cases rest with
  | nil => exact List.nil_prefix
  | cons c others =>
    obtain ⟨tail, rfl⟩ := begins
    rw [List.append_assoc, List.dropWhile_append_of_pos decimal]
    simp [ended c rfl]

theorem IsExponent.not_digit (scaled : IsExponent exponent) {c : Char}
    (first : exponent.head? = some c) : c.isDigit = false := by
  rcases scaled.head first with rfl | rfl <;> rfl

theorem leadingExponent_cons (c : Char) (rest : Text) :
    leadingExponent (c :: rest) =
      if c = 'e' ∨ c = 'E' then
        exponentOf (takeSign rest).1 ((takeSign rest).2.takeWhile Char.isDigit)
      else 0 := rfl

/-- An exponent that a text begins with has the letter and the sign of the text, and no more digits. -/
theorem IsExponent.length_le {c : Char} {its_rest : Text} (scaled : IsExponent exponent)
    (nonempty : exponent ≠ []) (begins : exponent <+: c :: its_rest)
    (divided : its_rest = sign ++ (takeSign its_rest).2) :
    (c = 'e' ∨ c = 'E') ∧ (takeSign its_rest).2.takeWhile Char.isDigit ≠ [] ∧
      exponent.length ≤ (c :: (sign ++ (takeSign its_rest).2.takeWhile Char.isDigit)).length := by
  cases scaled with
  | missing => exact absurd rfl nonempty
  | @power letter its_sign digits named signed decimal =>
    obtain ⟨rfl, further⟩ := List.cons_prefix_cons.mp begins
    obtain ⟨some_digit, each⟩ := Text.isDigits_iff.mp decimal
    obtain ⟨counted, its_divided, -⟩ :=
      prefix_of_sign_append signed some_digit (digits_unsigned decimal) further
    obtain rfl : sign = its_sign := List.append_cancel_right (divided.symm.trans its_divided)
    have fewer := prefix_takeWhile_isDigit each counted
    refine ⟨named, fun none => some_digit (List.prefix_nil.mp (none ▸ fewer)), ?_⟩
    simpa using fewer.length_le

/-- The exponent that is read is the longest one, and none if a digit is missing in it. -/
theorem exists_longest_exponent (text : Text) :
    ∃ part, IsLongest IsExponent part text ∧ leadingExponent text = exponentValue part := by
  cases text with
  | nil => exact ⟨[], ⟨List.prefix_rfl, .missing, fun other begins _ => begins.length_le⟩, rfl⟩
  | cons c rest =>
    obtain ⟨sign, signed, divided, negative⟩ := exists_sign rest
    by_cases complete : (c = 'e' ∨ c = 'E') ∧ (takeSign rest).2.takeWhile Char.isDigit ≠ []
    · obtain ⟨named, some_digit⟩ := complete
      have decimal := isDigits_takeWhile some_digit
      have begins : sign ++ (takeSign rest).2.takeWhile Char.isDigit <+: rest := by
        conv => rhs; rw [divided]
        exact (List.prefix_append_right_inj sign).mpr (List.takeWhile_prefix _)
      refine ⟨_, ⟨List.cons_prefix_cons.mpr ⟨rfl, begins⟩, .power named signed decimal, ?_⟩, ?_⟩
      · intro other begins scaled
        by_cases empty : other = []
        · simp [empty]
        · exact (scaled.length_le empty begins divided).2.2
      · rw [exponentValue, exponent?_append signed decimal, Option.getD_some,
          leadingExponent_cons, if_pos named, negative]
    · refine ⟨[], ⟨List.nil_prefix, .missing, ?_⟩, ?_⟩
      · intro other begins scaled
        by_cases empty : other = []
        · simp [empty]
        · obtain ⟨named, some_digit, -⟩ := scaled.length_le empty begins divided
          exact absurd ⟨named, some_digit⟩ complete
      · rw [leadingExponent_cons]
        by_cases named : c = 'e' ∨ c = 'E'
        · have no_digit : (takeSign rest).2.takeWhile Char.isDigit = [] := by
            simpa [named] using complete
          rw [if_pos named, no_digit]
          cases (takeSign rest).1 <;> rfl
        · rw [if_neg named]
          rfl

def leadingDecimal? (negative : Bool) (body : Text) : Option Double :=
  let integer := body.takeWhile Char.isDigit
  match body.dropWhile Char.isDigit with
  | '.' :: rest =>
    let fraction := rest.takeWhile Char.isDigit
    if integer = [] ∧ fraction = [] then none
    else some (spelled negative integer fraction (leadingExponent (rest.dropWhile Char.isDigit)))
  | rest =>
    if integer = [] then none else some (spelled negative integer [] (leadingExponent rest))

theorem leading?_eq (text : Text) :
    leading? text =
      if "Infinity".toList <+: (takeSign (Text.trimStart text)).2 then
        some (.infinity (takeSign (Text.trimStart text)).1)
      else
        leadingDecimal? (takeSign (Text.trimStart text)).1 (takeSign (Text.trimStart text)).2 := by
  simp only [← List.isPrefixOf_iff_prefix]
  rfl

/-- A point among digits is the point behind the first digits of the text. -/
theorem exists_point_of_prefix (before : ∀ c ∈ integer, c.isDigit = true)
    (behind : ∀ c ∈ fraction, c.isDigit = true) (scaled : IsExponent exponent)
    (begins : integer ++ '.' :: fraction ++ exponent <+: text) :
    ∃ rest, text.dropWhile Char.isDigit = '.' :: rest ∧ integer <+: text.takeWhile Char.isDigit ∧
      fraction <+: rest.takeWhile Char.isDigit ∧ exponent <+: rest.dropWhile Char.isDigit := by
  rw [List.append_assoc, List.cons_append] at begins
  have stopped (c : Char) (first : ('.' :: (fraction ++ exponent)).head? = some c) :
      c.isDigit = false := by
    cases first
    rfl
  obtain ⟨front, tail⟩ := prefix_of_digits_append before stopped begins
  cases text_rest : text.dropWhile Char.isDigit with
  | nil =>
    rw [text_rest] at tail
    exact absurd (List.prefix_nil.mp tail) (List.cons_ne_nil _ _)
  | cons c rest =>
    rw [text_rest] at tail
    obtain ⟨rfl, further⟩ := List.cons_prefix_cons.mp tail
    obtain ⟨middle, last⟩ := prefix_of_digits_append behind (fun _ => scaled.not_digit) further
    exact ⟨rest, rfl, front, middle, last⟩

/-- How a decimal that a text begins with lies in it. It has no more digits before the point than the
text, and if it has a point, no more digits behind it. -/
theorem prefix_decimal_cases (counted : IsMantissa mantissa) (scaled : IsExponent exponent)
    (begins : mantissa ++ exponent <+: text) :
    (mantissa <+: text.takeWhile Char.isDigit ∧ exponent <+: text.dropWhile Char.isDigit ∧
      mantissa ≠ []) ∨
    ∃ integer fraction rest, mantissa = integer ++ '.' :: fraction ∧ integer ++ fraction ≠ [] ∧
      text.dropWhile Char.isDigit = '.' :: rest ∧ integer <+: text.takeWhile Char.isDigit ∧
      fraction <+: rest.takeWhile Char.isDigit ∧ exponent <+: rest.dropWhile Char.isDigit := by
  cases counted with
  | whole decimal =>
    obtain ⟨nonempty, digits⟩ := Text.isDigits_iff.mp decimal
    obtain ⟨front, tail⟩ := prefix_of_digits_append digits (fun _ => scaled.not_digit) begins
    exact .inl ⟨front, tail, nonempty⟩
  | pointed decimal digits =>
    obtain ⟨nonempty, before⟩ := Text.isDigits_iff.mp decimal
    obtain ⟨rest, parts⟩ := exists_point_of_prefix before digits scaled begins
    exact .inr ⟨_, _, rest, rfl, by simp [nonempty], parts⟩
  | fraction decimal =>
    obtain ⟨nonempty, digits⟩ := Text.isDigits_iff.mp decimal
    obtain ⟨rest, parts⟩ := exists_point_of_prefix (List.forall_mem_nil _) digits scaled begins
    exact .inr ⟨[], _, rest, rfl, nonempty, parts⟩

/-- A text that has a point behind its first digits, and a digit before or behind it. -/
theorem longest_pointed (point : text.dropWhile Char.isDigit = '.' :: rest)
    (some_digit : text.takeWhile Char.isDigit ++ rest.takeWhile Char.isDigit ≠ [])
    (scaled : IsLongest IsExponent exponent (rest.dropWhile Char.isDigit)) :
    IsLongest IsDecimal
      (text.takeWhile Char.isDigit ++ '.' :: rest.takeWhile Char.isDigit ++ exponent) text := by
  have digits : ∀ c ∈ text.takeWhile Char.isDigit ++ rest.takeWhile Char.isDigit,
      c.isDigit = true :=
    List.forall_mem_append.mpr ⟨forall_isDigit_takeWhile text, forall_isDigit_takeWhile rest⟩
  refine ⟨?_, ⟨_, _, isMantissa_pointed digits some_digit, scaled.member, rfl⟩, ?_⟩
  · conv => rhs; rw [← List.takeWhile_append_dropWhile (p := Char.isDigit) (l := text), point]
    rw [List.append_assoc, List.prefix_append_right_inj, List.cons_append, List.cons_prefix_cons]
    conv => rhs; rhs; rw [← List.takeWhile_append_dropWhile (p := Char.isDigit) (l := rest)]
    exact ⟨rfl, (List.prefix_append_right_inj _).mpr scaled.begins⟩
  · rintro _ begins ⟨mantissa, power, counted, its_scaled, rfl⟩
    rcases prefix_decimal_cases counted its_scaled begins with
      ⟨front, tail, -⟩ | ⟨integer, fraction, its_rest, rfl, -, its_point, front, middle, last⟩
    · -- Behind the digits stands a point, so there is no exponent without it.
      have missing : power = [] := by
        rw [point] at tail
        cases power with
        | nil => rfl
        | cons c others =>
          obtain ⟨rfl, -⟩ := List.cons_prefix_cons.mp tail
          rcases its_scaled.head rfl with letter | letter <;> cases letter
      have short := front.length_le
      simp only [missing, List.length_append, List.length_cons, List.length_nil]
      omega
    · rw [point] at its_point
      cases its_point
      have before := front.length_le
      have behind := middle.length_le
      have further := scaled.longest power last its_scaled
      simp only [List.length_append, List.length_cons]
      omega

/-- A text that has no point behind its first digits. -/
theorem longest_whole (pointless : ∀ rest, text.dropWhile Char.isDigit ≠ '.' :: rest)
    (some_digit : text.takeWhile Char.isDigit ≠ [])
    (scaled : IsLongest IsExponent exponent (text.dropWhile Char.isDigit)) :
    IsLongest IsDecimal (text.takeWhile Char.isDigit ++ exponent) text := by
  have decimal := isDigits_takeWhile some_digit
  refine ⟨?_, ⟨_, _, .whole decimal, scaled.member, rfl⟩, ?_⟩
  · conv => rhs; rw [← List.takeWhile_append_dropWhile (p := Char.isDigit) (l := text)]
    exact (List.prefix_append_right_inj _).mpr scaled.begins
  · rintro _ begins ⟨mantissa, power, counted, its_scaled, rfl⟩
    rcases prefix_decimal_cases counted its_scaled begins with
      ⟨front, tail, -⟩ | ⟨_, _, rest, -, -, point, -⟩
    · have before := front.length_le
      have further := scaled.longest power tail its_scaled
      simp only [List.length_append]
      omega
    · exact absurd point (pointless rest)

theorem not_isDecimal (no_digit : text.takeWhile Char.isDigit = [])
    (no_fraction : ∀ rest, text.dropWhile Char.isDigit = '.' :: rest →
      rest.takeWhile Char.isDigit = []) : ∀ other, other <+: text → ¬ IsDecimal other := by
  rintro _ begins ⟨mantissa, power, counted, scaled, rfl⟩
  rcases prefix_decimal_cases counted scaled begins with
    ⟨front, -, nonempty⟩ | ⟨integer, fraction, rest, -, nonempty, point, front, middle, -⟩
  · rw [no_digit] at front
    exact nonempty (List.prefix_nil.mp front)
  · rw [no_digit] at front
    rw [no_fraction rest point] at middle
    apply nonempty
    rw [List.prefix_nil.mp front, List.prefix_nil.mp middle, List.append_nil]

/-- A text without a sign is read as the longest decimal that it begins with, or it begins with none. -/
def ReadsLongest (body : Text) : Prop :=
  (∃ mantissa exponent, IsMantissa mantissa ∧ IsExponent exponent ∧
    IsLongest IsDecimal (mantissa ++ exponent) body ∧
    ∀ negative, leadingDecimal? negative body = (mantissa? mantissa).map fun parts =>
      spelled negative parts.1 parts.2 (exponentValue exponent)) ∨
  ((∀ part, part <+: body → ¬ IsDecimal part) ∧
    ∀ negative, leadingDecimal? negative body = none)

theorem readsLongest_pointed (point : text.dropWhile Char.isDigit = '.' :: rest) :
    ReadsLongest text := by
  by_cases some_digit : text.takeWhile Char.isDigit ++ rest.takeWhile Char.isDigit = []
  · obtain ⟨no_digit, no_fraction⟩ := List.append_eq_nil_iff.mp some_digit
    refine .inr ⟨not_isDecimal no_digit fun other same => ?_, fun negative => ?_⟩
    · rw [point] at same
      cases same
      exact no_fraction
    · simp only [leadingDecimal?, point, no_digit, no_fraction, and_self, if_true]
  · obtain ⟨exponent, scaled, value⟩ := exists_longest_exponent (rest.dropWhile Char.isDigit)
    have digits : ∀ c ∈ text.takeWhile Char.isDigit ++ rest.takeWhile Char.isDigit,
        c.isDigit = true :=
      List.forall_mem_append.mpr ⟨forall_isDigit_takeWhile text, forall_isDigit_takeWhile rest⟩
    refine .inl ⟨_, exponent, isMantissa_pointed digits some_digit, scaled.member,
      longest_pointed point some_digit scaled, fun negative => ?_⟩
    rw [mantissa?_pointed digits some_digit, ← value]
    simp only [leadingDecimal?, point, ← List.append_eq_nil_iff, some_digit, if_false,
      Option.map_some]

theorem readsLongest_whole (pointless : ∀ rest, text.dropWhile Char.isDigit ≠ '.' :: rest) :
    ReadsLongest text := by
  have read (negative : Bool) : leadingDecimal? negative text =
      if text.takeWhile Char.isDigit = [] then none
      else some (spelled negative (text.takeWhile Char.isDigit) []
        (leadingExponent (text.dropWhile Char.isDigit))) := by
    unfold leadingDecimal?
    dsimp only
    split
    · rename_i rest point
      exact absurd point (pointless rest)
    · rfl
  by_cases some_digit : text.takeWhile Char.isDigit = []
  · refine .inr ⟨not_isDecimal some_digit fun rest point => absurd point (pointless rest),
      fun negative => ?_⟩
    rw [read, if_pos some_digit]
  · obtain ⟨exponent, scaled, value⟩ := exists_longest_exponent (text.dropWhile Char.isDigit)
    have decimal := isDigits_takeWhile some_digit
    refine .inl ⟨_, exponent, .whole decimal, scaled.member,
      longest_whole pointless some_digit scaled, fun negative => ?_⟩
    rw [mantissa?_whole decimal, ← value, read, if_neg some_digit, Option.map_some]

theorem readsLongest (body : Text) : ReadsLongest body := by
  by_cases pointed : ∃ rest, body.dropWhile Char.isDigit = '.' :: rest
  · obtain ⟨rest, point⟩ := pointed
    exact readsLongest_pointed point
  · exact readsLongest_whole fun rest point => pointed ⟨rest, point⟩

/-- A numeral that a text begins with has the sign of the text, and goes on as the text does. -/
theorem exists_of_prefix_numeral (divided : text = sign ++ (takeSign text).2)
    (numeral : IsNumeral part) (begins : part <+: text) :
    ∃ body, part = sign ++ body ∧ body <+: (takeSign text).2 ∧
      (body = "Infinity".toList ∨ IsDecimal body) := by
  obtain ⟨its_sign, body, its_signed, rfl, kind⟩ : ∃ its_sign body, IsSign its_sign ∧
      part = its_sign ++ body ∧ (body = "Infinity".toList ∨ IsDecimal body) := by
    cases numeral with
    | infinity signed => exact ⟨_, _, signed, rfl, .inl rfl⟩
    | decimal signed decimal => exact ⟨_, _, signed, rfl, .inr decimal⟩
  have nonempty : body ≠ [] := by
    rcases kind with rfl | decimal
    · decide
    · exact decimal.head.1
  have unsigned (c : Char) (first : body.head? = some c) : c ≠ '+' ∧ c ≠ '-' := by
    rcases kind with rfl | decimal
    · cases first
      decide
    · exact decimal.unsigned c first
  obtain ⟨further, its_divided, -⟩ := prefix_of_sign_append its_signed nonempty unsigned begins
  obtain rfl : sign = its_sign := List.append_cancel_right (divided.symm.trans its_divided)
  exact ⟨body, rfl, further, kind⟩

/-- Behind a sign, a decimal that a text begins with excludes the word. -/
theorem IsDecimal.not_word (decimal : IsDecimal part) (begins : part <+: text) :
    ¬ "Infinity".toList <+: text := by
  rintro ⟨tail, rfl⟩
  obtain ⟨nonempty, head⟩ := decimal.head
  cases part with
  | nil => exact nonempty rfl
  | cons c others =>
    have first : c = 'I' := (List.cons_prefix_cons.mp begins).1
    exact (head c rfl).2.2 first

/-- A number is read from the longest numeral that a text begins with, or from none if there is none. -/
theorem leading?_cases (text : Text) :
    (∃ part, IsLongest IsNumeral part (Text.trimStart text) ∧ leading? text = denoted? part) ∨
    ((∀ part, part <+: Text.trimStart text → ¬ IsNumeral part) ∧ leading? text = none) := by
  rw [leading?_eq]
  generalize Text.trimStart text = text
  obtain ⟨sign, signed, divided, negative⟩ := exists_sign text
  have extends_sign {body : Text} (begins : body <+: (takeSign text).2) : sign ++ body <+: text := by
    conv => rhs; rw [divided]
    exact (List.prefix_append_right_inj sign).mpr begins
  rw [negative]
  by_cases word : "Infinity".toList <+: (takeSign text).2
  · refine .inl ⟨_, ⟨extends_sign word, .infinity signed, ?_⟩, ?_⟩
    · intro other begins numeral
      obtain ⟨body, rfl, further, rfl | decimal⟩ := exists_of_prefix_numeral divided numeral begins
      · exact Nat.le_refl _
      · exact absurd word (decimal.not_word further)
    · rw [if_pos word, denoted?_infinity signed]
  · rw [if_neg word]
    rcases readsLongest (takeSign text).2 with
      ⟨mantissa, exponent, counted, scaled, longest, read⟩ | ⟨none, read⟩
    · refine .inl ⟨_, ⟨extends_sign longest.begins, .decimal signed longest.member, ?_⟩, ?_⟩
      · intro other begins numeral
        obtain ⟨body, rfl, further, rfl | decimal⟩ :=
          exists_of_prefix_numeral divided numeral begins
        · exact absurd further word
        · rw [List.length_append, List.length_append]
          exact Nat.add_le_add_left (longest.longest body further decimal) _
      · rw [read, denoted?_decimal signed counted scaled]
    · refine .inr ⟨fun part begins numeral => ?_, read _⟩
      obtain ⟨body, rfl, further, rfl | decimal⟩ := exists_of_prefix_numeral divided numeral begins
      · exact word further
      · exact none body further decimal

/-- An operand is blank, or it is a numeral with nothing but white space around it. -/
theorem operand?_eq_denoted? (text : Text) (solid : Text.trim text ≠ []) :
    operand? text = denoted? (Text.trim text) := by
  rw [operand?, if_neg solid]
  rfl

/-- No numeral goes on into the white space behind an operand. -/
theorem longest_of_operand? {n : Double} (solid : Text.trim text ≠ []) (read : operand? text = some n) :
    IsLongest IsNumeral (Text.trim text) (Text.trimStart text) := by
  obtain ⟨gap, divided, blank⟩ := Text.exists_gap (Text.trimStart text)
  have numeral : IsNumeral (Text.trim text) := by
    rw [← denoted?_isSome_iff, ← operand?_eq_denoted? text solid, read, Option.isSome_some]
  have begins : Text.trim text <+: Text.trimStart text := by
    conv => rhs; rw [divided]
    exact List.prefix_append _ _
  refine ⟨begins, numeral, fun other its_begins its_numeral => Nat.le_of_not_lt fun longer => ?_⟩
  obtain ⟨rest, rfl⟩ := List.prefix_of_prefix_length_le begins its_begins (Nat.le_of_lt longer)
  rw [divided] at its_begins
  have inside : rest <+: gap := (List.prefix_append_right_inj _).mp its_begins
  cases rest with
  | nil => simp at longer
  | cons c others =>
    have spaced := blank c (inside.subset List.mem_cons_self)
    rw [its_numeral.forall_solid c (by simp)] at spaced
    cases spaced

theorem exists_numeral_of_startsWithInteger (starts : startsWithInteger text = true) :
    ∃ part, part <+: Text.trimStart text ∧ IsNumeral part := by
  obtain ⟨sign, signed, divided, -⟩ := exists_sign (Text.trimStart text)
  unfold startsWithInteger at starts
  cases body : (takeSign (Text.trimStart text)).2 with
  | nil =>
    rw [body] at starts
    cases starts
  | cons c rest =>
    rw [body] at starts divided
    have digit : Text.isDigits [c] = true := Text.isDigits_iff.mpr ⟨by simp, by simpa using starts⟩
    refine ⟨sign ++ [c], ?_, .decimal signed ⟨_, _, .whole digit, .missing, rfl⟩⟩
    rw [divided, List.prefix_append_right_inj]
    exact List.prefix_append [c] rest

/-- The number that a text begins with is read from the longest numeral there; none is read exactly if no
numeral stands there. So an operand that is read whole, and is not blank, is read to the same number, and
a text that begins with an integer begins with a numeral. -/
theorem leading?_longest :
    (∀ text, (denoted? text).isSome = true ↔ IsNumeral text) ∧
    (∀ text, leading? text = none ↔ ∀ part, part <+: Text.trimStart text → ¬ IsNumeral part) ∧
    (∀ text part, IsLongest IsNumeral part (Text.trimStart text) →
      ∃ n, denoted? part = some n ∧ leading? text = some n) ∧
    (∀ text n, Text.trim text ≠ [] → operand? text = some n → leading? text = some n) ∧
    ∀ text, startsWithInteger text = true →
      (∃ part, part <+: Text.trimStart text ∧ IsNumeral part) ∧ leading? text ≠ none := by
  have longest (text part : Text) (begins : IsLongest IsNumeral part (Text.trimStart text)) :
      ∃ n, denoted? part = some n ∧ leading? text = some n := by
    obtain ⟨n, denoted⟩ := Option.isSome_iff_exists.mp (denoted?_isSome_iff.mpr begins.member)
    rcases leading?_cases text with ⟨other, its_begins, read⟩ | ⟨absent, -⟩
    · have shorter := begins.longest other its_begins.begins its_begins.member
      have same : other = part :=
        (List.prefix_of_prefix_length_le its_begins.begins begins.begins shorter).eq_of_length_le
          (its_begins.longest part begins.begins begins.member)
      exact ⟨n, denoted, by rw [read, same, denoted]⟩
    · exact absurd begins.member (absent part begins.begins)
  have missing (text : Text) :
      leading? text = none ↔ ∀ part, part <+: Text.trimStart text → ¬ IsNumeral part := by
    rcases leading?_cases text with ⟨part, begins, read⟩ | ⟨absent, none⟩
    · refine iff_of_false (fun none => ?_) fun absent => absent part begins.begins begins.member
      have denoted := denoted?_isSome_iff.mpr begins.member
      rw [← read, none] at denoted
      cases denoted
    · exact iff_of_true none absent
  refine ⟨fun text => denoted?_isSome_iff, missing, longest, ?_, ?_⟩
  · intro text n solid read
    obtain ⟨m, denoted, led⟩ := longest text _ (longest_of_operand? solid read)
    rw [operand?_eq_denoted? text solid, denoted] at read
    rw [led, read]
  · intro text starts
    obtain ⟨part, begins, numeral⟩ := exists_numeral_of_startsWithInteger starts
    exact ⟨⟨part, begins, numeral⟩, fun none => (missing text).mp none part begins numeral⟩

/-- A measure: the letter of its unit is no exponent without a digit behind it. -/
theorem leading?_longest_measure :
    IsLongest IsNumeral "-2.5".toList (Text.trimStart " -2.5em".toList) ∧
    (∃ n, denoted? "-2.5".toList = some n ∧ leading? " -2.5em".toList = some n) ∧
    (∃ n, operand? " 1e3 ".toList = some n ∧ leading? " 1e3 ".toList = some n) ∧
    leading? "+7th".toList ≠ none := by
  have measure : IsLongest IsNumeral "-2.5".toList (Text.trimStart " -2.5em".toList) := by
    refine ⟨⟨"em".toList, rfl⟩, denoted?_isSome_iff.mp rfl, fun other begins numeral => ?_⟩
    refine Nat.le_of_not_lt fun longer => ?_
    have short : other.length ≤ 6 := begins.length_le
    have taken : other = "-2.5em".toList.take other.length := List.prefix_iff_eq_take.mp begins
    have denoted := denoted?_isSome_iff.mpr numeral
    have length : other.length = 5 ∨ other.length = 6 := by
      have four : "-2.5".toList.length = 4 := rfl
      omega
    rw [taken] at denoted
    rcases length with five | six
    · rw [five] at denoted
      cases denoted
    · rw [six] at denoted
      cases denoted
  obtain ⟨-, -, longest, agree, integer⟩ := leading?_longest
  have thousand : ∃ n, operand? " 1e3 ".toList = some n := Option.isSome_iff_exists.mp rfl
  obtain ⟨n, read⟩ := thousand
  exact ⟨measure, longest _ _ measure, ⟨n, read, agree _ n (by decide) read⟩, (integer _ rfl).2⟩

end TagWeave.Number
