/-! Text is a list of characters. A cut divides a text at the first occurrence of a mark and loses
nothing but the mark itself. -/
namespace TagWeave

/-- The character that begins a tag, and an object of JSON. -/
abbrev openBrace : Char := '\x7b'

abbrev closeBrace : Char := '\x7d'

@[simp] theorem openBrace_ne_closeBrace : openBrace ≠ closeBrace := by decide

@[simp] theorem closeBrace_ne_openBrace : closeBrace ≠ openBrace := by decide

end TagWeave

/-- The text that is written here with angle brackets for its braces. -/
def String.braced (written : String) : List Char :=
  written.toList.map fun c =>
    if c = '⟨' then TagWeave.openBrace else if c = '⟩' then TagWeave.closeBrace else c

namespace TagWeave

/-- Text as the engine reads it, one character at a time. -/
abbrev Text := List Char

namespace Text

/-- Divide a text at its first `mark`, which belongs to neither part. -/
def cutAt (mark : Char) (text : Text) : Option (Text × Text) :=
  match text.dropWhile (· != mark) with
  | [] => none
  | _ :: after => some (text.takeWhile (· != mark), after)

def cutAtLast (mark : Char) (text : Text) : Option (Text × Text) :=
  (cutAt mark text.reverse).map fun parts => (parts.2.reverse, parts.1.reverse)

def cut (mark : Text) : Text → Option (Text × Text)
  | [] => if mark = [] then some ([], []) else none
  | first :: rest =>
    if mark.isPrefixOf (first :: rest) then some ([], (first :: rest).drop mark.length)
    else (cut mark rest).map fun parts => (first :: parts.1, parts.2)

/-- Whether `part` is written somewhere in the text. The empty text is everywhere. -/
def mentions (part text : Text) : Bool := (cut part text).isSome

/-- The pieces of a text between its commas, or any other `mark`; there is always one. -/
def pieces (mark : Char) : Text → List Text
  | [] => [[]]
  | first :: rest =>
    match pieces mark rest with
    | [] => [[first]]
    | piece :: others => if first = mark then [] :: piece :: others else (first :: piece) :: others

def joined (separator : Text) : List Text → Text
  | [] => []
  | [part] => part
  | part :: rest => part ++ separator ++ joined separator rest

def ofNat (n : Nat) : Text := Nat.toDigits 10 n

theorem eq_of_ofNat_eq {first second : Nat} (same : ofNat first = ofNat second) : first = second := by
  have spelled (n : Nat) : Nat.ofDigitChars 10 (ofNat n) 0 = n := Nat.ofDigitChars_ten_toDigits
  rw [← spelled first, same, spelled]

def digitValue (digit : Char) : Nat := digit.toNat - '0'.toNat

def natOfDigits (digits : Text) : Nat :=
  digits.foldl (fun value digit => 10 * value + digitValue digit) 0

/-- The number that a run of decimal digits spells, if it is below `limit`. -/
def natBelow? (limit : Nat) (digits : Text) : Option Nat :=
  digits.foldlM (fun value digit =>
    let next := 10 * value + digitValue digit
    if next < limit then some next else none) 0

def isDigits (text : Text) : Bool := !text.isEmpty && text.all Char.isDigit

/-- The order of texts by the code points of their characters, which is also the order of their
UTF-8 forms byte by byte. -/
def precedes : Text → Text → Bool
  | _, [] => false
  | [], _ :: _ => true
  | a :: left, b :: right => a.toNat < b.toNat || (a.toNat == b.toNat && precedes left right)

def utf8Size : Text → Nat
  | [] => 0
  | first :: rest => first.utf8Size + utf8Size rest

def lowerAscii (text : Text) : Text := text.map Char.toLower

@[simp] theorem cutAt_nil (mark : Char) : cutAt mark [] = none := rfl

theorem cutAt_cons (mark first : Char) (rest : Text) :
    cutAt mark (first :: rest) =
      if first = mark then some ([], rest)
      else (cutAt mark rest).map fun parts => (first :: parts.1, parts.2) := by
  by_cases same : first = mark
  · simp [cutAt, same]
  · simp only [cutAt, List.dropWhile_cons, List.takeWhile_cons, bne_iff_ne, ne_eq, same,
      not_false_eq_true, ↓reduceIte]
    split <;> simp

/-- A cut leaves nothing out but the mark, and takes the first one. -/
theorem cutAt_eq_some {mark : Char} {text before after : Text}
    (found : cutAt mark text = some (before, after)) :
    text = before ++ mark :: after ∧ mark ∉ before := by
  induction text generalizing before with
  | nil => simp at found
  | cons first rest ih =>
    rw [cutAt_cons] at found
    split at found
    · rename_i same
      simp only [Option.some.injEq, Prod.mk.injEq] at found
      obtain ⟨rfl, rfl⟩ := found
      simp [same]
    · rename_i different
      obtain ⟨⟨left, right⟩, inner, parts⟩ := Option.map_eq_some_iff.mp found
      simp only [Prod.mk.injEq] at parts
      obtain ⟨rfl, rfl⟩ := parts
      obtain ⟨rfl, absent⟩ := ih inner
      simpa [absent] using Ne.symm different

theorem cutAt_append {mark : Char} (before after : Text) (absent : mark ∉ before) :
    cutAt mark (before ++ mark :: after) = some (before, after) := by
  induction before with
  | nil => simp [cutAt_cons]
  | cons first rest ih =>
    simp only [List.mem_cons, not_or] at absent
    simp [cutAt_cons, Ne.symm absent.1, ih absent.2]

theorem cutAt_eq_none_iff {mark : Char} {text : Text} : cutAt mark text = none ↔ mark ∉ text := by
  induction text with
  | nil => simp
  | cons first rest ih =>
    rw [cutAt_cons]
    by_cases same : first = mark
    · simp [same]
    · simp [same, ih, Ne.symm same]

end Text

end TagWeave
