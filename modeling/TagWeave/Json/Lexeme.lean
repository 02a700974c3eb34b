import TagWeave.Json.Basic
import TagWeave.Number.Arithmetic

/-! The strings and numbers of JSON text. Both are read by their grammar first and valued after, for
a string may spell half of a character and a number may be too great for a double. -/
namespace TagWeave.Lexeme

def isSpace (c : Char) : Bool := c == ' ' || c == '\t' || c == '\n' || c == '\r'

def skipSpace (text : Text) : Text := text.dropWhile isSpace

def hexValue? (c : Char) : Option Nat :=
  if c.isDigit then some (c.toNat - '0'.toNat)
  else if 'a' ≤ c && c ≤ 'f' then some (c.toNat - 'a'.toNat + 10)
  else if 'A' ≤ c && c ≤ 'F' then some (c.toNat - 'A'.toNat + 10)
  else none

def hexCode? (a b c d : Char) : Option Nat := do
  return 4096 * (← hexValue? a) + 256 * (← hexValue? b) + 16 * (← hexValue? c) + (← hexValue? d)

def shortEscape? (c : Char) : Option Char :=
  match c with
  | '"' => some '"'
  | '\\' => some '\\'
  | '/' => some '/'
  | 'b' => some '\x08'
  | 'f' => some '\x0c'
  | 'n' => some '\n'
  | 'r' => some '\r'
  | 't' => some '\t'
  | _ => none

/-- The codes that the inside of a string spells, up to its closing quote, and the text after that.
A long escape gives one code, which may be half of a pair. -/
def readCodes : Text → Option (List Nat × Text)
  | [] => none
  | '"' :: rest => some ([], rest)
  | '\\' :: 'u' :: a :: b :: c :: d :: rest => do
    let code ← hexCode? a b c d
    let (codes, after) ← readCodes rest
    return (code :: codes, after)
  | '\\' :: c :: rest => do
    let plain ← shortEscape? c
    let (codes, after) ← readCodes rest
    return (plain.toNat :: codes, after)
  | c :: rest =>
    if c.toNat < 0x20 then none
    else (readCodes rest).map fun (codes, after) => (c.toNat :: codes, after)

/-- The characters of codes, halves of a pair put together; nothing if a half stands alone. -/
def assemble? : List Nat → Option Text
  | [] => some []
  | code :: rest =>
    if 0xDC00 ≤ code ∧ code ≤ 0xDFFF then none
    else if 0xD800 ≤ code ∧ code ≤ 0xDBFF then
      match rest with
      | [] => none
      | low :: rest =>
        if 0xDC00 ≤ low ∧ low ≤ 0xDFFF then
          (assemble? rest).map
            (Char.ofNat (0x10000 + (code - 0xD800) * 0x400 + (low - 0xDC00)) :: ·)
        else none
    else (assemble? rest).map (Char.ofNat code :: ·)

structure Numeral where
  negative : Bool
  integer : Text
  fraction : Option Text
  /-- The sign and the digits after the letter `e`. -/
  exponent : Option (Bool × Text)

/-- The fraction that a text begins with; nothing if a point stands there without digits. -/
def readFraction : Text → Option (Option Text × Text)
  | '.' :: rest =>
    let digits := rest.takeWhile Char.isDigit
    if digits = [] then none else some (some digits, rest.dropWhile Char.isDigit)
  | text => some (none, text)

def readExponent : Text → Option (Option (Bool × Text) × Text)
  | [] => some (none, [])
  | c :: rest =>
    if c = 'e' ∨ c = 'E' then
      let (negative, body) := match rest with
        | '-' :: body => (true, body)
        | '+' :: body => (false, body)
        | body => (false, body)
      let digits := body.takeWhile Char.isDigit
      if digits = [] then none else some (some (negative, digits), body.dropWhile Char.isDigit)
    else some (none, c :: rest)

/-- The number that a text begins with. Only a lone zero may begin with a zero. -/
def readNumeral (text : Text) : Option (Numeral × Text) := do
  let (negative, body) := match text with
    | '-' :: body => (true, body)
    | body => (false, body)
  let integer := body.takeWhile Char.isDigit
  if integer = [] ∨ (integer.head? = some '0' ∧ integer.length ≠ 1) then none
  else do
    let (fraction, body) ← readFraction (body.dropWhile Char.isDigit)
    let (exponent, rest) ← readExponent body
    return (⟨negative, integer, fraction, exponent⟩, rest)

/-- Add digits to a significand as long as it fits into sixty-four bits. The digits that no longer
fit are left. -/
def takeFitting (significand : Nat) : Text → Nat × Text
  | [] => (significand, [])
  | digit :: rest =>
    let next := 10 * significand + Text.digitValue digit
    if next < Nat.pow 2 64 then takeFitting next rest else (significand, digit :: rest)

def powerOfTen (power : Nat) : Double := .ofDecimal false 1 power

/-- A significand scaled by one multiplication or division, or by two divisions if the power is out
of the range of doubles. Nothing if the result is too great. -/
def scaled (significand : Nat) (exponent : Int) : Option Double :=
  let value := Double.ofNat significand
  let power := exponent.natAbs
  if 0 ≤ exponent then
    if power ≤ 308 then
      let product := value.mul (powerOfTen power)
      if product.isInfinite then none else some product
    else if value.isZero then some value else none
  else if power ≤ 308 then some (value.div (powerOfTen power))
  else if power ≤ 616 then some ((value.div (powerOfTen 308)).div (powerOfTen (power - 308)))
  else some .zero

def Numeral.value (numeral : Numeral) : Option Json.Number :=
  let (whole, left) := takeFitting 0 numeral.integer
  let withSign (n : Double) : Double := if numeral.negative then n.neg else n
  match numeral.fraction, numeral.exponent, left with
  | none, none, [] =>
    if !numeral.negative then some (.integer whole)
    else if whole = 0 ∨ Nat.pow 2 63 < whole then some (.double (Double.ofNat whole).neg)
    else some (.integer (-whole))
  | fraction, exponent, left =>
    let digits := fraction.getD []
    let (significand, dropped) := takeFitting whole digits
    let power : Int := match exponent with
      | none => 0
      | some (negative, digits) =>
        if negative then -(Text.natOfDigits digits : Int) else Text.natOfDigits digits
    (scaled significand (left.length - (digits.length - dropped.length) + power)).map
      fun n => .double (withSign n)

end TagWeave.Lexeme
