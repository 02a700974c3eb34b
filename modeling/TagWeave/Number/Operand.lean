import TagWeave.Number.Double
import TagWeave.Text.Blank

/-! Numbers read from template text. An operand is read whole or not at all; a measure such as
`5px` is read by its longest numeric beginning. -/
namespace TagWeave.Number

def takeSign : Text → Bool × Text
  | '-' :: rest => (true, rest)
  | '+' :: rest => (false, rest)
  | text => (false, text)

/-- How many digits of a numeral are read to the end. A point halfway between two doubles has
fewer. -/
def decisiveDigits : Nat := 800

/-- The double that a numeral spells by its sign, digits and exponent. Of the digits beyond the
decisive ones it only matters whether one of them is not zero. -/
def spelled (negative : Bool) (integer fraction : Text) (exponent : Int) : Double :=
  let digits := (integer ++ fraction).dropWhile (· == '0')
  let beyond := digits.drop decisiveDigits
  let last := if beyond.all (· == '0') then '0' else '1'
  .ofDecimal negative (Text.natOfDigits (digits.take decisiveDigits ++ [last]))
    (exponent - fraction.length + beyond.length - 1)

/-- The exponent that a sign and digits spell. Digits count until it has reached two to the
sixteenth, far beyond all doubles; the ones after that are passed over. -/
def exponentOf (negative : Bool) (digits : Text) : Int :=
  let power : Nat := digits.foldl
    (fun power digit => if power < Nat.pow 2 16 then 10 * power + Text.digitValue digit else power) 0
  if negative then -power else power

def exponent? (text : Text) : Option Int :=
  let (negative, digits) := takeSign text
  if Text.isDigits digits then some (exponentOf negative digits) else none

def mantissa? (text : Text) : Option (Text × Text) :=
  let (integer, fraction) := (Text.cutAt '.' text).getD (text, [])
  if (integer ++ fraction).all Char.isDigit && !(integer ++ fraction).isEmpty then
    some (integer, fraction)
  else none

def numeral? (text : Text) : Option Double :=
  let (negative, body) := takeSign text
  match body.dropWhile fun c => c != 'e' && c != 'E' with
  | [] => (mantissa? body).map fun parts => spelled negative parts.1 parts.2 0
  | _ :: power => do
    let parts ← mantissa? (body.takeWhile fun c => c != 'e' && c != 'E')
    let exponent ← exponent? power
    return spelled negative parts.1 parts.2 exponent

/-- The number an operand stands for. White space around it is ignored, an operand of nothing else
is zero, and the only word that counts is `Infinity`. -/
def operand? (text : Text) : Option Double :=
  let body := Text.trim text
  if body = [] then some .zero
  else if (takeSign body).2 = "Infinity".toList then some (.infinity (takeSign body).1)
  else numeral? body

def index? (text : Text) : Option Nat :=
  match operand? text with
  | some n => if n.isIntegral && (!n.isNegative || n.isZero) then some n.whole else none
  | none => none

/-- The exponent a text begins with: a letter `e`, an optional sign and at least one digit. -/
def leadingExponent : Text → Int
  | [] => 0
  | c :: rest =>
    let (negative, digits) := takeSign rest
    if c = 'e' ∨ c = 'E' then exponentOf negative (digits.takeWhile Char.isDigit) else 0

/-- The number a text begins with, as many of its characters as make a numeral. White space before
it is ignored, and so is all that follows it. -/
def leading? (text : Text) : Option Double :=
  let (negative, body) := takeSign (Text.trimStart text)
  if "Infinity".toList.isPrefixOf body then some (.infinity negative)
  else
    let integer := body.takeWhile Char.isDigit
    match body.dropWhile Char.isDigit with
    | '.' :: rest =>
      let fraction := rest.takeWhile Char.isDigit
      if integer = [] ∧ fraction = [] then none
      else some (spelled negative integer fraction (leadingExponent (rest.dropWhile Char.isDigit)))
    | rest =>
      if integer = [] then none else some (spelled negative integer [] (leadingExponent rest))

def startsWithInteger (text : Text) : Bool :=
  match (takeSign (Text.trimStart text)).2 with
  | [] => false
  | c :: _ => c.isDigit

end TagWeave.Number
