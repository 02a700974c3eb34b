import TagWeave.Number.Shortest
import TagWeave.Text.Basic

/-! How numbers are written. The digits are the shortest ones; a layout decides the rest. -/
namespace TagWeave.Double

structure Layout where
  tie : Tie
  /-- The powers of ten of the first digit that are written without an exponent. -/
  isPlain : Int → Bool
  wholeTail : Text

def plainDigits (wholeTail : Text) (decimal : Decimal) : Text :=
  let digits := Text.ofNat decimal.digits
  let point : Int := digits.length + decimal.exponent
  if 0 ≤ decimal.exponent then digits ++ List.replicate decimal.exponent.toNat '0' ++ wholeTail
  else if 0 < point then digits.take point.toNat ++ '.' :: digits.drop point.toNat
  else '0' :: '.' :: List.replicate (-point).toNat '0' ++ digits

def scientificDigits (decimal : Decimal) : Text :=
  let digits := Text.ofNat decimal.digits
  let power : Int := digits.length + decimal.exponent - 1
  let fraction := if digits.length = 1 then [] else '.' :: digits.drop 1
  digits.take 1 ++ fraction ++ 'e' :: (if power < 0 then '-' else '+') :: Text.ofNat power.natAbs

def Layout.magnitude (layout : Layout) (rank : Nat) : Text :=
  let decimal := shortest layout.tie rank
  let power : Int := (Text.ofNat decimal.digits).length + decimal.exponent - 1
  if layout.isPlain power then plainDigits layout.wholeTail decimal else scientificDigits decimal

/-- Template text never has an exponent. -/
def templateLayout : Layout := ⟨.upward, fun _ => true, []⟩

/-- JSON text turns to exponents below ten to the power −5 and from ten to the power 16 on. -/
def jsonLayout : Layout := ⟨.toEven, fun power => -5 ≤ power && power < 16, ['.', '0']⟩

def withSign (negative : Bool) (magnitude : Text) : Text :=
  if negative then '-' :: magnitude else magnitude

/-- A number as template output shows it: whole numbers below ten to the power 21 exactly, others by
their shortest digits, and zero without a sign. -/
def text : Double → Text
  | .nan => "NaN".toList
  | .signed negative rank =>
    let n := Double.signed negative rank
    if rank.val = topRank then withSign negative "Infinity".toList
    else if rank.val = 0 then ['0']
    else if n.isIntegral && n.whole < Nat.pow 10 21 then withSign negative (Text.ofNat n.whole)
    else withSign negative (templateLayout.magnitude rank.val)

end TagWeave.Double
