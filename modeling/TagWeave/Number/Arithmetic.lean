import TagWeave.Number.Double

/-! Arithmetic on doubles: every result is the exact one rounded once. -/
namespace TagWeave.Double

def signedUnits (n : Double) : Int := if n.isNegative then -(n.units : Int) else n.units

def neg : Double → Double
  | .nan => .nan
  | .signed negative rank => .signed (!negative) rank

def abs : Double → Double
  | .nan => .nan
  | .signed _ rank => .signed false rank

/-- The sum. Two infinities of opposite sign have none. -/
def add (a b : Double) : Double :=
  if a.isNan || b.isNan then .nan
  else if a.isInfinite then
    if b.isInfinite && a.isNegative != b.isNegative then .nan else a
  else if b.isInfinite then b
  else
    let sum := a.signedUnits + b.signedUnits
    if sum = 0 then zeroOf (a.isNegative && b.isNegative)
    else ofUnits (sum < 0) sum.natAbs 1

def sub (a b : Double) : Double := add a (neg b)

/-- The product. Infinity times zero is none. -/
def mul (a b : Double) : Double :=
  let negative := a.isNegative != b.isNegative
  if a.isNan || b.isNan then .nan
  else if a.isInfinite || b.isInfinite then
    if a.isZero || b.isZero then .nan else infinity negative
  else ofUnits negative (a.units * b.units) unitsOfOne

/-- The quotient. Zero by zero and infinity by infinity have none. -/
def div (a b : Double) : Double :=
  let negative := a.isNegative != b.isNegative
  if a.isNan || b.isNan then .nan
  else if a.isInfinite then
    if b.isInfinite then .nan else infinity negative
  else if b.isInfinite then zeroOf negative
  else if b.isZero then
    if a.isZero then .nan else infinity negative
  else ofUnits negative (a.units * unitsOfOne) b.units

private def wholeToward (up : Bool) (units : Nat) : Nat :=
  units / unitsOfOne + if up && units % unitsOfOne != 0 then 1 else 0

private def toWhole (upIfNegative : Bool) (n : Double) : Double :=
  if n.isFinite then ofRatio n.isNegative (wholeToward (n.isNegative == upIfNegative) n.units) 1
  else n

def floor (n : Double) : Double := toWhole true n

def ceil (n : Double) : Double := toWhole false n

/-- The nearest whole number, a half upward. -/
def round (n : Double) : Double :=
  if lessEq (ofRatio false 1 2) (sub n (floor n)) then add (floor n) one else floor n

/-- A positive number without its fraction, held at `limit - 1` if it reaches `limit`. What is
negative or no number gives zero. -/
def truncateBelow (limit : Nat) (n : Double) : Nat :=
  if n.isNegative || n.isNan then 0 else min n.whole (limit - 1)

/-- The nearest whole number, a half upward, held at `limit - 1` if it reaches `limit`. What is
negative or no number gives zero. -/
def roundBelow (limit : Nat) (n : Double) : Nat :=
  if n.isNegative || n.isNan then 0
  else min ((2 * n.units + unitsOfOne) / (2 * unitsOfOne)) (limit - 1)

end TagWeave.Double
