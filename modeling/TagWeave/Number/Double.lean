/-! Double-precision numbers in exact arithmetic. The magnitudes that a double can have are
ranked upward from zero, so a number is a sign and a rank, and the order of ranks is the order of
values. -/
namespace TagWeave

/-- Two to the fifty-second: how many ranks share one spacing. -/
def rankBlock : Nat := Nat.pow 2 52

/-- The rank of infinity, above that of every finite magnitude. -/
def topRank : Nat := 2047 * rankBlock

/-- A double: no number at all, or a sign with the rank of its magnitude. -/
inductive Double where
  | nan
  | signed (negative : Bool) (rank : Fin (topRank + 1))
  deriving DecidableEq, Repr

namespace Double

/-- How many of the smallest units a magnitude holds; a unit is two to the power −1074. -/
def unitsOfRank (rank : Nat) : Nat :=
  if rank < rankBlock then rank
  else (rankBlock + rank % rankBlock) * Nat.pow 2 (rank / rankBlock - 1)

def unitsOfOne : Nat := Nat.pow 2 1074

/-- A quotient rounded to the nearest natural number, a half to the even neighbour. -/
def roundDiv (numerator denominator : Nat) : Nat :=
  let quotient := numerator / denominator
  let rest := numerator % denominator
  if 2 * rest < denominator ∨ (2 * rest = denominator ∧ quotient % 2 = 0) then quotient
  else quotient + 1

/-- The rank nearest to a quotient of units; what is too great for a finite one is infinity. -/
def rankOfUnits (numerator denominator : Nat) : Nat :=
  let shift := Nat.log2 (numerator / denominator) - 52
  min topRank (shift * rankBlock + roundDiv numerator (denominator * Nat.pow 2 shift))

def ofUnits (negative : Bool) (numerator denominator : Nat) : Double :=
  .signed negative ⟨rankOfUnits numerator denominator, Nat.lt_succ_of_le (Nat.min_le_left _ _)⟩

def ofRatio (negative : Bool) (numerator denominator : Nat) : Double :=
  ofUnits negative (numerator * unitsOfOne) denominator

def ofNat (n : Nat) : Double := ofRatio false n 1

def ofInt (n : Int) : Double := ofRatio (n < 0) n.natAbs 1

def zeroOf (negative : Bool) : Double := .signed negative 0

def zero : Double := zeroOf false

def one : Double := ofNat 1

def infinity (negative : Bool) : Double := .signed negative (Fin.last topRank)

/-- The double nearest to `digits` times ten to the power `exponent`. Powers that lie far outside
the range of doubles are not worked out. -/
def ofDecimal (negative : Bool) (digits : Nat) (exponent : Int) : Double :=
  if digits = 0 then zeroOf negative
  else if 310 ≤ exponent then infinity negative
  else if exponent + Nat.log2 digits + 1 ≤ -400 then zeroOf negative
  else if 0 ≤ exponent then ofRatio negative (digits * Nat.pow 10 exponent.toNat) 1
  else ofRatio negative digits (Nat.pow 10 (-exponent).toNat)

def units : Double → Nat
  | .nan => 0
  | .signed _ rank => unitsOfRank rank.val

def isNan : Double → Bool
  | .nan => true
  | .signed _ _ => false

def isNegative : Double → Bool
  | .nan => false
  | .signed negative _ => negative

def isInfinite : Double → Bool
  | .nan => false
  | .signed _ rank => rank.val == topRank

def isFinite (n : Double) : Bool := !n.isNan && !n.isInfinite

def isZero : Double → Bool
  | .nan => false
  | .signed _ rank => rank.val == 0

def isIntegral (n : Double) : Bool := n.isFinite && n.units % unitsOfOne == 0

def whole (n : Double) : Nat := n.units / unitsOfOne

/-- The rank with the sign; both zeros have key zero. -/
def key (negative : Bool) (rank : Nat) : Int := if negative then -(rank : Int) else rank

/-- Comparison of numbers by a test on their signed ranks; it fails where one is no number. -/
def compareWith (test : Int → Int → Bool) : Double → Double → Bool
  | .signed a left, .signed b right => test (key a left.val) (key b right.val)
  | _, _ => false

/-- Numeric equality: the two zeros are equal, and what is no number equals nothing. -/
def same : Double → Double → Bool := compareWith fun a b => a == b

def less : Double → Double → Bool := compareWith fun a b => decide (a < b)

def lessEq : Double → Double → Bool := compareWith fun a b => decide (a ≤ b)

def ofBits (bits : Nat) : Double :=
  if small : bits % Nat.pow 2 63 ≤ topRank then
    .signed (bits / Nat.pow 2 63 % 2 == 1) ⟨bits % Nat.pow 2 63, Nat.lt_succ_of_le small⟩
  else .nan

def bits? : Double → Option Nat
  | .nan => none
  | .signed negative rank => some ((if negative then Nat.pow 2 63 else 0) + rank.val)

theorem same_symm (a b : Double) : a.same b = b.same a := by
  cases a <;> cases b <;> first | rfl | exact BEq.comm

theorem same_trans {a b c : Double} (left : a.same b = true) (right : b.same c = true) :
    a.same c = true := by
  cases a <;> cases b <;> cases c <;> simp_all [same, compareWith]

/-- A double equals itself exactly when it is a number. -/
theorem same_self (a : Double) : a.same a = !a.isNan := by
  cases a <;> simp [same, compareWith, isNan]

end Double

end TagWeave
