import TagWeave.Number.Double

/-! The shortest decimal digits of a double: the coarsest power-of-ten grid with a point that reads
back as the number, and the nearest such point on it. -/
namespace TagWeave.Double

inductive Tie where
  | upward
  | toEven
  deriving DecidableEq, Repr

/-- A decimal number: `digits` times ten to the power `exponent`. -/
structure Decimal where
  digits : Nat
  exponent : Int
  deriving DecidableEq, Repr

/-- The step of the grid of tens to the power `exponent` in half units, as a quotient. -/
def gridStep (exponent : Int) : Nat × Nat :=
  if 0 ≤ exponent then (2 * unitsOfOne * Nat.pow 10 exponent.toNat, 1)
  else (2 * unitsOfOne, Nat.pow 10 (-exponent).toNat)

/-- Whether a point, in half units over `den`, rounds to the magnitude of this rank. The ends of the
interval belong to it when the rank is even. -/
def roundsTo (rank : Nat) (point den : Nat) : Bool :=
  let low := (unitsOfRank (rank - 1) + unitsOfRank rank) * den
  let high := (unitsOfRank rank + unitsOfRank (rank + 1)) * den
  if rank % 2 = 0 then decide (low ≤ point ∧ point ≤ high) else decide (low < point ∧ point < high)

/-- The point of a grid to write for a rank, if one of the two nearest reads back. -/
def pointOn (tie : Tie) (rank : Nat) (exponent : Int) : Option Nat :=
  let (step, den) := gridStep exponent
  let target := 2 * unitsOfRank rank * den
  let below := target / step
  let fromBelow := target - below * step
  let toAbove := (below + 1) * step - target
  match roundsTo rank (below * step) den, roundsTo rank ((below + 1) * step) den with
  | false, false => none
  | true, false => some below
  | false, true => some (below + 1)
  | true, true =>
    if fromBelow < toAbove then some below
    else if toAbove < fromBelow then some (below + 1)
    else match tie with
      | .upward => some (below + 1)
      | .toEven => some (if below % 2 = 0 then below else below + 1)

def searchFrom (tie : Tie) (rank : Nat) : (grids : Nat) → (exponent : Int) → Decimal
  | 0, exponent => ⟨0, exponent⟩
  | grids + 1, exponent =>
    match pointOn tie rank exponent with
    | some digits => ⟨digits, exponent⟩
    | none => searchFrom tie rank grids (exponent - 1)

/-- The shortest digits of a positive finite magnitude. The first grid tried is coarser than the
magnitude, and seventeen digits always suffice. -/
def shortest (tie : Tie) (rank : Nat) : Decimal :=
  let bits : Int := Nat.log2 (unitsOfRank rank) + 1 - 1074
  searchFrom tie rank 22 (bits * 30103 / 100000 + 2)

end TagWeave.Double
