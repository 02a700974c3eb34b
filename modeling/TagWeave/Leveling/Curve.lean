/-! The experience curve. Amounts are words of sixty-four bits, and a result that does not fit is an
overflow of the operation that made it. -/
namespace TagWeave

inductive Overflow where
  | addition
  | multiplication
  deriving DecidableEq, Repr

def amountLimit : Nat := Nat.pow 2 64

def addAmounts (a b : Nat) : Except Overflow Nat :=
  if a + b < amountLimit then .ok (a + b) else .error .addition

def multiplyAmounts (a b : Nat) : Except Overflow Nat :=
  if a * b < amountLimit then .ok (a * b) else .error .multiplication

def levelLimit : Nat := Nat.pow 2 32

def nextLevel (level : Nat) : Except Overflow Nat :=
  if level + 1 < levelLimit then .ok (level + 1) else .error .addition

/-- The experience from a level to the next: `5 l² + 50 l + 100`. -/
def targetXp (level : Nat) : Except Overflow Nat := do
  let square ← multiplyAmounts (← multiplyAmounts 5 level) level
  let linear ← multiplyAmounts 50 level
  addAmounts (← addAmounts square linear) 100

/-- Add the targets of as many levels as `levels` says, from `level` on. -/
def sumTargets (level sum : Nat) : (levels : Nat) → Except Overflow Nat
  | 0 => .ok sum
  | levels + 1 =>
    match targetXp level with
    | .error overflow => .error overflow
    | .ok target =>
      match addAmounts sum target with
      | .error overflow => .error overflow
      | .ok sum => sumTargets (level + 1) sum levels

/-- The experience from nothing to a level. -/
def totalXp (level : Nat) : Except Overflow Nat := sumTargets 0 0 level

end TagWeave
