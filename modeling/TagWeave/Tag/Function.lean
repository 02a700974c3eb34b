import TagWeave.Text.Basic

/-! Functions that tags can name are known by reference, so that they can be stored, compared and
shared without being looked into. -/
namespace TagWeave

inductive Builtin where
  | round
  | floor
  | ceil
  | abs
  | random
  | object
  | contains
  | vector
  | choose
  | isNaN
  | push
  | length
  | upper
  | lower
  | trim
  | join
  deriving DecidableEq, Repr

def Builtin.all : List Builtin :=
  [.round, .floor, .ceil, .abs, .random, .object, .contains, .vector, .choose, .isNaN, .push,
   .length, .upper, .lower, .trim, .join]

def Builtin.name : Builtin → String
  | .round => "round"
  | .floor => "floor"
  | .ceil => "ceil"
  | .abs => "abs"
  | .random => "random"
  | .object => "object"
  | .contains => "in"
  | .vector => "vector"
  | .choose => "if"
  | .isNaN => "isNaN"
  | .push => "push"
  | .length => "length"
  | .upper => "upper"
  | .lower => "lower"
  | .trim => "trim"
  | .join => "join"

/-- A function: a builtin one, or one that the host of the engine brings, by number. Two functions
are the same only if their references are. -/
inductive FunctionRef where
  | builtin (function : Builtin)
  | host (number : Nat)
  deriving DecidableEq, Repr

end TagWeave
