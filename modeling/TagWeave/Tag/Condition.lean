import TagWeave.Number.Operand

/-! Conditions of the `if` tag: two operands around one of six operators. Operators are looked for
one after the other in the whole text, the longer ones first. -/
namespace TagWeave

inductive Comparison where
  | equal
  | unequal
  | atMost
  | atLeast
  | below
  | above
  deriving DecidableEq, Repr

namespace Comparison

/-- The comparisons in the order in which a condition is searched for them. -/
def all : List Comparison := [.equal, .unequal, .atMost, .atLeast, .below, .above]

def sign : Comparison → Text
  | .equal => ['=', '=']
  | .unequal => ['!', '=']
  | .atMost => ['<', '=']
  | .atLeast => ['>', '=']
  | .below => ['<']
  | .above => ['>']

/-- The numbers that two operands begin with, under a test; false where one begins with none. -/
def ordered (test : Double → Double → Bool) (left right : Text) : Bool :=
  match Number.leading? left, Number.leading? right with
  | some a, some b => test a b
  | _, _ => false

/-- Equality compares the texts of the operands, order the numbers they begin with. -/
def holds : Comparison → Text → Text → Bool
  | .equal, left, right => left == right
  | .unequal, left, right => left != right
  | .atMost, left, right => ordered Double.lessEq left right
  | .atLeast, left, right => ordered (fun a b => Double.lessEq b a) left right
  | .below, left, right => ordered Double.less left right
  | .above, left, right => ordered (fun a b => Double.less b a) left right

end Comparison

def orNull (operand : Text) : Text := if operand = [] then "null".toList else operand

/-- Whether a condition holds; nothing if it has no operator. -/
def evaluateCondition (condition : Text) : Option Bool :=
  Comparison.all.findSome? fun comparison =>
    (Text.cut comparison.sign condition).map fun operands =>
      comparison.holds (orNull operands.1) (orNull operands.2)

end TagWeave
