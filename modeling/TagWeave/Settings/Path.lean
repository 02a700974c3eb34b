import TagWeave.Text.Basic

/-! Dotted names as paths. Each part of the name is a member, and indexes in brackets after it lead
to items: `server.hosts[0]`. -/
namespace TagWeave

inductive Step where
  | member (name : Text)
  /-- An item of a list. An index below zero counts from the end. -/
  | item (index : Int)
  deriving DecidableEq, Repr

def fitsWord (n : Int) : Bool := -Int.pow 2 63 ≤ n && n < Int.pow 2 63

def wordOfDigits? (negative : Bool) (digits : Text) : Option Int :=
  if Text.isDigits digits then do
    let n ← Text.natBelow? (Nat.pow 2 64) digits
    let value : Int := if negative then -n else n
    if fitsWord value then some value else none
  else none

namespace Step

def isNamePart (c : Char) : Bool := c.isAlphanum || c == ' ' || c == '_' || c == '-'

private def unpadded (text : Text) : Text := text.dropWhile fun c => c == ' ' || c == '\t'

def index? : Text → Option Int
  | '[' :: inside =>
    match (unpadded (unpadded inside).reverse).reverse with
    | '-' :: digits => wordOfDigits? true digits
    | digits => wordOfDigits? false digits
  | _ => none

/-- The steps of one part of a dotted name: a member and the indexes after it. -/
def ofPart? (part : Text) : Option (List Step) :=
  let name := part.takeWhile isNamePart
  let groups := Text.pieces ']' (part.dropWhile isNamePart)
  if name = [] ∨ groups.getLast? ≠ some [] then none
  else (groups.dropLast.mapM index?).map fun indexes => .member name :: indexes.map .item

/-- The path of a dotted name. A name that is made otherwise is the name of one member. -/
def ofName (name : Text) : List Step :=
  match (Text.pieces '.' name).mapM ofPart? with
  | some steps => steps.flatten
  | none => [.member name]

end Step

end TagWeave
