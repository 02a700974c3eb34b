import TagWeave.Catalogue.Template

/-! What can go wrong with a request that was understood, and how its sender is told. -/
namespace TagWeave

inductive Failure where
  | unauthorized (detail : Text)
  | invalid (detail : Text)
  | notFound (detail : Text)
  | internal (detail : Text)
  | refused (refusal : Refusal)
  deriving DecidableEq, Repr

namespace Failure

def status : Failure → Nat
  | .unauthorized _ => 401
  | .invalid _ => 400
  | .notFound _ => 404
  | .internal _ => 500
  | .refused (.notFound _) => 404
  | .refused (.alreadyExists _) => 409
  | .refused (.invalidId _) => 400
  | .refused (.invalidTemplate _) => 400

def code : Failure → String
  | .unauthorized _ => "UNAUTHORIZED"
  | .invalid _ => "VALIDATION_ERROR"
  | .notFound _ => "NOT_FOUND"
  | .internal _ => "INTERNAL_ERROR"
  | .refused (.notFound _) => "TEMPLATE_NOT_FOUND"
  | .refused (.alreadyExists _) => "TEMPLATE_EXISTS"
  | .refused (.invalidId _) => "INVALID_ID"
  | .refused (.invalidTemplate _) => "INVALID_TEMPLATE"

def message : Failure → Text
  | .unauthorized detail => "Authentication error: ".toList ++ detail
  | .invalid detail => "Validation error: ".toList ++ detail
  | .notFound detail => "Not found: ".toList ++ detail
  | .internal detail => "Internal error: ".toList ++ detail
  | .refused refusal => refusal.message

def isProduction (mode : Option Text) : Bool :=
  mode == some "production".toList || mode == some "prod".toList

/-- The message for the sender. In production an internal failure keeps its detail to itself. -/
def shown (mode : Option Text) : Failure → Text
  | .internal detail =>
    if isProduction mode then "Internal server error".toList else (Failure.internal detail).message
  | failure => failure.message

def toJson (mode : Option Text) (failure : Failure) : Json :=
  .ofMembers [("error".toList, .ofMembers [("code".toList, .ofString failure.code),
    ("message".toList, .text (failure.shown mode))])]

end Failure

end TagWeave
