import TagWeave.Json.Shape
import TagWeave.Leveling.Curve
import TagWeave.Number.Arithmetic

/-! Experience for messages. A message gives a drawn amount, scaled by a base rate and by every
multiplier that matches the member or the channel. -/
namespace TagWeave

inductive MultiplierKind where
  | role
  | channel
  deriving DecidableEq, Repr

structure Multiplier where
  kind : MultiplierKind
  id : Text
  factor : Double
  deriving DecidableEq, Repr

structure Rates where
  /-- The base rate; none and zero both mean one. -/
  base : Option Double
  multipliers : List Multiplier
  deriving DecidableEq, Repr

/-- The least and the greatest experience of a message before it is scaled. -/
def messageXpBounds : Nat × Nat := (25, 39)

def messageXp (draw : Fin 15) : Nat := messageXpBounds.1 + draw.val

namespace Rates

def applies (roles : List Text) (channel : Text) (multiplier : Multiplier) : Bool :=
  match multiplier.kind with
  | .role => roles.contains multiplier.id
  | .channel => channel == multiplier.id

/-- The product of the base rate and all multipliers that count, in their order. -/
def factor (rates : Rates) (roles : List Text) (channel : Text) : Double :=
  let base := match rates.base with
    | some rate => if rate.isZero then .one else rate
    | none => .one
  (rates.multipliers.filter (applies roles channel)).foldl
    (fun product multiplier => product.mul multiplier.factor) base

/-- Scale an amount to whole points. What is not a finite positive number of points is none. -/
def scale (rates : Rates) (amount : Nat) (roles : List Text) (channel : Text) : Nat :=
  let scaled := (Double.ofNat amount).mul (rates.factor roles channel)
  if scaled.isFinite then scaled.truncateBelow amountLimit else 0

def roll (rates : Rates) (draw : Fin 15) (roles : List Text) (channel : Text) : Nat :=
  rates.scale (messageXp draw) roles channel

def multiplierFields : List (FieldRule × Shape) :=
  [(⟨"type", .required, false⟩, .word ["role", "channel"]),
   (⟨"id", .required, false⟩, .anyText),
   (⟨"multiplier", .required, false⟩, .number)]

def fields : List (FieldRule × Shape) :=
  [(⟨"xpRate", .defaulted, true⟩, .number),
   (⟨"multipliers", .defaulted, false⟩, .list (.record multiplierFields))]

private def multiplierOf (draft : Draft) : Multiplier :=
  ⟨if (draft.field multiplierFields "type").word? = some "role".toList then .role else .channel,
   (draft.field multiplierFields "id").asText,
   (draft.field multiplierFields "multiplier").double?.getD .one⟩

def read (draft : Draft) : Except Fault Rates :=
  draft.readAs (.record fields) fun record =>
    ⟨(record.field fields "xpRate").double?,
     ((record.field fields "multipliers").items?.getD []).map multiplierOf⟩

end Rates

end TagWeave
