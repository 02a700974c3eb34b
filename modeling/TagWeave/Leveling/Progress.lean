import TagWeave.Json.Shape
import TagWeave.Leveling.Curve

/-! The place of a member on the experience curve. -/
namespace TagWeave

structure Progress where
  level : Nat
  /-- The experience gathered towards the next level. -/
  current : Nat
  required : Nat
  total : Nat
  deriving DecidableEq, Repr

namespace Progress

/-- Where every member starts. The first level takes its target, which is no overflow. -/
def start : Progress := ⟨0, 0, (targetXp 0).toOption.getD 0, 0⟩

example : start = ⟨0, 0, 100, 0⟩ := by decide

def totalWith (progress : Progress) (amount : Nat) : Except Overflow Nat := do
  addAmounts (← addAmounts (← totalXp progress.level) progress.current) amount

/-- Go up one level, field by field. An overflow keeps what was written before it. -/
def rise (progress : Progress) : Except Overflow Nat × Progress :=
  match nextLevel progress.level with
  | .error overflow => (.error overflow, progress)
  | .ok level =>
    let risen := { progress with level := level }
    match targetXp level with
    | .error overflow => (.error overflow, risen)
    | .ok required => (.ok level, { risen with required := required })

/-- Gather experience, field by field, and tell the new level if one was reached. A member rises by
one level at most; what is left over counts towards the next. An overflow keeps what was written
before it. -/
def gain (progress : Progress) (amount : Nat) : Except Overflow (Option Nat) × Progress :=
  match progress.totalWith amount with
  | .error overflow => (.error overflow, progress)
  | .ok total =>
    let counted := { progress with total := total }
    match addAmounts progress.current amount with
    | .error overflow => (.error overflow, counted)
    | .ok gathered =>
      if progress.required < gathered then
        let (reached, risen) := { counted with current := gathered - progress.required }.rise
        (reached.map some, risen)
      else (.ok none, { counted with current := gathered })

/-- Add experience: the new progress and the new level if one was reached, or the overflow. -/
def add (progress : Progress) (amount : Nat) : Except Overflow (Progress × Option Nat) :=
  match progress.gain amount with
  | (.error overflow, _) => .error overflow
  | (.ok reached, gained) => .ok (gained, reached)

def fields : List (FieldRule × Shape) :=
  [(⟨"level", .required, false⟩, .natural levelLimit),
   (⟨"xpCurrent", .required, false⟩, .natural amountLimit),
   (⟨"xpRequired", .required, false⟩, .natural amountLimit),
   (⟨"xpTotal", .required, false⟩, .natural amountLimit)]

def read (draft : Draft) : Except Fault Progress :=
  draft.readAs (.record fields) fun record =>
    ⟨(record.field fields "level").asNatural, (record.field fields "xpCurrent").asNatural,
     (record.field fields "xpRequired").asNatural, (record.field fields "xpTotal").asNatural⟩

end Progress

end TagWeave
