import TagWeave.Engine.Run

/-! Meters count what the service did since it started, and gauge what it holds. -/
namespace TagWeave

inductive Operation where
  | create
  | update
  | delete
  | render
  deriving DecidableEq, Repr

def Operation.all : List Operation := [.create, .update, .delete, .render]

def Operation.name : Operation → String
  | .create => "create"
  | .update => "update"
  | .delete => "delete"
  | .render => "render"

def iterationBounds : List Nat := [0, 1, 2, 5, 10, 25, 50, 100]

structure Meters where
  renders : Outcome → Nat
  operations : Operation → Nat
  /-- How many renderings took as many evaluations as each bound allows, but no lower one. -/
  buckets : List Nat
  /-- The sum is shown as a double, which is exact below two to the power 53; here it is always exact. -/
  iterationSum : Nat
  iterationCount : Nat
  registeredTags : Nat
  templatesStored : Nat

namespace Meters

def zero : Meters :=
  ⟨fun _ => 0, fun _ => 0, iterationBounds.map fun _ => 0, 0, 0, 0, 0⟩

/-- Count one at the first bound that is not below `n`. -/
def countAt (n : Nat) : (bounds counts : List Nat) → List Nat
  | bound :: bounds, count :: counts =>
    if n ≤ bound then (count + 1) :: counts else count :: countAt n bounds counts
  | _, counts => counts

def recordRun (meters : Meters) (report : Report) : Meters :=
  { meters with
    renders := fun outcome =>
      if outcome = report.outcome then meters.renders outcome + 1 else meters.renders outcome
    buckets := countAt report.iterations iterationBounds meters.buckets
    iterationSum := meters.iterationSum + report.iterations
    iterationCount := meters.iterationCount + 1 }

def recordOperation (meters : Meters) (operation : Operation) : Meters :=
  { meters with
    operations := fun other =>
      if other = operation then meters.operations other + 1 else meters.operations other }

def gaugeTemplates (meters : Meters) (count : Nat) : Meters :=
  { meters with templatesStored := count }

def gaugeTags (meters : Meters) (count : Nat) : Meters :=
  { meters with registeredTags := count }

private def labelled (name label : String) (value : Text) : Text :=
  "tagtpl_".toList ++ name.toList ++ openBrace :: label.toList ++ '=' :: '"' :: value ++ ['"', closeBrace]

/-- The counts up to and including each bound. -/
def cumulated : (sum : Nat) → List Nat → List Nat
  | _, [] => []
  | sum, count :: rest => (sum + count) :: cumulated (sum + count) rest

def samples (meters : Meters) : List (Text × Nat) :=
  Outcome.all.map (fun outcome =>
    (labelled "renders_total" "outcome" outcome.name.toList, meters.renders outcome)) ++
  Operation.all.map (fun operation =>
    (labelled "template_operations_total" "operation" operation.name.toList,
      meters.operations operation)) ++
  (iterationBounds.zip (cumulated 0 meters.buckets)).map (fun bucket =>
    (labelled "render_iterations_bucket" "le" (Text.ofNat bucket.1), bucket.2)) ++
  [(labelled "render_iterations_bucket" "le" "+Inf".toList, meters.iterationCount),
   ("tagtpl_render_iterations_sum".toList, meters.iterationSum),
   ("tagtpl_render_iterations_count".toList, meters.iterationCount),
   ("tagtpl_registered_tags".toList, meters.registeredTags),
   ("tagtpl_templates_stored".toList, meters.templatesStored)]

end Meters

end TagWeave
