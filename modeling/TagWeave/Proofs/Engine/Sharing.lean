import Mathlib.Data.List.Induction
import TagWeave.Engine.Workshop
import TagWeave.Proofs.Entries.Sorted
import TagWeave.Proofs.Steps

/-! Registries that are shared and registries that are not. A renderer and its copy have one registry
and a budget each; a renderer that was made apart has a registry of its own. Whatever the three do and
in whatever order, a registry is what was done to it through those who share it. -/
namespace TagWeave

inductive Renderer.Move where
  /-- Register a function, be it a new one or one that is registered elsewhere. -/
  | add (name : Text) (function : FunctionRef)
  | remove (name : Text)
  | setBudget (budget : Nat)
  | run (draws : Draws) (text : Text) (store : Store)

inductive Renderer.Result where
  | done
  | removed (present : Bool)
  | rendered (report : Report) (store : Store)

open Renderer (Move Result)

namespace Registry

def undergo (registry : Registry) : Move → Registry
  | .add name function => registry.add name function
  | .remove name => registry.remove name
  | .setBudget _ | .run _ _ _ => registry

/-- The function that was added last under a name, if the name was not removed since. The newest move
comes first. -/
def latest? (name : Text) : List Move → Option FunctionRef
  | [] => none
  | .add other function :: earlier => if other = name then some function else latest? name earlier
  | .remove other :: earlier => if other = name then none else latest? name earlier
  | .setBudget _ :: earlier | .run _ _ _ :: earlier => latest? name earlier

/-- A registry is what its history says: each name has its latest function. -/
def Recounts (registry : Registry) (history : List Move) : Prop :=
  ∀ name, registry.get? name = latest? name history

variable {registry : Registry} {history : List Move} {name : Text}

theorem recounts_empty : empty.Recounts [] := fun _ => rfl

theorem Recounts.undergo (recounts : registry.Recounts history) (move : Move) :
    (registry.undergo move).Recounts (move :: history) := by
  intro other
  cases move with
  | add name function =>
    rw [latest?, ← recounts]
    exact Entries.find?_write name other function registry.entries
  | remove name =>
    rw [latest?, ← recounts]
    exact Entries.find?_erase registry.distinct name other
  | setBudget _ | run _ _ _ => exact recounts other

theorem mem_names : name ∈ registry.names ↔ ∃ function, registry.get? name = some function := by
  rw [names, List.mem_mergeSort, ← Entries.find?_isSome_iff, Option.isSome_iff_exists]
  rfl

theorem names_increasing (registry : Registry) : registry.names.Pairwise Text.Before := by
  have distinct : ((Entries.keys registry.entries).map id).Nodup := by
    rw [List.map_id]
    exact registry.distinct
  exact Text.increasing_mergeSort_by id distinct

/-- The builtin functions are added before anything else is done. -/
def builtinMoves : List Move :=
  Builtin.all.map fun function => .add function.name.toList (.builtin function)

theorem standard_eq_undergo : standard = builtinMoves.foldl undergo empty := by
  rw [builtinMoves, List.foldl_map]
  rfl

end Registry

/-- Who works: one with a renderer, one with a copy of it, and one with a renderer made apart. -/
inductive Party where
  | original
  | copy
  | stranger
  deriving DecidableEq

/-- Whether two have one registry. -/
def Party.shares : Party → Party → Bool
  | .stranger, .stranger => true
  | .stranger, _ | _, .stranger => false
  | _, _ => true

structure Bench where
  workshop : Workshop
  renderer : Party → Renderer

namespace Bench

/-- Two new renderers, and a copy of the first one. -/
def start (workshop : Workshop) : Bench :=
  let (original, workshop) := workshop.newRenderer .standard
  let (stranger, workshop) := workshop.newRenderer .standard
  ⟨workshop, fun party => match party with
    | .original | .copy => original
    | .stranger => stranger⟩

def registry (bench : Bench) (party : Party) : Registry :=
  bench.workshop.registryOf (bench.renderer party)

def budget (bench : Bench) (party : Party) : Nat := (bench.renderer party).budget

def step (functions : Functions) (bench : Bench) (party : Party) : Move → Result × Bench
  | .add name function =>
    (.done, { bench with
      workshop := bench.workshop.addTag (bench.renderer party) name function })
  | .remove name =>
    let (present, workshop) := bench.workshop.removeTag (bench.renderer party) name
    (.removed present, { bench with workshop := workshop })
  | .setBudget budget =>
    (.done, { bench with
      renderer := fun other =>
        if other = party then { bench.renderer party with budget := budget }
        else bench.renderer other })
  | .run draws text store =>
    let (report, left) := bench.workshop.run functions (bench.renderer party) draws text store
    (.rendered report left, bench)

def after (functions : Functions) (bench : Bench) (moves : List (Party × Move)) : Bench :=
  moves.foldl (fun bench move => (bench.step functions move.1 move.2).2) bench

def undergone (party : Party) (moves : List (Party × Move)) : List Move :=
  Registry.builtinMoves ++ (moves.filter fun move => move.1.shares party).map Prod.snd

def lastBudget? (party : Party) (moves : List (Party × Move)) : Option Nat :=
  moves.reverse.findSome? fun move =>
    match move.2 with
    | .setBudget budget => if move.1 = party then some budget else none
    | .add _ _ | .remove _ | .run _ _ _ => none

/-- The renderers have registries, and have the same one exactly if they share it. -/
structure Sound (bench : Bench) : Prop where
  known : ∀ party, (bench.renderer party).registry < bench.workshop.registries.length
  shared : ∀ party other, (bench.renderer party).registry = (bench.renderer other).registry ↔
    party.shares other = true

variable {functions : Functions} {bench : Bench} {party other : Party} {moves : List (Party × Move)}

theorem sound_start (workshop : Workshop) : (start workshop).Sound := by
  constructor
  · intro party
    cases party <;> simp [start, Workshop.newRenderer]
  · intro party other
    cases party <;> cases other <;> simp [start, Workshop.newRenderer, Party.shares]

theorem registry_start (workshop : Workshop) (party : Party) :
    (start workshop).registry party = .standard := by
  cases party <;> simp [start, registry, Workshop.newRenderer, Workshop.registryOf]

theorem Sound.registry_eq (sound : bench.Sound) (shared : party.shares other = true) :
    bench.registry party = bench.registry other := by
  rw [registry, registry, Workshop.registryOf, Workshop.registryOf,
    (sound.shared party other).mpr shared]

/-- A change of a renderer's registry is seen by all that share it. -/
theorem Sound.registryOf_set (sound : bench.Sound) (party other : Party)
    (change : Registry → Registry) :
    Workshop.registryOf ⟨bench.workshop.registries.set (bench.renderer party).registry
        (change (bench.registry party))⟩ (bench.renderer other) =
      if party.shares other then change (bench.registry other) else bench.registry other := by
  rw [Workshop.registryOf, List.getElem?_set]
  by_cases shared : party.shares other = true
  · rw [if_pos ((sound.shared party other).mpr shared), if_pos (sound.known party), if_pos shared,
      Option.getD_some, sound.registry_eq shared]
  · rw [if_neg (mt (sound.shared party other).mp shared), if_neg shared]
    rfl

/-- Those who share a registry with whoever moves see it undergo the move, the others do not. -/
theorem Sound.registry_step (sound : bench.Sound) (party other : Party) (move : Move) :
    (bench.step functions party move).2.registry other =
      if party.shares other then (bench.registry other).undergo move else bench.registry other := by
  cases move with
  | add name function => exact sound.registryOf_set party other (Registry.add · name function)
  | remove name => exact sound.registryOf_set party other (Registry.remove · name)
  | setBudget budget =>
    have kept : (bench.step functions party (.setBudget budget)).2.registry other =
        bench.registry other := by
      simp only [step, registry, Workshop.registryOf]
      split
      · rename_i same
        rw [same]
      · rfl
    rw [kept, Registry.undergo, ite_self]
  | run draws text store =>
    rw [Registry.undergo, ite_self]
    rfl

/-- A budget is changed by its owner alone. -/
theorem budget_step (functions : Functions) (bench : Bench) (party other : Party) (move : Move) :
    (bench.step functions party move).2.budget other =
      match move with
      | .setBudget budget => if party = other then budget else bench.budget other
      | .add _ _ | .remove _ | .run _ _ _ => bench.budget other := by
  cases move with
  | setBudget budget =>
    simp only [step, Bench.budget]
    by_cases same : party = other
    · simp [same]
    · simp [same, Ne.symm same]
  | add _ _ | remove _ | run _ _ _ => rfl

theorem Sound.set (sound : bench.Sound) (number : Nat) (changed : Registry) :
    Sound { bench with workshop := ⟨bench.workshop.registries.set number changed⟩ } where
  known party := by
    rw [List.length_set]
    exact sound.known party
  shared := sound.shared

theorem Sound.step (sound : bench.Sound) (party : Party) (move : Move) :
    (bench.step functions party move).2.Sound := by
  cases move with
  | add name function => exact sound.set _ _
  | remove name => exact sound.set _ _
  | setBudget budget =>
    have numbers (other : Party) : ((bench.step functions party (.setBudget budget)).2.renderer
        other).registry = (bench.renderer other).registry := by
      simp only [Bench.step]
      split
      · rename_i same
        rw [same]
      · rfl
    constructor
    · intro other
      rw [numbers]
      exact sound.known other
    · intro one other
      rw [numbers, numbers]
      exact sound.shared one other
  | run draws text store => exact sound

theorem after_concat (functions : Functions) (bench : Bench) (moves : List (Party × Move))
    (move : Party × Move) :
    bench.after functions (moves ++ [move]) =
      ((bench.after functions moves).step functions move.1 move.2).2 := by
  rw [after, List.foldl_append]
  rfl

theorem Sound.after (sound : bench.Sound) (moves : List (Party × Move)) :
    (bench.after functions moves).Sound := by
  induction moves using List.reverseRecOn with
  | nil => exact sound
  | append_singleton moves move ih =>
    rw [after_concat]
    exact ih.step move.1 move.2

theorem Sound.registry_after (sound : bench.Sound) (party : Party) (moves : List (Party × Move)) :
    (bench.after functions moves).registry party =
      ((moves.filter fun move => move.1.shares party).map Prod.snd).foldl Registry.undergo
        (bench.registry party) := by
  induction moves using List.reverseRecOn with
  | nil => rfl
  | append_singleton moves move ih =>
    rw [after_concat, (sound.after moves).registry_step, ih, List.filter_append, List.map_append,
      List.foldl_append]
    by_cases shared : move.1.shares party = true
    · simp [shared]
    · simp [shared]

theorem budget_after (functions : Functions) (bench : Bench) (party : Party)
    (moves : List (Party × Move)) :
    (bench.after functions moves).budget party =
      (lastBudget? party moves).getD (bench.budget party) := by
  induction moves using List.reverseRecOn with
  | nil => rfl
  | append_singleton moves move ih =>
    obtain ⟨mover, move⟩ := move
    rw [after_concat, budget_step, ih]
    simp only [lastBudget?, List.reverse_append, List.reverse_singleton, List.singleton_append,
      List.findSome?_cons]
    cases move with
    | setBudget budget => by_cases same : mover = party <;> simp [same]
    | add _ _ | remove _ | run _ _ _ => rfl

/-- Every registry tells what was done through those who share it, the builtin functions added
first. -/
theorem registry_recounts (functions : Functions) (workshop : Workshop) (party : Party)
    (moves : List (Party × Move)) :
    (((start workshop).after functions moves).registry party).Recounts
      (undergone party moves).reverse := by
  have undergone_all := foldl_tells Registry.Recounts.undergo Registry.recounts_empty
    (undergone party moves)
  rw [List.append_nil, undergone, List.foldl_append, ← Registry.standard_eq_undergo,
    ← registry_start workshop party, ← (sound_start workshop).registry_after] at undergone_all
  exact undergone_all

/-- Registries are shared by a renderer and its copy and by nobody else. Whatever three renderers do,
the third one made apart, and in whatever order: those who share a registry see the same one; its names
stand strictly in order, and are those that were added last and not removed since through any who share
it, the builtin functions added first; each name means the function that was added last; and to remove
a name tells whether it was there. A budget is the one that its owner set last. No move touches the
registry of one who does not share it, nor the budget of anyone else. -/
theorem shared_registry_recounts (functions : Functions) (workshop : Workshop)
    (moves : List (Party × Move)) :
    let bench := (start workshop).after functions moves
    (∀ party other, party.shares other = true → bench.registry party = bench.registry other) ∧
    (∀ party, (bench.registry party).names.Pairwise Text.Before) ∧
    (∀ party name, name ∈ (bench.registry party).names ↔
      ∃ function, Registry.latest? name (undergone party moves).reverse = some function) ∧
    (∀ party name, (bench.registry party).get? name =
      Registry.latest? name (undergone party moves).reverse) ∧
    (∀ party name, (bench.step functions party (.remove name)).1 =
      .removed (decide (name ∈ (bench.registry party).names))) ∧
    (∀ party, bench.budget party = (lastBudget? party moves).getD defaultBudget) ∧
    (∀ party other move, party.shares other = false →
      (bench.step functions party move).2.registry other = bench.registry other) ∧
    (∀ party other move, party ≠ other →
      (bench.step functions party move).2.budget other = bench.budget other) := by
  intro bench
  have sound : bench.Sound := (sound_start workshop).after moves
  have recounts (party : Party) := registry_recounts functions workshop party moves
  refine ⟨fun _ _ => sound.registry_eq, fun party => Registry.names_increasing _, ?_, recounts, ?_, ?_, ?_, ?_⟩
  · intro party name
    rw [Registry.mem_names, recounts party]
  · intro party name
    have present : (bench.registry party).contains name =
        decide (name ∈ (bench.registry party).names) := by
      rw [Bool.eq_iff_iff, decide_eq_true_iff, Registry.mem_names, Registry.contains,
        Option.isSome_iff_exists]
    exact congrArg Result.removed present
  · intro party
    have begun : (start workshop).budget party = defaultBudget := by cases party <;> rfl
    rw [budget_after, begun]
  · intro party other move apart
    rw [sound.registry_step, apart]
    rfl
  · intro party other move apart
    rw [budget_step]
    cases move with
    | setBudget budget => exact if_neg apart
    | add _ _ | remove _ | run _ _ _ => rfl

end Bench

end TagWeave
