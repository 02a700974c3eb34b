import TagWeave.Entries

/-! Two lookups side by side. Lists are compared by what stands at each position and entries by what
stands under each key: there is nothing on both sides, or there are values that are related. -/
namespace TagWeave

variable {α β : Type} {related : α → β → Prop}

theorem rel_iff {first : Option α} {second : Option β} :
    Option.Rel related first second ↔
      (first = none ∧ second = none) ∨
        ∃ value twin, first = some value ∧ second = some twin ∧ related value twin := by
  constructor
  · intro rel
    cases rel with
    | none => exact .inl ⟨rfl, rfl⟩
    | some together => exact .inr ⟨_, _, rfl, rfl, together⟩
  · rintro (⟨rfl, rfl⟩ | ⟨value, twin, rfl, rfl, together⟩)
    · exact .none
    · exact .some together

theorem rel_iff_isSome {first : Option α} {second : Option β} :
    Option.Rel related first second ↔
      (first.isSome = true ↔ second.isSome = true) ∧
        ∀ value twin, first = some value → second = some twin → related value twin := by
  cases first <;> cases second <;> simp [rel_iff]

theorem rel_getD {first : Option α} {second : Option β} (rel : Option.Rel related first second)
    {value : α} {twin : β} (together : related value twin) :
    related (first.getD value) (second.getD twin) := by
  cases rel with
  | none => exact together
  | some here => exact here

/-- Entries are related key by key if they have the same keys, and related values under each. -/
theorem Entries.look_iff {entries : Entries α} {twins : Entries β} :
    (∀ key, Option.Rel related (find? key entries) (find? key twins)) ↔
      (∀ key, key ∈ keys entries ↔ key ∈ keys twins) ∧
        ∀ key value twin, find? key entries = some value → find? key twins = some twin →
          related value twin := by
  simp only [rel_iff_isSome, find?_isSome_iff, forall_and]

/-- Lists are related position by position if they are of one length, and related items stand at each. -/
theorem getElem?_rel_iff {items : List α} {others : List β} :
    (∀ index : Nat, Option.Rel related items[index]? others[index]?) ↔
      items.length = others.length ∧
        ∀ (index : Nat) item other, items[index]? = some item → others[index]? = some other →
          related item other := by
  simp only [rel_iff_isSome, forall_and]
  refine and_congr_left fun _ => ?_
  have ends (index : Nat) : (items[index]?.isSome = true ↔ others[index]?.isSome = true) ↔
      (index < items.length ↔ index < others.length) := by simp
  simp only [ends]
  constructor
  · intro same
    exact Nat.le_antisymm (Nat.le_of_not_lt fun less => Nat.lt_irrefl _ ((same _).mp less))
      (Nat.le_of_not_lt fun less => Nat.lt_irrefl _ ((same _).mpr less))
  · intro length index
    rw [length]

end TagWeave
