import TagWeave.Store

/-! The functions in values. A store passes on no functions but its own: what is bound anew brings the
functions of its value and no others. -/
namespace TagWeave

namespace Value

mutual

def functions : Value → List FunctionRef
  | .text _ | .number _ | .bool _ => []
  | .list items => functionsOfItems items
  | .object entries => functionsOfEntries entries
  | .function reference => [reference]

def functionsOfItems : List Value → List FunctionRef
  | [] => []
  | item :: rest => functions item ++ functionsOfItems rest

def functionsOfEntries : List (Text × Value) → List FunctionRef
  | [] => []
  | (_, value) :: rest => functions value ++ functionsOfEntries rest

end

theorem functionsOfItems_eq_flatMap (items : List Value) :
    functionsOfItems items = items.flatMap functions := by
  induction items with
  | nil => rfl
  | cons item rest ih => simp [functionsOfItems, ih]

theorem functionsOfEntries_eq_flatMap (entries : Entries Value) :
    functionsOfEntries entries = entries.flatMap fun entry => entry.2.functions := by
  induction entries with
  | nil => rfl
  | cons entry rest ih => simp [functionsOfEntries, ih]

variable {reference : FunctionRef} {items picked : List Value} {entries : Entries Value} {key : Text}
  {value : Value} {known : List FunctionRef}

theorem mem_functions_list :
    reference ∈ functions (.list items) ↔ ∃ item ∈ items, reference ∈ item.functions := by
  rw [functions, functionsOfItems_eq_flatMap, List.mem_flatMap]

theorem mem_functions_object :
    reference ∈ functions (.object entries) ↔ ∃ entry ∈ entries, reference ∈ entry.2.functions := by
  rw [functions, functionsOfEntries_eq_flatMap, List.mem_flatMap]

theorem functions_entry_subset (found : Entries.find? key entries = some value) :
    value.functions ⊆ functions (.object entries) := by
  intro reference inside
  exact mem_functions_object.mpr ⟨_, Entries.mem_of_find? found, inside⟩

theorem functions_write_subset (old : functions (.object entries) ⊆ known)
    (new : value.functions ⊆ known) :
    functions (.object (Entries.write key value entries)) ⊆ known := by
  intro reference inside
  obtain ⟨entry, listed, within⟩ := mem_functions_object.mp inside
  rcases Entries.mem_write listed with rfl | kept
  · exact new within
  · exact old (mem_functions_object.mpr ⟨entry, kept, within⟩)

theorem functions_append_subset (old : functions (.list items) ⊆ known)
    (new : value.functions ⊆ known) : functions (.list (items ++ [value])) ⊆ known := by
  intro reference inside
  obtain ⟨item, listed, within⟩ := mem_functions_list.mp inside
  rcases List.mem_append.mp listed with before | last
  · exact old (mem_functions_list.mpr ⟨item, before, within⟩)
  · exact new (List.mem_singleton.mp last ▸ within)

theorem functions_set_subset (index : Nat) (old : functions (.list items) ⊆ known)
    (new : value.functions ⊆ known) : functions (.list (items.set index value)) ⊆ known := by
  intro reference inside
  obtain ⟨item, listed, within⟩ := mem_functions_list.mp inside
  rcases List.mem_or_eq_of_mem_set listed with before | rfl
  · exact old (mem_functions_list.mpr ⟨item, before, within⟩)
  · exact new within

theorem functions_texts (texts : List Text) : functions (.list (texts.map .text)) = [] := by
  rw [functions, functionsOfItems_eq_flatMap, List.flatMap_map]
  exact List.flatMap_eq_nil_iff.mpr fun _ _ => rfl

end Value

namespace Store

def functions (store : Store) : List FunctionRef := Value.functions (.object store.entries)

theorem functions_get?_subset {store : Store} {name : Text} {value : Value}
    (bound : store.get? name = some value) : value.functions ⊆ store.functions :=
  Value.functions_entry_subset bound

theorem functions_set_subset {store : Store} {value : Value} (name : Text)
    (new : value.functions ⊆ store.functions) :
    (store.set name value).functions ⊆ store.functions :=
  Value.functions_write_subset (List.Subset.refl _) new

end Store

end TagWeave
