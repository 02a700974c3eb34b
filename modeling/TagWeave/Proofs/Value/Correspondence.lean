import TagWeave.Proofs.Lookups
import TagWeave.Proofs.Value.Members

/-! Values of one build. Two values correspond if they have the same texts, truths and functions in the
same places and numbers there that are related to each other; objects have their entries in any order.
With equal numbers this is the equality of values, and with identical ones it relates values that
differ in the order of entries alone. -/
namespace TagWeave

namespace Value

def parts : Value → List Value
  | .list items => items
  | .object entries => entries.map Prod.snd
  | .text _ | .number _ | .bool _ | .function _ => []

/-- Values that have a property themselves and in all parts, at any depth. -/
inductive Everywhere (holds : Value → Prop) : Value → Prop where
  | intro {value : Value} (here : holds value) (inside : ∀ part ∈ value.parts, Everywhere holds part) :
      Everywhere holds value

def KeysOnce : Value → Prop
  | .object entries => (Entries.keys entries).Nodup
  | .text _ | .number _ | .bool _ | .list _ | .function _ => True

-- The type of values cannot ask this itself, as that of stores does: the entries of an object are of the
-- type that is being defined.
/-- Values whose objects have each key once, at any depth. Entries that are written key by key are
always so. -/
def Distinct (value : Value) : Prop := value.Everywhere KeysOnce

variable {holds : Value → Prop} {value twin : Value} {items others : List Value}
  {entries twins : Entries Value} {key : Text} {index : Nat}

theorem everywhere_iff :
    value.Everywhere holds ↔ holds value ∧ ∀ part ∈ value.parts, part.Everywhere holds := by
  constructor
  · rintro ⟨here, inside⟩
    exact ⟨here, inside⟩
  · rintro ⟨here, inside⟩
    exact ⟨here, inside⟩

theorem Everywhere.imp {weaker : Value → Prop} (weaken : ∀ part, holds part → weaker part)
    (everywhere : value.Everywhere holds) : value.Everywhere weaker := by
  induction everywhere with
  | intro here _ ih => exact .intro (weaken _ here) ih

theorem everywhere_single_iff (single : value.parts = []) : value.Everywhere holds ↔ holds value := by
  rw [everywhere_iff, single]
  simp

@[simp]
theorem everywhere_text_iff {text : Text} : Everywhere holds (.text text) ↔ holds (.text text) :=
  everywhere_single_iff rfl

@[simp]
theorem everywhere_number_iff {n : Double} : Everywhere holds (.number n) ↔ holds (.number n) :=
  everywhere_single_iff rfl

@[simp]
theorem everywhere_bool_iff {truth : Bool} : Everywhere holds (.bool truth) ↔ holds (.bool truth) :=
  everywhere_single_iff rfl

@[simp]
theorem everywhere_function_iff {reference : FunctionRef} :
    Everywhere holds (.function reference) ↔ holds (.function reference) :=
  everywhere_single_iff rfl

theorem everywhere_list_iff :
    Everywhere holds (.list items) ↔ holds (.list items) ∧ ∀ item ∈ items, item.Everywhere holds :=
  everywhere_iff

theorem everywhere_object_iff :
    Everywhere holds (.object entries) ↔
      holds (.object entries) ∧ ∀ entry ∈ entries, entry.2.Everywhere holds := by
  rw [everywhere_iff, parts, List.forall_mem_map]

theorem distinct_object_iff :
    Distinct (.object entries) ↔ (Entries.keys entries).Nodup ∧ ∀ entry ∈ entries, entry.2.Distinct :=
  everywhere_object_iff

theorem mem_parts_of_find? (found : Entries.find? key entries = some value) :
    value ∈ parts (.object entries) :=
  List.mem_map_of_mem (f := Prod.snd) (Entries.mem_of_find? found)

/-- Values that correspond under a relation of their numbers. -/
inductive Corresponds (related : Double → Double → Prop) : Value → Value → Prop where
  | text (value : Text) : Corresponds related (.text value) (.text value)
  | number {m n : Double} (together : related m n) : Corresponds related (.number m) (.number n)
  | bool (value : Bool) : Corresponds related (.bool value) (.bool value)
  | list {items others : List Value} (length : items.length = others.length)
      (inside : ∀ (index : Nat) item other, items[index]? = some item → others[index]? = some other →
        Corresponds related item other) :
      Corresponds related (.list items) (.list others)
  | object {entries twins : Entries Value} (distinct : (Entries.keys entries).Nodup)
      (twins_distinct : (Entries.keys twins).Nodup)
      (keys : ∀ key, key ∈ Entries.keys entries ↔ key ∈ Entries.keys twins)
      (inside : ∀ key value twin, Entries.find? key entries = some value →
        Entries.find? key twins = some twin → Corresponds related value twin) :
      Corresponds related (.object entries) (.object twins)
  | function (reference : FunctionRef) : Corresponds related (.function reference) (.function reference)

variable {related : Double → Double → Prop} {first second third : Value}

/-- Lists correspond if at each position there is nothing, or items that correspond. -/
theorem corresponds_list_iff :
    Corresponds related (.list items) (.list others) ↔
      ∀ index : Nat, Option.Rel (Corresponds related) items[index]? others[index]? := by
  rw [getElem?_rel_iff]
  constructor
  · intro corresponds
    cases corresponds with
    | list length inside => exact ⟨length, inside⟩
  · rintro ⟨length, inside⟩
    exact .list length inside

/-- Objects correspond if under each key there is nothing, or values that correspond. -/
theorem corresponds_object_iff :
    Corresponds related (.object entries) (.object twins) ↔
      (Entries.keys entries).Nodup ∧ (Entries.keys twins).Nodup ∧
        ∀ key, Option.Rel (Corresponds related) (Entries.find? key entries) (Entries.find? key twins) := by
  rw [Entries.look_iff]
  constructor
  · intro corresponds
    cases corresponds with
    | object distinct twins_distinct keys inside => exact ⟨distinct, twins_distinct, keys, inside⟩
  · rintro ⟨distinct, twins_distinct, keys, inside⟩
    exact .object distinct twins_distinct keys inside

theorem Corresponds.symm (symmetric : ∀ m n, related m n → related n m)
    (corresponds : Corresponds related first second) : Corresponds related second first := by
  induction corresponds with
  | text value => exact .text value
  | number together => exact .number (symmetric _ _ together)
  | bool value => exact .bool value
  | list length _ ih =>
    exact .list length.symm fun index item other found met => ih index other item met found
  | object distinct twins_distinct keys _ ih =>
    exact .object twins_distinct distinct (fun key => (keys key).symm) fun key value twin found met =>
      ih key twin value met found
  | function reference => exact .function reference

/-- Correspondences compose as the relations of their numbers do. -/
theorem Corresponds.comp {further whole : Double → Double → Prop}
    (compose : ∀ l m n, related l m → further m n → whole l n)
    (left : Corresponds related first second) (right : Corresponds further second third) :
    Corresponds whole first third := by
  induction left generalizing third with
  | text value =>
    cases right with
    | text => exact .text value
  | number together =>
    cases right with
    | number next => exact .number (compose _ _ _ together next)
  | bool value =>
    cases right with
    | bool => exact .bool value
  | @list items others length inside ih =>
    cases right with
    | @list _ thirds next_length next =>
      refine .list (length.trans next_length) ?_
      intro index item last found met
      -- All three lists are of one length, so there is an item between the two.
      have present : index < others.length := by
        have within := (List.getElem?_eq_some_iff.mp met).1
        omega
      have between := List.getElem?_eq_getElem present
      exact ih index item _ found between (next index _ last between met)
  | @object entries twins distinct twins_distinct keys inside ih =>
    cases right with
    | @object _ thirds _ thirds_distinct next_keys next =>
      refine .object distinct thirds_distinct (fun key => (keys key).trans (next_keys key)) ?_
      intro key value last found met
      have listed := (Entries.find?_isSome_iff key entries).mp (by simp [found])
      obtain ⟨between, reached⟩ :=
        Option.isSome_iff_exists.mp ((Entries.find?_isSome_iff key twins).mpr ((keys key).mp listed))
      exact ih key value between found reached (next key between last reached met)
  | function reference =>
    cases right with
    | function => exact .function reference

/-- Throughout a value that corresponds to another one, keys are there once and numbers are related. -/
theorem Corresponds.everywhere (corresponds : Corresponds related first second) :
    first.Everywhere fun part => part.KeysOnce ∧ ∀ m, part = .number m → ∃ n, related m n := by
  induction corresponds with
  | text | bool | function => exact .intro ⟨trivial, by simp⟩ (by simp [parts])
  | @number m n together =>
    refine .intro ⟨trivial, ?_⟩ (by simp [parts])
    rintro _ ⟨⟩
    exact ⟨n, together⟩
  | list length _ ih =>
    refine everywhere_list_iff.mpr ⟨⟨trivial, by simp⟩, ?_⟩
    intro item listed
    obtain ⟨index, found⟩ := List.mem_iff_getElem?.mp listed
    have within := (List.getElem?_eq_some_iff.mp found).1
    exact ih index item _ found (List.getElem?_eq_getElem (length ▸ within))
  | object distinct _ keys _ ih =>
    refine everywhere_object_iff.mpr ⟨⟨distinct, by simp⟩, ?_⟩
    rintro ⟨key, value⟩ member
    have listed := (keys key).mp (List.mem_map_of_mem (f := Prod.fst) member)
    obtain ⟨twin, met⟩ := Option.isSome_iff_exists.mp ((Entries.find?_isSome_iff key _).mpr listed)
    exact ih key value twin ((Entries.mem_iff_find? distinct).mp member) met

theorem Corresponds.distinct (corresponds : Corresponds related first second) : first.Distinct :=
  corresponds.everywhere.imp fun _ both => both.1

/-- A value corresponds to itself if its numbers are related to themselves. -/
theorem corresponds_self (distinct : value.Distinct)
    (numbers : value.Everywhere fun part => ∀ n, part = .number n → related n n) :
    Corresponds related value value := by
  induction distinct with
  | @intro value once _ ih =>
    obtain ⟨here, inside⟩ := everywhere_iff.mp numbers
    cases value with
    | text value => exact .text value
    | number n => exact .number (here n rfl)
    | bool value => exact .bool value
    | list items =>
      refine corresponds_list_iff.mpr fun index => ?_
      cases found : items[index]? with
      | none => exact .none
      | some item =>
        have listed := List.mem_of_getElem? found
        exact .some (ih item listed (inside item listed))
    | object entries =>
      refine corresponds_object_iff.mpr ⟨once, once, fun key => ?_⟩
      cases found : Entries.find? key entries with
      | none => exact .none
      | some value =>
        have listed := mem_parts_of_find? found
        exact .some (ih value listed (inside value listed))
    | function reference => exact .function reference

theorem Corresponds.isFunction (corresponds : Corresponds related first second) :
    first.isFunction = second.isFunction := by
  cases corresponds <;> rfl

private theorem map_eq_of_getElem? {β : Type} {convert : Value → β}
    (length : items.length = others.length)
    (each : ∀ (index : Nat) item other, items[index]? = some item → others[index]? = some other →
      convert item = convert other) :
    items.map convert = others.map convert := by
  apply List.ext_getElem (by simpa using length)
  intro index inside within
  rw [List.length_map] at inside within
  rw [List.getElem_map, List.getElem_map]
  exact each index _ _ (List.getElem?_eq_getElem inside) (List.getElem?_eq_getElem within)

/-- Values that correspond have one JSON, if related numbers have. -/
theorem Corresponds.toJson (numbers : ∀ m n, related m n → numberToJson m = numberToJson n)
    (corresponds : Corresponds related first second) : first.toJson = second.toJson := by
  induction corresponds with
  | text | bool | function => rfl
  | number together => exact numbers _ _ together
  | list length _ ih => simp only [Value.toJson, itemsToJson_eq_map, map_eq_of_getElem? length ih]
  | object distinct twins_distinct keys inside ih =>
    have look := (corresponds_object_iff.mp (.object distinct twins_distinct keys inside)).2.2
    simp only [Value.toJson, Json.ofMembers]
    congr 1
    apply Entries.sorted_eq_of_find? (nodup_keys_entriesToJson distinct)
      (nodup_keys_entriesToJson twins_distinct)
    intro key
    rw [find?_entriesToJson distinct, find?_entriesToJson twins_distinct]
    rcases rel_iff.mp (look key) with ⟨missing, absent⟩ | ⟨value, twin, found, met, together⟩
    · rw [missing, absent]
    · rw [found, met, Option.bind_some, Option.bind_some, memberJson?, memberJson?,
        ih key value twin found met, together.isFunction]

/-- Values that correspond have one text, if related numbers have one text and one JSON. -/
theorem Corresponds.toText (numbers : ∀ m n, related m n → numberToJson m = numberToJson n)
    (texts : ∀ m n, related m n → m.text = n.text) (corresponds : Corresponds related first second) :
    first.toText = second.toText := by
  induction corresponds with
  | text | bool | function => rfl
  | number together => exact texts _ _ together
  | list length _ ih => simp only [Value.toText, itemTexts_eq_map, map_eq_of_getElem? length ih]
  | object distinct twins_distinct keys inside _ =>
    simp only [Value.toText,
      (Corresponds.object distinct twins_distinct keys inside).toJson numbers]

end Value

end TagWeave
