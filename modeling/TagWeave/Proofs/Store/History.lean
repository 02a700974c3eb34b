import TagWeave.Proofs.Entries.Sorted
import TagWeave.Proofs.Steps
import TagWeave.Proofs.Text.Digits
import TagWeave.Proofs.Value.Members
import TagWeave.Store

/-! What a store remembers. Whatever happens to a store happens to one name after the other, and the row
of these events alone says what the store is: each name has the value that was written last since the
name was taken out, and the names stand in the order in which they arrived. -/
namespace TagWeave.Store

inductive Event where
  | write (key : Text) (value : Value)
  /-- A change in place, if the name is bound. -/
  | change (key : Text) (alter : Value → Value)
  | remove (key : Text)
  | clear

def undergo (store : Store) : Event → Store
  | .write key value => store.set key value
  | .change key alter => store.change key alter
  | .remove key => (store.remove key).2
  | .clear => .empty

/-- The value that was written last under a name since the name was taken out. -/
def lastValue? (key : Text) : List Event → Option Value
  | [] => none
  | .write other value :: earlier => if other = key then some value else lastValue? key earlier
  | .change other alter :: earlier =>
    if other = key then (lastValue? key earlier).map alter else lastValue? key earlier
  | .remove other :: earlier => if other = key then none else lastValue? key earlier
  | .clear :: _ => none

/-- When a name was written for the first time since it was taken out: how many events came before. -/
def arrival? (key : Text) : List Event → Option Nat
  | [] => none
  | .write other _ :: earlier =>
    if other = key then some ((arrival? key earlier).getD earlier.length) else arrival? key earlier
  | .change _ _ :: earlier => arrival? key earlier
  | .remove other :: earlier => if other = key then none else arrival? key earlier
  | .clear :: _ => none

/-- Whether both names are there and the first one has been there for longer. -/
def ArrivedBefore (history : List Event) (first second : Text) : Prop :=
  ∃ early late, arrival? first history = some early ∧ arrival? second history = some late ∧ early < late

/-- A store is what its history says: each name has its last value, and the names that are there stand
in the order of their arrival. -/
structure Recounts (store : Store) (history : List Event) : Prop where
  values : ∀ key, store.get? key = lastValue? key history
  arrived : ∀ key, key ∈ store.keys ↔ ∃ time, arrival? key history = some time
  ordered : store.keys.Pairwise (ArrivedBefore history)

variable {store : Store} {history later : List Event} {key : Text}

theorem nodup_keys (store : Store) : store.keys.Nodup := store.distinct

theorem arrival?_lt {time : Nat} (arrived : arrival? key history = some time) :
    time < history.length := by
  induction history generalizing time with
  | nil => cases arrived
  | cons event earlier ih =>
    rw [List.length_cons]
    cases event with
    | write other value =>
      simp only [arrival?] at arrived
      split at arrived
      · obtain rfl := Option.some.inj arrived
        cases before : arrival? key earlier with
        | none => exact Nat.lt_succ_self _
        | some first => exact Nat.lt_succ_of_lt (ih before)
      · exact Nat.lt_succ_of_lt (ih arrived)
    | change other alter => exact Nat.lt_succ_of_lt (ih arrived)
    | remove other =>
      simp only [arrival?] at arrived
      split at arrived
      · cases arrived
      · exact Nat.lt_succ_of_lt (ih arrived)
    | clear => cases arrived

theorem recounts_empty (valueless : ∀ key, lastValue? key history = none)
    (gone : ∀ key, arrival? key history = none) : empty.Recounts history where
  values key := (valueless key).symm
  arrived key := by simp [empty, keys, Entries.keys, gone key]
  ordered := .nil

theorem Recounts.pairwise_of_sublist {kept : List Text} (recounts : store.Recounts history)
    (among : kept.Sublist store.keys)
    (same : ∀ key ∈ kept, arrival? key later = arrival? key history) :
    kept.Pairwise (ArrivedBefore later) := by
  refine (recounts.ordered.sublist among).imp_of_mem ?_
  rintro first second first_kept second_kept ⟨early, late, at_first, at_second, less⟩
  exact ⟨early, late, (same first first_kept).trans at_first,
    (same second second_kept).trans at_second, less⟩

theorem Recounts.write (recounts : store.Recounts history) (key : Text) (value : Value) :
    (store.set key value).Recounts (.write key value :: history) where
  values other := by rw [get?_set, recounts.values, lastValue?]
  arrived other := by
    rw [keys_set, arrival?]
    by_cases same : key = other
    · subst same
      by_cases present : key ∈ store.keys <;> simp [present]
    · rw [if_neg same, ← recounts.arrived]
      by_cases present : key ∈ store.keys <;> simp [present, Ne.symm same]
  ordered := by
    have still (other : Text) (listed : other ∈ store.keys) :
        arrival? other (.write key value :: history) = arrival? other history := by
      obtain ⟨time, arrived⟩ := (recounts.arrived other).mp listed
      rw [arrival?, arrived, Option.getD_some, ite_self]
    have old := recounts.pairwise_of_sublist (List.Sublist.refl _) still
    rw [keys_set]
    split
    · exact old
    · rename_i absent
      have fresh : arrival? key history = none := by
        cases arrived : arrival? key history with
        | none => rfl
        | some time => exact absurd ((recounts.arrived key).mpr ⟨time, arrived⟩) absent
      refine List.pairwise_append.mpr ⟨old, List.pairwise_singleton _ _, ?_⟩
      intro first listed second last
      obtain rfl := List.mem_singleton.mp last
      obtain ⟨time, arrived⟩ := (recounts.arrived first).mp listed
      refine ⟨time, history.length, (still first listed).trans arrived, ?_, arrival?_lt arrived⟩
      rw [arrival?, if_pos rfl, fresh, Option.getD_none]

theorem keys_change (store : Store) (key : Text) (alter : Value → Value) :
    (store.change key alter).keys = store.keys :=
  Entries.keys_alter key alter store.entries

theorem get?_change (store : Store) (key other : Text) (alter : Value → Value) :
    (store.change key alter).get? other =
      if key = other then (store.get? other).map alter else store.get? other := by
  rw [change_eq]
  by_cases same : key = other
  · subst same
    cases bound : store.get? key with
    | none => simp [bound]
    | some value => simp
  · cases store.get? key with
    | none => simp [same]
    | some value => simp [same]

theorem Recounts.change (recounts : store.Recounts history) (key : Text) (alter : Value → Value) :
    (store.change key alter).Recounts (.change key alter :: history) where
  values other := by rw [get?_change, recounts.values, lastValue?]
  arrived other := by
    rw [keys_change, arrival?]
    exact recounts.arrived other
  ordered := by
    rw [keys_change]
    exact recounts.pairwise_of_sublist (List.Sublist.refl _) fun _ _ => rfl

theorem keys_remove (store : Store) (key : Text) :
    (store.remove key).2.keys = store.keys.erase key := by
  rw [remove_eq]
  exact Entries.keys_erase key store.entries

theorem Recounts.remove (recounts : store.Recounts history) (key : Text) :
    (store.remove key).2.Recounts (.remove key :: history) where
  values other := by
    rw [remove_eq, lastValue?, ← recounts.values]
    exact Entries.find?_erase store.distinct key other
  arrived other := by
    rw [keys_remove, store.nodup_keys.mem_erase_iff, arrival?, recounts.arrived]
    by_cases same : key = other
    · simp [same]
    · simp [same, Ne.symm same]
  ordered := by
    rw [keys_remove]
    refine recounts.pairwise_of_sublist List.erase_sublist ?_
    intro other listed
    have different := (store.nodup_keys.mem_erase_iff.mp listed).1
    rw [arrival?, if_neg (Ne.symm different)]

theorem Recounts.undergo (recounts : store.Recounts history) (event : Event) :
    (store.undergo event).Recounts (event :: history) := by
  cases event with
  | write key value => exact recounts.write key value
  | change key alter => exact recounts.change key alter
  | remove key => exact recounts.remove key
  | clear => exact recounts_empty (fun _ => rfl) fun _ => rfl

inductive Seed where
  | positions (items : List Value)
  /-- Named values, given as a row or collected one by one; a name may be repeated. -/
  | names (entries : List (Text × Value))
  | json (tags : Json)
  | overlay (items : List Value) (entries : List (Text × Value))

def ofSeed : Seed → Store
  | .positions items => .ofValues items
  | .names entries => .ofNamed entries
  | .json tags => .ofJson tags
  | .overlay items entries => (ofValues items).extend entries

inductive Operation where
  | set (key : Text) (value : Value)
  | extend (named : List (Text × Value))
  | delete (key : Text)
  | clear
  | change (key : Text) (alter : Value → Value)

def operate (store : Store) : Operation → Store
  | .set key value => store.set key value
  | .extend named => store.extend named
  | .delete key => (store.remove key).2
  | .clear => .empty
  | .change key alter => store.change key alter

def written (named : List (Text × Value)) : List Event :=
  named.map fun entry => .write entry.1 entry.2

def placed (values : List Value) : List (Text × Value) :=
  values.zipIdx.map fun entry => (Text.ofNat entry.2, entry.1)

def Seed.events : Seed → List Event
  | .positions items => written (placed items)
  | .names entries => written entries
  | .json (.array items) =>
    written (placed (items.map fun item => (Value.ofJson? item).getD (.text [])))
  | .json (.object members) => written (Entries.select Value.ofJson? members)
  | .json _ => []
  | .overlay items entries => written (placed items) ++ written entries

def Operation.events : Operation → List Event
  | .set key value => [.write key value]
  | .extend named => written named
  | .delete key => [.remove key]
  | .clear => [.clear]
  | .change key alter => [.change key alter]

theorem extend_eq_undergo (store : Store) (named : List (Text × Value)) :
    store.extend named = (written named).foldl undergo store := by
  unfold extend Entries.writeAll written
  rw [List.foldl_map]
  induction named generalizing store with
  | nil => rfl
  | cons entry rest ih => exact ih (store.set entry.1 entry.2)

theorem keys_placed (values : List Value) :
    Entries.keys (placed values) = (List.range values.length).map Text.ofNat := by
  rw [placed, Entries.keys, List.map_map, List.range_eq_range', ← List.zipIdx_map_snd, List.map_map]
  rfl

theorem nodup_keys_placed (values : List Value) : (Entries.keys (placed values)).Nodup := by
  rw [keys_placed]
  exact List.nodup_range.map fun _ _ => Text.eq_of_ofNat_eq

/-- No two positions are spelled alike, so values are placed as if they were written. -/
theorem ofValues_eq_ofNamed (values : List Value) : ofValues values = ofNamed (placed values) :=
  Store.ext (Entries.writeAll_of_nodup [] _ (nodup_keys_placed values)).symm

theorem ofSeed_eq_undergo (seed : Seed) : ofSeed seed = seed.events.foldl undergo .empty := by
  have placing (values : List Value) :
      ofValues values = (written (placed values)).foldl undergo .empty := by
    rw [ofValues_eq_ofNamed]
    exact extend_eq_undergo .empty (placed values)
  cases seed with
  | positions items => exact placing items
  | names entries => exact extend_eq_undergo .empty entries
  | json tags =>
    cases tags with
    | array items =>
      rw [ofSeed, ofJson, Value.itemsOfJson_eq_map]
      exact placing _
    | object members =>
      rw [ofSeed, ofJson, Value.entriesOfJson_eq_select]
      exact extend_eq_undergo .empty _
    | null | bool _ | number _ | text _ => rfl
  | overlay items entries =>
    rw [ofSeed, Seed.events, List.foldl_append, ← placing, extend_eq_undergo]

theorem operate_eq_undergo (store : Store) (operation : Operation) :
    store.operate operation = operation.events.foldl undergo store := by
  cases operation with
  | extend named => exact extend_eq_undergo store named
  | set _ _ | delete _ | clear | change _ _ => rfl

theorem operateAll_eq_undergo (store : Store) (operations : List Operation) :
    operations.foldl operate store = (operations.flatMap Operation.events).foldl undergo store := by
  rw [List.foldl_flatMap]
  induction operations generalizing store with
  | nil => rfl
  | cons operation rest ih => rw [List.foldl_cons, List.foldl_cons, operate_eq_undergo, ih]

theorem mem_entries_iff {value : Value} :
    (key, value) ∈ store.entries ↔ store.get? key = some value :=
  Entries.mem_iff_find? store.distinct

theorem has_iff : store.has key = true ↔ ∃ value, store.get? key = some value :=
  Option.isSome_iff_exists

theorem remove_found_iff : (store.remove key).1 = true ↔ key ∈ store.keys := by
  rw [remove_eq]
  exact Entries.find?_isSome_iff key store.entries

theorem zip_keys_values (store : Store) : store.keys.zip store.values = store.entries := by
  rw [keys, values, Entries.keys, List.zip_map']
  exact List.map_id _

theorem get?_ofValues (values : List Value) (index : Nat) :
    (ofValues values).get? (Text.ofNat index) = values[index]? := by
  apply Option.ext
  intro value
  have listed : (ofValues values).get? (Text.ofNat index) = some value ↔
      (Text.ofNat index, value) ∈ placed values :=
    (Entries.mem_iff_find? (nodup_keys_placed values)).symm
  rw [listed, placed, List.mem_map]
  constructor
  · rintro ⟨⟨item, place⟩, member, same⟩
    obtain ⟨spelled, rfl⟩ := Prod.mk.inj same
    obtain rfl := Text.eq_of_ofNat_eq spelled
    exact List.mk_mem_zipIdx_iff_getElem?.mp member
  · intro found
    exact ⟨(value, index), List.mk_mem_zipIdx_iff_getElem?.mpr found, rfl⟩

/-- An array gives its items the spellings of their positions; one that is `null` gives the empty
text. -/
theorem ofSeed_array (items : List Json) :
    (ofSeed (.json (.array items))).keys = (List.range items.length).map Text.ofNat ∧
    ∀ index, (ofSeed (.json (.array items))).get? (Text.ofNat index) =
      match items[index]? with
      | none => none
      | some .null => some (.text [])
      | some item => Value.ofJson? item := by
  have seeded : ofSeed (.json (.array items)) =
      ofValues (items.map fun item => (Value.ofJson? item).getD (.text [])) := by
    rw [ofSeed, ofJson, Value.itemsOfJson_eq_map]
  constructor
  · rw [seeded, ← List.length_map (f := fun item => (Value.ofJson? item).getD (.text []))]
    exact keys_placed _
  · intro index
    rw [seeded, get?_ofValues, List.getElem?_map]
    cases items[index]? with
    | none => rfl
    | some item => cases item <;> rfl

/-- An object gives its members that are not `null`. -/
theorem mem_keys_ofSeed_object {members : List (Text × Json)} :
    key ∈ (ofSeed (.json (.object members))).keys ↔
      ∃ member, (key, member) ∈ members ∧ member ≠ .null := by
  have seeded : key ∈ (ofSeed (.json (.object members))).keys ↔
      key ∈ Entries.keys (Entries.select Value.ofJson? members) := by
    rw [ofSeed, ofJson, Value.entriesOfJson_eq_select]
    refine Entries.mem_keys_writeAll.trans ?_
    simp [empty, Entries.keys]
  have converted (json : Json) : (∃ value, Value.ofJson? json = some value) ↔ json ≠ .null := by
    rw [← Option.isSome_iff_exists, Option.isSome_iff_ne_none, ne_eq, Value.ofJson?_eq_none_iff]
  rw [seeded, Entries.keys, Entries.select, List.mem_map]
  simp only [List.mem_filterMap, Option.map_eq_some_iff]
  constructor
  · rintro ⟨_, ⟨⟨name, json⟩, member, value, given, rfl⟩, rfl⟩
    exact ⟨json, member, (converted json).mp ⟨value, given⟩⟩
  · rintro ⟨json, member, other⟩
    obtain ⟨value, given⟩ := (converted json).mpr other
    exact ⟨(key, value), ⟨(key, json), member, value, given, rfl⟩, rfl⟩

/-- A store is a map in the order of insertion, whatever it begins with and whatever is done with it.
No name stands twice, and it is what its history says: each name has the value that was written last since
it was taken out, and the names stand in the order in which they arrived since then. A name that is
written again keeps its place, and one that is taken out leaves the others in their order; to take a
name out tells whether it was there. Names, values and entries are listed alike. An array of JSON
begins with exactly the positions of its items, the empty text for `null`, and an object with exactly
the names of its members that are not `null`. -/
theorem operate_recounts (seed : Seed) (operations : List Operation) :
    let store := operations.foldl operate (ofSeed seed)
    let history := (seed.events ++ operations.flatMap Operation.events).reverse
    store.keys.Nodup ∧ store.Recounts history ∧
    (∀ key, store.has key = true ↔ ∃ value, store.get? key = some value) ∧
    (∀ key value, (store.set key value).keys =
      if key ∈ store.keys then store.keys else store.keys ++ [key]) ∧
    (∀ key, (store.remove key).2.keys = store.keys.erase key) ∧
    (∀ key, (store.remove key).1 = true ↔ key ∈ store.keys) ∧
    store.keys.zip store.values = store.entries ∧ store.keys.length = store.values.length ∧
    (∀ key value, (key, value) ∈ store.entries ↔ store.get? key = some value) ∧
    (∀ items, (ofSeed (.json (.array items))).keys = (List.range items.length).map Text.ofNat ∧
      ∀ index, (ofSeed (.json (.array items))).get? (Text.ofNat index) =
        match items[index]? with
        | none => none
        | some .null => some (.text [])
        | some item => Value.ofJson? item) ∧
    (∀ members key, key ∈ (ofSeed (.json (.object members))).keys ↔
      ∃ member, (key, member) ∈ members ∧ member ≠ .null) := by
  intro store history
  have recounts : store.Recounts history := by
    have replayed : store = (seed.events ++ operations.flatMap Operation.events).foldl undergo .empty := by
      rw [List.foldl_append, ← ofSeed_eq_undergo, ← operateAll_eq_undergo]
    have begun : empty.Recounts [] := recounts_empty (fun _ => rfl) fun _ => rfl
    have told := foldl_tells Recounts.undergo begun (seed.events ++ operations.flatMap Operation.events)
    rwa [← replayed, List.append_nil] at told
  exact ⟨store.nodup_keys, recounts, fun _ => has_iff, keys_set store, keys_remove store, fun _ => remove_found_iff,
    zip_keys_values store, by simp [keys, values, Entries.keys], fun _ _ => mem_entries_iff,
    ofSeed_array, fun _ _ => mem_keys_ofSeed_object⟩

/-- A name that comes back after it was taken out stands last; one that is laid over keeps its place. -/
example :
    let seed : Seed := .overlay [.text "a".toList, .text "b".toList]
      [("1".toList, .text "B".toList), ("name".toList, .text "n".toList)]
    let operations : List Operation := [.delete "0".toList, .set "name".toList (.bool true),
      .set "0".toList (.text "back".toList)]
    (operations.foldl operate (ofSeed seed)).keys = ["1".toList, "name".toList, "0".toList] := by
  decide

end TagWeave.Store
