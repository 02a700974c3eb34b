import TagWeave.Proofs.Value.Equality

/-! The way of a value into JSON and back. What JSON has no form for is lost: in a list the empty text
comes back in its place, in an object nothing comes back under its key. All else comes back equal; only
the order of entries and the sign of zero are not kept. -/
namespace TagWeave.Value

variable {value : Value} {n : Double}

/-- Whether JSON has no form for a value: functions, and numbers that are not finite. -/
def isLost : Value → Bool
  | .number n => !n.isFinite
  | .function _ => true
  | .text _ | .bool _ | .list _ | .object _ => false

mutual

def carried : Value → Value
  | .list items => .list (carriedItems items)
  | .object entries => .object (carriedEntries entries)
  | .text value => .text value
  | .number value => .number value
  | .bool value => .bool value
  | .function reference => .function reference

/-- Positions stay: where an item is lost, the empty text stands for it. -/
def carriedItems : List Value → List Value
  | [] => []
  | item :: rest => (if item.isLost then .text [] else carried item) :: carriedItems rest

/-- An entry whose value is lost is left out. -/
def carriedEntries : List (Text × Value) → List (Text × Value)
  | [] => []
  | (key, value) :: rest =>
    if value.isLost then carriedEntries rest else (key, carried value) :: carriedEntries rest

end

/-- What JSON carries of a value, if it has a form for it. -/
def carried? (value : Value) : Option Value := if value.isLost then none else some value.carried

theorem carriedItems_eq_map (items : List Value) :
    carriedItems items = items.map fun item => (carried? item).getD (.text []) := by
  induction items with
  | nil => rfl
  | cons item rest ih =>
    rw [carriedItems, ih, List.map_cons, carried?]
    cases item.isLost <;> rfl

theorem carriedEntries_eq_select (entries : Entries Value) :
    carriedEntries entries = Entries.select carried? entries := by
  induction entries with
  | nil => rfl
  | cons entry rest ih =>
    obtain ⟨key, value⟩ := entry
    rw [Entries.select_cons, ← ih, carriedEntries, carried?]
    cases value.isLost <;> rfl

/-- Where nothing is lost, all is carried. -/
theorem carried_of_kept (kept : value.Everywhere fun part => part.isLost = false) :
    value.carried = value := by
  induction kept with
  | @intro value _ inside ih =>
    have each (part : Value) (listed : part ∈ value.parts) : carried? part = some part := by
      rw [carried?, (everywhere_iff.mp (inside part listed)).1, ih part listed]
      rfl
    cases value with
    | text | number | bool | function => rw [carried]
    | list items =>
      rw [carried, carriedItems_eq_map]
      congr 1
      refine (List.map_congr_left ?_).trans (List.map_id items)
      intro item listed
      rw [each item listed]
      rfl
    | object entries =>
      rw [carried, carriedEntries_eq_select, Entries.select_eq_self]
      rintro ⟨key, part⟩ member
      exact each part (List.mem_map_of_mem (f := Prod.snd) member)

/-- A finite number comes back equal, whether it is written as an integer or as a double. -/
theorem ofJson?_numberToJson_of_finite (finite : n.isFinite = true) :
    ∃ decoded, ofJson? (numberToJson n) = some (.number decoded) ∧ decoded.same n = true := by
  rw [numberToJson, if_pos finite]
  split
  · rename_i small
    simp only [Bool.and_eq_true] at small
    exact ⟨_, rfl, Double.ofInt_whole_same small.1⟩
  · have number : n.isNan = false := by
      simp only [Double.isFinite, Bool.and_eq_true, Bool.not_eq_true'] at finite
      exact finite.1
    exact ⟨n, rfl, by rw [Double.same_self, number]; rfl⟩

theorem ofJson?_numberToJson_of_not_finite (infinite : n.isFinite = false) :
    ofJson? (numberToJson n) = none := by
  simp [numberToJson, Double.isIntegral, infinite, ofJson?]

/-- An object leaves functions out, where elsewhere they are `null`; both come back as nothing. -/
theorem memberJson?_bind_ofJson? (value : Value) :
    (memberJson? value).bind ofJson? = ofJson? value.toJson := by
  cases value <;> simp [memberJson?, isFunction, toJson, ofJson?]

/-- What comes back from JSON is equal to what JSON carries, or both are nothing. -/
theorem ofJson?_toJson (distinct : value.Distinct) :
    Option.Rel Equal (ofJson? value.toJson) (carried? value) := by
  induction distinct with
  | @intro value once _ ih =>
    cases value with
    | text value => exact .some (.text value)
    | bool value => exact .some (.bool value)
    | function reference => exact .none
    | number n =>
      rw [toJson, carried?, isLost]
      cases finite : n.isFinite with
      | true =>
        obtain ⟨decoded, given, equal⟩ := ofJson?_numberToJson_of_finite finite
        rw [given]
        exact .some (.number equal)
      | false =>
        rw [ofJson?_numberToJson_of_not_finite finite]
        exact .none
    | list items =>
      refine .some ?_
      rw [carried, itemsToJson_eq_map, itemsOfJson_eq_map, carriedItems_eq_map, List.map_map]
      refine corresponds_list_iff.mpr fun index => ?_
      rw [List.getElem?_map, List.getElem?_map]
      cases found : items[index]? with
      | none => exact .none
      | some item => exact .some (rel_getD (ih item (List.mem_of_getElem? found)) (.text []))
    | object entries =>
      refine .some ?_
      rw [carried, carriedEntries_eq_select]
      have sorted_distinct := (Entries.increasing_sorted (entriesToJson entries)).nodup_keys
      refine corresponds_object_iff.mpr ⟨nodup_keys_entriesOfJson sorted_distinct,
        Entries.nodup_keys_select once carried?, fun key => ?_⟩
      rw [find?_entriesOfJson sorted_distinct, Entries.find?_sorted (nodup_keys_entriesToJson once),
        find?_entriesToJson once, Entries.find?_select once]
      cases found : Entries.find? key entries with
      | none => exact .none
      | some value =>
        rw [Option.bind_some, Option.bind_some, memberJson?_bind_ofJson?]
        exact ih value (mem_parts_of_find? found)

/-- JSON gives a value back as far as it carries it. Nothing comes back exactly from what is lost; all
other values come back equal to what is carried of them, and so equal to themselves where nothing in
them is lost. -/
theorem toJson_carries (value : Value) (distinct : value.Distinct) :
    (ofJson? value.toJson = none ↔ value.isLost = true) ∧
    (value.isLost = false →
      ∃ decoded, ofJson? value.toJson = some decoded ∧ decoded.same value.carried = true) ∧
    ((value.Everywhere fun part => part.isLost = false) →
      ∃ decoded, ofJson? value.toJson = some decoded ∧ decoded.same value = true) := by
  have rel := ofJson?_toJson distinct
  have back (kept : value.isLost = false) :
      ∃ decoded, ofJson? value.toJson = some decoded ∧ decoded.same value.carried = true := by
    rw [carried?, kept] at rel
    rcases rel_iff.mp rel with ⟨-, missing⟩ | ⟨decoded, twin, given, carried_eq, equal⟩
    · cases missing
    · cases carried_eq
      exact ⟨decoded, given, equal.same⟩
  refine ⟨⟨?_, ?_⟩, back, ?_⟩
  · intro missing
    by_contra lost
    obtain ⟨decoded, given, -⟩ := back (Bool.eq_false_iff.mpr lost)
    rw [missing] at given
    cases given
  · intro lost
    rw [carried?, lost] at rel
    rcases rel_iff.mp rel with ⟨missing, -⟩ | ⟨_, _, _, carried_eq, _⟩
    · exact missing
    · cases carried_eq
  · intro kept
    obtain ⟨decoded, given, equal⟩ := back (everywhere_iff.mp kept).1
    exact ⟨decoded, given, carried_of_kept kept ▸ equal⟩

/-- A zero with a sign, a great integer, a fraction and an infinity in a list, beside a function and
an object that holds what is no number. -/
theorem toJson_carries_nested :
    ∃ value carried : Value,
      value = .object [(['n'], .list [.number (.zeroOf true), .number (.ofNat 9007199254740994),
          .number (.ofRatio false 1 10), .number (.infinity true)]),
        (['f'], .function (.host 0)), (['a'], .object [(['x'], .number .nan), (['y'], .bool true)])] ∧
      carried = .object [(['n'], .list [.number (.zeroOf true), .number (.ofNat 9007199254740994),
          .number (.ofRatio false 1 10), .text []]), (['a'], .object [(['y'], .bool true)])] ∧
      value.Distinct ∧ carried.Distinct ∧
      (∃ decoded, ofJson? value.toJson = some decoded ∧ decoded.same carried = true) ∧
      ∃ decoded, ofJson? carried.toJson = some decoded ∧ decoded.same carried = true := by
  refine ⟨_, _, rfl, rfl, ?_⟩
  generalize value_eq : Value.object (_ :: _ :: _ :: _) = value
  generalize carried_eq : Value.object (_ :: _ :: []) = carried
  have distinct : value.Distinct := by
    subst value_eq
    simp [Distinct, everywhere_object_iff, everywhere_list_iff, KeysOnce, Entries.keys]
  have carried_distinct : carried.Distinct := by
    subst carried_eq
    simp [Distinct, everywhere_object_iff, everywhere_list_iff, KeysOnce, Entries.keys]
  have zero : (Double.zeroOf true).isFinite = true := by decide +kernel
  have great : (Double.ofNat 9007199254740994).isFinite = true := by decide +kernel
  have fraction : (Double.ofRatio false 1 10).isFinite = true := by decide +kernel
  have infinite : (Double.infinity true).isFinite = false := by decide +kernel
  have carries : value.carried = carried := by
    subst value_eq carried_eq
    simp [Value.carried, carriedItems, carriedEntries, isLost, zero, great, fraction, infinite,
      show Double.nan.isFinite = false from rfl]
  have kept : carried.Everywhere fun part => part.isLost = false := by
    subst carried_eq
    simp [everywhere_object_iff, everywhere_list_iff, isLost, zero, great, fraction]
  obtain ⟨-, back, -⟩ := toJson_carries value distinct
  obtain ⟨-, -, whole⟩ := toJson_carries carried carried_distinct
  exact ⟨distinct, carried_distinct, carries ▸ back (by rw [← value_eq]; rfl), whole kept⟩

end TagWeave.Value
