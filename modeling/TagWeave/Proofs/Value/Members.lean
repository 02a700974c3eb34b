import TagWeave.Proofs.Entries.Selection
import TagWeave.Value.Text

/-! Objects and their JSON, member by member. On the way into JSON an object loses its functions, on the
way back the members that are `null`; whatever else stands under a key is converted by itself. -/
namespace TagWeave.Value

variable {key : Text} {entries : Entries Value} {members : List (Text × Json)}

/-- The JSON of a value in an object, which leaves out functions. -/
def memberJson? (value : Value) : Option Json := if value.isFunction then none else some value.toJson

theorem entriesToJson_eq_select (entries : Entries Value) :
    entriesToJson entries = Entries.select memberJson? entries := by
  induction entries with
  | nil => rfl
  | cons entry rest ih =>
    obtain ⟨key, value⟩ := entry
    rw [Entries.select_cons, ← ih]
    cases value <;> rfl

theorem find?_entriesToJson (distinct : (Entries.keys entries).Nodup) (key : Text) :
    Entries.find? key (entriesToJson entries) = (Entries.find? key entries).bind memberJson? := by
  rw [entriesToJson_eq_select, Entries.find?_select distinct]

theorem nodup_keys_entriesToJson (distinct : (Entries.keys entries).Nodup) :
    (Entries.keys (entriesToJson entries)).Nodup := by
  rw [entriesToJson_eq_select]
  exact Entries.nodup_keys_select distinct memberJson?

theorem ofJson?_eq_none_iff {json : Json} : ofJson? json = none ↔ json = .null := by
  cases json <;> simp [ofJson?]

theorem itemsOfJson_eq_map (items : List Json) :
    itemsOfJson items = items.map fun item => (ofJson? item).getD (.text []) := by
  induction items with
  | nil => rfl
  | cons item rest ih => rw [itemsOfJson, ih, List.map_cons]

theorem entriesOfJson_eq_select (members : List (Text × Json)) :
    entriesOfJson members = Entries.select ofJson? members := by
  induction members with
  | nil => rfl
  | cons member rest ih =>
    rw [Entries.select_cons, ← ih, entriesOfJson]
    cases ofJson? member.2 <;> rfl

theorem nodup_keys_entriesOfJson (distinct : (Entries.keys members).Nodup) :
    (Entries.keys (entriesOfJson members)).Nodup := by
  rw [entriesOfJson_eq_select]
  exact Entries.nodup_keys_select distinct ofJson?

theorem find?_entriesOfJson (distinct : (Entries.keys members).Nodup) (key : Text) :
    Entries.find? key (entriesOfJson members) = (Entries.find? key members).bind ofJson? := by
  rw [entriesOfJson_eq_select, Entries.find?_select distinct]

end TagWeave.Value

namespace TagWeave

/-- The keys of every object stand in order, at any depth, and none stands twice. -/
inductive Json.Ordered : Json → Prop where
  | null : Ordered .null
  | bool (value : Bool) : Ordered (.bool value)
  | number (value : Json.Number) : Ordered (.number value)
  | text (value : Text) : Ordered (.text value)
  | array {items : List Json} (each : ∀ item ∈ items, Ordered item) : Ordered (.array items)
  | object {members : List (Text × Json)} (increasing : Entries.Increasing members)
      (each : ∀ member ∈ members, Ordered member.2) : Ordered (.object members)

theorem Json.ordered_ofMembers {members : List (Text × Json)}
    (each : ∀ member ∈ members, member.2.Ordered) : (Json.ofMembers members).Ordered :=
  .object (Entries.increasing_sorted members) fun member listed =>
    each member (Entries.mem_of_mem_sorted listed)

theorem Value.ordered_numberToJson (n : Double) : (numberToJson n).Ordered := by
  unfold numberToJson
  split
  · exact .number _
  · split
    · exact .number _
    · exact .null

mutual

theorem Value.ordered_toJson : (value : Value) → value.toJson.Ordered
  | .text value => .text value
  | .number value => ordered_numberToJson value
  | .bool value => .bool value
  | .list items => .array (ordered_itemsToJson items)
  | .object entries => Json.ordered_ofMembers (ordered_entriesToJson entries)
  | .function _ => .null

theorem Value.ordered_itemsToJson : (items : List Value) → ∀ item ∈ itemsToJson items, item.Ordered
  | [] => by simp [itemsToJson]
  | item :: rest => List.forall_mem_cons.mpr ⟨ordered_toJson item, ordered_itemsToJson rest⟩

theorem Value.ordered_entriesToJson : (entries : List (Text × Value)) →
    ∀ member ∈ entriesToJson entries, member.2.Ordered
  | [] => by simp [entriesToJson]
  | (_, value) :: rest => by
    have first := ordered_toJson value
    have later := ordered_entriesToJson rest
    cases value with
    | function _ => exact later
    | text | number | bool | list | object => exact List.forall_mem_cons.mpr ⟨first, later⟩

end

end TagWeave
