import TagWeave.Proofs.Number.Written
import TagWeave.Proofs.Text.Parts
import TagWeave.Store
import TagWeave.Text.Case

/-! How long the text of a value can be. The extent of a value bounds both its text and its JSON, and
it is counted over the parts of the value, so it can be followed where values are put together. -/
namespace TagWeave

namespace Text

theorem length_mapped_le {expansions : List (Nat × List Nat)} (runs : List CaseRun)
    (few : ∀ expansion ∈ expansions, expansion.2.length ≤ 3) (c : Char) :
    (mapped expansions runs c).length ≤ 3 := by
  unfold mapped
  split
  · rename_i code points found
    rw [List.length_map]
    exact few _ (List.mem_of_find?_eq_some found)
  · simp

theorem length_upper_le (text : Text) : (upper text).length ≤ 3 * text.length := by
  induction text with
  | nil => simp [upper]
  | cons first rest ih =>
    have here : (upperChar first).length ≤ 3 := length_mapped_le _ (by decide) first
    simp only [upper, List.flatMap_cons, List.length_append, List.length_cons] at ih ⊢
    omega

theorem length_lowerAfter_le (before text : Text) :
    (lowerAfter before text).length ≤ 3 * text.length := by
  induction text generalizing before with
  | nil => simp [lowerAfter]
  | cons first rest ih =>
    have here : (lowerChar first).length ≤ 3 := length_mapped_le _ (by decide) first
    have later := ih (first :: before)
    simp only [lowerAfter, List.length_append, List.length_cons]
    split
    · simp only [List.length_singleton]
      omega
    · omega

theorem length_lower_le (text : Text) : (lower text).length ≤ 3 * text.length :=
  length_lowerAfter_le [] text

theorem length_joined_cons_le (separator part : Text) (rest : List Text) :
    (joined separator (part :: rest)).length ≤
      part.length + separator.length + (joined separator rest).length := by
  rw [joined_cons, List.length_append]
  split
  · simp only [List.length_nil]
    omega
  · simp only [List.length_append]
    omega

theorem length_ofNat_le_succ (n : Nat) : (ofNat n).length ≤ n + 1 := by
  apply length_ofNat_le (Nat.succ_pos n)
  calc n < 10 ^ n := Nat.lt_pow_self (by decide)
    _ ≤ 10 ^ (n + 1) := Nat.pow_le_pow_right (by decide) (Nat.le_succ n)

end Text

namespace Json

theorem length_escaped_le (c : Char) : (escaped c).length ≤ 6 := by
  unfold escaped
  repeat' split
  all_goals simp

theorem length_quoted_le (text : Text) : (quoted text).length ≤ 6 * text.length + 2 := by
  have inside : (text.flatMap escaped).length ≤ 6 * text.length := by
    induction text with
    | nil => simp
    | cons first rest ih =>
      have here := length_escaped_le first
      simp only [List.flatMap_cons, List.length_append, List.length_cons]
      omega
  simp only [quoted, List.length_append, List.length_cons, List.length_nil]
  omega

/-- How many characters members of an object take, a colon and a comma counted with each. -/
def membersLength : List (Text × Json) → Nat
  | [] => 0
  | (key, value) :: rest => (quoted key).length + value.render.length + 2 + membersLength rest

theorem length_joined_renderMembers_le (members : List (Text × Json)) :
    (Text.joined [','] (renderMembers members)).length ≤ membersLength members := by
  induction members with
  | nil => simp [renderMembers]
  | cons member rest ih =>
    obtain ⟨key, value⟩ := member
    have bound := Text.length_joined_cons_le [','] (quoted key ++ ':' :: value.render)
      (renderMembers rest)
    simp only [List.length_append, List.length_cons, List.length_nil] at bound
    simp only [renderMembers, membersLength]
    omega

theorem membersLength_insertSorted_le (key : Text) (value : Json) (members : Entries Json) :
    membersLength (Entries.insertSorted key value members) ≤
      (quoted key).length + value.render.length + 2 + membersLength members := by
  induction members with
  | nil => simp [Entries.insertSorted, membersLength]
  | cons member rest ih =>
    obtain ⟨other, present⟩ := member
    simp only [Entries.insertSorted]
    split
    · omega
    · split
      · simp [membersLength]
      · simp only [membersLength]
        omega

/-- Putting members in order, the last of each repeated key, takes no more characters. -/
theorem membersLength_sorted_le (members : List (Text × Json)) :
    membersLength (Entries.sorted members) ≤ membersLength members := by
  induction members with
  | nil => simp [Entries.sorted]
  | cons member rest ih =>
    have inserted := membersLength_insertSorted_le member.1 member.2 (Entries.sorted rest)
    simp only [Entries.sorted, membersLength]
    omega

end Json

namespace Value

mutual

/-- A bound on the characters of a value, as text and as JSON, counted over its parts. -/
def extent : Value → Nat
  | .text value => 6 * value.length + 2
  | .number value => value.text.length + (numberToJson value).render.length
  | .bool _ => 5
  | .list items => itemsExtent items + 2
  | .object entries => entriesExtent entries + 2
  | .function _ => 4

def itemsExtent : List Value → Nat
  | [] => 0
  | item :: rest => extent item + 1 + itemsExtent rest

def entriesExtent : List (Text × Value) → Nat
  | [] => 0
  | (key, value) :: rest => 6 * key.length + 4 + extent value + entriesExtent rest

end

mutual

theorem length_render_le : (value : Value) → (toJson value).render.length ≤ extent value
  | .text value => by
    simpa only [toJson, Json.render, extent] using Json.length_quoted_le value
  | .number value => by
    simp [toJson, extent]
  | .bool value => by
    cases value <;> simp [toJson, Json.render, extent]
  | .list items => by
    have inside := length_joined_renderItems_le items
    simp only [toJson, Json.render, extent, List.length_append, List.length_cons, List.length_nil]
    omega
  | .object entries => by
    have inside := (Json.length_joined_renderMembers_le _).trans
      ((Json.membersLength_sorted_le _).trans (membersLength_entriesToJson_le entries))
    simp only [toJson, Json.ofMembers, Json.render, extent, List.length_append, List.length_cons,
      List.length_nil]
    omega
  | .function _ => by
    simp [toJson, Json.render, extent]

theorem length_joined_renderItems_le : (items : List Value) →
    (Text.joined [','] (Json.renderItems (itemsToJson items))).length ≤ itemsExtent items
  | [] => by simp [itemsToJson, Json.renderItems]
  | item :: rest => by
    have here := length_render_le item
    have later := length_joined_renderItems_le rest
    have bound := Text.length_joined_cons_le [','] (toJson item).render
      (Json.renderItems (itemsToJson rest))
    simp only [List.length_singleton] at bound
    simp only [itemsToJson, Json.renderItems, itemsExtent]
    omega

theorem membersLength_entriesToJson_le : (entries : List (Text × Value)) →
    Json.membersLength (entriesToJson entries) ≤ entriesExtent entries
  | [] => by simp [entriesToJson, Json.membersLength]
  | (key, value) :: rest => by
    have here := length_render_le value
    have named := Json.length_quoted_le key
    have later := membersLength_entriesToJson_le rest
    cases value with
    | function _ =>
      simp only [entriesToJson, entriesExtent]
      omega
    | _ =>
      simp only [entriesToJson, Json.membersLength, entriesExtent]
      omega

end

mutual

theorem length_toText_le : (value : Value) → (toText value).length ≤ extent value
  | .text value => by
    simp only [toText, extent]
    omega
  | .number value => by
    simp [toText, extent]
  | .bool value => by
    cases value <;> simp [toText, extent]
  | .list items => by
    have inside := length_join_add_le [','] items
    simp only [join, List.length_singleton] at inside
    simp only [toText, extent]
    omega
  | .object entries => by
    simpa only [toText] using length_render_le (.object entries)
  | .function _ => by
    simp [toText]

/-- Items that are joined take what they take apart, and a separator after each. -/
theorem length_join_add_le (separator : Text) : (items : List Value) →
    (join separator items).length + items.length ≤
      itemsExtent items + items.length * separator.length
  | [] => by simp [join, itemTexts]
  | item :: rest => by
    have here := length_toText_le item
    have later := length_join_add_le separator rest
    have bound := Text.length_joined_cons_le separator (toText item) (itemTexts rest)
    simp only [join] at later ⊢
    simp only [itemTexts, itemsExtent, List.length_cons, Nat.succ_mul]
    omega

end

variable {value : Value} {items others : List Value} {entries : Entries Value} {key : Text}

theorem length_le_itemsExtent (items : List Value) : items.length ≤ itemsExtent items := by
  induction items with
  | nil => simp
  | cons item rest ih =>
    simp only [List.length_cons, itemsExtent]
    omega

theorem itemsExtent_append (items others : List Value) :
    itemsExtent (items ++ others) = itemsExtent items + itemsExtent others := by
  induction items with
  | nil => simp [itemsExtent]
  | cons item rest ih =>
    simp only [List.cons_append, itemsExtent]
    omega

theorem itemsExtent_le_of_sublist (among : others.Sublist items) :
    itemsExtent others ≤ itemsExtent items := by
  induction among with
  | slnil => exact Nat.le_refl _
  | cons _ _ ih =>
    simp only [itemsExtent]
    omega
  | cons_cons _ _ ih =>
    simp only [itemsExtent]
    omega

theorem itemsExtent_set_le (items : List Value) (index : Nat) (value : Value) :
    itemsExtent (items.set index value) ≤ itemsExtent items + extent value := by
  induction items generalizing index with
  | nil => simp [itemsExtent]
  | cons item rest ih =>
    cases index with
    | zero =>
      simp only [List.set_cons_zero, itemsExtent]
      omega
    | succ index =>
      have later := ih index
      simp only [List.set_cons_succ, itemsExtent]
      omega

/-- Texts as items take six times what they take when they are written one after the other. -/
theorem itemsExtent_texts_le (parts : List Text) :
    itemsExtent (parts.map .text) ≤ 6 * (Text.joined [','] parts).length + 6 := by
  induction parts with
  | nil => simp [itemsExtent]
  | cons part rest ih =>
    simp only [List.map_cons, itemsExtent, extent, Text.joined_cons, List.length_append]
    cases rest with
    | nil =>
      simp only [List.map_nil, itemsExtent, ↓reduceIte, List.length_nil]
      omega
    | cons next others =>
      simp only [reduceCtorEq, ↓reduceIte, List.length_append, List.length_singleton]
      omega

theorem extent_le_of_find? (found : Entries.find? key entries = some value) :
    extent value ≤ entriesExtent entries := by
  induction entries with
  | nil => cases found
  | cons entry rest ih =>
    obtain ⟨name, present⟩ := entry
    simp only [Entries.find?] at found
    simp only [entriesExtent]
    split at found
    · cases found
      omega
    · have later := ih found
      omega

theorem entriesExtent_write_le (key : Text) (value : Value) (entries : Entries Value) :
    entriesExtent (Entries.write key value entries) ≤
      entriesExtent entries + 6 * key.length + 4 + extent value := by
  induction entries with
  | nil => simp [Entries.write, entriesExtent]
  | cons entry rest ih =>
    obtain ⟨name, old⟩ := entry
    simp only [Entries.write]
    split
    · simp only [entriesExtent]
      omega
    · simp only [entriesExtent]
      omega

end Value

end TagWeave
