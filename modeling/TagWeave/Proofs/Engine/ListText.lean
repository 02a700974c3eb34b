import TagWeave.Proofs.Engine.RunSemantics
import TagWeave.Proofs.Tag.Assignment
import TagWeave.Proofs.Text.Plain

/-! Lists in templates. The name of a list is replaced by the texts of its items with commas between
them, and the builtin function that makes a list reads such a text back item by item. -/
namespace TagWeave

variable {name target : Text} {store : Store} {items : List Text}

/-- An item that a list of texts can be read back with: no white space around it, no comma and no
brace in it. -/
structure Text.IsItem (item : Text) : Prop where
  trimmed : Text.trim item = item
  single : ',' ∉ item
  plain : item.Plain

def Value.ofTexts (items : List Text) : Value := .list (items.map Value.text)

theorem Value.toText_ofTexts (items : List Text) :
    (ofTexts items).toText = Text.joined [','] items := by
  have texts : items.map (toText ∘ text) = items := List.map_id'' (fun _ => rfl) items
  rw [ofTexts, toText, itemTexts_eq_map, List.map_map, texts]

/-- A list is read from the texts of its items with commas between them. -/
theorem Builtin.bindVector_joined (single : '=' ∉ target) (nonempty : items ≠ [])
    (each : ∀ item ∈ items, Text.IsItem item) :
    bindVector (target ++ '=' :: Text.joined [','] items) store =
      store.set (Text.trim target) (Value.ofTexts items) := by
  have pieces := Text.pieces_joined nonempty fun item listed => (each item listed).single
  have read : items.map (fun item => Value.text (Text.trim item)) = items.map Value.text :=
    List.map_congr_left fun item listed => congrArg Value.text (each item listed).trimmed
  simp only [bindVector, Text.cutAt_append _ _ single, pieces, read]
  rfl

namespace Scope

/-- The tag that makes a list of the items that a text spells. -/
def makingList (target items : Text) : Text :=
  Builtin.vector.name.toList ++ ':' :: (target ++ '=' :: items)

theorem makingList_eq_append (target items : Text) :
    makingList target items = makingList target [] ++ items := by
  simp [makingList]

theorem plain_makingList {spelled : Text} (target_plain : target.Plain) (plain : spelled.Plain) :
    (makingList target spelled).Plain := by
  have call : Text.Plain (Builtin.vector.name.toList ++ [':']) := by decide
  have sign : Text.Plain ['='] := by decide
  have whole := (call.append target_plain).append (sign.append plain)
  simpa [makingList] using whole

theorem evaluate_makingList (host : Nat → TagFunction) {registry : Registry} (draw : Draw)
    (free : store.get? Builtin.vector.name.toList = none)
    (registered : registry.get? Builtin.vector.name.toList = some (.builtin .vector))
    (single : '=' ∉ target) (nonempty : items ≠ []) (each : ∀ item ∈ items, Text.IsItem item) :
    Scope.evaluate ⟨functionsWith host, registry⟩ draw
        (makingList target (Text.joined [','] items)) store =
      ([], store.set (Text.trim target) (Value.ofTexts items)) := by
  have ended : Text.trimEnd (Text.joined [','] items) = Text.joined [','] items :=
    Text.trimEnd_joined rfl fun item listed => (each item listed).trimmed
  rw [makingList, evaluate_builtin host .vector free registered, Text.trimEnd_append_cons rfl, ended,
    Builtin.call, Builtin.bindVector_joined single nonempty each]

/-- A list that is named where a list is made is made again. The name is replaced by the items with
commas between them, and from there they are read back one by one, empty ones and ones that look like
assignments or calls included. Nothing else is written, and the new list may take the place of the old
one. -/
theorem run_makes_list_again (host : Nat → TagFunction) (registry : Registry) (draws : Draws)
    {budget : Nat} (enough : 2 ≤ budget)
    (free : store.get? Builtin.vector.name.toList = none)
    (registered : registry.get? Builtin.vector.name.toList = some (.builtin .vector))
    (named : name.IsName) (plain : name.Plain)
    (bound : store.get? name = some (Value.ofTexts items)) (nonempty : items ≠ [])
    (each : ∀ item ∈ items, Text.IsItem item) (target_plain : target.Plain)
    (single : '=' ∉ target) :
    ∃ left,
      Scope.run ⟨functionsWith host, registry⟩ budget draws
        (bracketed (makingList target (bracketed name))) store = (⟨[], 2, .complete⟩, left) ∧
      Entries.Placed (Text.trim target) (Value.ofTexts items) store.entries left.entries := by
  obtain ⟨budget, rfl⟩ := Nat.exists_eq_add_of_le' enough
  have items_plain : Text.Plain (Text.joined [','] items) :=
    Text.plain_joined (by decide) fun item listed => (each item listed).plain
  -- The name stands alone between the inner braces, and it is replaced first.
  have front_plain := plain_makingList target_plain Text.plain_nil
  have inner : locate (bracketed (makingList target (bracketed name))) =
      .tag (openBrace :: makingList target []) name [closeBrace] := by
    refine locate_eq_tag_iff.mpr ⟨?_, by simpa using front_plain.2, plain⟩
    rw [makingList_eq_append, bracketed]
    simp
  have named_text : Scope.evaluate ⟨functionsWith host, registry⟩ (draws 0) name store =
      (Text.joined [','] items, store) := by
    rw [evaluate_data named bound rfl, Value.toText_ofTexts]
  have written : bracketed (makingList target (Text.joined [','] items)) =
      openBrace :: makingList target [] ++ Text.joined [','] items ++ [closeBrace] := by
    rw [makingList_eq_append]
    rfl
  have shown := (turn_eq_iff inner).mpr ⟨_, named_text, written⟩
  have spelled : bracketed (makingList target (Text.joined [','] items)) ≠
      bracketed (makingList target (bracketed name)) := by
    intro same
    rw [same] at shown
    have itself := (turn_eq_self_iff inner).mp shown
    rw [named_text] at itself
    have braced : Text.joined [','] items = bracketed name := congrArg Prod.fst itself
    exact items_plain.1 (braced ▸ List.mem_cons_self)
  -- There is no brace among the items, so the outer tag is all that is left.
  have outer : locate (bracketed (makingList target (Text.joined [','] items))) =
      .tag [] (makingList target (Text.joined [','] items)) [] :=
    locate_eq_tag_iff.mpr ⟨by simp, by simp, plain_makingList target_plain items_plain⟩
  have made := (turn_eq_iff outer).mpr
    ⟨_, evaluate_makingList host (draws 1) free registered single nonempty each, rfl⟩
  have gone : ([] : Text) ≠ bracketed (makingList target (Text.joined [','] items)) := by
    simp [bracketed]
  exact ⟨_, (Renders.turn inner shown spelled (.turn outer made gone (.finished rfl))).run_eq,
    store.placed_set _ _⟩

/-- Items that look like an assignment, a call and nothing, written over their own list. -/
theorem run_makes_list_again_in_place :
    let items := ["a=b".toList, [], "f:(x".toList, []]
    let store := (Store.empty.set "other".toList (.bool true)).set "list".toList (.ofTexts items)
    (2 ≤ 2 ∧ store.get? "vector".toList = none ∧
      Registry.standard.get? "vector".toList = some (.builtin .vector) ∧
      Text.IsName "list".toList ∧ Text.Plain "list".toList ∧
      store.get? "list".toList = some (.ofTexts items) ∧ items ≠ [] ∧
      (∀ item ∈ items, Text.IsItem item) ∧ Text.Plain " list ".toList ∧ '=' ∉ " list ".toList) ∧
    ∃ left,
      standard.run 2 default "⟨vector: list =⟨list⟩⟩".braced store =
        (⟨[], 2, .complete⟩, left) ∧
      Entries.Placed "list".toList (.ofTexts items) store.entries left.entries := by
  intro items store
  have free : store.get? "vector".toList = none := rfl
  have registered := Registry.get?_standard .vector
  have named : Text.IsName "list".toList := ⟨by decide, by decide, rfl⟩
  have bound : store.get? "list".toList = some (.ofTexts items) := rfl
  have nonempty : items ≠ [] := List.cons_ne_nil _ _
  have each : ∀ item ∈ items, Text.IsItem item := by
    simp only [items, List.forall_mem_cons]
    exact ⟨⟨rfl, by decide, by decide⟩, ⟨rfl, by decide, by decide⟩, ⟨rfl, by decide, by decide⟩,
      ⟨rfl, by decide, by decide⟩, by simp⟩
  have plain : Text.Plain "list".toList := by decide
  have target_plain : Text.Plain " list ".toList := by decide
  have single : '=' ∉ " list ".toList := by decide
  exact ⟨⟨Nat.le_refl 2, free, registered, named, plain, bound, nonempty, each, target_plain, single⟩,
    run_makes_list_again (fun _ _ _ store => ([], store)) .standard default (Nat.le_refl 2) free
      registered named plain bound nonempty each target_plain single⟩

end Scope

end TagWeave
