import TagWeave.Proofs.Value.Likeness
import TagWeave.Tag.Evaluation

/-! Evaluation does not see the order of entries. Each builtin function, each way to read a value and
each way to write one gives the same text in stores that are alike, and leaves stores that are alike;
so does the evaluation of a tag. -/
namespace TagWeave

/-- Evaluations that give the same text and leave stores that are alike. -/
def Agree (first second : Text × Store) : Prop := first.1 = second.1 ∧ first.2.Alike second.2

def TagFunction.IgnoresOrder (function : TagFunction) : Prop :=
  ∀ (draw : Draw) (payload : Text) (store other : Store), store.Alike other →
    Agree (function draw payload store) (function draw payload other)

variable {store other : Store} {items others : List Value} {value twin : Value}
  {entries twins : Entries Value} {content name payload : Text}

theorem Value.Alike.join (alike : Value.Alike (.list items) (.list others)) (separator : Text) :
    Value.join separator items = Value.join separator others := by
  simp only [Value.join, itemTexts_eq_map, alike.texts]

namespace Builtin

theorem pushed_alike (alike : store.Alike other) (name : Text) :
    (pushed name store).Alike (pushed name other) := by
  unfold pushed
  rcases rel_iff.mp (alike.look name) with ⟨missing, absent⟩ | ⟨value, twin, found, met, inside⟩
  · rw [missing, absent]
    exact .text name
  · rw [found, met]
    exact inside

theorem bindVector_alike (alike : store.Alike other) (payload : Text) :
    (bindVector payload store).Alike (bindVector payload other) := by
  have texts : ∀ parts : List Text,
      Value.Alike (.list (parts.map .text)) (.list (parts.map .text)) := by
    intro parts
    rw [Value.alike_list_iff]
    induction parts with
    | nil => exact .nil
    | cons part rest ih => exact .cons (.text part) ih
  unfold bindVector
  cases Text.cutAt '=' payload with
  | none => exact alike.set _ (texts [])
  | some parts =>
    have trimmed := texts ((Text.pieces ',' parts.2).map Text.trim)
    rw [List.map_map] at trimmed
    exact alike.set _ trimmed

theorem containsTest_alike (alike : store.Alike other) (payload : Text) :
    containsTest payload store = containsTest payload other := by
  unfold containsTest
  cases Text.cutAt ',' payload with
  | none => rfl
  | some parts =>
    dsimp only
    rcases rel_iff.mp (alike.look (Text.trim parts.2)) with
      ⟨missing, absent⟩ | ⟨value, twin, found, met, inside⟩
    · rw [missing, absent]
    · rw [found, met]
      cases inside with
      | list length inside => simp only [(Value.Alike.list length inside).join]
      | text _ | number _ | bool _ | object _ _ _ _ => rfl

theorem appendTo_alike (alike : store.Alike other) (name : Text) (new : value.Alike twin) :
    (appendTo name value store).Alike (appendTo name twin other) := by
  unfold appendTo
  rcases rel_iff.mp (alike.look name) with ⟨missing, absent⟩ | ⟨value, twin, found, met, inside⟩
  · rw [missing, absent]
    exact alike
  · rw [found, met]
    cases inside with
    | list length inside => exact alike.set name (Value.alike_append (.list length inside) new)
    | text _ | number _ | bool _ | object _ _ _ _ => exact alike

theorem pushOnto_alike (alike : store.Alike other) (payload : Text) :
    (pushOnto payload store).Alike (pushOnto payload other) := by
  unfold pushOnto
  cases Text.cut ['-', '>'] payload with
  | none => exact alike
  | some parts =>
    dsimp only
    split
    · exact alike
    · exact appendTo_alike alike _ (pushed_alike alike _)

theorem lengthOf_alike (alike : store.Alike other) (payload : Text) :
    lengthOf payload store = lengthOf payload other := by
  unfold lengthOf
  rcases rel_iff.mp (alike.look (Text.trim payload)) with
    ⟨missing, absent⟩ | ⟨value, twin, found, met, inside⟩
  · rw [missing, absent]
  · rw [found, met]
    cases inside with
    | list length _ => exact length
    | text _ | number _ | bool _ | object _ _ _ _ => rfl

theorem joinText_alike (alike : store.Alike other) (payload : Text) :
    joinText payload store = joinText payload other := by
  unfold joinText
  cases Text.cutAt ',' payload with
  | none => rfl
  | some parts =>
    dsimp only
    rcases rel_iff.mp (alike.look (Text.trim parts.1)) with
      ⟨missing, absent⟩ | ⟨value, twin, found, met, inside⟩
    · rw [missing, absent]
    · rw [found, met]
      cases inside with
      | list length inside => exact (Value.Alike.list length inside).join _
      | text _ | number _ | bool _ | object _ _ _ _ => rfl

theorem call_ignoresOrder (builtin : Builtin) : builtin.call.IgnoresOrder := by
  intro draw payload store other alike
  cases builtin with
  | round | floor | ceil | abs | random | choose | isNaN | upper | lower | trim => exact ⟨rfl, alike⟩
  | object => exact ⟨rfl, alike.set _ (.object .nil .nil (fun _ => Iff.rfl) nofun)⟩
  | contains => exact ⟨congrArg boolText (containsTest_alike alike payload), alike⟩
  | vector => exact ⟨rfl, bindVector_alike alike payload⟩
  | push => exact ⟨rfl, pushOnto_alike alike payload⟩
  | length => exact ⟨congrArg Text.ofNat (lengthOf_alike alike payload), alike⟩
  | join => exact ⟨joinText_alike alike payload, alike⟩

end Builtin

theorem builtinFunctions_ignoreOrder (reference : FunctionRef) :
    (builtinFunctions reference).IgnoresOrder := by
  cases reference with
  | builtin function => exact function.call_ignoresOrder
  | host number => exact fun _ _ _ _ alike => ⟨rfl, alike⟩

theorem selectItems_alike (alike : Value.Alike (.list items) (.list others)) (selector : Text) :
    selectItems items selector = selectItems others selector := by
  have picked : ∀ index : Nat,
      (items[index]?).elim [] Value.toText = (others[index]?).elim [] Value.toText := by
    intro index
    have same := congrArg (·[index]?) alike.texts
    simp only [List.getElem?_map] at same
    cases found : items[index]? <;> cases met : others[index]? <;> simp_all
  unfold selectItems
  split
  · simp only [Value.join, Value.itemTexts_eq_map, List.map_take, List.map_drop, alike.texts]
  · rfl
  · split
    · simp only [Value.join, Value.itemTexts_eq_map, List.map_drop, alike.texts]
    · cases Number.index? selector with
      | none => rfl
      | some index => exact picked index

theorem pushShort_alike (alike : store.Alike other) (content : Text) :
    Option.Rel Store.Alike (pushShort? content store) (pushShort? content other) := by
  unfold pushShort?
  cases Text.cut ['-', '>'] content with
  | none => exact .none
  | some parts =>
    dsimp only
    cases written : Text.trim parts.2 with
    | nil => exact .none
    | cons first rest =>
      rcases rel_iff.mp (alike.look (Text.trim parts.1)) with
        ⟨missing, absent⟩ | ⟨value, twin, found, met, inside⟩
      · rw [missing, absent]
        exact .none
      · rw [found, met]
        cases inside with
        | list length inside =>
          have pushed := Builtin.pushed_alike alike (first :: rest)
          exact .some (alike.set _ (Value.alike_append (.list length inside) pushed))
        | text _ | number _ | bool _ | object _ _ _ _ => exact .none

theorem assignInto_alike (alike : store.Alike other) (name payload : Text) :
    Option.Rel Store.Alike (assignInto? name payload store) (assignInto? name payload other) := by
  unfold assignInto?
  cases Text.cutAt '=' payload with
  | none => exact .none
  | some parts =>
    rcases rel_iff.mp (alike.look name) with ⟨missing, absent⟩ | ⟨value, twin, found, met, inside⟩
    · rw [missing, absent]
      exact .none
    · rw [found, met]
      cases inside with
      | @list items others length inside =>
        dsimp only
        cases Number.index? (Text.trim parts.1) with
        | none => exact .some alike
        | some index =>
          dsimp only
          rw [← length]
          by_cases short : index < items.length
          · rw [if_pos short, if_pos short]
            have slot := Value.alike_set (.list length inside) index (.text (Text.trim parts.2))
            exact .some (alike.set name slot)
          · rw [if_neg short, if_neg short]
            exact .some alike
      | object distinct others_distinct keys inside =>
        have entry := (Value.Alike.object distinct others_distinct keys inside).write
          (Text.trim parts.1) (.text (Text.trim parts.2))
        exact .some (alike.set name entry)
      | text _ | number _ | bool _ => exact .none

namespace Scope

variable {scope : Scope} {draw : Draw}

/-- A name means the same function in both stores, or nothing in either, or values that are
alike. -/
theorem resolve_alike (scope : Scope) (alike : store.Alike other) (name : Text) :
    (∃ reference, scope.resolve? store name = some (.function reference) ∧
        scope.resolve? other name = some (.function reference)) ∨
      Option.Rel Value.Alike (scope.resolve? store name) (scope.resolve? other name) := by
  unfold resolve?
  rcases rel_iff.mp (alike.look name) with ⟨missing, absent⟩ | ⟨value, twin, found, met, inside⟩
  · rw [missing, absent]
    cases scope.registry.get? name with
    | none => exact .inr .none
    | some reference => exact .inl ⟨reference, rfl, rfl⟩
  · rw [found, met]
    exact .inr (.some inside)

theorem meansFunction_alike (alike : store.Alike other) (name : Text) :
    scope.meansFunction store name = scope.meansFunction other name := by
  unfold meansFunction
  rcases scope.resolve_alike alike name with ⟨reference, found, met⟩ | together
  · rw [found, met]
  · rcases rel_iff.mp together with ⟨missing, absent⟩ | ⟨value, twin, found, met, inside⟩
    · rw [missing, absent]
    · rw [found, met]
      simp only [inside.isFunction, inside.symm.isFunction]

theorem splitTag_alike (alike : store.Alike other) (content : Text) :
    scope.splitTag store content = scope.splitTag other content := by
  simp only [splitTag, meansFunction_alike alike]

theorem readEntry_alike (alike : store.Alike other)
    (entry : Value.Alike (.object entries) (.object twins)) (payload : Text) :
    Agree (scope.readEntry draw entries payload store) (scope.readEntry draw twins payload other) := by
  unfold readEntry
  dsimp only
  rcases rel_iff.mp (entry.look ((Text.cutAt ':' payload).getD (payload, [])).1) with
    ⟨missing, absent⟩ | ⟨value, twin, found, met, inside⟩
  · rw [missing, absent]
    exact ⟨rfl, alike⟩
  · rw [found, met]
    have same := inside.toText
    cases inside with
    | text _ | number _ | bool _ | list _ _ | object _ _ _ _ => exact ⟨same, alike⟩

theorem applyPayload_alike (scope : Scope) (draw : Draw) (alike : store.Alike other)
    {meaning meant : Option Value} (together : Option.Rel Value.Alike meaning meant)
    (name payload : Text) :
    Agree (scope.applyPayload draw name payload meaning store)
      (scope.applyPayload draw name payload meant other) := by
  unfold applyPayload
  rcases rel_iff.mp (assignInto_alike alike name payload) with
    ⟨missing, absent⟩ | ⟨left, twin, assigned, written, left_alike⟩
  · rw [missing, absent]
    have bound : Agree ([], store.set name (.text (Text.trim payload)))
        ([], other.set name (.text (Text.trim payload))) := ⟨rfl, alike.set name (.text _)⟩
    cases together with
    | none => exact bound
    | some inside =>
      cases inside with
      | text _ | number _ | bool _ => exact bound
      | list length inside => exact ⟨selectItems_alike (.list length inside) payload, alike⟩
      | object distinct others_distinct keys inside =>
        exact readEntry_alike alike (.object distinct others_distinct keys inside) payload
  · rw [assigned, written]
    exact ⟨rfl, left_alike⟩

section

variable (ignore : ∀ reference, (scope.functions reference).IgnoresOrder)
include ignore

theorem evaluateParts_alike (alike : store.Alike other) (content name : Text)
    (payload : Option Text) :
    Agree (scope.evaluateParts draw content name payload store)
      (scope.evaluateParts draw content name payload other) := by
  rcases scope.resolve_alike alike name with ⟨reference, found, met⟩ | together
  · simp only [evaluateParts, found, met]
    exact ignore reference draw _ store other alike
  have whole := rel_iff.mp together
  cases payload with
  | none =>
    rcases whole with ⟨missing, absent⟩ | ⟨value, twin, found, met, inside⟩
    · simp only [evaluateParts, missing, absent]
      rcases rel_iff.mp (pushShort_alike alike content) with
        ⟨unpushed, neither⟩ | ⟨left, twin, pushed, both, left_alike⟩
      · rw [unpushed, neither]
        exact ⟨rfl, alike⟩
      · rw [pushed, both]
        exact ⟨rfl, left_alike⟩
    · have same := inside.toText
      cases inside with
      | text _ | number _ | bool _ | list _ _ | object _ _ _ _ =>
        simp only [evaluateParts, found, met]
        exact ⟨same, alike⟩
  | some payload =>
    rcases whole with ⟨missing, absent⟩ | ⟨value, twin, found, met, inside⟩
    · simp only [evaluateParts, missing, absent]
      exact scope.applyPayload_alike draw alike .none name payload
    · have applied := scope.applyPayload_alike draw alike (.some inside) name payload
      cases inside with
      | text _ | number _ | bool _ | list _ _ =>
        simp only [evaluateParts, found, met]
        exact applied
      | object distinct others_distinct keys inside =>
        simp only [evaluateParts, found, met]
        have entry := (Value.Alike.object distinct others_distinct keys inside).look payload
        rcases rel_iff.mp entry with ⟨nowhere, neither⟩ | ⟨value, twin, here, there, alike_here⟩
        · rw [nowhere, neither]
          exact applied
        · rw [here, there]
          exact ⟨alike_here.toText, alike⟩

theorem evaluate_alike (alike : store.Alike other) (draw : Draw) (content : Text) :
    Agree (scope.evaluate draw content store) (scope.evaluate draw content other) := by
  simp only [evaluate, splitTag_alike alike]
  exact evaluateParts_alike ignore alike _ _ _

end

end Scope

end TagWeave
