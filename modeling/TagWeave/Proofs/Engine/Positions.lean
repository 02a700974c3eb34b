import TagWeave.Proofs.Engine.RunSemantics

/-! The next tag by positions: it ends at the first closing brace and begins at the last opening brace
before that. No earlier part of the text is written like it, so a run that looks for the text of the tag
from the beginning finds the tag itself. -/
namespace TagWeave

variable {text before content after : Text} {opening closing : Nat}

namespace Text

def between (opening closing : Nat) (text : Text) : Text := (text.take closing).drop (opening + 1)

/-- A text falls into what stands before a character, the character and what stands behind it. -/
theorem eq_take_append_cons {c : Char} {place : Nat} (found : text[place]? = some c) :
    text = text.take place ++ c :: text.drop (place + 1) := by
  obtain ⟨inside, rfl⟩ := List.getElem?_eq_some_iff.mp found
  rw [← List.drop_eq_getElem_cons inside, List.take_append_drop]

end Text

/-- The next tag of a text stands between two positions. -/
structure TagAt (text : Text) (opening closing : Nat) : Prop where
  closes : text[closing]? = some closeBrace
  first : closeBrace ∉ text.take closing
  ordered : opening < closing
  opens : text[opening]? = some openBrace
  last : openBrace ∉ text.between opening closing

theorem TagAt.eq_append (tag : TagAt text opening closing) :
    text = text.take opening ++ bracketed (text.between opening closing) ++
      text.drop (closing + 1) := by
  have within : (text.take closing)[opening]? = some openBrace := by
    rw [List.getElem?_take_of_lt tag.ordered, tag.opens]
  have front : text.take closing =
      text.take opening ++ openBrace :: text.between opening closing := by
    have split := Text.eq_take_append_cons within
    rwa [List.take_take, Nat.min_eq_left (Nat.le_of_lt tag.ordered)] at split
  have whole := Text.eq_take_append_cons tag.closes
  rw [front] at whole
  simpa [bracketed] using whole

theorem TagAt.locate_eq (tag : TagAt text opening closing) :
    locate text =
      .tag (text.take opening) (text.between opening closing) (text.drop (closing + 1)) := by
  have unclosed {part : Text} (inside : part.Sublist (text.take closing)) :
      closeBrace ∉ part := fun member => tag.first (inside.subset member)
  have front : (text.take opening).Sublist (text.take closing) :=
    (List.take_prefix_take_left (Nat.le_of_lt tag.ordered)).sublist
  exact locate_eq_tag_iff.mpr ⟨tag.eq_append, unclosed front, tag.last, unclosed (List.drop_sublist _ _)⟩

theorem exists_tagAt_of_locate (place : locate text = .tag before content after) :
    ∃ opening closing, TagAt text opening closing := by
  obtain ⟨rfl, unclosed, unopened, inside⟩ := locate_eq_tag_iff.mp place
  have shape : before ++ bracketed content ++ after =
      (before ++ openBrace :: content) ++ closeBrace :: after := by simp [bracketed]
  refine ⟨before.length, (before ++ openBrace :: content).length, ?_⟩
  rw [shape]
  refine ⟨by simp, ?_, by simp, by simp, ?_⟩
  · rw [List.take_left]
    simp [unclosed, inside]
  · rw [Text.between, List.take_left]
    simpa using unopened

/-- A text has no two next tags. -/
theorem TagAt.unique {other next : Nat} (tag : TagAt text opening closing)
    (twin : TagAt text other next) : other = opening ∧ next = closing := by
  have closing_inside := (List.getElem?_eq_some_iff.mp tag.closes).1
  have next_inside := (List.getElem?_eq_some_iff.mp twin.closes).1
  have same := twin.locate_eq.symm.trans tag.locate_eq
  obtain ⟨front, -, rest⟩ := Location.tag.inj same
  have front_length := congrArg List.length front
  have rest_length := congrArg List.length rest
  have ordered := tag.ordered
  have twin_ordered := twin.ordered
  simp only [List.length_take, List.length_drop] at front_length rest_length
  omega

/-- The text of the next tag is not written anywhere earlier: its closing brace would be earlier too. -/
theorem TagAt.not_earlier {place : Nat} (tag : TagAt text opening closing)
    (written : bracketed (text.between opening closing) <+: text.drop place) : opening ≤ place := by
  obtain ⟨tail, same⟩ := written
  have inside := (List.getElem?_eq_some_iff.mp tag.closes).1
  have ordered := tag.ordered
  have length : (text.between opening closing).length = closing - (opening + 1) := by
    rw [Text.between, List.length_drop, List.length_take, Nat.min_eq_left (Nat.le_of_lt inside)]
  have brace : text[place + ((text.between opening closing).length + 1)]? = some closeBrace := by
    rw [← List.getElem?_drop, ← same]
    simp [bracketed]
  refine Nat.le_of_not_lt fun earlier => tag.first ?_
  rw [List.mem_iff_getElem?]
  exact ⟨_, (List.getElem?_take_of_lt (by omega)).trans brace⟩

/-- Writing over the first place where the text of the next tag stands is writing over the tag: what is
before the opening brace and behind the closing one stays, and nothing earlier is written like it. So
the text stays as it is only if the tag is written over itself, and a run that goes on with the text in
which it looked for the tag from the beginning is the run. -/
theorem replaceFirst_in_place (closes : closeBrace ∈ text) (opens : openBrace ∈ Text.upTo closeBrace text) :
    ∃ opening closing, TagAt text opening closing ∧
      (∀ other next, TagAt text other next → other = opening ∧ next = closing) ∧
      let tag := bracketed (text.between opening closing)
      text = text.take opening ++ tag ++ text.drop (closing + 1) ∧
      (∀ place, tag <+: text.drop place → opening ≤ place) ∧
      (∀ replacement,
        Text.replaceFirst tag replacement text =
            text.take opening ++ replacement ++ text.drop (closing + 1) ∧
          (Text.replaceFirst tag replacement text = text ↔ replacement = tag)) ∧
      ∀ (scope : Scope) (budget : Nat) (draws : Draws) (store : Store),
        scope.run (budget + 1) draws text store =
          let (replacement, left) := scope.evaluate (draws 0) (text.between opening closing) store
          let next := Text.replaceFirst tag replacement text
          if next = text then (⟨text, 1, .fixedPoint⟩, left)
          else
            let (report, final) := scope.run budget draws.next next left
            (report.after 1, final) := by
  obtain ⟨before, content, after, place⟩ := exists_locate_eq_tag_iff.mpr ⟨closes, opens⟩
  obtain ⟨opening, closing, tag⟩ := exists_tagAt_of_locate place
  refine ⟨opening, closing, tag, fun other next twin => tag.unique twin, tag.eq_append,
    fun place written => tag.not_earlier written, fun replacement => ⟨?_, ?_⟩, ?_⟩
  · exact replaceFirst_of_locate tag.locate_eq replacement
  · exact replaceFirst_eq_self_iff tag.locate_eq replacement
  · intro scope budget draws store
    exact Scope.run_succ_of_tag tag.locate_eq

/-- The same tag twice, with a brace that opens before and one that closes behind. -/
theorem replaceFirst_in_place_twice :
    (closeBrace ∈ "⟨⟨a⟩⟨a⟩⟩".braced ∧
      openBrace ∈ Text.upTo closeBrace "⟨⟨a⟩⟨a⟩⟩".braced) ∧
    ∀ replacement, Text.replaceFirst "⟨a⟩".braced replacement
      "⟨⟨a⟩⟨a⟩⟩".braced = openBrace :: replacement ++ "⟨a⟩⟩".braced := by
  have closes : closeBrace ∈ "⟨⟨a⟩⟨a⟩⟩".braced := by decide
  have opens : openBrace ∈ Text.upTo closeBrace "⟨⟨a⟩⟨a⟩⟩".braced := by decide
  refine ⟨⟨closes, opens⟩, fun replacement => ?_⟩
  obtain ⟨opening, closing, -, only, -, -, replaced, -⟩ := replaceFirst_in_place closes opens
  obtain ⟨rfl, rfl⟩ := only 1 3 ⟨by decide, by decide, by decide, by decide, by decide⟩
  exact (replaced replacement).1

end TagWeave
