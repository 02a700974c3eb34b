import TagWeave.Engine.Run
import TagWeave.Proofs.Text.Cuts

/-! Where the next tag stands, said of the text alone: the next tag is the one that ends at the first
closing brace and begins at the last opening brace before that. Its place depends on nothing behind
it, and the first place where it is written is its own. -/
namespace TagWeave

variable {text before content after : Text}

theorem locate_eq_finished_iff : locate text = .finished ↔ closeBrace ∉ text := by
  rw [← Text.cutAt_eq_none_iff]
  unfold locate
  split
  · rename_i missing
    simp [missing]
  · rename_i closes
    split <;> simp [closes]

theorem locate_eq_unopened_iff :
    locate text = .unopened ↔
      ∃ front rest, text = front ++ closeBrace :: rest ∧ closeBrace ∉ front ∧ openBrace ∉ front := by
  unfold locate
  constructor
  · intro place
    split at place
    · cases place
    · rename_i front rest closes
      split at place
      · rename_i unopened
        obtain ⟨same, unclosed⟩ := Text.cutAt_eq_some closes
        exact ⟨front, rest, same, unclosed, Text.cutAtLast_eq_none_iff.mp unopened⟩
      · cases place
  · rintro ⟨front, rest, rfl, unclosed, unopened⟩
    simp [Text.cutAt_append front rest unclosed, Text.cutAtLast_eq_none_iff.mpr unopened]

theorem locate_eq_tag_iff :
    locate text = .tag before content after ↔
      text = before ++ bracketed content ++ after ∧
        closeBrace ∉ before ∧ openBrace ∉ content ∧ closeBrace ∉ content := by
  unfold locate
  constructor
  · intro place
    split at place
    · cases place
    · rename_i front rest closes
      split at place
      · cases place
      · rename_i left inner opens
        obtain ⟨rfl, rfl, rfl⟩ := Location.tag.inj place
        obtain ⟨same, unclosed⟩ := Text.cutAt_eq_some closes
        obtain ⟨rfl, unopened⟩ := Text.cutAtLast_eq_some_iff.mp opens
        simp only [List.mem_append, List.mem_cons, not_or] at unclosed
        exact ⟨by simp [same, bracketed], unclosed.1, unopened, unclosed.2.2⟩
  · rintro ⟨rfl, unclosed, unopened, inside⟩
    have closes : Text.cutAt closeBrace ((before ++ openBrace :: content) ++ closeBrace :: after) =
        some (before ++ openBrace :: content, after) :=
      Text.cutAt_append _ _ (by simp [unclosed, inside])
    have opens : Text.cutAtLast openBrace (before ++ openBrace :: content) = some (before, content) :=
      Text.cutAtLast_eq_some_iff.mpr ⟨rfl, unopened⟩
    have shape : before ++ bracketed content ++ after =
        (before ++ openBrace :: content) ++ closeBrace :: after := by simp [bracketed]
    simp only [shape, closes, opens]

theorem locate_eq_unopened_iff_upTo :
    locate text = .unopened ↔ closeBrace ∈ text ∧ openBrace ∉ Text.upTo closeBrace text := by
  rw [locate_eq_unopened_iff]
  constructor
  · rintro ⟨front, rest, rfl, unclosed, unopened⟩
    rw [Text.upTo_append front rest unclosed]
    exact ⟨by simp, unopened⟩
  · rintro ⟨closes, unopened⟩
    obtain ⟨front, rest, rfl, unclosed⟩ := List.eq_append_cons_of_mem closes
    rw [Text.upTo_append front rest unclosed] at unopened
    exact ⟨front, rest, rfl, unclosed, unopened⟩

/-- There is a tag exactly where an opening brace precedes the first closing one. -/
theorem exists_locate_eq_tag_iff :
    (∃ before content after, locate text = .tag before content after) ↔
      closeBrace ∈ text ∧ openBrace ∈ Text.upTo closeBrace text := by
  have finished : locate text = .finished ↔ _ := locate_eq_finished_iff
  have unopened : locate text = .unopened ↔ _ := locate_eq_unopened_iff_upTo
  cases place : locate text with
  | finished =>
    have unclosed := finished.mp place
    simp [unclosed]
  | unopened =>
    have absent := (unopened.mp place).2
    simp [absent]
  | tag before content after =>
    simp only [place, reduceCtorEq, false_iff, Decidable.not_not, not_and] at finished unopened
    exact iff_of_true ⟨before, content, after, rfl⟩ ⟨finished, unopened finished⟩

/-- What follows a tag, or a brace that closes without an opening one, does not change where it
stands. -/
theorem locate_append_tag (place : locate text = .tag before content after) (rest : Text) :
    locate (text ++ rest) = .tag before content (after ++ rest) := by
  obtain ⟨rfl, unclosed, plain⟩ := locate_eq_tag_iff.mp place
  exact locate_eq_tag_iff.mpr ⟨by simp, unclosed, plain⟩

theorem locate_append_unopened (place : locate text = .unopened) (rest : Text) :
    locate (text ++ rest) = .unopened := by
  obtain ⟨front, behind, rfl, unclosed, unopened⟩ := locate_eq_unopened_iff.mp place
  exact locate_eq_unopened_iff.mpr ⟨front, behind ++ rest, by simp, unclosed, unopened⟩

def Text.Plain (text : Text) : Prop := openBrace ∉ text ∧ closeBrace ∉ text

instance (text : Text) : Decidable text.Plain :=
  inferInstanceAs (Decidable (openBrace ∉ text ∧ closeBrace ∉ text))

theorem Text.Plain.append {first second : Text} (left : first.Plain) (right : second.Plain) :
    Text.Plain (first ++ second) :=
  ⟨by simp [left.1, right.1], by simp [left.2, right.2]⟩

def Location.behind (front : Text) : Location → Location
  | .finished => .finished
  | .unopened => .unopened
  | .tag before content after => .tag (front ++ before) content after

/-- Text without braces shifts the next tag and does nothing else. -/
theorem locate_plain_append {front : Text} {location : Location} (plain : front.Plain)
    (place : locate text = location) : locate (front ++ text) = location.behind front := by
  cases location with
  | finished =>
    have unclosed := locate_eq_finished_iff.mp place
    exact locate_eq_finished_iff.mpr (by simp [plain.2, unclosed])
  | unopened =>
    obtain ⟨left, rest, rfl, unclosed, unopened⟩ := locate_eq_unopened_iff.mp place
    exact locate_eq_unopened_iff.mpr
      ⟨front ++ left, rest, by simp, by simp [plain.2, unclosed], by simp [plain.1, unopened]⟩
  | tag before content after =>
    obtain ⟨rfl, unclosed, inside⟩ := locate_eq_tag_iff.mp place
    exact locate_eq_tag_iff.mpr ⟨by simp, by simp [plain.2, unclosed], inside⟩

/-- A tag is not written anywhere before the first closing brace but where it stands: any earlier
place would end before that brace. -/
private theorem not_bracketed_prefix {rest : Text} (nonempty : rest ≠ []) (unclosed : closeBrace ∉ rest)
    (inside : closeBrace ∉ content) : ¬ bracketed content <+: rest ++ (bracketed content ++ after) := by
  rintro ⟨tail, same⟩
  have short : Text.cutAt closeBrace (openBrace :: content ++ closeBrace :: tail) =
      some (openBrace :: content, tail) := Text.cutAt_append _ _ (by simp [inside])
  have long : Text.cutAt closeBrace ((rest ++ openBrace :: content) ++ closeBrace :: after) =
      some (rest ++ openBrace :: content, after) := Text.cutAt_append _ _ (by simp [inside, unclosed])
  have shape : openBrace :: content ++ closeBrace :: tail =
      (rest ++ openBrace :: content) ++ closeBrace :: after := by simpa [bracketed] using same
  rw [shape, long] at short
  have equal : rest ++ openBrace :: content = openBrace :: content := (Prod.mk.inj (Option.some.inj short)).1
  exact nonempty (List.append_left_eq_self.mp equal)

/-- Writing over the first place where the next tag is written is writing over the tag. -/
theorem replaceFirst_of_locate (place : locate text = .tag before content after)
    (replacement : Text) :
    Text.replaceFirst (bracketed content) replacement text = before ++ replacement ++ after := by
  obtain ⟨rfl, unclosed, _, inside⟩ := locate_eq_tag_iff.mp place
  have found : Text.cut (bracketed content) (before ++ (bracketed content ++ after)) =
      some (before, after) := by
    apply Text.cut_append
    intro rest nonempty behind
    exact not_bracketed_prefix nonempty (fun member => unclosed (behind.subset member)) inside
  rw [List.append_assoc, Text.replaceFirst, found]

/-- The text stays as it is only if the tag is written over itself. -/
theorem replaceFirst_eq_self_iff (place : locate text = .tag before content after)
    (replacement : Text) :
    Text.replaceFirst (bracketed content) replacement text = text ↔
      replacement = bracketed content := by
  rw [replaceFirst_of_locate place replacement]
  obtain ⟨rfl, -⟩ := locate_eq_tag_iff.mp place
  simp

end TagWeave
