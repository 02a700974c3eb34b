import TagWeave.Text.Basic

/-! Cuts tied to the texts they divide, and replacement at the first cut. A cut at one character is
determined by the absence of that character on one side; a cut at a longer mark by the absence of an
earlier place where the mark is written. -/
namespace TagWeave.Text

variable {mark : Char} {text before after : Text}

theorem cutAtLast_eq_some_iff :
    cutAtLast mark text = some (before, after) ↔ text = before ++ mark :: after ∧ mark ∉ after := by
  simp only [cutAtLast, Option.map_eq_some_iff, Prod.exists, Prod.mk.injEq]
  constructor
  · rintro ⟨left, right, found, rfl, rfl⟩
    obtain ⟨same, absent⟩ := cutAt_eq_some found
    have turned : text = (left ++ mark :: right).reverse := by rw [← same, List.reverse_reverse]
    exact ⟨by simpa using turned, by simpa using absent⟩
  · rintro ⟨rfl, absent⟩
    refine ⟨after.reverse, before.reverse, ?_, by simp, by simp⟩
    have found : cutAt mark (after.reverse ++ mark :: before.reverse) =
        some (after.reverse, before.reverse) := cutAt_append _ _ (by simpa using absent)
    simpa using found

theorem cutAtLast_eq_none_iff : cutAtLast mark text = none ↔ mark ∉ text := by
  simp [cutAtLast, cutAt_eq_none_iff]

/-- What stands before the first `mark`; the whole text if there is none. -/
def upTo (mark : Char) (text : Text) : Text := text.takeWhile (· != mark)

theorem upTo_append (before after : Text) (absent : mark ∉ before) :
    upTo mark (before ++ mark :: after) = before := by
  have inside : ∀ c ∈ before, (c != mark) = true := by
    intro c member
    have different : c ≠ mark := by rintro rfl; exact absent member
    simpa using different
  rw [upTo, List.takeWhile_append_of_pos inside]
  simp

/-- The text with `replacement` written over the first place where `part` is written. -/
def replaceFirst (part replacement text : Text) : Text :=
  match cut part text with
  | some (before, after) => before ++ replacement ++ after
  | none => text

theorem cut_cons (part : Text) (first : Char) (rest : Text) :
    cut part (first :: rest) =
      if part <+: first :: rest then some ([], (first :: rest).drop part.length)
      else (cut part rest).map fun parts => (first :: parts.1, parts.2) := by
  simp only [cut, List.isPrefixOf_iff_prefix]

theorem cut_self_append (part after : Text) : cut part (part ++ after) = some ([], after) := by
  cases whole : part ++ after with
  | nil =>
    obtain ⟨rfl, rfl⟩ := List.append_eq_nil_iff.mp whole
    rfl
  | cons first rest =>
    have here : part <+: first :: rest := whole ▸ List.prefix_append part after
    rw [cut_cons, if_pos here, ← whole, List.drop_left]

theorem cut_append {part : Text} (before after : Text)
    (first : ∀ rest, rest ≠ [] → rest <:+ before → ¬ part <+: rest ++ (part ++ after)) :
    cut part (before ++ (part ++ after)) = some (before, after) := by
  induction before with
  | nil => exact cut_self_append part after
  | cons c rest ih =>
    have later : ¬ part <+: c :: (rest ++ (part ++ after)) :=
      first (c :: rest) (by simp) (List.suffix_refl _)
    have found := ih fun left nonempty behind =>
      first left nonempty (behind.trans (List.suffix_cons c rest))
    rw [List.cons_append, cut_cons, if_neg later, found]
    rfl

/-- What is written without some character is not written across that character. -/
theorem prefix_append_cons_iff {part : Text} (front rest : Text) (absent : mark ∉ part) :
    part <+: front ++ mark :: rest ↔ part <+: front := by
  constructor
  · intro whole
    rcases List.prefix_or_prefix_of_prefix whole (List.prefix_append front (mark :: rest)) with
      inside | ⟨tail, rfl⟩
    · exact inside
    · rw [List.prefix_append_right_inj] at whole
      cases tail with
      | nil => simp
      | cons c tail =>
        obtain ⟨same, -⟩ := List.cons_prefix_cons.mp whole
        simp [same] at absent
  · intro inside
    exact inside.trans (List.prefix_append _ _)

/-- A character that the mark does not have parts a text in two, and the mark is looked for in the
first one and then in the second. -/
theorem cut_append_cons {part : Text} (front rest : Text) (absent : mark ∉ part) :
    cut part (front ++ mark :: rest) =
      match cut part front with
      | some (before, after) => some (before, after ++ mark :: rest)
      | none => (cut part (mark :: rest)).map fun parts => (front ++ parts.1, parts.2) := by
  induction front with
  | nil =>
    cases part with
    | nil => rfl
    | cons first others =>
      have none : cut (first :: others) [] = none := rfl
      simp [none]
  | cons c front ih =>
    have same : part <+: c :: (front ++ mark :: rest) ↔ part <+: c :: front :=
      prefix_append_cons_iff (c :: front) rest absent
    rw [List.cons_append, cut_cons, cut_cons part c front]
    by_cases here : part <+: c :: front
    · rw [if_pos (same.mpr here), if_pos here, ← List.cons_append,
        List.drop_append_of_le_length here.length_le]
    · rw [if_neg (mt same.mp here), if_neg here, ih]
      cases cut part front with
      | some parts => rfl
      | none => exact Option.map_map _ _ _

theorem cutAt_append_of_not_mem (front text : Text) (absent : mark ∉ front) :
    cutAt mark (front ++ text) =
      (cutAt mark text).map fun parts => (front ++ parts.1, parts.2) := by
  induction front with
  | nil => simp
  | cons c front ih =>
    obtain ⟨different, later⟩ := not_or.mp (mt List.mem_cons.mpr absent)
    rw [List.cons_append, cutAt_cons, if_neg (Ne.symm different), ih later, Option.map_map]
    rfl

/-- A mark is not begun where its first character does not stand. -/
theorem cut_append_of_not_mem {tail : Text} (front text : Text) (absent : mark ∉ front) :
    cut (mark :: tail) (front ++ text) =
      (cut (mark :: tail) text).map fun parts => (front ++ parts.1, parts.2) := by
  induction front with
  | nil => simp
  | cons c front ih =>
    obtain ⟨different, later⟩ := not_or.mp (mt List.mem_cons.mpr absent)
    have elsewhere : ¬ mark :: tail <+: c :: (front ++ text) := fun whole =>
      different (List.cons_prefix_cons.mp whole).1
    rw [List.cons_append, cut_cons, if_neg elsewhere, ih later, Option.map_map]
    rfl

end TagWeave.Text
