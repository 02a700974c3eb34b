import TagWeave.Proofs.Text.Cuts
import TagWeave.Text.Blank

/-! The parts that the operations on texts give. Trimming and cutting leave characters out and change
none, and the pieces between marks make up the text again when the marks are put back. -/
namespace TagWeave.Text

variable {mark : Char} {text part before after separator : Text}

theorem trimStart_sublist (text : Text) : (trimStart text).Sublist text :=
  List.dropWhile_sublist _

theorem trimEnd_sublist (text : Text) : (trimEnd text).Sublist text := by
  have left := (List.dropWhile_sublist (l := text.reverse) isBlank).reverse
  rwa [List.reverse_reverse] at left

theorem trim_sublist (text : Text) : (trim text).Sublist text :=
  (trimEnd_sublist _).trans (trimStart_sublist text)

theorem cutAt_sublists (found : cutAt mark text = some (before, after)) :
    before.Sublist text ∧ after.Sublist text := by
  obtain ⟨rfl, -⟩ := cutAt_eq_some found
  exact ⟨List.sublist_append_left _ _, (List.sublist_cons_self _ _).trans (List.sublist_append_right _ _)⟩

/-- A cut leaves nothing out but what is written there. -/
theorem cut_eq_some (found : cut part text = some (before, after)) :
    text = before ++ part ++ after := by
  induction text generalizing before with
  | nil =>
    simp only [cut, Option.ite_none_right_eq_some, Option.some.injEq, Prod.mk.injEq] at found
    obtain ⟨rfl, rfl, rfl⟩ := found
    rfl
  | cons first rest ih =>
    simp only [cut] at found
    split at found
    · rename_i here
      obtain ⟨tail, same⟩ := List.isPrefixOf_iff_prefix.mp here
      simp only [Option.some.injEq, Prod.mk.injEq] at found
      obtain ⟨rfl, rfl⟩ := found
      simp [← same]
    · obtain ⟨⟨left, right⟩, inner, parts⟩ := Option.map_eq_some_iff.mp found
      simp only [Prod.mk.injEq] at parts
      obtain ⟨rfl, rfl⟩ := parts
      rw [ih inner]
      rfl

theorem cut_sublists (found : cut part text = some (before, after)) :
    before.Sublist text ∧ after.Sublist text := by
  rw [cut_eq_some found, List.append_assoc]
  exact ⟨List.sublist_append_left _ _,
    (List.sublist_append_right _ _).trans (List.sublist_append_right _ _)⟩

/-- A text mentions exactly what is written in it without a gap. -/
theorem mentions_iff_infix : mentions part text = true ↔ part <:+: text := by
  constructor
  · intro mentioned
    obtain ⟨⟨before, after⟩, found⟩ := Option.isSome_iff_exists.mp mentioned
    exact ⟨before, after, (cut_eq_some found).symm⟩
  · rintro ⟨before, after, rfl⟩
    induction before with
    | nil => rw [List.nil_append, mentions, cut_self_append, Option.isSome_some]
    | cons first before ih =>
      rw [mentions] at ih ⊢
      rw [List.cons_append, List.cons_append, cut_cons]
      split
      · rfl
      · rwa [Option.isSome_map]

/-- A mark whose first character comes only once in it is found behind a text without the mark. -/
theorem cut_append_mark {tail : Text} (before after : Text) (once : mark ∉ tail)
    (unwritten : mentions (mark :: tail) before = false) :
    cut (mark :: tail) (before ++ (mark :: tail ++ after)) = some (before, after) := by
  apply cut_append
  intro rest nonempty behind whole
  cases rest with
  | nil => exact nonempty rfl
  | cons c rest =>
    -- What is written across the end of `before` would have the first character once more.
    obtain ⟨rfl, further⟩ := List.cons_prefix_cons.mp whole
    have inside : mark :: tail <+: mark :: rest :=
      List.cons_prefix_cons.mpr ⟨rfl, (prefix_append_cons_iff rest _ once).mp further⟩
    have mentioned := mentions_iff_infix.mpr (inside.isInfix.trans behind.isInfix)
    rw [unwritten] at mentioned
    cases mentioned

theorem pieces_ne_nil (mark : Char) (text : Text) : pieces mark text ≠ [] := by
  cases text with
  | nil => simp [pieces]
  | cons first rest =>
    simp only [pieces]
    split
    · simp
    · split <;> simp

/-- The pieces with the marks put back between them are the text. -/
theorem joined_pieces (mark : Char) (text : Text) : joined [mark] (pieces mark text) = text := by
  induction text with
  | nil => rfl
  | cons first rest ih =>
    simp only [pieces]
    split
    · rename_i none
      exact absurd none (pieces_ne_nil mark rest)
    · rename_i piece others pieces
      rw [pieces] at ih
      split
      · rename_i same
        subst same
        simp [joined, ih]
      · cases others <;> simp_all [joined]

theorem pieces_of_not_mem (absent : mark ∉ text) : pieces mark text = [text] := by
  induction text with
  | nil => rfl
  | cons first rest ih =>
    obtain ⟨different, later⟩ := not_or.mp (mt List.mem_cons.mpr absent)
    simp only [pieces, ih later, if_neg (Ne.symm different)]

theorem pieces_append_mark (absent : mark ∉ before) (after : Text) :
    pieces mark (before ++ mark :: after) = before :: pieces mark after := by
  induction before with
  | nil =>
    simp only [List.nil_append, pieces]
    split
    · rename_i none
      exact absurd none (pieces_ne_nil mark after)
    · rename_i pieces
      rw [if_true, pieces]
  | cons first rest ih =>
    obtain ⟨different, later⟩ := not_or.mp (mt List.mem_cons.mpr absent)
    simp only [List.cons_append, pieces, ih later, if_neg (Ne.symm different)]

theorem not_mem_of_mem_pieces (member : part ∈ pieces mark text) : mark ∉ part := by
  induction text generalizing part with
  | nil => simp_all [pieces]
  | cons first rest ih =>
    simp only [pieces] at member
    split at member
    · rename_i none
      exact absurd none (pieces_ne_nil mark rest)
    · rename_i piece others pieces
      rw [pieces] at ih
      split at member
      · rcases List.mem_cons.mp member with rfl | later
        · simp
        · exact ih later
      · rename_i different
        rcases List.mem_cons.mp member with rfl | later
        · simpa [Ne.symm different] using ih List.mem_cons_self
        · exact ih (List.mem_cons_of_mem _ later)

@[simp] theorem joined_nil (separator : Text) : joined separator [] = [] := rfl

theorem joined_cons (separator part : Text) (rest : List Text) :
    joined separator (part :: rest) =
      part ++ if rest = [] then [] else separator ++ joined separator rest := by
  cases rest <;> simp [joined]

/-- Parts without the mark are the pieces of the text that the mark joins them to. -/
theorem pieces_joined {parts : List Text} (nonempty : parts ≠ [])
    (absent : ∀ part ∈ parts, mark ∉ part) : pieces mark (joined [mark] parts) = parts := by
  induction parts with
  | nil => exact absurd rfl nonempty
  | cons part rest ih =>
    obtain ⟨first, later⟩ := List.forall_mem_cons.mp absent
    rw [joined_cons]
    by_cases last : rest = []
    · rw [if_pos last, List.append_nil, pieces_of_not_mem first, last]
    · rw [if_neg last, List.singleton_append, pieces_append_mark first, ih last later]

theorem mem_joined {c : Char} {parts : List Text} (member : c ∈ joined separator parts) :
    c ∈ separator ∨ ∃ part ∈ parts, c ∈ part := by
  induction parts with
  | nil => simp at member
  | cons part rest ih =>
    rw [joined_cons, List.mem_append] at member
    rcases member with inside | behind
    · exact .inr ⟨part, by simp, inside⟩
    · split at behind
      · simp at behind
      · rcases List.mem_append.mp behind with between | later
        · exact .inl between
        · rcases ih later with between | ⟨other, listed, inside⟩
          · exact .inl between
          · exact .inr ⟨other, by simp [listed], inside⟩

theorem sublist_joined_of_mem {parts : List Text} (member : part ∈ parts) :
    part.Sublist (joined separator parts) := by
  induction parts with
  | nil => simp at member
  | cons first rest ih =>
    rw [joined_cons]
    rcases List.mem_cons.mp member with rfl | later
    · exact List.sublist_append_left _ _
    · have nonempty : rest ≠ [] := List.ne_nil_of_mem later
      simp only [nonempty, ↓reduceIte]
      exact ((ih later).trans (List.sublist_append_right _ _)).trans (List.sublist_append_right _ _)

theorem joined_map_sublist {shorten : Text → Text} (shorter : ∀ part, (shorten part).Sublist part)
    (parts : List Text) : (joined separator (parts.map shorten)).Sublist (joined separator parts) := by
  induction parts with
  | nil => simp
  | cons part rest ih =>
    rw [List.map_cons, joined_cons, joined_cons]
    apply (shorter part).append
    cases rest with
    | nil => simp
    | cons next others => simpa using ih

end TagWeave.Text
