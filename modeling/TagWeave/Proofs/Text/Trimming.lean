import Mathlib.Data.List.DropRight
import TagWeave.Proofs.Text.Parts

/-! Trimmed texts. White space is taken from both ends independently, and nothing is taken past a
character that is none; so a text that is put together keeps its inner white space. -/
namespace TagWeave.Text

variable {mark : Char} {text before : Text}

theorem trim_eq_self (solid : ∀ c ∈ text, isBlank c = false) : trim text = text := by
  have start : trimStart text = text := by
    cases text with
    | nil => rfl
    | cons first rest => simp [trimStart, solid first (by simp)]
  have last : text.reverse.dropWhile isBlank = text.reverse := by
    cases turned : text.reverse with
    | nil => rfl
    | cons first rest =>
      have member : first ∈ text := List.mem_reverse.mp (by simp [turned])
      simp [solid first member]
  rw [trim, start, trimEnd, last, List.reverse_reverse]

theorem trimEnd_trimEnd (text : Text) : trimEnd (trimEnd text) = trimEnd text :=
  List.rdropWhile_idempotent isBlank text

theorem trimEnd_eq_self (solid : ∀ c ∈ text, isBlank c = false) : trimEnd text = text := by
  rw [← trim_eq_self solid, trim, trimEnd_trimEnd]

theorem trimEnd_cons (first : Char) (rest : Text) :
    trimEnd (first :: rest) =
      if trimEnd rest = [] ∧ isBlank first = true then [] else first :: trimEnd rest := by
  simp only [trimEnd, List.reverse_cons, List.dropWhile_append, List.isEmpty_iff,
    List.reverse_eq_nil_iff]
  by_cases gone : rest.reverse.dropWhile isBlank = []
  · by_cases blank : isBlank first = true <;> simp [gone, blank]
  · simp [gone]

/-- The end of a text is trimmed up to a character that is no white space at most. -/
theorem trimEnd_append_cons (solid : isBlank mark = false) (before after : Text) :
    trimEnd (before ++ mark :: after) = before ++ mark :: trimEnd after := by
  induction before with
  | nil => simp [trimEnd_cons, solid]
  | cons first rest ih => simp [trimEnd_cons, ih]

theorem trimStart_trimEnd (text : Text) : trimStart (trimEnd text) = trimEnd (trimStart text) := by
  induction text with
  | nil => rfl
  | cons first rest ih =>
    by_cases blank : isBlank first = true
    · have start : trimStart (first :: rest) = trimStart rest := by simp [trimStart, blank]
      rw [start, ← ih, trimEnd_cons]
      by_cases gone : trimEnd rest = []
      · simp [gone, blank]
      · simp [gone, trimStart, blank]
    · have solid : isBlank first = false := by simpa using blank
      have start : trimStart (first :: rest) = first :: rest := by simp [trimStart, solid]
      rw [start, trimEnd_cons]
      simp [trimStart, solid]

theorem trim_trimEnd (text : Text) : trim (trimEnd text) = trim text := by
  rw [trim, trimStart_trimEnd, trimEnd_trimEnd, trim]

theorem trimEnd_trim (text : Text) : trimEnd (trim text) = trim text := trimEnd_trimEnd _

theorem isBlank_of_trim_cons {first : Char} {rest : Text}
    (trimmed : trim (first :: rest) = first :: rest) : isBlank first = false := by
  by_contra other
  have blank : isBlank first = true := by simpa using other
  have shorter := (trimEnd_sublist (trimStart rest)).trans (trimStart_sublist rest)
  have dropped : trim (first :: rest) = trimEnd (trimStart rest) := by simp [trim, trimStart, blank]
  rw [← dropped, trimmed] at shorter
  exact absurd shorter.length_le (by simp)

/-- A character that is no white space parts what is taken from the start and from the end. -/
theorem trim_append_solid (solid : isBlank mark = false) (before after : Text) :
    trim (before ++ mark :: after) = trimStart before ++ mark :: trimEnd after := by
  have start : trimStart (before ++ mark :: after) = trimStart before ++ mark :: after := by
    rw [trimStart, trimStart, List.dropWhile_append]
    by_cases gone : before.dropWhile isBlank = []
    · simp [gone, solid]
    · simp [gone]
  rw [trim, start, trimEnd_append_cons solid]

/-- White space is taken from the end alone of what a trimmed text and a solid character begin. -/
theorem trim_append_cons (trimmed : trim before = before) (solid : isBlank mark = false)
    (after : Text) : trim (before ++ mark :: after) = before ++ mark :: trimEnd after := by
  have kept : trimStart before = before := by
    cases before with
    | nil => rfl
    | cons first rest => simp [trimStart, isBlank_of_trim_cons trimmed]
  rw [trim_append_solid solid, kept]

theorem trim_append_blanks {gap : Text} (blank : ∀ c ∈ gap, isBlank c = true) (text : Text) :
    trim (text ++ gap) = trim text := by
  have ended : trimEnd (text ++ gap) = trimEnd text := by
    rw [trimEnd, trimEnd, List.reverse_append, List.dropWhile_append_of_pos fun c member =>
      blank c (List.mem_reverse.mp member)]
  rw [← trim_trimEnd, ended, trim_trimEnd]

theorem exists_gap (text : Text) :
    ∃ gap, text = trimEnd text ++ gap ∧ ∀ c ∈ gap, isBlank c = true := by
  refine ⟨(text.reverse.takeWhile isBlank).reverse, ?_, ?_⟩
  · rw [trimEnd, ← List.reverse_append, List.takeWhile_append_dropWhile, List.reverse_reverse]
  · intro c member
    exact List.mem_takeWhile_imp (List.mem_reverse.mp member)

/-- Nothing is taken from the end of texts that are joined, if nothing is to be taken from each. -/
theorem trimEnd_joined {parts : List Text} (solid : isBlank mark = false)
    (trimmed : ∀ part ∈ parts, trim part = part) :
    trimEnd (joined [mark] parts) = joined [mark] parts := by
  induction parts with
  | nil => rfl
  | cons part rest ih =>
    obtain ⟨first, later⟩ := List.forall_mem_cons.mp trimmed
    rw [joined_cons]
    by_cases last : rest = []
    · rw [if_pos last, List.append_nil, ← first, trimEnd_trim]
    · rw [if_neg last, List.singleton_append, trimEnd_append_cons solid, ih later]

end TagWeave.Text
