import TagWeave.Proofs.Engine.Placement
import TagWeave.Proofs.Text.Parts
import TagWeave.Text.Case

/-! Texts without braces stay so under the operations on texts. The case mappings are settled on their
tables: no run and no expansion leads to a brace, so a brace in the upper or lower case of a text was
there before. -/
namespace TagWeave.Text

variable {part text separator : Text}

theorem Plain.of_sublist (plain : text.Plain) (inside : part.Sublist text) : part.Plain :=
  ⟨fun member => plain.1 (inside.subset member), fun member => plain.2 (inside.subset member)⟩

theorem plain_nil : Text.Plain [] := by decide

theorem plain_iff_forall : text.Plain ↔ ∀ c ∈ text, Text.Plain [c] := by
  constructor
  · intro plain c member
    exact plain.of_sublist (List.singleton_sublist.mpr member)
  · intro single
    exact ⟨fun member => (single _ member).1 (by simp), fun member => (single _ member).2 (by simp)⟩

theorem plain_joined {parts : List Text} (between : separator.Plain)
    (inside : ∀ part ∈ parts, Text.Plain part) : (joined separator parts).Plain := by
  rw [plain_iff_forall]
  intro c member
  rcases mem_joined member with mark | ⟨part, listed, member⟩
  · exact plain_iff_forall.mp between c mark
  · exact plain_iff_forall.mp (inside part listed) c member

theorem plain_flatMap {map : Char → Text} (keeps : ∀ c, Text.Plain [c] → (map c).Plain)
    (plain : text.Plain) : Text.Plain (text.flatMap map) := by
  rw [plain_iff_forall]
  intro d member
  obtain ⟨c, listed, inside⟩ := List.mem_flatMap.mp member
  exact plain_iff_forall.mp (keeps c (plain_iff_forall.mp plain c listed)) d inside

theorem plain_replicate {c : Char} (plain : Text.Plain [c]) (n : Nat) :
    Text.Plain (List.replicate n c) := by
  rw [plain_iff_forall]
  intro d member
  rwa [List.eq_of_mem_replicate member]

theorem plain_ofNat (n : Nat) : (ofNat n).Plain := by
  have digits : ∀ c ∈ ofNat n, c.isDigit := fun c member =>
    Nat.isDigit_of_mem_toDigits (by decide) (by decide) member
  exact ⟨fun member => absurd (digits _ member) (by decide),
    fun member => absurd (digits _ member) (by decide)⟩

def bracePoints : List Nat := [0x7B, 0x7D]

/-- Whether no entry of the tables of a case leads to a brace. -/
def avoidsBraces (expansions : List (Nat × List Nat)) (runs : List CaseRun) : Bool :=
  (expansions.all fun expansion => expansion.2.all fun point => !bracePoints.contains point) &&
    runs.all fun run => 0x7D < run.target || run.target + (run.last - run.first) < 0x7B

theorem toNat_ofNat (point : Nat) :
    (Char.ofNat point).toNat = point ∨ (Char.ofNat point).toNat = 0 := by
  by_cases valid : point.isValidChar
  · left
    rw [Char.ofNat, dif_pos valid]
    rfl
  · right
    rw [Char.ofNat, dif_neg valid]
    rfl

theorem plain_ofNat_point {point : Nat} (other : point ∉ bracePoints) :
    Text.Plain [Char.ofNat point] := by
  have points : point ≠ openBrace.toNat ∧ point ≠ closeBrace.toNat :=
    ⟨fun same => other (same ▸ by decide), fun same => other (same ▸ by decide)⟩
  have zero : openBrace.toNat ≠ 0 ∧ closeBrace.toNat ≠ 0 := by decide
  constructor
  · intro member
    have same := congrArg Char.toNat (List.mem_singleton.mp member)
    rcases toNat_ofNat point with valid | invalid <;> omega
  · intro member
    have same := congrArg Char.toNat (List.mem_singleton.mp member)
    rcases toNat_ofNat point with valid | invalid <;> omega

theorem image?_not_brace {run : CaseRun} {point image : Nat}
    (avoids : 0x7D < run.target ∨ run.target + (run.last - run.first) < 0x7B)
    (mapped : run.image? point = some image) : image ∉ bracePoints := by
  simp only [CaseRun.image?, Option.ite_none_right_eq_some, Option.some.injEq] at mapped
  simp only [bracePoints, List.mem_cons, List.not_mem_nil, or_false, not_or]
  omega

theorem plain_mapped {expansions : List (Nat × List Nat)} {runs : List CaseRun} {c : Char}
    (tables : avoidsBraces expansions runs = true) (plain : Text.Plain [c]) :
    (mapped expansions runs c).Plain := by
  simp only [avoidsBraces, Bool.and_eq_true, List.all_eq_true, Bool.or_eq_true, decide_eq_true_eq,
    Bool.not_eq_true'] at tables
  unfold mapped
  split
  · rename_i points found
    have avoids := tables.1 _ (List.mem_of_find?_eq_some found)
    rw [plain_iff_forall]
    intro d member
    obtain ⟨point, listed, rfl⟩ := List.mem_map.mp member
    exact plain_ofNat_point (by simpa using avoids point listed)
  · cases found : runs.findSome? (·.image? c.toNat) with
    | none => exact plain
    | some image =>
      obtain ⟨run, listed, mapped⟩ := List.exists_of_findSome?_eq_some found
      exact plain_ofNat_point (image?_not_brace (tables.2 run listed) mapped)

theorem plain_upper (plain : text.Plain) : (upper text).Plain :=
  plain_flatMap (fun _ => plain_mapped (by decide)) plain

theorem plain_lowerAfter (before : Text) (plain : text.Plain) : (lowerAfter before text).Plain := by
  induction text generalizing before with
  | nil => exact plain_nil
  | cons c rest ih =>
    have here := plain_iff_forall.mp plain c (by simp)
    have later := ih (c :: before) (plain.of_sublist (List.sublist_cons_self c rest))
    simp only [lowerAfter]
    refine Plain.append ?_ later
    split
    · split <;> decide
    · exact plain_mapped (by decide) here

theorem plain_lower (plain : text.Plain) : (lower text).Plain := plain_lowerAfter [] plain

end TagWeave.Text
