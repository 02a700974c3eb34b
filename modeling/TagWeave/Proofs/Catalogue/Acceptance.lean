import TagWeave.Catalogue.Template

/-! What makes a template acceptable. The limits of the name and the content count characters, and so
do the words of every refusal; but the limit of the id counts the bytes of its UTF-8 form, which are
as many as its characters only where all of them are ASCII. -/
namespace TagWeave

namespace Text

theorem length_le_utf8Size (text : Text) : text.length ≤ utf8Size text := by
  induction text with
  | nil => exact Nat.le_refl 0
  | cons first rest ih =>
    have occupied : 0 < first.utf8Size := first.utf8Size_pos
    simp only [utf8Size, List.length_cons]
    omega

theorem utf8Size_pos_iff {text : Text} : 1 ≤ utf8Size text ↔ 1 ≤ text.length := by
  cases text with
  | nil => rfl
  | cons first rest =>
    have occupied : 0 < first.utf8Size := first.utf8Size_pos
    simp only [utf8Size, List.length_cons]
    omega

/-- A text has as many bytes as characters if all of them are ASCII. -/
theorem utf8Size_eq_length_iff {text : Text} :
    utf8Size text = text.length ↔ ∀ c ∈ text, c.val ≤ 127 := by
  induction text with
  | nil => simp [utf8Size]
  | cons first rest ih =>
    have occupied : 0 < first.utf8Size := first.utf8Size_pos
    have more : rest.length ≤ utf8Size rest := length_le_utf8Size rest
    rw [List.forall_mem_cons, ← ih, ← Char.utf8Size_eq_one_iff]
    simp only [utf8Size, List.length_cons]
    omega

end Text

namespace Template

variable {template : Template}

def Within (limit : Nat) (text : Text) : Prop := 1 ≤ text.length ∧ text.length ≤ limit

/-- An id as the words of its refusal describe it. -/
structure DocumentedId (id : Text) : Prop where
  length : Within 64 id
  spelled : ∀ c ∈ id, Text.isAlphanumeric c = true ∨ c = '-' ∨ c = '_'

theorem acceptsId_iff {id : Text} :
    acceptsId id = true ↔ DocumentedId id ∧ Text.utf8Size id ≤ 64 := by
  have checked : acceptsId id = true ↔
      (1 ≤ Text.utf8Size id ∧ Text.utf8Size id ≤ maxId) ∧
        ∀ c ∈ id, Text.isAlphanumeric c = true ∨ c = '-' ∨ c = '_' := by
    simp [acceptsId, isIdCharacter, or_assoc]
  rw [checked, Text.utf8Size_pos_iff]
  constructor
  · intro ⟨⟨nonempty, small⟩, each⟩
    exact ⟨⟨⟨nonempty, Nat.le_trans (Text.length_le_utf8Size id) small⟩, each⟩, small⟩
  · intro ⟨documented, small⟩
    exact ⟨⟨documented.length.1, small⟩, documented.spelled⟩

theorem fits_iff_of_ascii {id : Text} (ascii : ∀ c ∈ id, c.val ≤ 127) :
    DocumentedId id ∧ Text.utf8Size id ≤ 64 ↔ DocumentedId id := by
  have same : Text.utf8Size id = id.length := Text.utf8Size_eq_length_iff.mpr ascii
  constructor
  · intro ⟨documented, _⟩
    exact documented
  · intro documented
    exact ⟨documented, same ▸ documented.length.2⟩

theorem hasLength_iff {limit : Nat} {text : Text} : hasLength limit text = true ↔ Within limit text := by
  simp [hasLength, Within]

theorem validate_of_unfit_id (unfit : ¬ acceptsId template.id = true) :
    template.validate = .error (.invalidId ('\'' :: template.id ++
      "' must be 1-64 alphanumeric, '-' or '_' characters".toList)) := by
  have refused : template.validate = .error (.invalidId ('\'' :: template.id ++
      "' must be 1-".toList ++ "64".toList ++ " alphanumeric, '-' or '_' characters".toList)) := by
    simp only [validate, unfit]
    rfl
  rw [refused, List.append_assoc, List.append_assoc]
  rfl

theorem validate_of_unfit_name (id : acceptsId template.id = true)
    (unfit : ¬ Within 256 template.name) :
    template.validate = .error (.invalidTemplate "name must be 1-256 characters".toList) := by
  have name : hasLength maxName template.name = false := by
    rwa [← hasLength_iff, Bool.not_eq_true] at unfit
  simp only [validate, id, name]
  rfl

theorem validate_of_unfit_content (id : acceptsId template.id = true)
    (name : Within 256 template.name) (unfit : ¬ Within 4000 template.content) :
    template.validate = .error (.invalidTemplate "content must be 1-4000 characters".toList) := by
  have name : hasLength maxName template.name = true := hasLength_iff.mpr name
  have content : hasLength maxContent template.content = false := by
    rwa [← hasLength_iff, Bool.not_eq_true] at unfit
  simp only [validate, id, name, content]
  rfl

theorem validate_of_fit (id : acceptsId template.id = true) (name : Within 256 template.name)
    (content : Within 4000 template.content) : template.validate = .ok () := by
  have name : hasLength maxName template.name = true := hasLength_iff.mpr name
  have content : hasLength maxContent template.content = true := hasLength_iff.mpr content
  simp only [validate, id, name, content]
  rfl

/-- A template is accepted if its parts are as their refusals describe them and its id is no longer
than 64 bytes, which asks for nothing more where the id is ASCII. Otherwise the first part that is not
so is refused, the id before the others; an id that is as described but too long in bytes is refused
in words that it fits. -/
theorem validate_accepts_documented (template : Template) :
    let fits := DocumentedId template.id ∧ Text.utf8Size template.id ≤ 64
    ((∀ c ∈ template.id, c.val ≤ 127) → (fits ↔ DocumentedId template.id)) ∧
    (template.validate = .ok () ↔
      fits ∧ Within 256 template.name ∧ Within 4000 template.content) ∧
    (template.validate = .error (.invalidId ('\'' :: template.id ++
        "' must be 1-64 alphanumeric, '-' or '_' characters".toList)) ↔ ¬ fits) ∧
    (template.validate = .error (.invalidTemplate "name must be 1-256 characters".toList) ↔
      fits ∧ ¬ Within 256 template.name) ∧
    (template.validate = .error (.invalidTemplate "content must be 1-4000 characters".toList) ↔
      fits ∧ Within 256 template.name ∧ ¬ Within 4000 template.content) := by
  intro fits
  refine ⟨fits_iff_of_ascii, ?_⟩
  by_cases id : fits
  · have accepted := acceptsId_iff.mpr id
    by_cases name : Within 256 template.name
    · by_cases content : Within 4000 template.content
      · simp [validate_of_fit accepted name content, id, name, content]
      · simp [validate_of_unfit_content accepted name content, id, name, content]
    · simp [validate_of_unfit_name accepted name, id, name]
  · have unfit : ¬ acceptsId template.id = true := mt acceptsId_iff.mp id
    simp [validate_of_unfit_id unfit, id]

/-- An id of 33 letters with two bytes each is as described and is refused. -/
theorem validate_refuses_documented :
    let template : Template := ⟨List.replicate 33 'é', ['n'], ['c'], none, ⟨0, 0⟩, ⟨0, 0⟩⟩
    DocumentedId template.id ∧ Within 256 template.name ∧ Within 4000 template.content ∧
      template.validate = .error (.invalidId ('\'' :: template.id ++
        "' must be 1-64 alphanumeric, '-' or '_' characters".toList)) := by
  intro template
  have letter : Text.isAlphanumeric 'é' = true := rfl
  have documented : DocumentedId template.id := by
    refine ⟨⟨by decide, by decide⟩, fun c member => .inl ?_⟩
    rwa [List.eq_of_mem_replicate member]
  have long : ¬ acceptsId template.id = true := by decide
  exact ⟨documented, ⟨by decide, by decide⟩, ⟨by decide, by decide⟩, validate_of_unfit_id long⟩

end Template

end TagWeave
