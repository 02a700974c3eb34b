import TagWeave.Settings.Variables

/-! Variables that a file adds. A variable that is known stays as it is; one that is not gets its first
value in the file. -/
namespace TagWeave.Variables

variable {known : Variables} {name other value line : Text}

/-- What a line says: a variable and its value, or nothing. There is no answer if the line is not
understood. -/
def binding? (known : Variables) (line : Text) : Option (Option (Text × Text)) :=
  let line := Text.trimStart (Text.trimEnd line)
  if saysNothing line then some none
  else do
    let (name, rest) ← readBinding line
    let value ← if saysNothing rest then some [] else readValue known (.plain false) rest
    return some (name, value)

/-- What lines say, up to the first one that is not understood. A value may refer to the variables of
the lines before it. -/
def bindings (known : Variables) : List (Option Text) → Entries Text
  | [] | none :: _ => []
  | some line :: rest =>
    match binding? known line with
    | none => []
    | some none => bindings known rest
    | some (some (name, value)) => (name, value) :: bindings (known.addNew name value) rest

def fileBindings (known : Variables) (file : Text) : Entries Text :=
  bindings known (joinLines [] .plain (writtenLines (withoutMark file)))

theorem addLine_eq (known : Variables) (line : Text) :
    addLine known line =
      (binding? known line).map fun said => said.elim known fun one => known.addNew one.1 one.2 := by
  simp only [addLine, binding?]
  split
  · rfl
  · cases readBinding (Text.trimStart (Text.trimEnd line)) with
    | none => rfl
    | some found =>
      simp only [Option.bind_eq_bind, Option.bind_some, Option.pure_def]
      split
      · rfl
      · cases readValue known (.plain false) found.2 <;> rfl

theorem find?_addNew (known : Variables) (name value other : Text) :
    Entries.find? other (known.addNew name value) =
      (Entries.find? other known).or (Entries.find? other [(name, value)]) := by
  unfold addNew
  cases found : Entries.find? name known with
  | some old =>
    rw [Option.isSome_some, if_pos rfl]
    by_cases same : name = other
    · rw [← same, found]
      rfl
    · simp [Entries.find?, same]
  | none =>
    rw [Option.isSome_none, if_neg Bool.false_ne_true, Entries.find?_write]
    by_cases same : name = other
    · rw [if_pos same, ← same, found]
      simp [Entries.find?]
    · simp [Entries.find?, same]

theorem find?_cons_eq_or (one : Text × Text) (later : Entries Text) (name : Text) :
    Entries.find? name (one :: later) =
      (Entries.find? name [one]).or (Entries.find? name later) := by
  by_cases same : one.1 = name <;> simp [Entries.find?, same]

theorem find?_addLines (known : Variables) (lines : List (Option Text)) (name : Text) :
    Entries.find? name (known.addLines lines) =
      (Entries.find? name known).or (Entries.find? name (bindings known lines)) := by
  induction lines generalizing known with
  | nil => simp [addLines, bindings, Entries.find?]
  | cons line rest ih =>
    cases line with
    | none => simp [addLines, bindings, Entries.find?]
    | some line =>
      rw [addLines, bindings, addLine_eq]
      cases binding? known line with
      | none => simp [Entries.find?]
      | some said =>
        cases said with
        | none => exact ih known
        | some one =>
          change Entries.find? name ((known.addNew one.1 one.2).addLines rest) =
            (Entries.find? name known).or
              (Entries.find? name (one :: bindings (known.addNew one.1 one.2) rest))
          rw [ih, find?_addNew, find?_cons_eq_or one (bindings _ rest), Option.or_assoc]

/-- A file adds just what it says of variables that are not known. -/
theorem find?_addFile (known : Variables) (file name : Text) :
    Entries.find? name (known.addFile file) =
      (Entries.find? name known).or (Entries.find? name (fileBindings known file)) :=
  find?_addLines known _ name

end TagWeave.Variables
