import TagWeave.Proofs.Tag.Division

/-! Two spellings of a call. A payload in parentheses may follow the name of a function at once, with
white space between them, or behind a colon; the name and the payload are the same in all of these. -/
namespace TagWeave.Scope

variable {scope : Scope} {draw : Draw} {store : Store} {name gap : Text} {reference : FunctionRef}

theorem meansFunction_of_resolve? (meant : scope.resolve? store name = some (.function reference)) :
    scope.meansFunction store name = true := by
  rw [meansFunction, meant]
  rfl

/-- A parenthesis divides a tag if what stands before it, white space at its end apart, is the name
of a function. -/
theorem splitTag_parenthesis {front : Text} (colon : ':' ∉ front) (opened : '(' ∉ front)
    (function : scope.meansFunction store (Text.trimEnd front) = true) (payload : Text) :
    scope.splitTag store (front ++ '(' :: payload) = (Text.trimEnd front, some ('(' :: payload)) := by
  have divided : Text.cutAt '(' (front ++ '(' :: payload) = some (front, payload) :=
    Text.cutAt_append front payload opened
  have early : front.contains ':' = false := by simpa using colon
  rw [splitTag, divided]
  simp only [early, function, Bool.false_eq_true, ↓reduceIte]

/-- Between the name of a function and a parenthesis white space makes no difference. -/
theorem evaluate_parenthesis (named : name.IsName)
    (meant : scope.resolve? store name = some (.function reference))
    (blank : ∀ c ∈ gap, Text.isBlank c = true) (payload : Text) :
    scope.evaluate draw (name ++ gap ++ '(' :: payload) store =
      scope.functions reference draw ('(' :: Text.trimEnd payload) store := by
  -- The front of the trimmed tag is empty if the name is, and has the white space in it otherwise.
  generalize fronted : Text.trimStart (name ++ gap) = front
  have trimmed : Text.trim (name ++ gap ++ '(' :: payload) = front ++ '(' :: Text.trimEnd payload := by
    rw [Text.trim_append_solid (by decide), fronted]
  have ended : Text.trimEnd front = name := by
    rw [← fronted, ← Text.trim, Text.trim_append_blanks blank, named.trimmed]
  have outside (mark : Char) (solid : Text.isBlank mark = false) (absent : mark ∉ name) :
      mark ∉ front := by
    intro member
    have somewhere : mark ∈ name ++ gap :=
      (Text.trimStart_sublist (name ++ gap)).subset (fronted ▸ member)
    rcases List.mem_append.mp somewhere with inside | between
    · exact absent inside
    · rw [blank mark between] at solid
      cases solid
  have function : scope.meansFunction store (Text.trimEnd front) = true := by
    rw [ended, meansFunction_of_resolve? meant]
  have split := splitTag_parenthesis (outside ':' (by decide) named.colon)
    (outside '(' (by decide) named.opened) function (Text.trimEnd payload)
  simp only [evaluate, trimmed, split, ended, evaluateParts, meant, Option.getD_some]

/-- A call without a colon is the call with one. Whatever function a name means, by the store or else
by the registry, and whatever stands behind the parenthesis, be it colons, equals signs, arrows or
further parentheses: both spellings call the function with the parenthesis and all that follows but
the white space at the end, so they give the same text and leave the same store. -/
theorem evaluate_call_without_colon (scope : Scope) (draw : Draw) (store : Store)
    (named : name.IsName) (meant : scope.resolve? store name = some (.function reference))
    (blank : ∀ c ∈ gap, Text.isBlank c = true) (rest : Text) :
    let plain := scope.evaluate draw (name ++ gap ++ '(' :: rest) store
    let colon := scope.evaluate draw (name ++ ':' :: '(' :: rest) store
    plain = colon ∧ colon = scope.functions reference draw ('(' :: Text.trimEnd rest) store := by
  intro plain colon
  have first : plain = scope.functions reference draw ('(' :: Text.trimEnd rest) store :=
    evaluate_parenthesis named meant blank rest
  have second : colon = scope.functions reference draw ('(' :: Text.trimEnd rest) store := by
    have called : colon = scope.functions reference draw (Text.trimEnd ('(' :: rest)) store :=
      evaluate_call named meant ('(' :: rest)
    rwa [← List.nil_append ('(' :: rest), Text.trimEnd_append_cons (by decide)] at called
  exact ⟨first.trans second.symm, second⟩

/-- A choice whose condition and branches have colons, equals signs and arrows in them, with a line
break before the parenthesis. The store calls the choice by another name. -/
theorem evaluate_call_without_colon_choice :
    let scope : Scope := ⟨builtinFunctions, .standard⟩
    let store := Store.ofNamed [("pick one".toList, .function (.builtin .choose))]
    let rest := "a:b == a:b)=> x->y: (z) (else) n ".toList
    (Text.IsName "pick one".toList ∧
      scope.resolve? store "pick one".toList = some (.function (.builtin .choose)) ∧
      ∀ c ∈ " \n".toList, Text.isBlank c = true) ∧
    scope.evaluate ⟨0⟩ ("pick one".toList ++ " \n".toList ++ '(' :: rest) store =
      ("x->y: (z)".toList, store) ∧
    scope.evaluate ⟨0⟩ ("pick one".toList ++ ':' :: '(' :: rest) store =
      ("x->y: (z)".toList, store) := by
  intro scope store rest
  have named : Text.IsName "pick one".toList := ⟨by decide, by decide, by decide⟩
  have meant : scope.resolve? store "pick one".toList = some (.function (.builtin .choose)) := rfl
  have blank : ∀ c ∈ " \n".toList, Text.isBlank c = true :=
    List.all_eq_true.mp (by decide)
  obtain ⟨same, called⟩ := evaluate_call_without_colon scope ⟨0⟩ store named meant blank rest
  have chosen : Builtin.choose.call ⟨0⟩ ('(' :: Text.trimEnd rest) store =
      ("x->y: (z)".toList, store) := by
    have text : Builtin.choice ('(' :: Text.trimEnd rest) = "x->y: (z)".toList := by decide +kernel
    rw [Builtin.call, text]
  have spelled := called.trans chosen
  exact ⟨⟨named, meant, blank⟩, same.trans spelled, spelled⟩

end TagWeave.Scope
