import Mathlib.Data.List.TakeWhile
import TagWeave.Proofs.Text.LowerCase
import TagWeave.Settings.Path

/-! Dotted names as paths. A path is a single member just where it is the name itself; any longer one
begins with the name of a member, and such names stay so in lower case. -/
namespace TagWeave.Step

variable {name part member : Text} {path : List Step} {c : Char}

/-- A name that can stand between the points of a dotted name. -/
structure IsMemberName (name : Text) : Prop where
  nonempty : name ≠ []
  parts : ∀ c ∈ name, isNamePart c = true

theorem mapM_cons_eq_some {α β : Type} {read : α → Option β} {first : α} {rest : List α}
    {results : List β} (done : (first :: rest).mapM read = some results) :
    ∃ head tail, read first = some head ∧ rest.mapM read = some tail ∧ results = head :: tail := by
  rw [List.mapM_cons] at done
  obtain ⟨head, here, later⟩ := Option.bind_eq_some_iff.mp done
  obtain ⟨tail, behind, same⟩ := Option.bind_eq_some_iff.mp later
  exact ⟨head, tail, here, behind, (Option.some.inj same).symm⟩

theorem toNat_lt_of_isNamePart (part : isNamePart c = true) : c.toNat < 128 := by
  unfold isNamePart Char.isAlphanum Char.isAlpha Char.isUpper Char.isLower Char.isDigit at part
  simp only [Bool.or_eq_true, Bool.and_eq_true, decide_eq_true_eq, beq_iff_eq] at part
  have value : c.toNat = c.val.toNat := rfl
  rcases part with ((((upper | lower) | digit) | rfl) | rfl) | rfl
  · have below : c.val.toNat ≤ 90 := upper.2
    omega
  · have below : c.val.toNat ≤ 122 := lower.2
    omega
  · have below : c.val.toNat ≤ 57 := digit.2
    omega
  · decide
  · decide
  · decide

theorem isMemberName_lowerChar (part : isNamePart c = true) : IsMemberName (Text.lowerChar c) := by
  have all : (List.range 128).all (fun point => !isNamePart (Char.ofNat point) ||
      Text.lowerChar (Char.ofNat point) != [] &&
        (Text.lowerChar (Char.ofNat point)).all isNamePart) = true := by decide +kernel
  have here := List.all_eq_true.mp all c.toNat (List.mem_range.mpr (toNat_lt_of_isNamePart part))
  simp only [Char.ofNat_toNat, part, Bool.not_true, Bool.false_or, Bool.and_eq_true, bne_iff_ne,
    List.all_eq_true] at here
  exact ⟨here.1, here.2⟩

theorem parts_lowerAfter (before : Text) (parts : ∀ c ∈ name, isNamePart c = true) :
    ∀ c ∈ Text.lowerAfter before name, isNamePart c = true := by
  induction name generalizing before with
  | nil => exact parts
  | cons first rest ih =>
    obtain ⟨first_part, rest_parts⟩ := List.forall_mem_cons.mp parts
    have other : first ≠ 'Σ' := by
      rintro rfl
      exact absurd first_part (by decide)
    rw [Text.lowerAfter, if_neg other, List.forall_mem_append]
    exact ⟨(isMemberName_lowerChar first_part).parts, ih _ rest_parts⟩

theorem IsMemberName.lower (named : IsMemberName name) : IsMemberName (Text.lower name) := by
  refine ⟨?_, parts_lowerAfter [] named.parts⟩
  obtain ⟨first, rest, rfl⟩ := List.exists_cons_of_ne_nil named.nonempty
  have first_part := named.parts first List.mem_cons_self
  have other : first ≠ 'Σ' := by
    rintro rfl
    exact absurd first_part (by decide)
  rw [Text.lower, Text.lowerAfter, if_neg other]
  exact List.append_ne_nil_of_left_ne_nil (isMemberName_lowerChar first_part).nonempty _

theorem IsMemberName.not_mem (named : IsMemberName name) {mark : Char}
    (other : isNamePart mark = false) : mark ∉ name := by
  intro member
  rw [named.parts mark member] at other
  cases other

theorem ofPart?_eq (named : IsMemberName name) : ofPart? name = some [.member name] := by
  have whole : name.takeWhile isNamePart = name := List.takeWhile_eq_self_iff.mpr named.parts
  have rest : name.dropWhile isNamePart = [] := List.dropWhile_eq_nil_iff.mpr named.parts
  rw [ofPart?, whole, rest]
  simp [Text.pieces, named.nonempty]

theorem ofName_eq (named : IsMemberName name) : ofName name = [.member name] := by
  rw [ofName, Text.pieces_of_not_mem (named.not_mem rfl), List.mapM_cons, ofPart?_eq named]
  rfl

/-- A part of a dotted name begins with the name of a member, and is nothing more if no index comes
after it. -/
theorem exists_of_ofPart? (read : ofPart? part = some path) :
    ∃ member indexes, path = .member member :: indexes.map .item ∧ IsMemberName member ∧
      (indexes = [] → part = member) := by
  simp only [ofPart?, Option.ite_none_left_eq_some, not_or, Option.map_eq_some_iff] at read
  obtain ⟨⟨nonempty, open_last⟩, indexes, converted, rfl⟩ := read
  have closed := Decidable.not_not.mp open_last
  refine ⟨_, indexes, rfl, ⟨nonempty, fun c member => List.mem_takeWhile_imp member⟩, ?_⟩
  rintro rfl
  -- Without an index nothing follows the name, not even a bracket.
  have groups : Text.pieces ']' (part.dropWhile isNamePart) = [[]] := by
    obtain ⟨before, groups⟩ := List.getLast?_eq_some_iff.mp closed
    rw [groups, List.dropLast_concat] at converted
    cases before with
    | nil => exact groups
    | cons group others =>
      obtain ⟨_, _, -, -, impossible⟩ := mapM_cons_eq_some converted
      cases impossible
  have nothing := Text.joined_pieces ']' (part.dropWhile isNamePart)
  rw [groups] at nothing
  calc part
      _ = part.takeWhile isNamePart ++ part.dropWhile isNamePart :=
        List.takeWhile_append_dropWhile.symm
      _ = part.takeWhile isNamePart := by rw [← nothing, Text.joined, List.append_nil]

theorem ofName_cases (name : Text) :
    ofName name = [.member name] ∨
      ∃ member rest, ofName name = .member member :: rest ∧ rest ≠ [] ∧ IsMemberName member := by
  cases read : (Text.pieces '.' name).mapM ofPart? with
  | none =>
    left
    rw [ofName, read]
  | some paths =>
    have path : ofName name = paths.flatten := by rw [ofName, read]
    obtain ⟨part, parts, divided⟩ := List.exists_cons_of_ne_nil (Text.pieces_ne_nil '.' name)
    rw [divided] at read
    obtain ⟨first, others, first_read, others_read, rfl⟩ := mapM_cons_eq_some read
    obtain ⟨member, indexes, rfl, named, alone⟩ := exists_of_ofPart? first_read
    rw [List.flatten_cons, List.cons_append] at path
    by_cases longer : indexes.map Step.item ++ others.flatten = []
    · left
      obtain ⟨unindexed, no_others⟩ := List.append_eq_nil_iff.mp longer
      have single : parts = [] := by
        cases parts with
        | nil => rfl
        | cons next rest =>
          obtain ⟨second, _, second_read, -, rfl⟩ := mapM_cons_eq_some others_read
          obtain ⟨_, _, rfl, -, -⟩ := exists_of_ofPart? second_read
          cases no_others
      have whole := Text.joined_pieces '.' name
      rw [divided, single, alone (List.map_eq_nil_iff.mp unindexed)] at whole
      rw [path, longer, ← whole]
      rfl
    · exact .inr ⟨member, _, path, longer, named⟩

end TagWeave.Step
