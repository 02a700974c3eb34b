import TagWeave.Proofs.Settings.Paths
import TagWeave.Settings.Load

/-! Layers written one over the other. A dotted name of two parts leads to a setting of a section: the
section is there afterwards, and its other settings are as they were. -/
namespace TagWeave

namespace Text

/-- Characters of the names of sections and settings. They have no other lower case. -/
def smallLetters : Text := "abcdefghijklmnopqrstuvwxyz_".toList

structure IsSettingName (name : Text) : Prop where
  nonempty : name ≠ []
  small : ∀ c ∈ name, c ∈ smallLetters

instance (name : Text) : Decidable name.IsSettingName :=
  have := List.decidableBAll (· ∈ smallLetters) name
  decidable_of_iff (name ≠ [] ∧ ∀ c ∈ name, c ∈ smallLetters)
    ⟨fun both => ⟨both.1, both.2⟩, fun named => ⟨named.nonempty, named.small⟩⟩

theorem lowerChar_of_mem_smallLetters {c : Char} (small : c ∈ smallLetters) : lowerChar c = [c] := by
  have all : smallLetters.all (fun c => lowerChar c == [c]) = true := by decide +kernel
  exact beq_iff_eq.mp (List.all_eq_true.mp all c small)

variable {name group : Text}

theorem IsSettingName.lower_eq (named : name.IsSettingName) : lower name = name :=
  lowerAfter_eq_self [] fun c member => lowerChar_of_mem_smallLetters (named.small c member)

end Text

namespace Step

variable {name group : Text}

theorem isMemberName_of_isSettingName (named : name.IsSettingName) : IsMemberName name := by
  have parts : Text.smallLetters.all isNamePart = true := by decide
  exact ⟨named.nonempty, fun c member => List.all_eq_true.mp parts c (named.small c member)⟩

theorem ofName_single (named : name.IsSettingName) : ofName name = [.member name] :=
  ofName_eq (isMemberName_of_isSettingName named)

theorem ofName_pair (grouped : group.IsSettingName) (named : name.IsSettingName) :
    ofName (group ++ '.' :: name) = [.member group, .member name] := by
  have group_member := isMemberName_of_isSettingName grouped
  have name_member := isMemberName_of_isSettingName named
  rw [ofName, Text.pieces_append_mark (group_member.not_mem rfl),
    Text.pieces_of_not_mem (name_member.not_mem rfl), List.mapM_cons, List.mapM_cons,
    ofPart?_eq group_member, ofPart?_eq name_member]
  rfl

end Step

namespace Step

def isMember : Step → Bool
  | .member _ => true
  | .item _ => false

end Step

namespace Setting

variable {setting : Setting} {text dotted group name : Text}

/-- What gives a text is no table, so it replaces what it is written over. -/
theorem onto_of_asText? (given : setting.asText? = some text) (base : Option Setting) :
    onto setting base = setting := by
  cases setting with
  | table members => cases given
  | null | list _ | flag _ | integer _ | number _ | text _ => rfl

def ofSection (group : Text) (table : Entries Setting) : Entries Setting :=
  ((Entries.find? group table).map members).getD []

/-- A setting of a section is written into the table of the section. -/
theorem writeNamed_pair (divided : dotted = group ++ '.' :: name) (grouped : group.IsSettingName)
    (named : name.IsSettingName) (setting : Setting) (table : Entries Setting) :
    writeNamed dotted setting table =
      some (Entries.write group (.table (Entries.write name
        (onto setting (Entries.find? name (ofSection group table))) (ofSection group table)))
          table) := by
  simp only [writeNamed, divided, Step.ofName_pair grouped named, writeAt, grouped.lower_eq,
    named.lower_eq]
  rfl

/-- A whole section is written over the section of its name. -/
theorem writeNamed_single (grouped : group.IsSettingName) (setting : Setting)
    (table : Entries Setting) :
    writeNamed group setting table =
      some (Entries.write group (onto setting (Entries.find? group table)) table) := by
  simp only [writeNamed, Step.ofName_single grouped, writeAt, grouped.lower_eq]
  rfl

/-- Only an index can lead before the beginning of a list. -/
theorem exists_writeAt {path : List Step} (members : path.all Step.isMember = true) (setting : Setting)
    (base : Option Setting) : ∃ written, writeAt setting path base = some written := by
  induction path generalizing base with
  | nil => exact ⟨_, rfl⟩
  | cons step path ih =>
    obtain ⟨here, later⟩ := Bool.and_eq_true_iff.mp members
    cases step with
    | item index => cases here
    | member name =>
      obtain ⟨inner, written⟩ := ih later (Entries.find? (Text.lower name) ((base.map Setting.members).getD []))
      simp [writeAt, written]

theorem exists_writeOver {layer : Layer}
    (members : ∀ entry ∈ layer, (Step.ofName entry.1).all Step.isMember = true)
    (table : Entries Setting) : ∃ written, layer.writeOver table = some written := by
  induction layer generalizing table with
  | nil => exact ⟨table, rfl⟩
  | cons entry rest ih =>
    obtain ⟨here, later⟩ := List.forall_mem_cons.mp members
    obtain ⟨whole, first⟩ := exists_writeAt here entry.2 (some (.table table))
    obtain ⟨written, behind⟩ := ih later whole.members
    exact ⟨written, by simpa [Layer.writeOver, writeNamed, first] using behind⟩

end Setting

namespace Settings

theorem layOver_eq_ok_iff {layer : Layer} {table written : Entries Setting} :
    layOver table layer = .ok written ↔ layer.writeOver table = some written := by
  unfold layOver
  cases layer.writeOver table <;> simp

theorem layOver_cons {name : Text} {setting : Setting} {table written : Entries Setting}
    (done : Setting.writeNamed name setting table = some written) (rest : Layer) :
    layOver table ((name, setting) :: rest) = layOver written rest := by
  simp only [layOver, Layer.writeOver, List.foldlM_cons, done, Option.bind_eq_bind, Option.bind_some]

def standardTable : Entries Setting :=
  [("server".toList, .table [("host".toList, .text standard.host),
     ("port".toList, .integer standard.port),
     ("body_limit_bytes".toList, .integer standard.bodyLimit)]),
   ("parser".toList, .table [("max_iterations".toList, .integer standard.budget)]),
   ("logging".toList, .table [("json".toList, .flag standard.logsJson)])]

theorem layOver_standardLayer : layOver [] standardLayer = .ok standardTable := by
  have server : Text.IsSettingName "server".toList := by decide
  have host : Text.IsSettingName "host".toList := by decide
  have port : Text.IsSettingName "port".toList := by decide
  have bodyLimit : Text.IsSettingName "body_limit_bytes".toList := by decide
  have engine : Text.IsSettingName "parser".toList := by decide
  have budget : Text.IsSettingName "max_iterations".toList := by decide
  have logging : Text.IsSettingName "logging".toList := by decide
  have logsJson : Text.IsSettingName "json".toList := by decide
  calc layOver [] standardLayer
      _ = layOver _ _ := layOver_cons (Setting.writeNamed_pair rfl server host _ _) _
      _ = layOver _ _ := layOver_cons (Setting.writeNamed_pair rfl server port _ _) _
      _ = layOver _ _ := layOver_cons (Setting.writeNamed_pair rfl server bodyLimit _ _) _
      _ = layOver _ _ := layOver_cons (Setting.writeNamed_pair rfl engine budget _ _) _
      _ = layOver _ _ := layOver_cons (Setting.writeNamed_pair rfl logging logsJson _ _) _
      _ = .ok standardTable := rfl

end Settings

end TagWeave
