import Mathlib.Data.List.Perm.Basic
import TagWeave.Proofs.Settings.Precedence

/-! Layers put in order. The order of the entries in a layer, and of the members in its tables, does not
matter for a setting that the layer gives once. -/
namespace TagWeave

variable {group name : Text} {layer : Layer} {layers others : List Layer} {value : Option Setting}
  {order : List Text → Layer → Layer} {path : List Step} {setting : Setting}

namespace Setting

/-- A setting without what stands in it as a table: only whether a table has members is left. -/
def outline : Setting → Setting
  | .table (_ :: _) => .table [([], .null)]
  | setting => setting

theorem eq_of_outline_eq {other : Setting} (same : other.outline = setting.outline)
    (bare : setting.members = []) : other = setting := by
  cases setting with
  | table members =>
    obtain rfl : members = [] := bare
    cases other with
    | table members =>
      cases members with
      | nil => rfl
      | cons member rest => cases same
    | null | flag _ | integer _ | number _ | text _ | list _ => cases same
  | null | flag _ | integer _ | number _ | text _ | list _ =>
    cases other with
    | table members => cases members <;> cases same
    | null | flag _ | integer _ | number _ | text _ | list _ => exact same

theorem exists_members_of_outline {other : Setting} {member : Text × Setting}
    {rest : List (Text × Setting)} (same : other.outline = (Setting.table (member :: rest)).outline) :
    ∃ first later, other = .table (first :: later) := by
  cases other with
  | null | flag _ | integer _ | number _ | text _ | list _ => cases same
  | table members =>
    cases members with
    | nil => cases same
    | cons first later => exact ⟨first, later, rfl⟩

theorem arrangedAll_eq_map (order : List Text → Layer → Layer) (place : List Text)
    (members : List (Text × Setting)) :
    arrangedAll order place members =
      members.map fun member => (member.1, arranged order (place ++ [member.1]) member.2) := by
  induction members with
  | nil => rfl
  | cons member rest ih => rw [arrangedAll, ih, List.map_cons]

section

variable (permutes : ∀ place members, (order place members).Perm members)

include permutes

theorem outline_arranged (place : List Text) (setting : Setting) :
    (arranged order place setting).outline = setting.outline := by
  cases setting with
  | null | flag _ | integer _ | number _ | text _ | list _ => rfl
  | table members =>
    have permuted := permutes place (arrangedAll order place members)
    cases members with
    | nil =>
      rw [arranged, permuted.eq_nil]
    | cons member rest =>
      rw [arranged]
      cases arranged_eq : order place (arrangedAll order place (member :: rest)) with
      | nil =>
        rw [arranged_eq] at permuted
        cases permuted.nil_eq
      | cons first others => rfl

theorem members_arranged_perm (place : List Text) (setting : Setting) :
    (members (arranged order place setting)).Perm
      ((members setting).map fun member =>
        (member.1, arranged order (place ++ [member.1]) member.2)) := by
  cases setting with
  | null | flag _ | integer _ | number _ | text _ | list _ => exact .refl _
  | table members =>
    rw [← arrangedAll_eq_map]
    exact permutes place _

def outlined (write : List Step × Setting) : List Step × Setting := (write.1, write.2.outline)

/-- An entry writes the same in outline when the tables in it are put in order. -/
theorem writesOf_arranged_perm (group name : Text) (place : List Text) (entry : Text × Setting) :
    ((writesOf group name (entry.1, arranged order place entry.2)).map outlined).Perm
      ((writesOf group name entry).map outlined) := by
  unfold writesOf
  dsimp only
  split
  · split
    · have members := (members_arranged_perm permutes place entry.2).flatMap_right
        (fun member => if Text.lower member.1 = name then [(([] : List Step), member.2)] else [])
      refine (members.map outlined).trans ?_
      rw [List.flatMap_map, List.map_flatMap, List.map_flatMap]
      refine List.Perm.flatMap_left _ fun member _ => ?_
      split
      · simp [outlined, outline_arranged permutes]
      · exact .refl _
    · exact .refl _
  · split
    · simp [outlined, outline_arranged permutes]
    · exact .refl _
  · exact .refl _

end

theorem givesObject_arranged (place : List Text) (entry : Text × Setting) :
    givesObject group (entry.1, arranged order place entry.2) = givesObject group entry := by
  have same : (arranged order place entry.2).isTable = entry.2.isTable := by
    cases entry.2 <;> rfl
  simp only [givesObject, same]

end Setting

namespace Layer

/-- Whether a layer gives a setting of a section at most once, and not as an object with members. -/
def givesOnce (group name : Text) (layer : Layer) : Bool :=
  let writes := layer.writes group name
  writes.length ≤ 1 && writes.all fun write => write.2.members.isEmpty

section

variable (permutes : ∀ place members, (order place members).Perm members)

include permutes

theorem writes_arranged_perm (group name : Text) (layer : Layer) :
    (((layer.arranged order).writes group name).map Setting.outlined).Perm
      ((layer.writes group name).map Setting.outlined) := by
  have entries := (permutes [] (Setting.arrangedAll order [] layer)).flatMap_right
    (Setting.writesOf group name)
  refine (entries.map Setting.outlined).trans ?_
  rw [Setting.arrangedAll_eq_map, List.flatMap_map, writes, List.map_flatMap, List.map_flatMap]
  exact List.Perm.flatMap_left _ fun entry _ => Setting.writesOf_arranged_perm permutes group name _ entry

/-- A layer that writes one thing of a setting still does so when it is put in order, and the same in
outline. -/
theorem exists_writes_arranged (single : layer.writes group name = [(path, setting)]) :
    ∃ other, (layer.arranged order).writes group name = [(path, other)] ∧
      other.outline = setting.outline := by
  have permuted := writes_arranged_perm permutes group name layer
  rw [single, List.map_singleton, List.perm_singleton] at permuted
  obtain ⟨⟨_, other⟩, written, same⟩ := List.map_eq_singleton_iff.mp permuted
  obtain ⟨rfl, outlines⟩ := Prod.mk.inj same
  exact ⟨other, written, outlines⟩

theorem writes_arranged_eq_nil (silent : layer.writes group name = []) :
    (layer.arranged order).writes group name = [] := by
  have permuted := writes_arranged_perm permutes group name layer
  rw [silent] at permuted
  exact List.map_eq_nil_iff.mp permuted.eq_nil

/-- A layer that gives a setting once writes it alike in every order. -/
theorem writes_arranged (once : layer.givesOnce group name = true) :
    (layer.arranged order).writes group name = layer.writes group name := by
  obtain ⟨short, bare⟩ := Bool.and_eq_true_iff.mp once
  cases writes_eq : layer.writes group name with
  | nil => exact writes_arranged_eq_nil permutes writes_eq
  | cons write later =>
    rw [writes_eq] at short bare
    obtain rfl : later = [] := List.length_eq_zero_iff.mp (by simpa using short)
    obtain ⟨other, written, same⟩ := exists_writes_arranged permutes writes_eq
    rw [List.all_cons, Bool.and_eq_true_iff, List.isEmpty_iff] at bare
    rw [written, Setting.eq_of_outline_eq same bare.1]

theorem exists_of_mem_arranged {entry : Text × Setting} (listed : entry ∈ layer.arranged order) :
    ∃ first ∈ layer, entry = (first.1, Setting.arranged order [first.1] first.2) := by
  rw [arranged, (permutes [] _).mem_iff, Setting.arrangedAll_eq_map] at listed
  obtain ⟨first, there, rfl⟩ := List.mem_map.mp listed
  exact ⟨first, there, rfl⟩

theorem arranged_nil : Layer.arranged order [] = [] := (permutes [] []).eq_nil

theorem arranged_single (name : Text) (setting : Setting) :
    Layer.arranged order [(name, setting)] = [(name, setting.arranged order [name])] :=
  List.perm_singleton.mp (permutes [] _)

theorem givesObject_of_arranged (given : ∀ entry ∈ layer, Setting.givesObject group entry = true) :
    ∀ entry ∈ layer.arranged order, Setting.givesObject group entry = true := by
  intro entry listed
  obtain ⟨first, there, rfl⟩ := exists_of_mem_arranged permutes listed
  rw [Setting.givesObject_arranged]
  exact given first there

end

/-- Layers decide alike if they write the same of the setting. -/
theorem Decided.congr (decided : Decided group name layers value)
    (alike : List.Forall₂ (fun layer other : Layer => layer.writes group name = other.writes group name)
      layers others) : Decided group name others value := by
  induction decided generalizing others with
  | unset =>
    cases alike
    exact .unset
  | left silent _ ih =>
    cases alike with
    | cons same rest => exact .left (same ▸ silent) (ih rest)
  | whole written replacing amended =>
    cases alike with
    | cons same rest => exact .whole (same ▸ written) replacing amended
  | within inner _ amended ih =>
    cases alike with
    | cons same rest => exact .within (same ▸ inner) (ih rest) (same ▸ amended)

end Layer

end TagWeave
