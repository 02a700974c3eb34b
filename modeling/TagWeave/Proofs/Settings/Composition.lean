import TagWeave.Proofs.Entries.Sorted
import TagWeave.Proofs.Settings.Layers

/-! Tables that layers compose. Where layers give a section as objects and by dotted names, the section
is a table throughout, and a layer does to one of its settings just what the layer writes of that setting.
Writing one setting of a section leaves the others as they are. -/
namespace TagWeave

variable {group name key : Text} {value : Setting} {entry : Text × Setting}
  {table written entries added : Entries Setting} {layer : Layer}

def Step.enters (group : Text) : (path : List Step) → Bool
  | .member name :: _ => Text.lower name == group
  | _ => false

namespace Setting

def isTable : Setting → Bool
  | .table _ => true
  | _ => false

/-- Whether an entry of a layer gives a section as an object or settings of it by their dotted names, if
it gives anything of the section. A name that is no path as it is written must not become one into the
section in lower case. -/
def givesObject (group : Text) (entry : Text × Setting) : Bool :=
  match Step.ofName entry.1 with
  | [.member name] =>
    if Text.lower name = group then entry.2.isTable
    else !Step.enters group (Step.ofName (Text.lower name))
  | .member name :: .item _ :: _ => Text.lower name != group
  | _ => true

/-- What an entry of a layer writes of one setting of a section: where in the setting, and what. The
setting as a whole is written at the empty path. -/
def writesOf (group name : Text) (entry : Text × Setting) : List (List Step × Setting) :=
  match Step.ofName entry.1 with
  | [.member outer] =>
    if Text.lower outer = group then
      (members entry.2).flatMap fun member =>
        if Text.lower member.1 = name then [([], member.2)] else []
    else []
  | .member outer :: .member inner :: path =>
    if Text.lower outer = group ∧ Text.lower inner = name then [(path, entry.2)] else []
  | _ => []

def writeAll (writes : List (List Step × Setting)) (base : Option Setting) : Option (Option Setting) :=
  writes.foldlM (fun base write => (writeAt write.2 write.1 base).map some) base

end Setting

def Layer.writes (layer : Layer) (group name : Text) : List (List Step × Setting) :=
  layer.flatMap (Setting.writesOf group name)

namespace Setting

theorem writeAll_nil (base : Option Setting) : writeAll [] base = some base := rfl

theorem writeAll_append (first second : List (List Step × Setting)) (base : Option Setting) :
    writeAll (first ++ second) base = (writeAll first base).bind (writeAll second) :=
  List.foldlM_append

theorem writeAll_whole (setting : Setting) (base : Option Setting) :
    writeAll [([], setting)] base = some (some (onto setting base)) := rfl

def replaces (write : List Step × Setting) : Bool := write.1.isEmpty && !write.2.isTable

theorem onto_of_not_isTable (solid : value.isTable = false) (base : Option Setting) :
    onto value base = value := by
  cases value with
  | table members => cases solid
  | null | list _ | flag _ | integer _ | number _ | text _ => rfl

theorem writeAll_replacing {write : List Step × Setting} (replacing : replaces write = true)
    (later : List (List Step × Setting)) (base : Option Setting) :
    writeAll (write :: later) base = writeAll later (some write.2) := by
  obtain ⟨path, setting⟩ := write
  obtain ⟨whole, solid⟩ := Bool.and_eq_true_iff.mp replacing
  obtain rfl : path = [] := List.isEmpty_iff.mp whole
  change writeAll later (some (onto setting base)) = _
  rw [onto_of_not_isTable (Bool.not_eq_true' _ |>.mp solid)]

/-- Every name stands once, in lower case. -/
structure Lowered (entries : Entries Setting) : Prop where
  distinct : (Entries.keys entries).Nodup
  lower : ∀ key ∈ Entries.keys entries, Text.lower key = key

theorem lowered_nil : Lowered [] := ⟨List.nodup_nil, by simp [Entries.keys]⟩

theorem Lowered.write (lowered : Lowered entries) (settled : Text.lower key = key) (value : Setting) :
    Lowered (Entries.write key value entries) := by
  refine ⟨Entries.nodup_keys_write lowered.distinct key value, fun other listed => ?_⟩
  rcases Entries.mem_keys_write.mp listed with rfl | old
  · exact settled
  · exact lowered.lower other old

theorem Lowered.addAll (lowered : Lowered entries) (added : List (Text × Setting)) :
    Lowered (addAll added entries) := by
  induction added generalizing entries with
  | nil => exact lowered
  | cons member rest ih => exact ih (lowered.write (Text.lower_lower member.1) _)

/-- Members added to a table do to one of its settings what they write of it. -/
theorem writeAll_addAll (name : Text) (added : List (Text × Setting)) (entries : Entries Setting) :
    writeAll (added.flatMap fun member =>
        if Text.lower member.1 = name then [([], member.2)] else []) (Entries.find? name entries) =
      some (Entries.find? name (addAll added entries)) := by
  induction added generalizing entries with
  | nil => rfl
  | cons member rest ih =>
    obtain ⟨key, setting⟩ := member
    rw [addAll, ← ih, List.flatMap_cons, writeAll_append, Entries.find?_write]
    by_cases same : Text.lower key = name
    · rw [if_pos same, if_pos same, writeAll_whole, same]
      rfl
    · rw [if_neg same, if_neg same]
      rfl

theorem onto_table (added : List (Text × Setting)) {base : Option Setting}
    (tabled : ∀ setting ∈ base, ∃ members, setting = .table members) :
    onto (.table added) base = .table (addAll added ((base.map members).getD [])) := by
  cases base with
  | none => cases added <;> rfl
  | some setting =>
    obtain ⟨members, rfl⟩ := tabled setting rfl
    cases added <;> rfl

theorem ofSection_write (group key : Text) (value : Setting) (table : Entries Setting) :
    ofSection group (Entries.write key value table) =
      if key = group then members value else ofSection group table := by
  rw [ofSection, Entries.find?_write]
  by_cases same : key = group
  · rw [if_pos same, if_pos same]
    rfl
  · rw [if_neg same, if_neg same]
    rfl

/-- A table in which a section is a table if it is there, and no other name leads into it. -/
structure Composed (group : Text) (table : Entries Setting) : Prop extends Lowered table where
  apart : ∀ key ∈ Entries.keys table, Step.enters group (Step.ofName key) = true → key = group
  tabled : ∀ setting ∈ Entries.find? group table, ∃ members, setting = .table members ∧
    Lowered members

theorem composed_nil (group : Text) : Composed group [] :=
  ⟨lowered_nil, by simp [Entries.keys], by simp [Entries.find?]⟩

theorem Composed.lowered_ofSection (composed : Composed group table) :
    Lowered (ofSection group table) := by
  cases found : Entries.find? group table with
  | none =>
    rw [ofSection, found]
    exact lowered_nil
  | some setting =>
    obtain ⟨members, rfl, lowered⟩ := composed.tabled setting found
    rw [ofSection, found]
    exact lowered

theorem Composed.exists_table (composed : Composed group table) :
    ∀ setting ∈ Entries.find? group table, ∃ members, setting = .table members := by
  intro setting found
  obtain ⟨members, same, -⟩ := composed.tabled setting found
  exact ⟨members, same⟩

theorem Composed.onto_table (composed : Composed group table) (added : List (Text × Setting)) :
    onto (.table added) (Entries.find? group table) = .table (addAll added (ofSection group table)) :=
  Setting.onto_table added composed.exists_table

/-- A composed table stays one if the section stays a table and no other name comes to lead into it. -/
theorem Composed.write (composed : Composed group table) (settled : Text.lower key = key)
    (apart : Step.enters group (Step.ofName key) = true → key = group)
    (tabled : key = group → ∃ members, value = .table members ∧ Lowered members) :
    Composed group (Entries.write key value table) := by
  refine ⟨composed.toLowered.write settled value, fun name listed enters => ?_, fun setting found => ?_⟩
  · rcases Entries.mem_keys_write.mp listed with rfl | old
    · exact apart enters
    · exact composed.apart name old enters
  · rw [Entries.find?_write] at found
    by_cases same : key = group
    · rw [if_pos same] at found
      cases found
      exact tabled same
    · rw [if_neg same] at found
      exact composed.tabled setting found

theorem Composed.write_section (composed : Composed group table) (settled : Text.lower group = group)
    (lowered : Lowered entries) : Composed group (Entries.write group (.table entries) table) :=
  composed.write settled (fun _ => rfl) fun _ => ⟨entries, rfl, lowered⟩

/-- An entry is written under the first member of its path. -/
theorem writeNamed_of_path {path : List Step} (named : Step.ofName entry.1 = .member name :: path)
    (done : writeNamed entry.1 entry.2 table = some written) :
    ∃ inner, writeAt entry.2 path (Entries.find? (Text.lower name) table) = some inner ∧
      written = Entries.write (Text.lower name) inner table := by
  simp only [writeNamed, named, writeAt, Option.map_eq_some_iff] at done
  obtain ⟨whole, found, rfl⟩ := done
  obtain ⟨inner, here, same⟩ := Option.bind_eq_some_iff.mp found
  cases same
  exact ⟨inner, here, rfl⟩

/-- What an entry does to a section: the section stays a table, and of each of its settings the entry
does what it writes of it. -/
structure Composes (group : Text) (writes : Text → List (List Step × Setting))
    (table written : Entries Setting) : Prop where
  composed : Composed group written
  written : ∀ name, writeAll (writes name) (Entries.find? name (ofSection group table)) =
    some (Entries.find? name (ofSection group written))

variable {outer inner : Text} {path : List Step}

/-- A section that is given as an object is written into the section, name by name. -/
theorem composes_table (settled : Text.lower group = group) (composed : Composed group table)
    (named : Step.ofName entry.1 = [.member outer]) (same : Text.lower outer = group)
    (given : entry.2 = .table added) (done : writeNamed entry.1 entry.2 table = some written) :
    Composes group (fun name => writesOf group name entry) table written := by
  obtain ⟨whole, here, rfl⟩ := writeNamed_of_path named done
  obtain rfl : onto entry.2 _ = whole := Option.some.inj here
  rw [same, given, composed.onto_table]
  refine ⟨composed.write_section settled (composed.lowered_ofSection.addAll added), fun name => ?_⟩
  simp only [writesOf, named, same, if_true, given, members, ofSection_write]
  exact writeAll_addAll name added _

/-- A setting that is given by its dotted name is written into the section, whatever the path does
further on. -/
theorem composes_setting (settled : Text.lower group = group) (composed : Composed group table)
    (named : Step.ofName entry.1 = .member outer :: .member inner :: path)
    (same : Text.lower outer = group) (done : writeNamed entry.1 entry.2 table = some written) :
    Composes group (fun name => writesOf group name entry) table written := by
  obtain ⟨whole, here, rfl⟩ := writeNamed_of_path named done
  rw [same] at here ⊢
  -- The path goes on in the section, one name further in.
  obtain ⟨setting, within, whole_eq⟩ := Option.bind_eq_some_iff.mp here
  obtain rfl : Setting.table _ = whole := Option.some.inj whole_eq
  change writeAt entry.2 path (Entries.find? (Text.lower inner) (ofSection group table)) = _ at within
  refine ⟨composed.write_section settled
    (composed.lowered_ofSection.write (Text.lower_lower inner) setting), fun name => ?_⟩
  simp only [writesOf, named, same, true_and, ofSection_write, if_true, members]
  change _ = some (Entries.find? name (Entries.write (Text.lower inner) setting
    (ofSection group table)))
  rw [Entries.find?_write]
  by_cases here : Text.lower inner = name
  · rw [if_pos here, if_pos here, ← here]
    simp [writeAll, within]
  · rw [if_neg here, if_neg here]
    rfl

theorem writesOf_eq_nil (named : Step.ofName entry.1 = .member outer :: path)
    (other : Text.lower outer ≠ group) : writesOf group name entry = [] := by
  cases path with
  | nil => simp [writesOf, named, other]
  | cons step path => cases step <;> simp [writesOf, named, other]

theorem givesObject_of_other (named : Step.ofName entry.1 = .member outer :: path)
    (other : Text.lower outer ≠ group)
    (away : Step.enters group (Step.ofName (Text.lower outer)) = false) :
    givesObject group entry = true := by
  cases path with
  | nil => simp [givesObject, named, other, away]
  | cons step path => cases step <;> simp [givesObject, named, other]

/-- A name that a longer path begins with leads nowhere else in lower case. -/
theorem not_enters_lower (member : Step.IsMemberName outer) (other : Text.lower outer ≠ group) :
    Step.enters group (Step.ofName (Text.lower outer)) = false := by
  rw [Step.ofName_eq member.lower, Step.enters, Text.lower_lower]
  exact beq_eq_false_iff_ne.mpr other

/-- An entry of another name leaves the section as it is, unless its name leads there in lower case. -/
theorem composes_other (composed : Composed group table)
    (named : Step.ofName entry.1 = .member outer :: path) (other : Text.lower outer ≠ group)
    (away : Step.enters group (Step.ofName (Text.lower outer)) = false)
    (done : writeNamed entry.1 entry.2 table = some written) :
    Composes group (fun name => writesOf group name entry) table written := by
  obtain ⟨whole, -, rfl⟩ := writeNamed_of_path named done
  have apart : Step.enters group (Step.ofName (Text.lower outer)) = true → Text.lower outer = group := by
    rw [away]
    nofun
  refine ⟨composed.write (Text.lower_lower outer) apart fun same => absurd same other, fun name => ?_⟩
  rw [writesOf_eq_nil named other, ofSection_write, if_neg other]
  rfl

/-- One entry keeps a table composed, and does to each setting of the section what it writes of it. -/
theorem composes_writeNamed (grouped : group.IsSettingName) (composed : Composed group table)
    (given : givesObject group entry = true)
    (done : writeNamed entry.1 entry.2 table = some written) :
    Composes group (fun name => writesOf group name entry) table written := by
  rcases Step.ofName_cases entry.1 with named | ⟨outer, path, named, longer, member⟩
  · -- The name is that of a section, or of something beside it.
    simp only [givesObject, named] at given
    by_cases same : Text.lower entry.1 = group
    · rw [if_pos same] at given
      cases tabled : entry.2 with
      | table added => exact composes_table grouped.lower_eq composed named same tabled done
      | null | flag _ | integer _ | number _ | text _ | list _ =>
        rw [tabled] at given
        cases given
    · rw [if_neg same, Bool.not_eq_true'] at given
      exact composes_other composed named same given done
  · by_cases same : Text.lower outer = group
    · cases path with
      | nil => exact absurd rfl longer
      | cons step path =>
        cases step with
        | member inner => exact composes_setting grouped.lower_eq composed named same done
        | item index =>
          simp [givesObject, named, same] at given
    · exact composes_other composed named same (not_enters_lower member same) done

theorem Composes.trans {first second : Text → List (List Step × Setting)}
    {between : Entries Setting} (begun : Composes group first table between)
    (ended : Composes group second between written) :
    Composes group (fun name => first name ++ second name) table written := by
  refine ⟨ended.composed, fun name => ?_⟩
  rw [writeAll_append, begun.written, Option.bind_some, ended.written]

/-- A layer does to each setting of a section what it writes of it. -/
theorem composes_writeOver (grouped : group.IsSettingName) (composed : Composed group table)
    (given : ∀ entry ∈ layer, givesObject group entry = true)
    (done : layer.writeOver table = some written) :
    Composes group (layer.writes group) table written := by
  induction layer generalizing table with
  | nil =>
    cases done
    exact ⟨composed, fun name => rfl⟩
  | cons entry rest ih =>
    obtain ⟨first, later⟩ := List.forall_mem_cons.mp given
    rw [Layer.writeOver, List.foldlM_cons] at done
    obtain ⟨between, here, behind⟩ := Option.bind_eq_some_iff.mp done
    have begun := composes_writeNamed grouped composed first here
    exact begun.trans (ih begun.composed later behind)

/-- The other names of a composed table lead past the section. -/
theorem Composed.exists_path (composed : Composed group table) (listed : entry ∈ table)
    (other : entry.1 ≠ group) :
    ∃ outer path, Step.ofName entry.1 = .member outer :: path ∧ Text.lower outer ≠ group ∧
      Step.enters group (Step.ofName (Text.lower outer)) = false := by
  have key_listed := List.mem_map_of_mem (f := Prod.fst) listed
  have settled := composed.lower entry.1 key_listed
  have away : Step.enters group (Step.ofName entry.1) = false :=
    Bool.eq_false_iff.mpr fun enters => other (composed.apart entry.1 key_listed enters)
  rcases Step.ofName_cases entry.1 with named | ⟨outer, path, named, -, member⟩
  · exact ⟨entry.1, [], named, settled.symm ▸ other, by rwa [settled]⟩
  · have outside : Text.lower outer ≠ group := by
      rw [named] at away
      exact beq_eq_false_iff_ne.mp away
    exact ⟨outer, path, named, outside, not_enters_lower member outside⟩

theorem Composed.givesObject (composed : Composed group table) (grouped : group.IsSettingName) :
    ∀ entry ∈ table, givesObject group entry = true := by
  intro entry listed
  by_cases same : entry.1 = group
  · have found : Entries.find? group table = some entry.2 :=
      (Entries.mem_iff_find? composed.distinct).mp (same ▸ listed)
    obtain ⟨members, tabled, -⟩ := composed.tabled entry.2 found
    simp [Setting.givesObject, same, Step.ofName_single grouped, grouped.lower_eq, tabled, isTable]
  · obtain ⟨outer, path, named, other, away⟩ := composed.exists_path listed same
    exact givesObject_of_other named other away

/-- A composed table as a layer of its own writes each setting of the section whole, and once. -/
theorem Composed.writes_eq (composed : Composed group table) (grouped : group.IsSettingName)
    (name : Text) :
    Layer.writes table group name =
      ((Entries.find? name (ofSection group table)).map fun setting => [([], setting)]).getD [] := by
  have others : ∀ entry ∈ table, entry.1 ≠ group → writesOf group name entry = [] := by
    intro entry listed different
    obtain ⟨outer, path, named, other, -⟩ := composed.exists_path listed different
    exact writesOf_eq_nil named other
  rw [Layer.writes, Entries.flatMap_eq_of_find? composed.distinct others]
  cases found : Entries.find? group table with
  | none =>
    rw [ofSection, found]
    rfl
  | some setting =>
    obtain ⟨entries, rfl, lowered⟩ := composed.tabled setting found
    have section_eq : ofSection group table = entries := by
      rw [ofSection, found]
      rfl
    -- The names of the section are in lower case, so only one of them is meant.
    have unnamed : ∀ member ∈ entries, member.1 ≠ name →
        (if Text.lower member.1 = name then [(([] : List Step), member.2)] else []) = [] := by
      intro member listed different
      rw [lowered.lower member.1 (List.mem_map_of_mem listed), if_neg different]
    rw [section_eq, Option.map_some, Option.getD_some, writesOf, Step.ofName_single grouped]
    simp only [grouped.lower_eq, if_true, members]
    rw [Entries.flatMap_eq_of_find? lowered.distinct unnamed]
    cases inner : Entries.find? name entries with
    | none => rfl
    | some setting =>
      have settled := lowered.lower name
        (List.mem_map_of_mem (f := Prod.fst) (Entries.mem_of_find? inner))
      simp [settled]

end Setting

end TagWeave
