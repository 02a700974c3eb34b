import TagWeave.Proofs.Settings.Composition

/-! Which layer a setting is from. Each setting is decided on by itself: the highest layer that writes it
as a whole hides the lower ones, and one that says nothing of it leaves it to them. A layer may also write
within a setting, and then it changes only that part of what the lower layers decide on. -/
namespace TagWeave

namespace Layer

/-- What layers, the highest first, decide on for one setting of a section. -/
inductive Decided (group name : Text) : List Layer → Option Setting → Prop where
  | unset : Decided group name [] none
  /-- A layer that writes nothing of the setting leaves it to the lower ones. -/
  | left {layer : Layer} {layers : List Layer} {value : Option Setting}
    (silent : layer.writes group name = []) (lower : Decided group name layers value) :
    Decided group name (layer :: layers) value
  /-- A layer that writes the setting as a whole hides the lower ones. -/
  | whole {layer : Layer} {layers : List Layer} {value : Option Setting}
    {before after : List (List Step × Setting)} {write : List Step × Setting}
    (written : layer.writes group name = before ++ write :: after)
    (replacing : Setting.replaces write = true)
    (amended : Setting.writeAll after (some write.2) = some value) :
    Decided group name (layer :: layers) value
  /-- A layer that writes only within the setting changes what the lower ones decide on. -/
  | within {layer : Layer} {layers : List Layer} {base value : Option Setting}
    (inner : ∀ write ∈ layer.writes group name, Setting.replaces write = false)
    (lower : Decided group name layers base)
    (amended : Setting.writeAll (layer.writes group name) base = some value) :
    Decided group name (layer :: layers) value

variable {group name : Text} {layer : Layer} {layers : List Layer} {base value : Option Setting}

/-- One more layer decides as what it writes comes over what the others decide on. -/
theorem Decided.extend (lower : Decided group name layers base)
    (amended : Setting.writeAll (layer.writes group name) base = some value) :
    Decided group name (layer :: layers) value := by
  by_cases some_whole : ∃ write ∈ layer.writes group name, Setting.replaces write = true
  · obtain ⟨write, member, replacing⟩ := some_whole
    obtain ⟨before, after, written⟩ := List.append_of_mem member
    rw [written, Setting.writeAll_append] at amended
    obtain ⟨between, -, later⟩ := Option.bind_eq_some_iff.mp amended
    rw [Setting.writeAll_replacing replacing] at later
    exact .whole written replacing later
  · refine .within (fun write member => ?_) lower amended
    exact Bool.eq_false_iff.mpr fun replacing => some_whole ⟨write, member, replacing⟩

/-- A setting that is written as a whole comes out alike, wherever among the writes it is found. -/
theorem writeAll_after_replacing {before after others later : List (List Step × Setting)}
    {write other : List Step × Setting} {amended : Option Setting}
    (same : before ++ write :: after = others ++ other :: later)
    (replacing : Setting.replaces other = true)
    (done : Setting.writeAll after (some write.2) = some value)
    (other_done : Setting.writeAll later (some other.2) = some amended)
    (shorter : before.length ≤ others.length) : value = amended := by
  rcases List.append_eq_append_iff.mp same with ⟨between, rfl, rest⟩ | ⟨between, rfl, rest⟩
  · cases between with
    | nil =>
      obtain ⟨rfl, rfl⟩ := List.cons.inj rest
      exact Option.some.inj (done.symm.trans other_done)
    | cons first between =>
      have between_eq : after = between ++ other :: later := (List.cons.inj rest).2
      rw [between_eq, Setting.writeAll_append] at done
      obtain ⟨_, -, behind⟩ := Option.bind_eq_some_iff.mp done
      rw [Setting.writeAll_replacing replacing] at behind
      exact Option.some.inj (behind.symm.trans other_done)
  · obtain rfl : between = [] := by
      rw [List.length_append] at shorter
      exact List.length_eq_zero_iff.mp (by omega)
    obtain ⟨rfl, rfl⟩ := List.cons.inj rest
    exact Option.some.inj (done.symm.trans other_done)

theorem Decided.unique {other : Option Setting} (first : Decided group name layers value)
    (second : Decided group name layers other) : value = other := by
  induction first generalizing other with
  | unset =>
    cases second
    rfl
  | left silent lower ih =>
    cases second with
    | left _ second_lower => exact ih second_lower
    | whole written => simp [silent] at written
    | within _ second_lower amended =>
      rw [silent, Setting.writeAll_nil] at amended
      exact Option.some.inj amended ▸ ih second_lower
  | whole written replacing amended =>
    cases second with
    | left silent => simp [silent] at written
    | whole second_written second_replacing second_amended =>
      -- Both ways may begin at another whole write of the layer; the later of the two hides the earlier.
      have same := written.symm.trans second_written
      rcases Nat.le_total _ _ with shorter | longer
      · exact writeAll_after_replacing same second_replacing amended second_amended shorter
      · exact (writeAll_after_replacing same.symm replacing second_amended amended longer).symm
    | within inner =>
      have partly := inner _ (written ▸ List.mem_append_right _ List.mem_cons_self)
      rw [replacing] at partly
      cases partly
  | within inner lower amended ih =>
    cases second with
    | left silent second_lower =>
      rw [silent, Setting.writeAll_nil] at amended
      exact Option.some.inj amended ▸ ih second_lower
    | whole written replacing =>
      have partly := inner _ (written ▸ List.mem_append_right _ List.mem_cons_self)
      rw [replacing] at partly
      cases partly
    | within _ second_lower second_amended =>
      rw [ih second_lower, second_amended] at amended
      exact (Option.some.inj amended).symm

theorem decided_iff (decided : Decided group name layers value) (other : Option Setting) :
    Decided group name layers other ↔ other = value := by
  constructor
  · intro also
    exact also.unique decided
  · rintro rfl
    exact decided

end Layer

namespace Settings

variable {group : Text} {layer : Layer} {layers : List Layer} {table written : Entries Setting}

theorem composes_layOver (grouped : group.IsSettingName)
    (composed : Setting.Composed group table)
    (objects : ∀ entry ∈ layer, Setting.givesObject group entry = true)
    (done : layOver table layer = .ok written) :
    Setting.Composes group (layer.writes group) table written := by
  unfold layOver at done
  split at done
  · rename_i result laid
    cases done
    exact Setting.composes_writeOver grouped composed objects laid
  · cases done

/-- A table that layers compose, the highest first: each setting of a section is what they decide on. -/
structure Layered (group : Text) (layers : List Layer) (table : Entries Setting) : Prop where
  composed : Setting.Composed group table
  decided : ∀ name, Layer.Decided group name layers
    (Entries.find? name (Setting.ofSection group table))

theorem layered_nil (group : Text) : Layered group [] [] :=
  ⟨Setting.composed_nil group, fun _ => .unset⟩

theorem Layered.extend (grouped : group.IsSettingName)
    (objects : ∀ entry ∈ layer, Setting.givesObject group entry = true)
    (layered : Layered group layers table) (done : layOver table layer = .ok written) :
    Layered group (layer :: layers) written := by
  have composes := composes_layOver grouped layered.composed objects done
  exact ⟨composes.composed, fun name => (layered.decided name).extend (composes.written name)⟩

end Settings

end TagWeave
