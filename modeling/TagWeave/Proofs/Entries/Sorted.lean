import Mathlib.Data.List.Nodup
import Mathlib.Data.List.Pairwise
import TagWeave.Entries
import TagWeave.Proofs.Text.Order

/-! Entries in the order of their keys. Sorting keeps what stands under each key, and a sorted row is
told by its lookups, so rows that differ only in the order of their entries are sorted alike. -/
namespace TagWeave.Entries

variable {α β : Type} {key name : Text} {value : α} {entry : Text × α} {entries others : Entries α}

theorem find?_eq_none_iff : find? key entries = none ↔ key ∉ keys entries := by
  rw [← find?_isSome_iff]
  simp

/-- Where no key stands twice, an entry is there exactly if a lookup finds it. -/
theorem mem_iff_find? (distinct : (keys entries).Nodup) :
    (key, value) ∈ entries ↔ find? key entries = some value := by
  constructor
  · intro member
    cases found : find? key entries with
    | none => exact absurd (List.mem_map_of_mem (f := Prod.fst) member) (find?_eq_none_iff.mp found)
    | some other =>
      have same := List.inj_on_of_nodup_map distinct (mem_of_find? found) member rfl
      rw [(Prod.mk.inj same).2]
  · exact mem_of_find?

theorem find?_erase (distinct : (keys entries).Nodup) (key other : Text) :
    find? other (erase key entries) = if key = other then none else find? other entries := by
  induction entries with
  | nil => simp [erase, find?]
  | cons entry rest ih =>
    obtain ⟨name, value⟩ := entry
    obtain ⟨fresh, later⟩ := List.nodup_cons.mp distinct
    by_cases same : name = key
    · subst same
      by_cases here : name = other
      · subst here
        simp [erase, find?_eq_none_iff.mpr fresh]
      · simp [erase, find?, here]
    · by_cases here : name = other
      · subst here
        simp [erase, find?, same, Ne.symm same]
      · simp [erase, find?, same, here, ih later]

theorem write_of_not_mem (absent : key ∉ keys entries) :
    write key value entries = entries ++ [(key, value)] := by
  induction entries with
  | nil => rfl
  | cons entry rest ih =>
    obtain ⟨other, old⟩ := entry
    have different : other ≠ key := by
      rintro rfl
      exact absent List.mem_cons_self
    have later : key ∉ keys rest := fun listed => absent (List.mem_cons_of_mem _ listed)
    simp only [write, if_neg different, ih later, List.cons_append]

theorem mem_keys_write : key ∈ keys (write name value entries) ↔ key = name ∨ key ∈ keys entries := by
  rw [keys_write]
  by_cases present : name ∈ keys entries
  · rw [if_pos present]
    refine ⟨.inr, ?_⟩
    rintro (rfl | old)
    · exact present
    · exact old
  · rw [if_neg present, List.mem_append, List.mem_singleton, or_comm]

theorem mem_keys_writeAll {added : Entries α} :
    key ∈ keys (writeAll added entries) ↔ key ∈ keys entries ∨ key ∈ keys added := by
  induction added generalizing entries with
  | nil => simp [writeAll, keys]
  | cons entry rest ih =>
    have step : writeAll (entry :: rest) entries = writeAll rest (write entry.1 entry.2 entries) := rfl
    have first : key ∈ keys (entry :: rest) ↔ key = entry.1 ∨ key ∈ keys rest := List.mem_cons
    rw [step, ih, mem_keys_write, first, or_comm (a := key = entry.1), or_assoc]

/-- Entries under keys of their own are written one behind the other. -/
theorem writeAll_of_nodup (entries added : Entries α) (distinct : (keys (entries ++ added)).Nodup) :
    writeAll added entries = entries ++ added := by
  induction added generalizing entries with
  | nil => simp [writeAll]
  | cons entry rest ih =>
    obtain ⟨key, value⟩ := entry
    have written : write key value entries = entries ++ [(key, value)] := by
      apply write_of_not_mem
      intro present
      rw [keys, List.map_append, List.map_cons] at distinct
      exact (List.nodup_append.mp distinct).2.2 key present key List.mem_cons_self rfl
    have later : writeAll rest (entries ++ [(key, value)]) = entries ++ [(key, value)] ++ rest :=
      ih _ (by rwa [List.append_assoc, List.singleton_append])
    rw [List.append_assoc, List.singleton_append] at later
    rw [← later, ← written]
    rfl

/-- Where no key stands twice and one key alone adds something, that is all that is added. -/
theorem flatMap_eq_of_find? {use : Text × α → List β} (distinct : (keys entries).Nodup)
    (others : ∀ entry ∈ entries, entry.1 ≠ key → use entry = []) :
    entries.flatMap use = ((find? key entries).map fun value => use (key, value)).getD [] := by
  induction entries with
  | nil => rfl
  | cons entry rest ih =>
    obtain ⟨name, value⟩ := entry
    obtain ⟨fresh, later⟩ := List.nodup_cons.mp distinct
    obtain ⟨here, behind⟩ := List.forall_mem_cons.mp others
    rw [List.flatMap_cons, ih later behind, find?]
    by_cases same : name = key
    · subst same
      rw [if_pos rfl, find?_eq_none_iff.mpr fresh]
      exact List.append_nil _
    · rw [if_neg same, here same, List.nil_append]

def Increasing (entries : Entries α) : Prop :=
  entries.Pairwise fun first second => Text.precedes first.1 second.1 = true

theorem mem_insertSorted (member : entry ∈ insertSorted key value entries) :
    entry = (key, value) ∨ entry ∈ entries := by
  induction entries with
  | nil => exact .inl (List.mem_singleton.mp member)
  | cons first rest ih =>
    obtain ⟨other, present⟩ := first
    simp only [insertSorted] at member
    split at member
    · exact .inr member
    · split at member
      · exact List.mem_cons.mp member
      · rcases List.mem_cons.mp member with here | later
        · exact .inr (here ▸ List.mem_cons_self)
        · exact (ih later).imp_right (List.mem_cons_of_mem _)

theorem Increasing.insertSorted (increasing : Increasing entries) (key : Text) (value : α) :
    Increasing (insertSorted key value entries) := by
  induction entries with
  | nil => exact List.pairwise_singleton _ _
  | cons first rest ih =>
    obtain ⟨other, present⟩ := first
    have parts := List.pairwise_cons.mp increasing
    unfold Entries.insertSorted
    split
    · exact increasing
    rename_i different
    split
    · rename_i before
      refine List.pairwise_cons.mpr ⟨?_, increasing⟩
      intro entry member
      rcases List.mem_cons.mp member with rfl | later
      · exact before
      · exact Text.precedes_trans before (parts.1 entry later)
    · rename_i behind
      refine List.pairwise_cons.mpr ⟨?_, ih parts.2⟩
      intro entry member
      rcases mem_insertSorted member with rfl | later
      · rcases Text.precedes_or_eq_or_precedes key other with before | same | after
        · exact absurd before behind
        · exact absurd same different
        · exact after
      · exact parts.1 entry later

theorem increasing_sorted (entries : List (Text × α)) : Increasing (sorted entries) := by
  induction entries with
  | nil => exact .nil
  | cons entry rest ih => exact ih.insertSorted entry.1 entry.2

theorem mem_of_mem_sorted {added : List (Text × α)} (member : entry ∈ sorted added) : entry ∈ added := by
  induction added with
  | nil => exact member
  | cons first rest ih =>
    rcases mem_insertSorted member with here | later
    · exact here ▸ List.mem_cons_self
    · exact List.mem_cons_of_mem _ (ih later)

theorem Increasing.nodup_keys (increasing : Increasing entries) : (keys entries).Nodup := by
  apply List.pairwise_map.mpr
  refine increasing.imp ?_
  intro first second before same
  rw [same, Text.precedes_irrefl] at before
  cases before

theorem find?_insertSorted (increasing : Increasing entries) (key name : Text) (value : α) :
    find? name (insertSorted key value entries) =
      if key = name then some ((find? name entries).getD value) else find? name entries := by
  induction entries with
  | nil => simp [insertSorted, find?]
  | cons first rest ih =>
    obtain ⟨other, present⟩ := first
    have parts := List.pairwise_cons.mp increasing
    unfold insertSorted
    by_cases here : key = other
    · subst here
      by_cases same : key = name <;> simp [find?, same]
    · rw [if_neg here]
      split
      · rename_i before
        by_cases same : key = name
        · -- The key is not further on, where all keys stand after `other`.
          subst same
          have missing : find? key rest = none := by
            rw [find?_eq_none_iff]
            intro listed
            obtain ⟨entry, member, named⟩ := List.mem_map.mp listed
            have after := Text.precedes_trans before (parts.1 entry member)
            rw [named, Text.precedes_irrefl] at after
            cases after
          simp [find?, Ne.symm here, missing]
        · simp [find?, same]
      · by_cases same : other = name
        · subst same
          simp [find?, here]
        · simp [find?, same, ih parts.2]

theorem find?_sorted (distinct : (keys entries).Nodup) (key : Text) :
    find? key (sorted entries) = find? key entries := by
  induction entries with
  | nil => rfl
  | cons entry rest ih =>
    obtain ⟨name, value⟩ := entry
    have parts := List.nodup_cons.mp distinct
    rw [sorted, find?_insertSorted (increasing_sorted rest), ih parts.2]
    by_cases same : name = key
    · subst same
      simp [find?, find?_eq_none_iff.mpr parts.1]
    · simp [find?, same]

/-- A sorted row is told by what is found in it. -/
theorem Increasing.eq_of_find? (increasing : Increasing entries) (others_increasing : Increasing others)
    (same : ∀ key, find? key entries = find? key others) : entries = others := by
  have distinct := increasing.nodup_keys
  have others_distinct := others_increasing.nodup_keys
  have perm : entries.Perm others := by
    refine (List.perm_ext_iff_of_nodup (.of_map _ distinct) (.of_map _ others_distinct)).mpr ?_
    rintro ⟨key, value⟩
    rw [mem_iff_find? distinct, mem_iff_find? others_distinct, same]
  refine perm.eq_of_pairwise ?_ increasing others_increasing
  intro first second _ _ forth back
  have around := Text.precedes_trans forth back
  rw [Text.precedes_irrefl] at around
  cases around

/-- Rows with the same lookups are sorted alike. -/
theorem sorted_eq_of_find? (distinct : (keys entries).Nodup) (others_distinct : (keys others).Nodup)
    (same : ∀ key, find? key entries = find? key others) : sorted entries = sorted others := by
  apply (increasing_sorted entries).eq_of_find? (increasing_sorted others)
  intro key
  rw [find?_sorted distinct, find?_sorted others_distinct, same]

end TagWeave.Entries
