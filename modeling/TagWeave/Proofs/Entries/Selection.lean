import TagWeave.Proofs.Entries.Sorted

/-! Entries converted one by one, where some have no counterpart and are left out. As long as each key
stands once, a lookup among the converted entries is a lookup in the row, converted. -/
namespace TagWeave.Entries

variable {α β : Type} {convert : α → Option β} {key : Text} {entries : Entries α}

/-- The entries whose values can be converted, in their order. -/
def select (convert : α → Option β) (entries : Entries α) : Entries β :=
  entries.filterMap fun entry => (convert entry.2).map fun value => (entry.1, value)

theorem select_cons (entry : Text × α) (entries : Entries α) :
    select convert (entry :: entries) =
      match convert entry.2 with
      | some value => (entry.1, value) :: select convert entries
      | none => select convert entries := by
  cases given : convert entry.2 <;> simp [select, given]

theorem keys_select_sublist (convert : α → Option β) (entries : Entries α) :
    (keys (select convert entries)).Sublist (keys entries) := by
  induction entries with
  | nil => exact .slnil
  | cons entry rest ih =>
    rw [select_cons]
    cases convert entry.2 with
    | none => exact ih.cons entry.1
    | some value => exact ih.cons_cons entry.1

theorem nodup_keys_select (distinct : (keys entries).Nodup) (convert : α → Option β) :
    (keys (select convert entries)).Nodup :=
  (keys_select_sublist convert entries).nodup distinct

theorem find?_select (distinct : (keys entries).Nodup) (convert : α → Option β) (key : Text) :
    find? key (select convert entries) = (find? key entries).bind convert := by
  induction entries with
  | nil => rfl
  | cons entry rest ih =>
    obtain ⟨name, value⟩ := entry
    obtain ⟨fresh, later⟩ := List.nodup_cons.mp distinct
    rw [select_cons]
    by_cases same : name = key
    · subst same
      have missing : find? name (select convert rest) = none :=
        find?_eq_none_iff.mpr fun listed => fresh ((keys_select_sublist convert rest).subset listed)
      cases given : convert value <;> simp [find?, given, missing]
    · cases convert value <;> simp [find?, same, ih later]

theorem select_eq_self {convert : α → Option α} (each : ∀ entry ∈ entries, convert entry.2 = some entry.2) :
    select convert entries = entries := by
  induction entries with
  | nil => rfl
  | cons entry rest ih =>
    obtain ⟨here, later⟩ := List.forall_mem_cons.mp each
    rw [select_cons, here, ih later]

end TagWeave.Entries
