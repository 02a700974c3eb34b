import TagWeave.Text.Basic

/-! Entries keep their keys in the order in which they were first written. Writing a present key
again keeps its place, and erasing one keeps the order of the others. -/
namespace TagWeave

/-- Keyed values in the order of their keys' arrival. -/
abbrev Entries (α : Type) := List (Text × α)

namespace Entries

variable {α β : Type}

def find? (key : Text) : Entries α → Option α
  | [] => none
  | (other, value) :: rest => if other = key then some value else find? key rest

/-- Write a value: in place if the key is present, at the end otherwise. -/
def write (key : Text) (value : α) : Entries α → Entries α
  | [] => [(key, value)]
  | (other, old) :: rest =>
    if other = key then (key, value) :: rest else (other, old) :: write key value rest

def erase (key : Text) : Entries α → Entries α
  | [] => []
  | (other, value) :: rest => if other = key then rest else (other, value) :: erase key rest

def extract (key : Text) : Entries α → Option α × Entries α
  | [] => (none, [])
  | (other, value) :: rest =>
    if other = key then (some value, rest)
    else
      let (found, left) := extract key rest
      (found, (other, value) :: left)

/-- Change the value under a key in its place; nothing happens where the key is not. -/
def alter (key : Text) (change : α → α) : Entries α → Entries α
  | [] => []
  | (other, value) :: rest =>
    if other = key then (other, change value) :: rest
    else (other, value) :: alter key change rest

def writeAll (added : Entries α) (entries : Entries α) : Entries α :=
  added.foldl (fun result entry => write entry.1 entry.2 result) entries

/-- Entries written one after the other, so the last value of a repeated key stays in its first
place. -/
def ofList (added : List (Text × α)) : Entries α := writeAll added []

def keys (entries : Entries α) : List Text := entries.map Prod.fst

/-- Put an entry where its key belongs by the order of texts, unless the key is present. -/
def insertSorted (key : Text) (value : α) : Entries α → Entries α
  | [] => [(key, value)]
  | (other, present) :: rest =>
    if key = other then (other, present) :: rest
    else if Text.precedes key other then (key, value) :: (other, present) :: rest
    else (other, present) :: insertSorted key value rest

/-- The entries by the order of their keys, the last of each repeated key. -/
def sorted : List (Text × α) → Entries α
  | [] => []
  | (key, value) :: rest => insertSorted key value (sorted rest)

theorem find?_write (key other : Text) (value : α) (entries : Entries α) :
    find? other (write key value entries) =
      if key = other then some value else find? other entries := by
  induction entries with
  | nil => simp [write, find?]
  | cons entry rest ih =>
    obtain ⟨name, old⟩ := entry
    simp only [write]
    split
    · rename_i same
      subst same
      by_cases here : name = other <;> simp [find?, here]
    · rename_i different
      simp only [find?, ih]
      by_cases here : name = other
      · subst here
        simp [Ne.symm different]
      · simp [here]

theorem extract_eq (key : Text) (entries : Entries α) :
    extract key entries = (find? key entries, erase key entries) := by
  induction entries with
  | nil => rfl
  | cons entry rest ih =>
    obtain ⟨name, value⟩ := entry
    simp only [extract, find?, erase, ih]
    split <;> rfl

/-- A change in place is a present value that is written again. -/
theorem alter_eq (key : Text) (change : α → α) (entries : Entries α) :
    alter key change entries =
      match find? key entries with
      | some value => write key (change value) entries
      | none => entries := by
  induction entries with
  | nil => rfl
  | cons entry rest ih =>
    obtain ⟨name, value⟩ := entry
    by_cases same : name = key
    · simp [alter, find?, write, same]
    · simp only [alter, find?, write, same, ↓reduceIte, ih]
      cases find? key rest <;> rfl

theorem find?_isSome_iff (key : Text) (entries : Entries α) :
    (find? key entries).isSome = true ↔ key ∈ keys entries := by
  induction entries with
  | nil => simp [find?, keys]
  | cons entry rest ih =>
    simp only [find?, keys, List.map_cons, List.mem_cons]
    by_cases same : entry.1 = key
    · simp [same]
    · simpa [same, Ne.symm same, keys] using ih

theorem mem_of_find? {key : Text} {value : α} {entries : Entries α}
    (found : find? key entries = some value) : (key, value) ∈ entries := by
  induction entries with
  | nil => cases found
  | cons entry rest ih =>
    obtain ⟨name, present⟩ := entry
    simp only [find?] at found
    split at found
    · rename_i same
      cases found
      simp [same]
    · exact List.mem_cons_of_mem _ (ih found)

theorem mem_write {key : Text} {value : α} {entry : Text × α} {entries : Entries α}
    (member : entry ∈ write key value entries) : entry = (key, value) ∨ entry ∈ entries := by
  induction entries with
  | nil => exact .inl (List.mem_singleton.mp member)
  | cons first rest ih =>
    obtain ⟨name, old⟩ := first
    simp only [write] at member
    split at member
    · rcases List.mem_cons.mp member with here | later
      · exact .inl here
      · exact .inr (List.mem_cons_of_mem _ later)
    · rcases List.mem_cons.mp member with here | later
      · exact .inr (here ▸ List.mem_cons_self)
      · rcases ih later with written | kept
        · exact .inl written
        · exact .inr (List.mem_cons_of_mem _ kept)

/-- Writing keeps every key in its place and adds at most the new one at the end. -/
theorem keys_write (key : Text) (value : α) (entries : Entries α) :
    keys (write key value entries) =
      if key ∈ keys entries then keys entries else keys entries ++ [key] := by
  induction entries with
  | nil => simp [write, keys]
  | cons entry rest ih =>
    obtain ⟨name, old⟩ := entry
    simp only [write]
    by_cases same : name = key
    · simp [same, keys]
    · simp only [keys] at ih
      by_cases present : key ∈ rest.map Prod.fst <;>
        simp [same, keys, Ne.symm same, ih, present]

theorem keys_prefix_write (key : Text) (value : α) (entries : Entries α) :
    keys entries <+: keys (write key value entries) := by
  rw [keys_write]
  split
  · exact List.prefix_rfl
  · exact List.prefix_append _ _

theorem keys_alter (key : Text) (change : α → α) (entries : Entries α) :
    keys (alter key change entries) = keys entries := by
  induction entries with
  | nil => rfl
  | cons entry rest ih =>
    obtain ⟨name, value⟩ := entry
    by_cases same : name = key
    · simp [alter, keys, same]
    · simp only [keys] at ih
      simp [alter, keys, same, ih]

theorem keys_erase (key : Text) (entries : Entries α) :
    keys (erase key entries) = (keys entries).erase key := by
  induction entries with
  | nil => rfl
  | cons entry rest ih =>
    obtain ⟨other, value⟩ := entry
    by_cases same : other = key
    · simp [erase, keys, same]
    · simp only [keys] at ih
      simp [erase, keys, same, ih]

variable {entries : Entries α}

theorem nodup_keys_write (distinct : (keys entries).Nodup) (key : Text) (value : α) :
    (keys (write key value entries)).Nodup := by
  rw [keys_write]
  by_cases present : key ∈ keys entries
  · rwa [if_pos present]
  · rw [if_neg present, List.nodup_append]
    refine ⟨distinct, by simp, ?_⟩
    rintro other listed _ here rfl
    exact present (List.mem_singleton.mp here ▸ listed)

theorem nodup_keys_writeAll (distinct : (keys entries).Nodup) (added : Entries α) :
    (keys (writeAll added entries)).Nodup := by
  unfold writeAll
  induction added generalizing entries with
  | nil => exact distinct
  | cons entry rest ih => exact ih (nodup_keys_write distinct entry.1 entry.2)

theorem nodup_keys_alter (distinct : (keys entries).Nodup) (key : Text) (change : α → α) :
    (keys (alter key change entries)).Nodup := by
  rwa [keys_alter]

theorem nodup_keys_erase (distinct : (keys entries).Nodup) (key : Text) :
    (keys (erase key entries)).Nodup := by
  rw [keys_erase]
  exact distinct.erase key

end Entries

end TagWeave
