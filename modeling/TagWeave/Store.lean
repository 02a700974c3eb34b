import TagWeave.Value.Text

/-! The store of one rendering: what names stand for, in the order in which they were first
bound. -/
namespace TagWeave

@[ext]
structure Store where
  entries : Entries Value
  distinct : (Entries.keys entries).Nodup

namespace Store

def empty : Store := ⟨[], List.nodup_nil⟩

def get? (store : Store) (key : Text) : Option Value := Entries.find? key store.entries

def has (store : Store) (key : Text) : Bool := (store.get? key).isSome

/-- Bind a name, in its place if it is bound already. -/
def set (store : Store) (key : Text) (value : Value) : Store :=
  ⟨Entries.write key value store.entries, Entries.nodup_keys_write store.distinct key value⟩

def delete (store : Store) (key : Text) : Store :=
  ⟨Entries.erase key store.entries, Entries.nodup_keys_erase store.distinct key⟩

def remove (store : Store) (key : Text) : Bool × Store :=
  let taken := Entries.extract key store.entries
  (taken.1.isSome, ⟨taken.2, by
    simp only [taken, Entries.extract_eq]
    exact Entries.nodup_keys_erase store.distinct key⟩)

def change (store : Store) (key : Text) (alter : Value → Value) : Store :=
  ⟨Entries.alter key alter store.entries, Entries.nodup_keys_alter store.distinct key alter⟩

def keys (store : Store) : List Text := Entries.keys store.entries

def values (store : Store) : List Value := store.entries.map Prod.snd

def size (store : Store) : Nat := store.entries.length

def extend (store : Store) (named : List (Text × Value)) : Store :=
  ⟨Entries.writeAll named store.entries, Entries.nodup_keys_writeAll store.distinct named⟩

def ofNamed (named : List (Text × Value)) : Store := empty.extend named

/-- A store of values named by their positions `0`, `1`, and so on. -/
def ofValues (values : List Value) : Store where
  entries := values.zipIdx.map fun entry => (Text.ofNat entry.2, entry.1)
  distinct := by
    have keys : Entries.keys (values.zipIdx.map fun entry => (Text.ofNat entry.2, entry.1)) =
        (List.range values.length).map Text.ofNat := by
      rw [Entries.keys, List.map_map, List.range_eq_range', ← List.zipIdx_map_snd, List.map_map]
      rfl
    rw [keys]
    exact List.Pairwise.map Text.ofNat
      (fun _ _ different same => different (Text.eq_of_ofNat_eq same)) List.nodup_range

/-- A store of JSON: an array by position, an object by name, anything else empty. -/
def ofJson (json : Json) : Store :=
  match json with
  | .array items => ofValues (Value.itemsOfJson items)
  | .object members => ofNamed (Value.entriesOfJson members)
  | _ => empty

@[simp] theorem get?_set (store : Store) (key other : Text) (value : Value) :
    (store.set key value).get? other = if key = other then some value else store.get? other :=
  Entries.find?_write key other value store.entries

theorem remove_eq (store : Store) (key : Text) :
    store.remove key = (store.has key, store.delete key) := by
  simp only [remove, Entries.extract_eq]
  rfl

theorem change_eq (store : Store) (key : Text) (alter : Value → Value) :
    store.change key alter =
      match store.get? key with
      | some value => store.set key (alter value)
      | none => store := by
  apply Store.ext
  refine (Entries.alter_eq key alter store.entries).trans ?_
  rw [get?]
  cases Entries.find? key store.entries <;> rfl

theorem mem_values_of_get? {store : Store} {key : Text} {value : Value}
    (bound : store.get? key = some value) : value ∈ store.values :=
  List.mem_map_of_mem (f := Prod.snd) (Entries.mem_of_find? bound)

theorem mem_values_set {store : Store} {key : Text} {value other : Value}
    (member : other ∈ (store.set key value).values) : other = value ∨ other ∈ store.values := by
  obtain ⟨entry, listed, rfl⟩ := List.mem_map.mp member
  rcases Entries.mem_write listed with written | kept
  · exact .inl (congrArg Prod.snd written)
  · exact .inr (List.mem_map_of_mem kept)

theorem keys_set (store : Store) (key : Text) (value : Value) :
    (store.set key value).keys = if key ∈ store.keys then store.keys else store.keys ++ [key] :=
  Entries.keys_write key value store.entries

end Store

end TagWeave
