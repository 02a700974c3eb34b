import Mathlib.Data.List.Forall2
import Mathlib.Data.List.Zip
import TagWeave.Proofs.Value.Correspondence
import TagWeave.Store

/-! Values up to the order of entries. Two values are alike if they differ at most in the order in
which the entries of objects were written, at any depth. Alike values have one text and one JSON, and
what is written under the same key of alike objects leaves them alike. -/
namespace TagWeave

/-- Values that differ at most in the order of entries. No function is alike anything, and objects
have each key once. -/
inductive Value.Alike : Value → Value → Prop where
  | text (value : Text) : Alike (.text value) (.text value)
  | number (value : Double) : Alike (.number value) (.number value)
  | bool (value : Bool) : Alike (.bool value) (.bool value)
  | list {items others : List Value} (length : items.length = others.length)
      (inside : ∀ item other, (item, other) ∈ items.zip others → Alike item other) :
      Alike (.list items) (.list others)
  | object {entries others : Entries Value} (distinct : (Entries.keys entries).Nodup)
      (others_distinct : (Entries.keys others).Nodup)
      (keys : ∀ key, key ∈ Entries.keys entries ↔ key ∈ Entries.keys others)
      (inside : ∀ key value other, Entries.find? key entries = some value →
        Entries.find? key others = some other → Alike value other) :
      Alike (.object entries) (.object others)

/-- Stores that are alike as objects: the same names are bound, to values that are alike. -/
def Store.Alike (store other : Store) : Prop :=
  Value.Alike (.object store.entries) (.object other.entries)

variable {key name : Text} {value twin : Value} {items others : List Value}
  {entries twins : Entries Value} {store other : Store}

namespace Value

theorem alike_list_iff : Alike (.list items) (.list others) ↔ List.Forall₂ Alike items others := by
  rw [List.forall₂_iff_zip]
  constructor
  · intro alike
    cases alike with
    | list length inside => exact ⟨length, fun member => inside _ _ member⟩
  · rintro ⟨length, inside⟩
    exact .list length fun item other member => inside member

theorem alike_append (alike : Alike (.list items) (.list others)) (last : Alike value twin) :
    Alike (.list (items ++ [value])) (.list (others ++ [twin])) := by
  rw [alike_list_iff] at alike ⊢
  exact List.rel_append alike (.cons last .nil)

theorem alike_set (alike : Alike (.list items) (.list others)) (index : Nat)
    (new : Alike value twin) : Alike (.list (items.set index value)) (.list (others.set index twin)) := by
  rw [alike_list_iff] at alike ⊢
  induction alike generalizing index with
  | nil => exact .nil
  | cons here later ih =>
    cases index with
    | zero => exact .cons new later
    | succ index => exact .cons here (ih index)

theorem Alike.look (alike : Alike (.object entries) (.object twins)) (key : Text) :
    Option.Rel Alike (Entries.find? key entries) (Entries.find? key twins) := by
  cases alike with
  | object _ _ keys inside => exact Entries.look_iff.mpr ⟨keys, inside⟩ key

theorem alike_object_of_look (distinct : (Entries.keys entries).Nodup)
    (others_distinct : (Entries.keys twins).Nodup)
    (look : ∀ key, Option.Rel Alike (Entries.find? key entries) (Entries.find? key twins)) :
    Alike (.object entries) (.object twins) := by
  obtain ⟨keys, inside⟩ := Entries.look_iff.mp look
  exact .object distinct others_distinct keys inside

/-- Objects are alike if each entry of the one has its like under the same key of the other. -/
theorem alike_object_of_members (distinct : (Entries.keys entries).Nodup)
    (others_distinct : (Entries.keys twins).Nodup)
    (there : ∀ entry ∈ entries, ∃ twin, (entry.1, twin) ∈ twins ∧ Alike entry.2 twin)
    (back : ∀ key ∈ Entries.keys twins, key ∈ Entries.keys entries) :
    Alike (.object entries) (.object twins) := by
  apply alike_object_of_look distinct others_distinct
  intro key
  cases found : Entries.find? key entries with
  | none =>
    have absent : Entries.find? key twins = none := by
      rw [Entries.find?_eq_none_iff] at found ⊢
      exact fun listed => found (back key listed)
    rw [absent]
    exact .none
  | some value =>
    obtain ⟨twin, member, together⟩ := there _ (Entries.mem_of_find? found)
    rw [(Entries.mem_iff_find? others_distinct).mp member]
    exact .some together

theorem Alike.distinct (alike : Alike (.object entries) (.object twins)) :
    (Entries.keys entries).Nodup ∧ (Entries.keys twins).Nodup := by
  cases alike with
  | object distinct others_distinct _ _ => exact ⟨distinct, others_distinct⟩

theorem Alike.write (alike : Alike (.object entries) (.object twins)) (key : Text)
    (new : Alike value twin) :
    Alike (.object (Entries.write key value entries)) (.object (Entries.write key twin twins)) := by
  obtain ⟨distinct, others_distinct⟩ := alike.distinct
  apply alike_object_of_look (Entries.nodup_keys_write distinct key value)
    (Entries.nodup_keys_write others_distinct key twin)
  intro name
  rw [Entries.find?_write, Entries.find?_write]
  by_cases here : key = name
  · rw [if_pos here, if_pos here]
    exact .some new
  · rw [if_neg here, if_neg here]
    exact alike.look name

theorem Alike.isFunction (alike : Alike value twin) : value.isFunction = false := by
  cases alike <;> rfl

theorem Alike.symm (alike : Alike value twin) : Alike twin value := by
  induction alike with
  | text value => exact .text value
  | number value => exact .number value
  | bool value => exact .bool value
  | @list items others length _ ih =>
    refine .list length.symm fun item other member => ih other item ?_
    have swapped := List.mem_map_of_mem (f := Prod.swap) member
    rwa [List.zip_swap] at swapped
  | object distinct others_distinct keys _ ih =>
    exact .object others_distinct distinct (fun key => (keys key).symm) fun key value other found met =>
      ih key other value met found

/-- Values that are alike correspond, with identical numbers. -/
theorem Alike.corresponds (alike : Alike value twin) : Corresponds (· = ·) value twin := by
  induction alike with
  | text value => exact .text value
  | number value => exact .number rfl
  | bool value => exact .bool value
  | list length _ ih =>
    refine .list length fun index item other found met => ih item other ?_
    exact List.mem_of_getElem? (List.getElem?_zip_eq_some.mpr ⟨found, met⟩)
  | object distinct others_distinct keys _ ih => exact .object distinct others_distinct keys ih

theorem Alike.toJson (alike : Alike value twin) : value.toJson = twin.toJson :=
  alike.corresponds.toJson fun _ _ same => congrArg numberToJson same

theorem Alike.toText (alike : Alike value twin) : value.toText = twin.toText :=
  alike.corresponds.toText (fun _ _ same => congrArg numberToJson same)
    fun _ _ same => congrArg Double.text same

theorem Alike.length (alike : Alike (.list items) (.list others)) : items.length = others.length := by
  cases alike with
  | list length _ => exact length

/-- The items of lists that are alike have the same texts in the same order. -/
theorem Alike.texts (alike : Alike (.list items) (.list others)) :
    items.map Value.toText = others.map Value.toText := by
  have pairs := alike_list_iff.mp alike
  rw [← List.forall₂_eq_eq_eq, List.forall₂_map_left_iff, List.forall₂_map_right_iff]
  exact pairs.imp fun _ _ together => together.toText

end Value

namespace Store.Alike

theorem look (alike : store.Alike other) (name : Text) :
    Option.Rel Value.Alike (store.get? name) (other.get? name) :=
  Value.Alike.look alike name

theorem set (alike : store.Alike other) (name : Text) (new : value.Alike twin) :
    (store.set name value).Alike (other.set name twin) :=
  Value.Alike.write alike name new

end Store.Alike

end TagWeave
