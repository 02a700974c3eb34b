import Mathlib.Data.List.Perm.Subperm
import TagWeave.Proofs.Number.Exact
import TagWeave.Proofs.Value.Correspondence

/-! Equality of values. Objects are compared from one side, entry by entry and by their number of
entries; as keys are there once, that is the correspondence of values with equal numbers. So equality
is a partial equivalence, it does not see the order of entries, and what is equal looks the same. -/
namespace TagWeave.Value

variable {first second third : Value} {items others : List Value} {entries twins : Entries Value}

abbrev Equal : Value → Value → Prop := Corresponds fun m n => m.same n = true

/-- Values that differ at most in the order of entries, at any depth. -/
def Rearranged : Value → Value → Prop := Corresponds (· = ·)

def isNan : Value → Bool
  | .number n => n.isNan
  | .text _ | .bool _ | .list _ | .object _ | .function _ => false

theorem sameItems_iff :
    sameItems items others = true ↔
      ∀ index : Nat, Option.Rel (fun item other => same item other = true) items[index]? others[index]? := by
  rw [getElem?_rel_iff]
  induction items generalizing others with
  | nil => cases others <;> simp [sameItems]
  | cons item rest ih =>
    cases others with
    | nil => simp [sameItems]
    | cons other later =>
      simp only [sameItems, Bool.and_eq_true, ih, List.length_cons, Nat.add_right_cancel_iff]
      constructor
      · rintro ⟨here, length, inside⟩
        refine ⟨length, ?_⟩
        rintro (_ | index) value twin found met
        · cases found
          cases met
          exact here
        · exact inside index value twin found met
      · rintro ⟨length, inside⟩
        exact ⟨inside 0 item other rfl rfl, length, fun index => inside (index + 1)⟩

/-- Every entry on the left has its equal under the same key on the right. -/
theorem sameEntries_iff :
    sameEntries entries twins = true ↔
      ∀ entry ∈ entries, ∃ twin, Entries.find? entry.1 twins = some twin ∧ same entry.2 twin = true := by
  induction entries with
  | nil => simp [sameEntries]
  | cons entry rest ih =>
    obtain ⟨key, value⟩ := entry
    rw [sameEntries, Bool.and_eq_true, ih, List.forall_mem_cons]
    cases Entries.find? key twins <;> simp

theorem keys_subset_of_sameEntries (equal : sameEntries entries twins = true) :
    Entries.keys entries ⊆ Entries.keys twins := by
  intro key listed
  obtain ⟨entry, member, rfl⟩ := List.mem_map.mp listed
  obtain ⟨twin, met, -⟩ := sameEntries_iff.mp equal entry member
  exact (Entries.find?_isSome_iff entry.1 twins).mp (by simp [met])

/-- One-sided comparison and the number of entries make the lookups on both sides equal. -/
theorem same_object_iff (distinct : (Entries.keys entries).Nodup)
    (twins_distinct : (Entries.keys twins).Nodup) :
    same (.object entries) (.object twins) = true ↔
      ∀ key, Option.Rel (fun value twin => same value twin = true)
        (Entries.find? key entries) (Entries.find? key twins) := by
  rw [Entries.look_iff, same, Bool.and_eq_true, beq_iff_eq]
  have keys_length (row : Entries Value) : (Entries.keys row).length = row.length := List.length_map _
  constructor
  · rintro ⟨length, equal⟩
    have among : (Entries.keys entries).Subperm (Entries.keys twins) :=
      List.subperm_of_subset distinct (keys_subset_of_sameEntries equal)
    have perm := among.perm_of_length_le (by rw [keys_length, keys_length, length])
    refine ⟨fun key => perm.mem_iff, ?_⟩
    intro key value twin found met
    obtain ⟨other, reached, here⟩ := sameEntries_iff.mp equal _ (Entries.mem_of_find? found)
    rw [met] at reached
    cases reached
    exact here
  · rintro ⟨keys, inside⟩
    have perm := (List.perm_ext_iff_of_nodup distinct twins_distinct).mpr keys
    refine ⟨by rw [← keys_length, ← keys_length, perm.length_eq], sameEntries_iff.mpr ?_⟩
    rintro ⟨key, value⟩ member
    have listed := (keys key).mp (List.mem_map_of_mem (f := Prod.fst) member)
    obtain ⟨twin, met⟩ := Option.isSome_iff_exists.mp ((Entries.find?_isSome_iff key twins).mpr listed)
    exact ⟨twin, met, inside key value twin ((Entries.mem_iff_find? distinct).mp member) met⟩

theorem Equal.same (equal : Equal first second) : first.same second = true := by
  induction equal with
  | text | bool | function => simp [Value.same]
  | number together => exact together
  | list length _ ih =>
    rw [Value.same]
    exact sameItems_iff.mpr (getElem?_rel_iff.mpr ⟨length, ih⟩)
  | object distinct twins_distinct keys _ ih =>
    exact (same_object_iff distinct twins_distinct).mpr (Entries.look_iff.mpr ⟨keys, ih⟩)

theorem Distinct.equal_of_same (distinct : first.Distinct) (other_distinct : second.Distinct)
    (same : first.same second = true) : Equal first second := by
  induction distinct generalizing second with
  | @intro first once _ ih =>
    obtain ⟨other_once, others⟩ := everywhere_iff.mp other_distinct
    cases first with
    | text value =>
      cases second <;> simp [Value.same] at same
      subst same
      exact .text value
    | number m =>
      cases second <;> simp [Value.same] at same
      exact .number same
    | bool value =>
      cases second <;> simp [Value.same] at same
      subst same
      exact .bool value
    | list items =>
      cases second <;> simp [Value.same] at same
      obtain ⟨length, inside⟩ := getElem?_rel_iff.mp (sameItems_iff.mp same)
      refine .list length fun index item other found met => ?_
      exact ih item (List.mem_of_getElem? found) (others other (List.mem_of_getElem? met))
        (inside index item other found met)
    | object entries =>
      cases second with
      | object twins =>
        -- The comparison looks from one side alone; it reaches both because no key stands twice.
        obtain ⟨keys, inside⟩ := Entries.look_iff.mp ((same_object_iff once other_once).mp same)
        refine .object once other_once keys fun key value twin found met => ?_
        exact ih value (mem_parts_of_find? found) (others twin (mem_parts_of_find? met))
          (inside key value twin found met)
      | text | number | bool | list | function => simp [Value.same] at same
    | function reference =>
      cases second <;> simp [Value.same] at same
      subst same
      exact .function reference

/-- Values are equal exactly if they correspond with equal numbers. -/
theorem same_iff (distinct : first.Distinct) (other_distinct : second.Distinct) :
    first.same second = true ↔ Equal first second :=
  ⟨distinct.equal_of_same other_distinct, Equal.same⟩

private theorem exists_forall₂ {α β : Type} {related : α → β → Prop} {row : List α}
    (each : ∀ value ∈ row, ∃ twin, related value twin) : ∃ twins, List.Forall₂ related row twins := by
  induction row with
  | nil => exact ⟨[], .nil⟩
  | cons value rest ih =>
    obtain ⟨twin, here⟩ := each value List.mem_cons_self
    obtain ⟨twins, later⟩ := ih fun other listed => each other (List.mem_cons_of_mem _ listed)
    exact ⟨twin :: twins, .cons here later⟩

private theorem exists_of_forall₂ {α β : Type} {related : α → β → Prop} {row : List α} {twins : List β}
    {value : α} (pairs : List.Forall₂ related row twins) (listed : value ∈ row) :
    ∃ twin ∈ twins, related value twin := by
  induction pairs with
  | nil => cases listed
  | @cons first twin _ _ here _ ih =>
    rcases List.mem_cons.mp listed with rfl | later
    · exact ⟨twin, List.mem_cons_self, here⟩
    · obtain ⟨other, member, together⟩ := ih later
      exact ⟨other, List.mem_cons_of_mem _ member, together⟩

/-- Objects are equal exactly if they have the same entries, put in some order. -/
theorem same_object_iff_perm (distinct : (Entries.keys entries).Nodup)
    (twins_distinct : (Entries.keys twins).Nodup) :
    same (.object entries) (.object twins) = true ↔
      ∃ arranged, arranged.Perm twins ∧
        List.Forall₂ (fun entry twin => entry.1 = twin.1 ∧ same entry.2 twin.2 = true)
          entries arranged := by
  rw [same, Bool.and_eq_true, beq_iff_eq, sameEntries_iff]
  constructor
  · rintro ⟨length, equal⟩
    have each : ∀ entry ∈ entries, ∃ twin : Text × Value,
        twin ∈ twins ∧ entry.1 = twin.1 ∧ same entry.2 twin.2 = true := by
      intro entry member
      obtain ⟨twin, met, here⟩ := equal entry member
      exact ⟨(entry.1, twin), Entries.mem_of_find? met, rfl, here⟩
    obtain ⟨arranged, pairs⟩ := exists_forall₂ each
    have among : arranged ⊆ twins := ((List.forall₂_and_left _ _).mp pairs.flip).1
    have keys : Entries.keys entries = Entries.keys arranged := by
      rw [Entries.keys, Entries.keys, ← List.forall₂_eq_eq_eq, List.forall₂_map_left_iff,
        List.forall₂_map_right_iff]
      exact pairs.imp fun _ _ together => together.2.1
    have arranged_distinct : (Entries.keys arranged).Nodup := keys ▸ distinct
    have subperm := List.subperm_of_subset (.of_map Prod.fst arranged_distinct) among
    exact ⟨arranged, subperm.perm_of_length_le (by rw [← length, pairs.length_eq]),
      pairs.imp fun _ _ together => together.2⟩
  · rintro ⟨arranged, perm, pairs⟩
    refine ⟨pairs.length_eq.trans perm.length_eq, ?_⟩
    intro entry member
    obtain ⟨twin, listed, same_key, here⟩ := exists_of_forall₂ pairs member
    refine ⟨twin.2, ?_, here⟩
    rw [same_key]
    exact (Entries.mem_iff_find? twins_distinct).mp (perm.mem_iff.mp listed)

theorem numberToJson_of_same {m n : Double} (equal : m.same n = true) :
    numberToJson m = numberToJson n := by
  have of_zero {l : Double} (zero : l.isZero = true) : numberToJson l = .number (.integer 0) := by
    cases l with
    | nan => cases zero
    | signed negative rank =>
      simp only [Double.isZero, beq_iff_eq] at zero
      have units : (Double.signed negative rank).units = 0 := Double.unitsOfRank_eq_zero_iff.mpr zero
      have finite : (Double.signed negative rank).isFinite = true := by
        simp [Double.isFinite, Double.isNan, Double.isInfinite, zero, topRank, rankBlock]
      simp [numberToJson, Double.isIntegral, Double.whole, units, finite]
  rcases Double.eq_or_isZero_of_same equal with rfl | ⟨zero, other_zero⟩
  · rfl
  · rw [of_zero zero, of_zero other_zero]

theorem text_of_same {m n : Double} (equal : m.same n = true) : m.text = n.text := by
  have of_zero {l : Double} (zero : l.isZero = true) : l.text = ['0'] := by
    cases l with
    | nan => cases zero
    | signed negative rank =>
      simp only [Double.isZero, beq_iff_eq] at zero
      simp [Double.text, zero, topRank, rankBlock]
  rcases Double.eq_or_isZero_of_same equal with rfl | ⟨zero, other_zero⟩
  · rfl
  · rw [of_zero zero, of_zero other_zero]

theorem Equal.symm (equal : Equal first second) : Equal second first :=
  Corresponds.symm (fun m n together => Double.same_symm m n ▸ together) equal

theorem Equal.trans (left : Equal first second) (right : Equal second third) : Equal first third := by
  have compose (l m n : Double) : l.same m = true → m.same n = true → l.same n = true :=
    Double.same_trans
  exact Corresponds.comp compose left right

/-- In values that differ in the order of entries alone, only what is no number stands in the way of
equality. -/
theorem Rearranged.same_iff (rearranged : first.Rearranged second) :
    first.same second = true ↔ first.Everywhere fun part => part.isNan = false := by
  have distinct := Corresponds.distinct rearranged
  have other_distinct := Corresponds.distinct (Corresponds.symm (fun _ _ => Eq.symm) rearranged)
  constructor
  · intro same
    refine (distinct.equal_of_same other_distinct same).everywhere.imp ?_
    rintro part ⟨-, numbers⟩
    cases part with
    | number m =>
      obtain ⟨n, equal⟩ := numbers m rfl
      cases m with
      | nan => cases equal
      | signed _ _ => rfl
    | text | bool | list | object | function => rfl
  · intro numbers
    have self : Equal first first := by
      refine corresponds_self distinct (numbers.imp ?_)
      rintro _ number n rfl
      rw [Double.same_self, show n.isNan = false from number]
      rfl
    have compose : ∀ l m n : Double, l.same m = true → m = n → l.same n = true := by
      rintro l m _ equal rfl
      exact equal
    exact Equal.same (Corresponds.comp compose self rearranged)

theorem Distinct.rearranged (distinct : first.Distinct) : first.Rearranged first :=
  corresponds_self distinct (distinct.imp fun _ _ _ _ => rfl)

/-- Equality of values is a partial equivalence that their texts respect. It is symmetric and
transitive. A value equals itself, and any value that differs from it in the order of entries alone,
exactly if nothing in it is no number; objects are equal exactly if they have equal entries in some
order. What is equal has one text and one JSON. -/
theorem same_partial_equivalence (first second third : Value) (first_distinct : first.Distinct)
    (second_distinct : second.Distinct) (third_distinct : third.Distinct) :
    first.same second = second.same first ∧
    (first.same second = true → second.same third = true → first.same third = true) ∧
    (first.same first = true ↔ first.Everywhere fun part => part.isNan = false) ∧
    (first.Rearranged second →
      (first.same second = true ↔ first.Everywhere fun part => part.isNan = false)) ∧
    (∀ entries twins, first = .object entries → second = .object twins →
      (first.same second = true ↔ ∃ arranged, arranged.Perm twins ∧
        List.Forall₂ (fun entry twin => entry.1 = twin.1 ∧ entry.2.same twin.2 = true)
          entries arranged)) ∧
    (first.same second = true → first.toText = second.toText ∧ first.toJson = second.toJson) := by
  refine ⟨?_, ?_, first_distinct.rearranged.same_iff, Rearranged.same_iff, ?_, ?_⟩
  · rw [Bool.eq_iff_iff, Value.same_iff first_distinct second_distinct,
      Value.same_iff second_distinct first_distinct]
    exact ⟨Equal.symm, Equal.symm⟩
  · intro left right
    have equal := (first_distinct.equal_of_same second_distinct left).trans
      (second_distinct.equal_of_same third_distinct right)
    exact equal.same
  · rintro entries twins rfl rfl
    exact same_object_iff_perm (distinct_object_iff.mp first_distinct).1
      (distinct_object_iff.mp second_distinct).1
  · intro same
    have equal := first_distinct.equal_of_same second_distinct same
    exact ⟨Corresponds.toText (fun _ _ => numberToJson_of_same) (fun _ _ => text_of_same) equal,
      Corresponds.toJson (fun _ _ => numberToJson_of_same) equal⟩

/-- The two zeros under one key, and entries in another order two levels down. -/
theorem same_partial_equivalence_zeros :
    ∃ first second : Value,
      first = .object [(['n'], .number (.zeroOf false)),
        (['l'], .list [.object [(['a'], .bool true), (['f'], .function (.host 0))]])] ∧
      second = .object [(['l'], .list [.object [(['f'], .function (.host 0)), (['a'], .bool true)]]),
        (['n'], .number (.zeroOf true))] ∧
      first.Distinct ∧ second.Distinct ∧ first.same second = true ∧ second.same first = true ∧
      first.toText = second.toText ∧ first.toJson = second.toJson := by
  refine ⟨_, _, rfl, rfl, ?_⟩
  generalize first_eq : Value.object _ = first
  generalize second_eq : Value.object _ = second
  have first_distinct : first.Distinct := by
    subst first_eq
    simp [Distinct, everywhere_object_iff, everywhere_list_iff, KeysOnce, Entries.keys]
  have second_distinct : second.Distinct := by
    subst second_eq
    simp [Distinct, everywhere_object_iff, everywhere_list_iff, KeysOnce, Entries.keys]
  have equal : first.same second = true := by
    subst first_eq second_eq
    decide +kernel
  obtain ⟨symmetric, -, -, -, -, looks⟩ :=
    same_partial_equivalence first second first first_distinct second_distinct first_distinct
  exact ⟨first_distinct, second_distinct, equal, symmetric ▸ equal, looks equal⟩

end TagWeave.Value
