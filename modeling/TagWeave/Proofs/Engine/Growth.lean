import Mathlib.Tactic.Ring
import TagWeave.Proofs.Engine.OutcomeInvariant
import TagWeave.Proofs.Engine.Squaring
import TagWeave.Proofs.Tag.Effects
import TagWeave.Proofs.Value.Extent

/-! How fast a text can grow while it is rendered. A list can be joined with a separator as long as
the list, and the result bound to a name and joined again; so one evaluation can square what there is,
and no evaluation can do more. -/
namespace TagWeave

/-- No value of the store is greater than `size`. -/
def Store.Within (store : Store) (size : Nat) : Prop := ∀ value ∈ store.values, value.extent ≤ size

variable {callable : Builtin → Prop} {store left final : Store} {content replacement name : Text}
  {size larger : Nat} {value : Value}

namespace Store.Within

theorem empty (size : Nat) : Store.empty.Within size := by
  intro value member
  cases member

theorem mono (within : store.Within size) (grown : size ≤ larger) : store.Within larger :=
  fun value member => (within value member).trans grown

theorem get? (within : store.Within size) (bound : store.get? name = some value) :
    value.extent ≤ size :=
  within value (mem_values_of_get? bound)

theorem set (within : store.Within size) (name : Text) (new : value.extent ≤ size) :
    (store.set name value).Within size := by
  intro other member
  rcases mem_values_set member with rfl | kept
  · exact new
  · exact within other kept

theorem holds (within : store.Within size) (held : store.Holds value) : value.extent ≤ size := by
  cases held with
  | bound bound => exact within.get? bound
  | entry bound found =>
    have whole := within.get? bound
    have part := Value.extent_le_of_find? found
    simp only [Value.extent] at whole
    omega

theorem items {items : List Value} (within : store.Within size)
    (bound : store.get? name = some (.list items)) : Value.itemsExtent items + 2 ≤ size := by
  simpa only [Value.extent] using within.get? bound

theorem pushed (within : store.Within size) (name : Text) :
    (Builtin.pushed name store).extent ≤ size + (6 * name.length + 2) := by
  unfold Builtin.pushed
  cases bound : store.get? name with
  | none =>
    simp only [Option.getD_none, Value.extent]
    omega
  | some value =>
    have known := within.get? bound
    simp only [Option.getD_some]
    omega

theorem lengthOf (within : store.Within size) (positive : 0 < size) (name : Text) :
    Builtin.lengthOf name store < size := by
  unfold Builtin.lengthOf
  split
  · rename_i items bound
    have counted := Value.length_le_itemsExtent items
    have known := within.items bound
    omega
  · rename_i value bound
    have known := within.get? bound
    simp only [Value.extent] at known
    omega
  · exact positive

variable {part key separator : Text} {items picked : List Value} {entries : Entries Value}

theorem length_toText_le (within : store.Within size) (held : store.Holds value) :
    value.toText.length ≤ size :=
  (Value.length_toText_le value).trans (within.holds held)

theorem length_select_le (within : store.Within size) (bound : store.get? name = some (.list items))
    (among : picked.Sublist items) : (Value.join [' '] picked).length ≤ size := by
  have joined := Value.length_join_add_le [' '] picked
  have fewer := Value.itemsExtent_le_of_sublist among
  have known := within.items bound
  simp only [List.length_singleton] at joined
  omega

/-- A list has at most `size` items, and the separator is a part of the tag. -/
theorem length_join_le (within : store.Within size) (bound : store.get? name = some (.list items))
    (inside : separator.Sublist content) :
    (Value.join separator items).length ≤ size * (content.length + 1) := by
  have joined := Value.length_join_add_le separator items
  have counted := Value.length_le_itemsExtent items
  have known := within.items bound
  have between : items.length * separator.length ≤ size * content.length :=
    Nat.mul_le_mul (by omega) inside.length_le
  rw [Nat.mul_succ]
  omega

theorem extent_append_le (within : store.Within size) (bound : store.get? name = some (.list items))
    (shorter : part.length ≤ size) :
    (Value.list (items ++ [Builtin.pushed part store])).extent ≤ 400 * size := by
  have known := within.items bound
  have new := within.pushed part
  simp only [Value.extent, Value.itemsExtent_append, Value.itemsExtent]
  omega

theorem extent_slot_le (within : store.Within size) (bound : store.get? name = some (.list items))
    (index : Nat) (shorter : part.length ≤ size) :
    (Value.list (items.set index (.text part))).extent ≤ 400 * size := by
  have known := within.items bound
  have changed := Value.itemsExtent_set_le items index (.text part)
  simp only [Value.extent] at changed ⊢
  omega

theorem extent_entry_le (within : store.Within size) (bound : store.get? name = some (.object entries))
    (key_shorter : key.length ≤ size) (shorter : part.length ≤ size) :
    (Value.object (Entries.write key (.text part) entries)).extent ≤ 400 * size := by
  have known := within.get? bound
  have written := Value.entriesExtent_write_le key (.text part) entries
  simp only [Value.extent] at known written ⊢
  omega

end Store.Within

namespace Effect

/-- What a tag gives is at most `size` for each of its characters and one more. -/
theorem length_le (effect : Effect callable content store replacement left)
    (least : 400 ≤ size) (within : store.Within size) :
    replacement.length ≤ size * (content.length + 1) := by
  have once : size ≤ size * (content.length + 1) := Nat.le_mul_of_pos_right _ (Nat.succ_pos _)
  have thrice : 3 * (content.length + 1) ≤ size * (content.length + 1) :=
    Nat.mul_le_mul_right _ (by omega)
  cases effect with
  | part part =>
    have shorter := part.length_le
    omega
  | @upper part inside =>
    have longer := Text.length_upper_le part
    have shorter := inside.length_le
    omega
  | @lower part inside =>
    have longer := Text.length_lower_le part
    have shorter := inside.length_le
    omega
  | number n => exact (n.length_text_le.trans (by omega)).trans once
  | truth value =>
    have short : (Builtin.boolText value).length ≤ 5 := by cases value <;> decide
    omega
  | size name =>
    have short := Text.length_ofNat_le_succ (Builtin.lengthOf name store)
    have counted := within.lengthOf (by omega) name
    omega
  | missing => exact le_trans (by decide : "null".toList.length ≤ 5) (by omega)
  | read held => exact (within.length_toText_le held).trans once
  | select bound among => exact (within.length_select_le bound among).trans once
  | join bound inside => exact within.length_join_le bound inside
  | bind | vector | object | append | slot | entry => exact Nat.zero_le _

theorem within (effect : Effect callable content store replacement left)
    (least : 400 ≤ size) (inside : content.length + 2 ≤ size) (within : store.Within size) :
    left.Within (size * size) := by
  have square : 400 * size ≤ size * size := Nat.mul_le_mul_right _ least
  have grown : store.Within (size * size) := within.mono (by omega)
  have fits {part : Text} (among : part.Sublist content) : part.length ≤ size := by
    have shorter := among.length_le
    omega
  cases effect with
  | part | upper | lower | number | truth | size | missing | read | select | join => exact grown
  | bind _ part =>
    have shorter := fits part
    refine grown.set _ ?_
    simp only [Value.extent]
    omega
  | @vector name parts called part =>
    have shorter := fits part
    have bound := Value.itemsExtent_texts_le parts
    refine grown.set _ ?_
    simp only [Value.extent]
    omega
  | object called =>
    refine grown.set _ ?_
    simp only [Value.extent, Value.entriesExtent]
    omega
  | append bound part => exact grown.set _ ((within.extent_append_le bound (fits part)).trans square)
  | slot bound part => exact grown.set _ ((within.extent_slot_le bound _ (fits part)).trans square)
  | entry bound key part =>
    exact grown.set _ ((within.extent_entry_le bound (fits key) (fits part)).trans square)

end Effect

namespace Scope

variable {draw : Draw} {draws : Draws} {budget : Nat} {text next before after : Text}
  {report : Report}

/-- One evaluation at most squares the greater of the text and the values of the store. -/
theorem turn_extent (place : locate text = .tag before content after)
    (turned : standard.turn draw content text store = (next, left))
    (least : 400 ≤ size) (fits : text.length ≤ size) (within : store.Within size) :
    next.length ≤ size * size ∧ left.Within (size * size) := by
  obtain ⟨replacement, evaluated, rfl⟩ := (turn_eq_iff place).mp turned
  obtain ⟨rfl, -, -⟩ := locate_eq_tag_iff.mp place
  simp only [bracketed, List.length_append, List.length_cons, List.length_nil] at fits
  have effect : Effect (fun _ => True) content store (standard.evaluate draw content store).1
      (standard.evaluate draw content store).2 := evaluate_builtin_effect .standard draw content
  rw [evaluated] at effect
  have given : replacement.length ≤ size * (content.length + 1) :=
    effect.length_le least within
  refine ⟨?_, effect.within least (by omega) within⟩
  -- What stands around the tag is paid for by the factors that the tag cannot use.
  have room : size * (content.length + 2) ≤ size * size := Nat.mul_le_mul_left _ (by omega)
  rw [Nat.mul_succ] at room
  simp only [List.length_append]
  omega

theorem Renders.extent (rendered : standard.Renders budget draws text store report final)
    (least : 400 ≤ size) (fits : text.length ≤ size) (within : store.Within size) :
    report.output.length ≤ size ^ 2 ^ report.iterations ∧
      final.Within (size ^ 2 ^ report.iterations) := by
  induction rendered generalizing size with
  | finished _ => exact ⟨by simpa using fits, by simpa using within⟩
  | unopened _ => exact ⟨by simpa using fits, by simpa using within⟩
  | spent _ => exact ⟨by simpa using fits, by simpa using within⟩
  | fixed place turned =>
    have squared := turn_extent place turned least fits within
    rw [← pow_two] at squared
    simpa using squared
  | turn place turned _ _ ih =>
    obtain ⟨next_fits, left_within⟩ := turn_extent place turned least fits within
    have further := ih (least.trans (Nat.le_mul_self size)) next_fits left_within
    rwa [← pow_two, ← pow_mul, ← pow_succ', Nat.add_comm] at further

/-- The budget bounds the evaluations, and each of them at most squares what there is; so the output
is at most the greater of the template and 400, squared once for each evaluation. Growth of this
order does happen: with five evaluations for each squaring and two more, some templates give that
much. -/
theorem run_length_le_power :
    (∀ (budget : Nat) (draws : Draws) (text : Text),
      let report := (standard.run budget draws text .empty).1
      report.iterations ≤ budget ∧
      report.output.length ≤ max 400 text.length ^ 2 ^ report.iterations) ∧
    (∀ (seed rounds : Nat) (draws : Draws), ∃ text : Text,
      text.length = 30 * rounds + seed + 7 ∧
      (standard.run (5 * rounds + 2) draws text .empty).1.output.length = seed ^ 2 ^ rounds) := by
  constructor
  · intro budget draws text
    have rendered := standard.renders_run budget draws text .empty
    exact ⟨rendered.iterations_le, (rendered.extent (Nat.le_max_left _ _) (Nat.le_max_right _ _)
      (Store.Within.empty _)).1⟩
  · intro seed rounds draws
    refine ⟨(Squaring.template seed rounds).flatten,
      Squaring.length_flatten_template seed rounds, ?_⟩
    rw [Squaring.run_template, Squaring.length_commas]

/-- Twelve evaluations of seventy-five characters give more than their product. -/
theorem run_length_exceeds_product :
    let text := ("⟨c:,,,,,,,,⟩" ++
      "⟨vector:l=⟨c⟩⟩⟨c:⟨join:l,⟨c⟩⟩⟩" ++
      "⟨vector:l=⟨c⟩⟩⟨c:⟨join:l,⟨c⟩⟩⟩⟨c⟩").braced
    text.length = 75 ∧
    (standard.run 12 default text .empty).1.output = List.replicate 4096 ',' ∧
    ¬ (standard.run 12 default text .empty).1.output.length ≤ 12 * text.length := by
  intro text
  have written : text = (Squaring.template 8 2).flatten := by decide +kernel
  have length : text.length = 75 := by decide +kernel
  have output : (standard.run 12 default text .empty).1.output = List.replicate 4096 ',' := by
    rw [written, Squaring.run_template 8 2]
    rfl
  refine ⟨length, output, ?_⟩
  rw [output, length, List.length_replicate]
  decide

end Scope

end TagWeave
