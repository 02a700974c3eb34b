import TagWeave.Proofs.Text.Parts
import TagWeave.Tag.Condition

/-! Conditions are split at the operator that was written in them. Operators are looked for one after
the other in the whole text, and some are written within others; but none that is looked for earlier is
written within a later one, so between operands without signs the first that is found is the one
written. -/
namespace TagWeave

def operatorSigns : List Char := ['=', '!', '<', '>']

/-- A text that no operator can be written in, not even in part. -/
def Text.IsOperand (text : Text) : Prop := ∀ c ∈ text, c ∉ operatorSigns

instance (text : Text) : Decidable text.IsOperand := List.decidableBAll _ text

namespace Comparison

/-- The comparison that a condition is split at, with the texts on both sides of it. -/
def written? (condition : Text) : Option (Comparison × Text × Text) :=
  all.findSome? fun comparison => (Text.cut comparison.sign condition).map fun operands =>
    (comparison, operands)

/-- What a comparison says of two operands. Order is told by the numbers that both begin with. -/
def Relates : Comparison → Text → Text → Prop
  | .equal, left, right => left = right
  | .unequal, left, right => left ≠ right
  | .atMost, left, right =>
    ∃ a b, Number.leading? left = some a ∧ Number.leading? right = some b ∧ a.lessEq b = true
  | .atLeast, left, right =>
    ∃ a b, Number.leading? left = some a ∧ Number.leading? right = some b ∧ b.lessEq a = true
  | .below, left, right =>
    ∃ a b, Number.leading? left = some a ∧ Number.leading? right = some b ∧ a.less b = true
  | .above, left, right =>
    ∃ a b, Number.leading? left = some a ∧ Number.leading? right = some b ∧ b.less a = true

variable {left right condition : Text}

theorem ordered_eq_true_iff {test : Double → Double → Bool} :
    ordered test left right = true ↔
      ∃ a b, Number.leading? left = some a ∧ Number.leading? right = some b ∧ test a b = true := by
  unfold ordered
  cases Number.leading? left <;> cases Number.leading? right <;> simp

theorem holds_eq_true_iff (comparison : Comparison) :
    comparison.holds left right = true ↔ comparison.Relates left right := by
  cases comparison with
  | equal => exact beq_iff_eq
  | unequal => exact bne_iff_ne
  | atMost | atLeast | below | above => exact ordered_eq_true_iff

theorem mem_all (comparison : Comparison) : comparison ∈ all := by cases comparison <;> decide

theorem filter_sign (comparison : Comparison) :
    comparison.sign.filter (operatorSigns.contains ·) = comparison.sign := by
  cases comparison <;> rfl

/-- What is looked for before an operator is not written within it. -/
theorem exists_before (comparison : Comparison) :
    ∃ before after, all = before ++ comparison :: after ∧
      ∀ other ∈ before, ¬ other.sign <:+: comparison.sign := by
  cases comparison with
  | equal => exact ⟨[], _, rfl, by decide⟩
  | unequal => exact ⟨[.equal], _, rfl, by decide⟩
  | atMost => exact ⟨[.equal, .unequal], _, rfl, by decide⟩
  | atLeast => exact ⟨[.equal, .unequal, .atMost], _, rfl, by decide⟩
  | below => exact ⟨[.equal, .unequal, .atMost, .atLeast], _, rfl, by decide⟩
  | above => exact ⟨[.equal, .unequal, .atMost, .atLeast, .below], _, rfl, by decide⟩

end Comparison

variable {left right condition : Text}

theorem Text.IsOperand.filter_eq_nil {text : Text} (operand : text.IsOperand) :
    text.filter (operatorSigns.contains ·) = [] := by
  rw [List.filter_eq_nil_iff]
  intro c member
  simpa using operand c member

namespace Comparison

/-- Between operands only the operator that was written there is mentioned, and what is written within
it. The operands are left out by keeping the signs alone. -/
theorem sign_infix_of_mentions {comparison other : Comparison} (before : left.IsOperand)
    (after : right.IsOperand)
    (mentioned : Text.mentions other.sign (left ++ comparison.sign ++ right) = true) :
    other.sign <:+: comparison.sign := by
  have signs := (Text.mentions_iff_infix.mp mentioned).filter (operatorSigns.contains ·)
  rwa [List.filter_append, List.filter_append, before.filter_eq_nil, after.filter_eq_nil,
    filter_sign, filter_sign, List.nil_append, List.append_nil] at signs

theorem cut_sign (comparison : Comparison) (right : Text) (before : left.IsOperand) :
    Text.cut comparison.sign (left ++ comparison.sign ++ right) = some (left, right) := by
  have absent {c : Char} (sign : c ∈ operatorSigns) : c ∉ left := fun member => before c member sign
  have skipped : Text.cut comparison.sign (left ++ (comparison.sign ++ right)) =
      (Text.cut comparison.sign (comparison.sign ++ right)).map
        fun parts => (left ++ parts.1, parts.2) := by
    cases comparison <;> exact Text.cut_append_of_not_mem _ _ (absent (by decide))
  rw [List.append_assoc, skipped, Text.cut_self_append, Option.map_some, List.append_nil]

theorem written?_sign (comparison : Comparison) (before : left.IsOperand) (after : right.IsOperand) :
    written? (left ++ comparison.sign ++ right) = some (comparison, left, right) := by
  obtain ⟨earlier, later, order, apart⟩ := exists_before comparison
  rw [written?, List.findSome?_eq_some_iff]
  refine ⟨earlier, comparison, later, order, ?_, ?_⟩
  · rw [cut_sign comparison right before, Option.map_some]
  · intro other listed
    have unmentioned := mt (sign_infix_of_mentions before after) (apart other listed)
    simpa [Text.mentions] using unmentioned

theorem written?_eq_none_iff :
    written? condition = none ↔
      ∀ comparison : Comparison, Text.mentions comparison.sign condition = false := by
  rw [written?, List.findSome?_eq_none_iff]
  constructor
  · intro none comparison
    simpa [Text.mentions] using none comparison (mem_all comparison)
  · intro none comparison _
    simpa [Text.mentions] using none comparison

end Comparison

theorem evaluateCondition_eq_map (condition : Text) :
    evaluateCondition condition = (Comparison.written? condition).map
      fun (comparison, left, right) => comparison.holds (orNull left) (orNull right) := by
  rw [evaluateCondition, Comparison.written?, List.map_findSome?]
  congr 1
  funext comparison
  rw [Function.comp_apply, Option.map_map]
  rfl

/-- A condition is split at the operator that was written, and its operands are exactly the texts on
both sides, `null` for an empty one. A text in which no operator is written is no condition. So equality
and its negation always answer differently, and no operator is read as a part of itself. -/
theorem evaluateCondition_written :
    (∀ (comparison : Comparison) (left right : Text), left.IsOperand → right.IsOperand →
      Comparison.written? (left ++ comparison.sign ++ right) = some (comparison, left, right) ∧
      ∃ truth, evaluateCondition (left ++ comparison.sign ++ right) = some truth ∧
        (truth = true ↔ comparison.Relates (orNull left) (orNull right))) ∧
    (∀ condition, evaluateCondition condition = none ↔
      ∀ comparison : Comparison, Text.mentions comparison.sign condition = false) ∧
    (∀ left right : Text, left.IsOperand → right.IsOperand →
      evaluateCondition (left ++ Comparison.unequal.sign ++ right) =
        (evaluateCondition (left ++ Comparison.equal.sign ++ right)).map not) := by
  refine ⟨?_, ?_, ?_⟩
  · intro comparison left right before after
    have split := comparison.written?_sign before after
    refine ⟨split, comparison.holds (orNull left) (orNull right), ?_, comparison.holds_eq_true_iff⟩
    rw [evaluateCondition_eq_map, split, Option.map_some]
  · intro condition
    rw [evaluateCondition_eq_map, Option.map_eq_none_iff, Comparison.written?_eq_none_iff]
  · intro left right before after
    rw [evaluateCondition_eq_map, evaluateCondition_eq_map,
      Comparison.unequal.written?_sign before after, Comparison.equal.written?_sign before after]
    rfl

/-- A measure compared with a number, and an operand that is left out. -/
theorem evaluateCondition_written_measure :
    (Text.IsOperand "12px".toList ∧ Text.IsOperand "7".toList ∧ Text.IsOperand []) ∧
    Comparison.written? "12px>=7".toList = some (.atLeast, "12px".toList, "7".toList) ∧
    evaluateCondition "12px>=7".toList = some true ∧
    evaluateCondition "7<=".toList = some false ∧
    evaluateCondition "!=7".toList = some true := by
  have measure : Text.IsOperand "12px".toList := by decide
  have number : Text.IsOperand "7".toList := by decide
  have empty : Text.IsOperand [] := by decide
  obtain ⟨written, -, opposite⟩ := evaluateCondition_written
  obtain ⟨split, greater, compared, reached⟩ :=
    written .atLeast "12px".toList "7".toList measure number
  obtain ⟨-, less, left_out, ordered⟩ := written .atMost "7".toList [] number empty
  refine ⟨⟨measure, number, empty⟩, split, ?_, ?_, ?_⟩
  · rw [← reached.mpr ⟨_, _, rfl, rfl, by decide +kernel⟩]
    exact compared
  · have none : less = false := by
      rw [Bool.eq_false_iff, ne_eq, ordered]
      rintro ⟨a, b, -, missing, -⟩
      cases missing
    rw [← none]
    exact left_out
  · exact (opposite [] "7".toList empty number).trans rfl

end TagWeave
