import TagWeave.Proofs.Number.Whole
import TagWeave.Tag.Evaluation

/-! Selectors of lists. An index, a range and an open range are read in different ways, but each picks
the items at the positions that it names, in their order; so a range may be divided anywhere inside
the list, and an open range is one that reaches the end. -/
namespace TagWeave

def Value.textsAt (items : List Value) (positions : List Nat) : List Text :=
  positions.filterMap fun position => items[position]?.map Value.toText

namespace Text

/-- Two groups of parts are joined like two parts. -/
theorem joined_append (separator : Text) {parts others : List Text} (nonempty : parts ≠ [])
    (others_nonempty : others ≠ []) :
    joined separator (parts ++ others) =
      joined separator parts ++ (separator ++ joined separator others) := by
  induction parts with
  | nil => exact absurd rfl nonempty
  | cons part rest ih =>
    rw [List.cons_append, joined_cons, joined_cons]
    by_cases last : rest = []
    · simp [last, others_nonempty]
    · simp [last, ih last]

end Text

namespace Value

variable {items : List Value} {first count : Nat}

theorem textsAt_range' (items : List Value) (first count : Nat) :
    textsAt items (List.range' first count) = ((items.drop first).take count).map toText := by
  induction count generalizing first with
  | zero => rfl
  | succ count ih =>
    rw [List.range'_succ, textsAt, List.filterMap_cons, ← textsAt, ih]
    by_cases inside : first < items.length
    · rw [List.drop_eq_getElem_cons inside, List.getElem?_eq_getElem inside]
      rfl
    · have outside : items.length ≤ first := Nat.le_of_not_lt inside
      have beyond : items.length ≤ first + 1 := Nat.le_succ_of_le outside
      simp [List.drop_eq_nil_of_le outside, List.drop_eq_nil_of_le beyond, outside]

/-- Positions behind the end add nothing. -/
theorem textsAt_range'_min (items : List Value) (first count : Nat) :
    textsAt items (List.range' first count) =
      textsAt items (List.range' first (min count (items.length - first))) := by
  rw [textsAt_range', textsAt_range', ← List.length_drop, ← List.take_eq_take_min]

theorem textsAt_range'_ne_nil (inside : first < items.length) (some_items : 0 < count) :
    textsAt items (List.range' first count) ≠ [] := by
  rw [textsAt_range', ne_eq, List.map_eq_nil_iff, List.take_eq_nil_iff, List.drop_eq_nil_iff]
  omega

end Value

variable {items : List Value} {first last : Text}

theorem rangeBounds?_of_not_mem {selector : Text} (single : '-' ∉ selector) :
    rangeBounds? selector = none := by
  rw [rangeBounds?, Text.cutAt_eq_none_iff.mpr single]

theorem rangeBounds?_range (first_decimal : Text.isDigits first = true)
    (last_decimal : Text.isDigits last = true) (first_small : Text.natOfDigits first < 2 ^ 53)
    (last_small : Text.natOfDigits last < 2 ^ 53) :
    rangeBounds? (first ++ '-' :: last) =
      some (some (Text.natOfDigits first), some (Text.natOfDigits last)) := by
  have decimal := (Text.isDigits_iff.mp first_decimal).2
  have words : 2 ^ 53 < Nat.pow 2 64 := by decide
  rw [rangeBounds?, Text.cutAt_append _ _ (Text.not_mem_of_isDigit decimal rfl)]
  simp only [first_decimal, last_decimal, Bool.and_self, if_true,
    Text.natBelow?_eq_some (first_small.trans words),
    Text.natBelow?_eq_some (last_small.trans words)]

theorem selectItems_index (items : List Value) (decimal : Text.isDigits first = true)
    (small : Text.natOfDigits first < 2 ^ 53) :
    selectItems items first = (items[Text.natOfDigits first]?).elim [] Value.toText := by
  have each := (Text.isDigits_iff.mp decimal).2
  have bounded := rangeBounds?_of_not_mem (Text.not_mem_of_isDigit each rfl)
  have closed : first.getLast? ≠ some '+' := fun last =>
    Text.not_mem_of_isDigit each rfl (List.mem_of_getLast? last)
  rw [selectItems, bounded]
  simp only [if_neg closed, Number.index?_digits decimal small, Option.bind_some]

theorem selectItems_range (items : List Value) (first_decimal : Text.isDigits first = true)
    (last_decimal : Text.isDigits last = true) (first_small : Text.natOfDigits first < 2 ^ 53)
    (last_small : Text.natOfDigits last < 2 ^ 53) :
    selectItems items (first ++ '-' :: last) =
      Text.joined [' '] (Value.textsAt items (List.range' (Text.natOfDigits first)
        (Text.natOfDigits last + 1 - Text.natOfDigits first))) := by
  rw [Value.textsAt_range', ← Value.itemTexts_eq_map, ← Value.join, selectItems,
    rangeBounds?_range first_decimal last_decimal first_small last_small]
  by_cases ordered : Text.natOfDigits first ≤ Text.natOfDigits last
  · exact if_pos ordered
  · have none : Text.natOfDigits last + 1 - Text.natOfDigits first = 0 := by omega
    simp only [ordered, if_false, none, List.take_zero]
    rfl

theorem selectItems_onward (items : List Value) (decimal : Text.isDigits first = true)
    (small : Text.natOfDigits first < 2 ^ 53) :
    selectItems items (first ++ ['+']) =
      Text.joined [' '] (Value.textsAt items (List.range' (Text.natOfDigits first)
        (items.length - Text.natOfDigits first))) := by
  have each := (Text.isDigits_iff.mp decimal).2
  have closed : '-' ∉ first := Text.not_mem_of_isDigit each rfl
  have single : '-' ∉ first ++ ['+'] := by simpa using closed
  rw [Value.textsAt_range', ← List.length_drop, List.take_length, ← Value.itemTexts_eq_map,
    ← Value.join, selectItems, rangeBounds?_of_not_mem single]
  simp only [List.getLast?_concat, if_true, List.dropLast_concat,
    Number.index?_digits decimal small]

/-- A range parts behind each of its positions inside the list. -/
theorem Value.joined_textsAt_parted (items : List Value) {low middle high : Nat}
    (begun : low ≤ middle) (further : middle < high) (inside : high < items.length) :
    Text.joined [' '] (textsAt items (List.range' low (high + 1 - low))) =
      Text.joined [' '] (textsAt items (List.range' low (middle + 1 - low))) ++
        ' ' :: Text.joined [' ']
          (textsAt items (List.range' (middle + 1) (high + 1 - (middle + 1)))) := by
  have whole : List.range' low (high + 1 - low) =
      List.range' low (middle + 1 - low) ++
        List.range' (middle + 1) (high + 1 - (middle + 1)) := by
    have start : middle + 1 = low + (middle + 1 - low) := by omega
    have count : high + 1 - low = middle + 1 - low + (high + 1 - (middle + 1)) := by omega
    rw [count, ← List.range'_append_1, ← start]
  have front := textsAt_range'_ne_nil (by omega : low < items.length)
    (by omega : 0 < middle + 1 - low)
  have back := textsAt_range'_ne_nil (by omega : middle + 1 < items.length)
    (by omega : 0 < high + 1 - (middle + 1))
  have texts : textsAt items (List.range' low (high + 1 - low)) =
      textsAt items (List.range' low (middle + 1 - low)) ++
        textsAt items (List.range' (middle + 1) (high + 1 - (middle + 1))) := by
    rw [whole]
    exact List.filterMap_append
  rw [texts, Text.joined_append _ front back]
  rfl

/-- What the selectors of a list give, by the positions that they name, and how they agree: a range
of one position is that index, a range that reaches the end is open, and a range may be divided
behind any of its positions. Leading zeros do not matter. -/
theorem selectItems_agree (items : List Value) {first last : Text}
    (first_decimal : Text.isDigits first = true) (last_decimal : Text.isDigits last = true)
    (first_small : Text.natOfDigits first < 2 ^ 53)
    (last_small : Text.natOfDigits last < 2 ^ 53) :
    let low := Text.natOfDigits first
    let high := Text.natOfDigits last
    selectItems items first = (items[low]?).elim [] Value.toText ∧
    selectItems items (first ++ '-' :: last) = Text.joined [' ']
      (Value.textsAt items (List.range' low (min (high + 1) items.length - low))) ∧
    (high < low ∨ items.length ≤ low → selectItems items (first ++ '-' :: last) = []) ∧
    selectItems items (first ++ ['+']) = Text.joined [' ']
      (Value.textsAt items (List.range' low (items.length - low))) ∧
    selectItems items (first ++ '-' :: first) = selectItems items first ∧
    (max low (items.length - 1) ≤ high →
      selectItems items (first ++ ['+']) = selectItems items (first ++ '-' :: last)) ∧
    (∀ middle next, Text.isDigits middle = true → Text.isDigits next = true →
      Text.natOfDigits next = Text.natOfDigits middle + 1 →
      low ≤ Text.natOfDigits middle → Text.natOfDigits middle < high → high < items.length →
      selectItems items (first ++ '-' :: last) =
        selectItems items (first ++ '-' :: middle) ++
          ' ' :: selectItems items (next ++ '-' :: last)) := by
  intro low high
  have single := selectItems_index items first_decimal first_small
  have range := selectItems_range items first_decimal last_decimal first_small last_small
  have onward := selectItems_onward items first_decimal first_small
  have bounded : selectItems items (first ++ '-' :: last) = Text.joined [' ']
      (Value.textsAt items (List.range' low (min (high + 1) items.length - low))) := by
    have count : min (high + 1 - low) (items.length - low) =
        min (high + 1) items.length - low := by omega
    rw [range, Value.textsAt_range'_min, count]
  refine ⟨single, bounded, ?_, onward, ?_, ?_, ?_⟩
  · intro empty
    have none : min (high + 1) items.length - low = 0 := by omega
    rw [bounded, none]
    rfl
  · rw [selectItems_range items first_decimal first_decimal first_small first_small, single,
      Nat.add_sub_cancel_left]
    cases found : items[Text.natOfDigits first]? <;>
      simp [Value.textsAt, found, Text.joined]
  · intro reached
    have count : min (high + 1) items.length - low = items.length - low := by omega
    rw [onward, bounded, count]
  · intro middle next middle_decimal next_decimal successor begun further inside
    have middle_small : Text.natOfDigits middle < 2 ^ 53 := further.trans last_small
    have next_small : Text.natOfDigits next < 2 ^ 53 := by omega
    rw [range, selectItems_range items first_decimal middle_decimal first_small middle_small,
      selectItems_range items next_decimal last_decimal next_small last_small, successor]
    exact Value.joined_textsAt_parted items begun further inside

/-- Selectors of a list of four, with leading zeros. -/
theorem selectItems_agree_letters :
    let letters : List Value := ["a", "b", "c", "d"].map fun letter => .text letter.toList
    (Text.isDigits "01".toList = true ∧ Text.isDigits "3".toList = true ∧
      Text.natOfDigits "01".toList < 2 ^ 53 ∧ Text.natOfDigits "3".toList < 2 ^ 53) ∧
    selectItems letters "01".toList = "b".toList ∧
    selectItems letters "01-3".toList = "b c d".toList ∧
    selectItems letters "01+".toList = selectItems letters "01-3".toList ∧
    selectItems letters "01-3".toList =
      selectItems letters "01-1".toList ++ ' ' :: selectItems letters "002-3".toList := by
  intro letters
  have first : Text.isDigits "01".toList = true := rfl
  have last : Text.isDigits "3".toList = true := rfl
  have first_small : Text.natOfDigits "01".toList < 2 ^ 53 := by decide
  have last_small : Text.natOfDigits "3".toList < 2 ^ 53 := by decide
  obtain ⟨single, range, -, -, -, onward, parted⟩ :=
    selectItems_agree letters first last first_small last_small
  exact ⟨⟨first, last, first_small, last_small⟩, single, range, onward (by decide),
    parted "1".toList "002".toList rfl rfl rfl (by decide) (by decide) (by decide)⟩

end TagWeave
