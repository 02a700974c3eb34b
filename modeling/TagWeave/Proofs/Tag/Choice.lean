import TagWeave.Proofs.Text.Parts
import TagWeave.Tag.Builtin

/-! The branches that the `if` tag selects. The parts of its payload are looked for one by one, each
from the start. Between its parentheses a condition keeps the branches whole, but for an arrow: the
first branch begins behind the first arrow of the payload, and what follows an arrow of the condition
is shown with the branch. -/
namespace TagWeave

/-- A comparison that a condition spells is found without its white space too. -/
theorem evaluateCondition_isSome {condition : Text}
    (spelled : ∃ comparison : Comparison, Text.mentions comparison.sign condition = true) :
    (evaluateCondition (condition.filter fun c => !Text.isBlank c)).isSome = true := by
  obtain ⟨comparison, mentioned⟩ := spelled
  obtain ⟨before, after, rfl⟩ := Text.mentions_iff_infix.mp mentioned
  have kept : comparison.sign.filter (fun c => !Text.isBlank c) = comparison.sign := by
    cases comparison <;> decide
  have remains : Text.mentions comparison.sign
      ((before ++ comparison.sign ++ after).filter fun c => !Text.isBlank c) = true := by
    rw [List.filter_append, List.filter_append, kept]
    exact Text.mentions_iff_infix.mpr (List.infix_append _ _ _)
  have listed : comparison ∈ Comparison.all := by cases comparison <;> decide
  rw [evaluateCondition, List.findSome?_isSome_iff]
  exact ⟨comparison, listed, by rwa [Option.isSome_map]⟩

namespace Builtin

def arrow : Text := ['=', '>']

/-- The payload of a choice: a condition in parentheses, an arrow, and the branches. -/
def choosing (condition branches : Text) : Text := '(' :: condition ++ ')' :: (arrow ++ branches)

/-- What the first branch begins with besides its own text: all that follows the first arrow of the
condition. -/
def spill (condition : Text) : Text :=
  ((Text.cut arrow condition).map fun parts => parts.2 ++ ')' :: arrow).getD []

variable {condition : Text}

theorem spill_eq_nil_iff : spill condition = [] ↔ Text.mentions arrow condition = false := by
  unfold spill Text.mentions
  cases Text.cut arrow condition <;> simp

theorem conditionOf_choosing (branches : Text) (closed : ')' ∉ condition) :
    conditionOf (choosing condition branches) =
      some (condition.filter fun c => !Text.isBlank c) := by
  have first : Text.cutAt '(' (choosing condition branches) =
      some ([], condition ++ ')' :: (arrow ++ branches)) := Text.cutAt_append [] _ (by simp)
  rw [conditionOf, first]
  simp [Text.cutAt_append _ _ closed]

/-- The first arrow of a choice is that of its condition, and only without one its own. -/
theorem cut_arrow_choosing (condition branches : Text) :
    ∃ before, before <+: '(' :: condition ++ [')'] ∧
      Text.cut arrow (choosing condition branches) = some (before, spill condition ++ branches) := by
  have own : Text.cut arrow (')' :: (arrow ++ branches)) = some ([')'], branches) :=
    Text.cut_append_mark [')'] branches (by decide) rfl
  have inside : Text.cut arrow ('(' :: condition) =
      (Text.cut arrow condition).map fun parts => ('(' :: parts.1, parts.2) :=
    Text.cut_append_of_not_mem ['('] condition (by decide)
  rw [choosing, Text.cut_append_cons _ _ (by decide), inside, own, spill]
  cases found : Text.cut arrow condition with
  | none => exact ⟨_, List.prefix_refl _, rfl⟩
  | some parts =>
    refine ⟨'(' :: parts.1, ?_, by simp⟩
    rw [Text.cut_eq_some found]
    exact ⟨arrow ++ parts.2 ++ [')'], by simp⟩

theorem not_mem_spill (opened : '(' ∉ condition) : '(' ∉ spill condition := by
  unfold spill
  cases found : Text.cut arrow condition with
  | none => simp
  | some parts =>
    have inside := (Text.cut_sublists found).2
    simpa [arrow] using fun member => opened (inside.subset member)

/-- The mark of the second branch begins at no other sign than a parenthesis. -/
theorem cut_elseMark_of_not_mem {front : Text} (rest : Text) (opened : '(' ∉ front) :
    Text.cut elseMark (front ++ rest) =
      (Text.cut elseMark rest).map fun parts => (front ++ parts.1, parts.2) :=
  Text.cut_append_of_not_mem front rest opened

/-- What stands behind a condition is searched for the mark of the second branch as if it stood
alone. -/
theorem cut_elseMark_append (rest : Text) (opened : '(' ∉ condition) (closed : ')' ∉ condition)
    (other : condition ≠ "else".toList) :
    Text.cut elseMark ('(' :: condition ++ ')' :: rest) =
      (Text.cut elseMark rest).map fun parts => ('(' :: condition ++ ')' :: parts.1, parts.2) := by
  have elsewhere : ¬ elseMark <+: '(' :: (condition ++ ')' :: rest) := by
    rintro ⟨after, same⟩
    have alike : "else".toList ++ ')' :: after = condition ++ ')' :: rest := (List.cons.inj same).2
    have first : Text.cutAt ')' ("else".toList ++ ')' :: after) = some ("else".toList, after) :=
      Text.cutAt_append _ _ (by simp)
    rw [alike, Text.cutAt_append _ _ closed] at first
    exact other (congrArg Prod.fst (Option.some.inj first))
  have later : '(' ∉ condition ++ [')'] := by simp [opened]
  have apart : condition ++ ')' :: rest = condition ++ [')'] ++ rest := by simp
  rw [List.cons_append, Text.cut_cons, if_neg elsewhere, apart,
    cut_elseMark_of_not_mem rest later, Option.map_map]
  congr 1
  funext parts
  simp

/-- The first branch ends where the mark of the second one stands, and the second begins there. -/
theorem choice_choosing (branches : Text) {truth : Bool} (opened : '(' ∉ condition)
    (closed : ')' ∉ condition)
    (evaluated : evaluateCondition (condition.filter fun c => !Text.isBlank c) = some truth) :
    choice (choosing condition branches) =
      Text.trim (if truth then spill condition ++ (Text.cut elseMark branches).elim branches Prod.fst
        else (Text.cut elseMark branches).elim [] Prod.snd) := by
  have other : condition ≠ "else".toList := by
    rintro rfl
    cases evaluated
  obtain ⟨before, behind, found⟩ := cut_arrow_choosing condition branches
  have unmentioned : Text.mentions elseMark before = false := by
    have none : Text.mentions elseMark ('(' :: condition ++ [')']) = false := by
      rw [Text.mentions, cut_elseMark_append [] opened closed other]
      rfl
    rw [Bool.eq_false_iff] at none ⊢
    intro mentioned
    exact none (Text.mentions_iff_infix.mpr
      ((Text.mentions_iff_infix.mp mentioned).trans behind.isInfix))
  have arrowed : Text.cut ['=', '>'] (choosing condition branches) =
      some (before, spill condition ++ branches) := found
  rw [choice, conditionOf_choosing branches closed, Option.bind_some, evaluated, arrowed]
  cases truth with
  | true =>
    dsimp only
    rw [unmentioned, if_neg Bool.false_ne_true, if_pos rfl,
      cut_elseMark_of_not_mem branches (not_mem_spill opened)]
    cases Text.cut elseMark branches <;> rfl
  | false =>
    dsimp only
    rw [choosing, cut_elseMark_append _ opened closed other, if_neg Bool.false_ne_true,
      cut_elseMark_of_not_mem branches (by simp [arrow])]
    cases Text.cut elseMark branches <;> rfl

/-- A condition in parentheses that spells a comparison holds or fails, whatever its operands. Where
it holds, the first branch is given, behind what the condition spills on it; where it fails, the
second branch, and the empty text if there is none. A condition spills nothing exactly if it has no
arrow. -/
theorem call_choose_selects (draw : Draw) (store : Store) {condition first : Text} (second : Text)
    (opened : '(' ∉ condition) (closed : ')' ∉ condition)
    (spelled : ∃ comparison : Comparison, Text.mentions comparison.sign condition = true)
    (single : Text.mentions elseMark first = false) :
    ∃ truth, evaluateCondition (condition.filter fun c => !Text.isBlank c) = some truth ∧
      Builtin.choose.call draw (choosing condition (first ++ elseMark ++ second)) store =
        (Text.trim (if truth then spill condition ++ first else second), store) ∧
      Builtin.choose.call draw (choosing condition first) store =
        (if truth then Text.trim (spill condition ++ first) else [], store) ∧
      (spill condition = [] ↔ Text.mentions arrow condition = false) := by
  obtain ⟨truth, evaluated⟩ := Option.isSome_iff_exists.mp (evaluateCondition_isSome spelled)
  have alone : Text.cut elseMark first = none := by simpa [Text.mentions] using single
  have both : Text.cut elseMark (first ++ elseMark ++ second) = some (first, second) := by
    have once : '(' ∉ "else)".toList := by decide
    rw [List.append_assoc]
    exact Text.cut_append_mark first second once single
  refine ⟨truth, evaluated, ?_, ?_, spill_eq_nil_iff⟩
  · rw [call, choice_choosing _ opened closed evaluated, both]
    rfl
  · rw [call, choice_choosing _ opened closed evaluated, alone]
    cases truth <;> rfl

/-- A choice between two branches with white space around them. -/
theorem call_choose_selects_different :
    let condition := "a != b".toList
    ('(' ∉ condition ∧ ')' ∉ condition ∧
      (∃ comparison : Comparison, Text.mentions comparison.sign condition = true) ∧
      Text.mentions elseMark " different ".toList = false) ∧
    Builtin.choose.call ⟨0⟩ "(a != b)=> different (else) same".toList .empty =
      ("different".toList, .empty) ∧
    Builtin.choose.call ⟨0⟩ "(a != b)=> different ".toList .empty = ("different".toList, .empty) := by
  intro condition
  have opened : '(' ∉ condition := by decide
  have closed : ')' ∉ condition := by decide
  have spelled : ∃ comparison : Comparison, Text.mentions comparison.sign condition = true :=
    ⟨.unequal, rfl⟩
  have single : Text.mentions elseMark " different ".toList = false := rfl
  obtain ⟨truth, evaluated, both, alone, -⟩ :=
    call_choose_selects ⟨0⟩ .empty " same".toList opened closed spelled single
  have holds : truth = true := (Option.some.inj evaluated).symm
  subst holds
  exact ⟨⟨opened, closed, spelled, single⟩, both, alone⟩

/-- An arrow in an operand is shown with the branch. -/
theorem call_choose_spills :
    let condition := "x=>y!=z".toList
    ('(' ∉ condition ∧ ')' ∉ condition ∧
      (∃ comparison : Comparison, Text.mentions comparison.sign condition = true) ∧
      Text.mentions elseMark "yes".toList = false) ∧
    evaluateCondition (condition.filter fun c => !Text.isBlank c) = some true ∧
    Builtin.choose.call ⟨0⟩ "(x=>y!=z)=>yes(else)no".toList .empty =
      ("y!=z)=>yes".toList, .empty) ∧
    "y!=z)=>yes".toList ≠ Text.trim "yes".toList := by
  refine ⟨⟨?_, ?_, ⟨.unequal, rfl⟩, rfl⟩, rfl, rfl, ?_⟩ <;> decide

end Builtin
end TagWeave
