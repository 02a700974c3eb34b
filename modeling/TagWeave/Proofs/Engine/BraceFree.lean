import TagWeave.Proofs.Engine.OutcomeInvariant
import TagWeave.Proofs.Number.Written
import TagWeave.Proofs.Tag.Effects

/-! Runs on data without braces. Where no value of the store and no function brings a brace into the
text, each evaluation takes one closing brace away and leaves all others, so the closing braces of a
template count its evaluations, and no run is stopped by a tag that stands for itself. -/
namespace TagWeave

/-- Values that show no brace: no text in them has one, and there are no objects, which show braces
of their own, and no functions. -/
inductive Value.Plain : Value → Prop where
  | text {value : Text} (plain : value.Plain) : Plain (.text value)
  | number (value : Double) : Plain (.number value)
  | bool (value : Bool) : Plain (.bool value)
  | list {items : List Value} (inside : ∀ item ∈ items, Plain item) : Plain (.list items)

def Store.Plain (store : Store) : Prop := ∀ value ∈ store.values, value.Plain

/-- The builtin functions apart from the one that makes objects, beside any functions of the host that
are not registered. -/
def Scope.withoutObjects (host : Nat → TagFunction) : Scope :=
  ⟨functionsWith host, Registry.standard.remove Builtin.object.name.toList⟩

variable {store left final : Store} {content replacement text name separator : Text} {draw : Draw}
  {items : List Value} {value : Value} {callable : Builtin → Prop}

namespace Value

theorem Plain.toText (plain : value.Plain) : (toText value).Plain := by
  induction plain with
  | text plain => simpa only [Value.toText] using plain
  | number value => simpa only [Value.toText] using value.plain_text
  | bool value => cases value <;> decide
  | @list items _ ih =>
    simp only [Value.toText, itemTexts_eq_map]
    apply Text.plain_joined (by decide)
    intro part member
    obtain ⟨item, listed, rfl⟩ := List.mem_map.mp member
    exact ih item listed

theorem plain_join (between : separator.Plain) (inside : ∀ item ∈ items, item.Plain) :
    (join separator items).Plain := by
  simp only [join, itemTexts_eq_map]
  apply Text.plain_joined between
  intro part member
  obtain ⟨item, listed, rfl⟩ := List.mem_map.mp member
  exact (inside item listed).toText

theorem Plain.of_mem (plain : Plain (.list items)) : ∀ item ∈ items, item.Plain := by
  cases plain with
  | list inside => exact inside

end Value

namespace Store.Plain

theorem get? (plain : store.Plain) (bound : store.get? name = some value) : value.Plain :=
  plain value (mem_values_of_get? bound)

theorem set (plain : store.Plain) (name : Text) (new : value.Plain) : (store.set name value).Plain := by
  intro other member
  rcases mem_values_set member with rfl | kept
  · exact new
  · exact plain other kept

/-- What a tag reads by itself is bound to a name: there are no objects to look into. -/
theorem holds (plain : store.Plain) (held : store.Holds value) : value.Plain := by
  cases held with
  | bound bound => exact plain.get? bound
  | entry bound _ => cases plain.get? bound

theorem pushed (plain : store.Plain) (inside : name.Plain) : (Builtin.pushed name store).Plain := by
  unfold Builtin.pushed
  cases bound : store.get? name with
  | none => exact .text inside
  | some value => exact plain.get? bound

end Store.Plain

/-- Effects keep data without braces, if no objects are made. -/
theorem Effect.plain
    (effect : Effect callable content store replacement left) (objectless : ¬ callable .object)
    (inside : content.Plain) (plain : store.Plain) : replacement.Plain ∧ left.Plain := by
  cases effect with
  | part part => exact ⟨inside.of_sublist part, plain⟩
  | upper part => exact ⟨Text.plain_upper (inside.of_sublist part), plain⟩
  | lower part => exact ⟨Text.plain_lower (inside.of_sublist part), plain⟩
  | number n => exact ⟨n.plain_text, plain⟩
  | truth value => exact ⟨by cases value <;> decide, plain⟩
  | size name => exact ⟨Text.plain_ofNat _, plain⟩
  | missing => exact ⟨by decide, plain⟩
  | read held => exact ⟨(plain.holds held).toText, plain⟩
  | select bound among =>
    have items := (plain.get? bound).of_mem
    exact ⟨Value.plain_join (by decide) fun item member => items item (among.subset member), plain⟩
  | join bound between =>
    exact ⟨Value.plain_join (inside.of_sublist between) (plain.get? bound).of_mem, plain⟩
  | bind _ part => exact ⟨Text.plain_nil, plain.set _ (.text (inside.of_sublist part))⟩
  | @vector name parts called parts_inside =>
    have whole := inside.of_sublist parts_inside
    refine ⟨Text.plain_nil, plain.set _ (.list ?_)⟩
    intro item member
    obtain ⟨part, listed, rfl⟩ := List.mem_map.mp member
    exact .text (whole.of_sublist (Text.sublist_joined_of_mem listed))
  | object called => exact absurd called objectless
  | append bound part =>
    refine ⟨Text.plain_nil, plain.set _ (.list ?_)⟩
    intro item member
    rcases List.mem_append.mp member with old | new
    · exact (plain.get? bound).of_mem item old
    · rw [List.mem_singleton.mp new]
      exact plain.pushed (inside.of_sublist part)
  | slot bound part =>
    refine ⟨Text.plain_nil, plain.set _ (.list ?_)⟩
    intro item member
    rcases List.mem_or_eq_of_mem_set member with old | new
    · exact (plain.get? bound).of_mem item old
    · rw [new]
      exact .text (inside.of_sublist part)
  | entry bound _ _ => cases plain.get? bound

namespace Scope

variable {host : Nat → TagFunction} {budget : Nat} {draws : Draws} {report : Report}

theorem plain_evaluate_withoutObjects (draw : Draw) (inside : content.Plain) (plain : store.Plain) :
    ((withoutObjects host).evaluate draw content store).1.Plain ∧
      ((withoutObjects host).evaluate draw content store).2.Plain := by
  have only : (Registry.standard.remove Builtin.object.name.toList).Only
      (Builtin.all.filter (· ≠ .object)) := by decide
  have free : ∀ reference, ¬ store.Holds (.function reference) :=
    fun _ held => nomatch plain.holds held
  exact (only.evaluate_effect free host draw content).plain (by decide) inside plain

/-- A turn takes one closing brace away, and never leaves the text as it is. -/
theorem plain_turn_withoutObjects {next before after : Text} (plain : store.Plain)
    (place : locate text = .tag before content after)
    (turned : (withoutObjects host).turn draw content text store = (next, left)) :
    next ≠ text ∧ next.count closeBrace + 1 = text.count closeBrace ∧ left.Plain := by
  obtain ⟨replacement, evaluated, rfl⟩ := (turn_eq_iff place).mp turned
  obtain ⟨rfl, -, inside⟩ := locate_eq_tag_iff.mp place
  have kept : ((withoutObjects host).evaluate draw content store).1.Plain ∧
      ((withoutObjects host).evaluate draw content store).2.Plain :=
    plain_evaluate_withoutObjects draw inside plain
  rw [evaluated] at kept
  obtain ⟨unbraced, left_plain⟩ := kept
  have none_inside : content.count closeBrace = 0 := List.count_eq_zero.mpr inside.2
  have none_given : replacement.count closeBrace = 0 := List.count_eq_zero.mpr unbraced.2
  have fewer : (before ++ replacement ++ after).count closeBrace + 1 =
      (before ++ bracketed content ++ after).count closeBrace := by
    simp only [bracketed, List.count_append, List.cons_append, List.count_cons, none_inside, none_given,
      List.count_nil]
    simp
    omega
  refine ⟨?_, fewer, left_plain⟩
  intro same
  rw [same] at fewer
  omega

theorem Renders.plain
    (rendered : (withoutObjects host).Renders budget draws text store report final)
    (plain : store.Plain) :
    report.outcome ≠ .fixedPoint ∧
      report.iterations + report.output.count closeBrace = text.count closeBrace ∧ final.Plain := by
  induction rendered with
  | finished _ => exact ⟨by simp, by simp, plain⟩
  | unopened _ => exact ⟨by simp, by simp, plain⟩
  | spent _ => exact ⟨by simp, by simp, plain⟩
  | fixed place turned => exact absurd rfl (plain_turn_withoutObjects plain place turned).1
  | turn place turned _ _ ih =>
    obtain ⟨-, fewer, left_plain⟩ := plain_turn_withoutObjects plain place turned
    obtain ⟨outcome, counted, final_plain⟩ := ih left_plain
    refine ⟨outcome, ?_, final_plain⟩
    rw [Report.after_iterations, Report.after_output]
    omega

/-- Data without braces cannot make a run go on for ever. Whatever the template, each evaluation takes
one closing brace away and the store stays without braces; so the run meets no fixed point, and it
ends by itself if the budget covers the closing braces of the template. -/
theorem run_withoutObjects_terminates (host : Nat → TagFunction) (budget : Nat) (draws : Draws)
    (text : Text) (plain : store.Plain) :
    let ran := (withoutObjects host).run budget draws text store
    ran.1.outcome ≠ .fixedPoint ∧
    ran.1.iterations + ran.1.output.count closeBrace = text.count closeBrace ∧
    ran.2.Plain ∧
    (text.count closeBrace ≤ budget → ran.1.outcome = .complete ∨ ran.1.outcome = .unterminated) := by
  intro ran
  have rendered := (withoutObjects host).renders_run budget draws text store
  obtain ⟨moving, counted, final_plain⟩ := rendered.plain plain
  refine ⟨moving, counted, final_plain, ?_⟩
  intro enough
  cases outcome : ran.1.outcome with
  | complete => exact .inl rfl
  | unterminated => exact .inr rfl
  | fixedPoint => exact absurd outcome moving
  | budgetExhausted =>
    have spent := rendered.iterations_of_exhausted outcome
    have remaining := exists_locate_eq_tag_iff.mp (rendered.allowed.tag_iff.mp (.inl outcome))
    have positive := List.count_pos_iff.mpr remaining.1
    omega

/-- A store with a text, a number and nested lists. -/
def roster : Store :=
  .ofNamed [("name".toList, .text "Ada".toList), ("level".toList, .number .one),
    ("open".toList, .list [.bool true, .list []])]

theorem plain_roster : roster.Plain := by
  intro value member
  have listed : value ∈ [.text "Ada".toList, .number .one, .list [.bool true, .list []]] := member
  simp only [List.mem_cons, List.not_mem_nil, or_false] at listed
  rcases listed with rfl | rfl | rfl
  · exact .text (by decide)
  · exact .number _
  · refine .list fun item inside => ?_
    simp only [List.mem_cons, List.not_mem_nil, or_false] at inside
    rcases inside with rfl | rfl
    · exact .bool true
    · exact .list (by simp)

/-- An unbalanced template that makes, extends and shows a list. -/
def rosterTemplate : Text :=
  ("⟨ ⟨vector:all=x, y⟩⟨all->name⟩" ++
    "⟨upper:⟨join:all,+⟩⟩ ⟨level⟩⟩⟩.").braced

/-- Its closing braces are the budget, and one of them is left. -/
theorem run_withoutObjects_roster :
    roster.Plain ∧ rosterTemplate.count closeBrace = 7 ∧
    ∃ report final,
      (withoutObjects fun _ _ _ store => ([], store)).run 7 default rosterTemplate roster =
        (report, final) ∧
      report = ⟨"⟩.".braced, 6, .unterminated⟩ ∧
      report.iterations + report.output.count closeBrace = rosterTemplate.count closeBrace ∧
      final.Plain := by
  refine ⟨plain_roster, by decide, ?_⟩
  have output : ((withoutObjects fun _ _ _ store => ([], store)).run 7 default rosterTemplate
      roster).1 = ⟨"⟩.".braced, 6, .unterminated⟩ := by decide +kernel
  have terminates := run_withoutObjects_terminates (fun _ _ _ store => ([], store)) 7 default
    rosterTemplate plain_roster
  rcases ran : (withoutObjects fun _ _ _ store => ([], store)).run 7 default rosterTemplate
    roster with ⟨report, final⟩
  rw [ran] at output
  simp only [ran] at terminates
  exact ⟨report, final, rfl, output, terminates.2.1, terminates.2.2.1⟩

end Scope

end TagWeave
