import TagWeave.Proofs.Engine.RunSemantics

/-! Templates as trees. A tree is evaluated from the inside and from left to right, one tag after the
other. A run on the written tree does the same as long as no tag gives a brace: at each moment the
text is what was evaluated so far, inside the braces still open, and then what is yet to come. -/
namespace TagWeave

structure PlainText where
  text : Text
  plain : text.Plain

/-- A template as a row of texts without braces and of tags; what stands in a tag is again such a
row. -/
inductive TagTree where
  | empty
  | literal (text : PlainText) (rest : TagTree)
  | tag (content rest : TagTree)

/-- What evaluating a tree gives: its text, what each tag gave in the order of evaluation, and the
store. -/
structure TagTree.Evaluated where
  text : Text
  results : List Text
  store : Store

namespace TagTree

def flatten : TagTree → Text
  | .empty => []
  | .literal text rest => text.text ++ rest.flatten
  | .tag content rest => bracketed content.flatten ++ rest.flatten

def tags : TagTree → Nat
  | .empty => 0
  | .literal _ rest => rest.tags
  | .tag content rest => content.tags + 1 + rest.tags

/-- Evaluate a tree: texts stand for themselves, and a tag is evaluated after its content, in the
store that the content left. -/
def evaluate (scope : Scope) : TagTree → Draws → Store → Evaluated
  | .empty, _, store => ⟨[], [], store⟩
  | .literal text rest, draws, store =>
    let later := rest.evaluate scope draws store
    { later with text := text.text ++ later.text }
  | .tag content rest, draws, store =>
    let inner := content.evaluate scope draws store
    let (result, left) := scope.evaluate (draws content.tags) inner.text inner.store
    let later := rest.evaluate scope (draws.skip (content.tags + 1)) left
    ⟨result ++ later.text, inner.results ++ result :: later.results, later.store⟩

variable {scope : Scope} {draws : Draws} {budget : Nat} {store left final : Store} {report : Report}

/-- A tag in front of a row, with the evaluation of the tag named. -/
theorem evaluate_tag {content row : TagTree} {result : Text}
    (evaluated : scope.evaluate (draws content.tags) (content.evaluate scope draws store).text
      (content.evaluate scope draws store).store = (result, left)) :
    (TagTree.tag content row).evaluate scope draws store =
      let later := row.evaluate scope (draws.skip (content.tags + 1)) left
      ⟨result ++ later.text, (content.evaluate scope draws store).results ++ result :: later.results,
        later.store⟩ := by
  simp only [evaluate, evaluated]

/-- Where every tag gives a text without braces, so does the tree. -/
theorem plain_text_evaluate (tree : TagTree)
    (plain : ∀ result ∈ (tree.evaluate scope draws store).results, Text.Plain result) :
    (tree.evaluate scope draws store).text.Plain := by
  induction tree generalizing draws store with
  | empty => simp [evaluate, Text.Plain]
  | literal text row ih => exact text.plain.append (ih plain)
  | tag content row _ outer =>
    rcases evaluated : scope.evaluate (draws content.tags)
      (content.evaluate scope draws store).text
      (content.evaluate scope draws store).store with ⟨result, left⟩
    simp only [evaluate_tag evaluated, List.mem_append, List.mem_cons] at plain ⊢
    have here := plain result (.inr (.inl rfl))
    exact here.append (outer fun other member => plain other (.inr (.inr member)))

/-- One evaluation inside what was read before. A text without braces is no tag, so the turn changes
the text. -/
private theorem renders_tag {behind content result after : Text}
    (unclosed : closeBrace ∉ behind) (inside : content.Plain) (plain : Text.Plain result)
    (evaluated : scope.evaluate (draws 0) content store = (result, left))
    (rest : scope.Renders budget draws.next (behind ++ result ++ after) left report final) :
    scope.Renders (budget + 1) draws (behind ++ bracketed content ++ after) store
      (report.after 1) final := by
  have place : locate (behind ++ bracketed content ++ after) = .tag behind content after :=
    locate_eq_tag_iff.mpr ⟨rfl, unclosed, inside⟩
  have turned := (Scope.turn_eq_iff place).mpr ⟨result, evaluated, rfl⟩
  refine .turn place turned ?_ rest
  intro same
  have itself : result = bracketed content := by simpa using same
  exact plain.1 (by simp [itself, bracketed])

/-- A run on a written tree, whatever was read before it and whatever follows, first evaluates the
tree. -/
theorem renders_flatten {behind after : Text} (tree : TagTree) (unclosed : closeBrace ∉ behind)
    (plain : ∀ result ∈ (tree.evaluate scope draws store).results, Text.Plain result)
    (rest : scope.Renders budget (draws.skip tree.tags)
      (behind ++ (tree.evaluate scope draws store).text ++ after)
      (tree.evaluate scope draws store).store report final) :
    scope.Renders (tree.tags + budget) draws (behind ++ tree.flatten ++ after) store
      (report.after tree.tags) final := by
  -- What stands before and behind is left open: behind the content of a tag stands its closing brace.
  induction tree generalizing behind after draws budget store report with
  | empty => simpa [evaluate, tags, flatten] using rest
  | literal text row ih =>
    simp only [evaluate, flatten, tags, ← List.append_assoc] at plain rest ⊢
    exact ih (by simp [unclosed, text.plain.2]) plain rest
  | tag content row inner outer =>
    rcases evaluated : scope.evaluate (draws content.tags)
      (content.evaluate scope draws store).text
      (content.evaluate scope draws store).store with ⟨result, left⟩
    simp only [evaluate_tag evaluated, flatten, tags, List.mem_append, List.mem_cons] at plain rest ⊢
    have innerPlain := fun other member => plain other (.inl member)
    have here := plain result (.inr (.inl rfl))
    have rowDone : scope.Renders (row.tags + budget) (draws.skip (content.tags + 1))
        (behind ++ result ++ row.flatten ++ after) left (report.after row.tags) final := by
      apply outer (by simp [unclosed, here.2]) fun other member => plain other (.inr (.inr member))
      simpa [Nat.add_assoc] using rest
    have tagDone : scope.Renders (row.tags + budget + 1) (draws.skip content.tags)
        (behind ++ bracketed (content.evaluate scope draws store).text ++ (row.flatten ++ after))
        (content.evaluate scope draws store).store ((report.after row.tags).after 1) final := by
      apply renders_tag unclosed (plain_text_evaluate content innerPlain) here
      · simpa [Draws.skip] using evaluated
      · simpa using rowDone
    have contentDone : scope.Renders (content.tags + (row.tags + budget + 1)) draws
        (behind ++ [openBrace] ++ content.flatten ++ closeBrace :: (row.flatten ++ after)) store
        (((report.after row.tags).after 1).after content.tags) final := by
      apply inner (by simp [unclosed]) innerPlain
      simpa [bracketed] using tagDone
    have order : content.tags + 1 + row.tags + budget = content.tags + (row.tags + budget + 1) := by
      omega
    rw [order]
    simpa [bracketed, Nat.add_assoc] using contentDone

/-- Rendering refines evaluation from the inside and from left to right. Where no tag gives a brace
and the budget covers all tags, a run on the written tree gives the text of the tree and leaves its
store, with one evaluation for each tag. -/
theorem run_flatten_eq_evaluate (tree : TagTree)
    (plain : ∀ result ∈ (tree.evaluate scope draws store).results, Text.Plain result)
    (enough : tree.tags ≤ budget) :
    scope.run budget draws tree.flatten store =
      (⟨(tree.evaluate scope draws store).text, tree.tags, .complete⟩,
        (tree.evaluate scope draws store).store) := by
  obtain ⟨remaining, rfl⟩ := Nat.exists_eq_add_of_le enough
  have finished := locate_eq_finished_iff.mpr (plain_text_evaluate tree plain).2
  have rendered : scope.Renders (tree.tags + remaining) draws ([] ++ tree.flatten ++ []) store
      (Report.after tree.tags ⟨(tree.evaluate scope draws store).text, 0, .complete⟩)
      (tree.evaluate scope draws store).store := by
    apply renders_flatten tree (by simp) plain
    simpa using Scope.Renders.finished finished
  simpa [Report.after] using rendered.run_eq

/-- A tree that binds a name inside out and reads it twice. -/
def greetings : TagTree :=
  .tag (.literal ⟨"greeting:".toList, by decide⟩
      (.tag (.literal ⟨"upper:hi".toList, by decide⟩ .empty) .empty))
    (.tag (.literal ⟨"greeting".toList, by decide⟩ .empty)
      (.literal ⟨", ".toList, by decide⟩
        (.tag (.literal ⟨"greeting".toList, by decide⟩ .empty) .empty)))

theorem run_flatten_greetings :
    (∀ result ∈ (greetings.evaluate .standard default .empty).results, Text.Plain result) ∧
    greetings.tags ≤ 4 ∧
    greetings.flatten =
      "⟨greeting:⟨upper:hi⟩⟩⟨greeting⟩, ⟨greeting⟩".braced ∧
    (greetings.evaluate .standard default .empty).text = "HI, HI".toList ∧
    Scope.standard.run 4 default greetings.flatten .empty =
      (⟨(greetings.evaluate .standard default .empty).text, 4, .complete⟩,
        (greetings.evaluate .standard default .empty).store) := by
  have plain : ∀ result ∈ (greetings.evaluate .standard default .empty).results,
      Text.Plain result := by decide +kernel
  have enough : greetings.tags ≤ 4 := by decide
  refine ⟨plain, enough, by decide, by decide +kernel, ?_⟩
  exact run_flatten_eq_evaluate greetings plain enough

end TagTree

end TagWeave
