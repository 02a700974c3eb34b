import Mathlib.Tactic.Ring
import TagWeave.Proofs.Engine.TreeRefinement
import TagWeave.Proofs.Tag.Assignment
import TagWeave.Proofs.Text.Plain

/-! Templates that grow as fast as templates can. A round binds a list with one item for each comma of
a text, joins the list with that text between the items, and binds the name of the text to what this
gives; so each round of five tags squares the number of commas. -/
namespace TagWeave

namespace Squaring

variable {count : Nat}

def commas (count : Nat) : Text := List.replicate count ','

@[simp] theorem length_commas (count : Nat) : (commas count).length = count :=
  List.length_replicate

theorem plain_commas (count : Nat) : (commas count).Plain := Text.plain_replicate (by decide) count

theorem isBlank_of_mem_commas {c : Char} (member : c ∈ commas count) : Text.isBlank c = false :=
  List.eq_of_mem_replicate member ▸ rfl

theorem trim_commas (count : Nat) : Text.trim (commas count) = commas count :=
  Text.trim_eq_self fun _ => isBlank_of_mem_commas

theorem trimEnd_commas (front : Text) {sign : Char} (written : Text.isBlank sign = false)
    (count : Nat) : Text.trimEnd (front ++ sign :: commas count) = front ++ sign :: commas count := by
  rw [Text.trimEnd_append_cons written, Text.trimEnd_eq_self fun _ => isBlank_of_mem_commas]

theorem pieces_commas (count : Nat) :
    Text.pieces ',' (commas count) = List.replicate (count + 1) [] := by
  induction count with
  | zero => rfl
  | succ count ih =>
    rw [commas, List.replicate_succ, ← commas]
    simp only [Text.pieces, ih]
    rfl

/-- The names that a round binds: the text of commas and the list. -/
def growing : Text := ['c']

def parts : Text := ['l']

theorem isName_growing : growing.IsName := ⟨by decide, by decide, rfl⟩

/-- The list with one empty item more than there are commas. -/
def blanks (count : Nat) : Value := .list (List.replicate (count + 1) (.text []))

/-- The commas between the blanks are a product of commas. -/
theorem join_blanks (between count : Nat) :
    Value.join (commas between) (List.replicate (count + 1) (.text [])) = commas (count * between) := by
  have texts (length : Nat) : Value.itemTexts (List.replicate length (.text [])) =
      List.replicate length [] := by
    induction length with
    | zero => rfl
    | succ length ih => simp [List.replicate_succ, Value.itemTexts, Value.toText, ih]
  rw [Value.join, texts]
  induction count with
  | zero => simp [Text.joined, commas]
  | succ count ih =>
    rw [List.replicate_succ, Text.joined_cons, ih]
    simp [commas, List.replicate_succ, Nat.succ_mul, Nat.add_comm]

/-- What a round needs of the store that it begins with: the name of the text of commas is bound to
that text, and the functions of the round are not hidden. -/
structure Ready (store : Store) (count : Nat) : Prop where
  bound : store.get? growing = some (.text (commas count))
  vector_free : store.get? Builtin.vector.name.toList = none
  join_free : store.get? Builtin.join.name.toList = none

variable {draws : Draws} {store : Store} {more : Nat}

namespace Ready

theorem set_parts (ready : Ready store count) (value : Value) : Ready (store.set parts value) count := by
  constructor
  · simpa [parts, growing] using ready.bound
  · simpa [parts, Builtin.name] using ready.vector_free
  · simpa [parts, Builtin.name] using ready.join_free

theorem set_growing (ready : Ready store count) :
    Ready (store.set growing (.text (commas more))) more := by
  constructor
  · simp
  · simpa [growing, Builtin.name] using ready.vector_free
  · simpa [growing, Builtin.name] using ready.join_free

end Ready

theorem evaluate_growing (draw : Draw) (ready : Ready store count) :
    Scope.standard.evaluate draw growing store = (commas count, store) :=
  Scope.evaluate_data isName_growing ready.bound rfl

theorem evaluate_vector (draw : Draw) (count : Nat)
    (free : store.get? Builtin.vector.name.toList = none) :
    Scope.standard.evaluate draw ("vector:l=".toList ++ commas count) store =
      ([], store.set parts (blanks count)) := by
  have called : Scope.standard.evaluate draw ("vector:l=".toList ++ commas count) store =
      Builtin.vector.call draw (Text.trimEnd ("l=".toList ++ commas count)) store :=
    Scope.evaluate_builtin _ .vector free (Registry.get?_standard _) ("l=".toList ++ commas count)
  have ended : Text.trimEnd ("l=".toList ++ commas count) = "l=".toList ++ commas count :=
    trimEnd_commas parts rfl count
  have divided : Text.cutAt '=' ("l=".toList ++ commas count) = some (parts, commas count) :=
    Text.cutAt_append parts _ (by decide)
  have name : Text.trim parts = parts := rfl
  simp only [called, ended, Builtin.call, Builtin.bindVector, divided, pieces_commas,
    List.map_replicate, name]
  rfl

theorem evaluate_join (draw : Draw) (between : Nat)
    (free : store.get? Builtin.join.name.toList = none)
    (bound : store.get? parts = some (blanks count)) :
    Scope.standard.evaluate draw ("join:l,".toList ++ commas between) store =
      (commas (count * between), store) := by
  have called : Scope.standard.evaluate draw ("join:l,".toList ++ commas between) store =
      Builtin.join.call draw (Text.trimEnd ("l,".toList ++ commas between)) store :=
    Scope.evaluate_builtin _ .join free (Registry.get?_standard _) ("l,".toList ++ commas between)
  have ended : Text.trimEnd ("l,".toList ++ commas between) = "l,".toList ++ commas between :=
    trimEnd_commas parts rfl between
  have divided : Text.cutAt ',' ("l,".toList ++ commas between) = some (parts, commas between) :=
    Text.cutAt_append parts _ (by decide)
  have name : Text.trim parts = parts := rfl
  simp only [called, ended, Builtin.call, Builtin.joinText, divided, name, bound, blanks, trim_commas,
    join_blanks]

theorem evaluate_bind (draw : Draw) (count : Nat)
    (meaning : store.get? growing = none ∨ ∃ text, store.get? growing = some (.text text)) :
    Scope.standard.evaluate draw ("c:".toList ++ commas count) store =
      ([], store.set growing (.text (commas count))) := by
  have meant : (∃ value, store.get? growing = some value ∧ value.isCollection = false ∧
        value.isFunction = false) ∨
      (store.get? growing = none ∧ Scope.standard.registry.get? growing = none) := by
    rcases meaning with free | ⟨text, bound⟩
    · exact .inr ⟨free, rfl⟩
    · exact .inl ⟨_, bound, rfl, rfl⟩
  have bind : Scope.standard.evaluate draw ("c:".toList ++ commas count) store =
      ([], store.set growing (.text (Text.trim (commas count)))) :=
    Scope.evaluate_bind isName_growing meant (commas count)
  rw [bind, trim_commas]

def shown : TagTree := .tag (.literal ⟨growing, by decide⟩ .empty) .empty

def listing : TagTree := .literal ⟨"vector:l=".toList, by decide⟩ shown

def joining : TagTree :=
  .literal ⟨"c:".toList, by decide⟩ (.tag (.literal ⟨"join:l,".toList, by decide⟩ shown) .empty)

/-- Rounds that square the number of commas, and the commas after them. -/
def rounds : Nat → TagTree
  | 0 => shown
  | count + 1 => .tag listing (.tag joining (rounds count))

/-- The template that binds commas to begin with and squares them round by round. -/
def template (seed count : Nat) : TagTree :=
  .tag (.literal ⟨"c:".toList ++ commas seed, .append (by decide) (plain_commas seed)⟩ .empty)
    (rounds count)

theorem tags_template (seed count : Nat) : (template seed count).tags = 5 * count + 2 := by
  have later : (rounds count).tags = 5 * count + 1 := by
    induction count with
    | zero => rfl
    | succ count ih =>
      simp only [rounds, listing, joining, shown, TagTree.tags, ih]
      omega
  simp only [template, TagTree.tags, later]
  omega

theorem length_flatten_template (seed count : Nat) :
    (template seed count).flatten.length = 30 * count + seed + 7 := by
  have later : (rounds count).flatten.length = 30 * count + 3 := by
    induction count with
    | zero => rfl
    | succ count ih =>
      simp [rounds, listing, joining, shown, TagTree.flatten, bracketed, growing, ih]
      omega
  simp [template, TagTree.flatten, bracketed, later]
  omega

theorem evaluate_shown (ready : Ready store count) :
    shown.evaluate .standard draws store = ⟨commas count, [commas count], store⟩ := by
  have read := evaluate_growing (draws 0) ready
  simp [shown, TagTree.evaluate, TagTree.tags, read]

theorem evaluate_listing (ready : Ready store count) :
    listing.evaluate .standard draws store =
      ⟨"vector:l=".toList ++ commas count, [commas count], store⟩ := by
  simp only [listing, TagTree.evaluate, evaluate_shown ready]

theorem evaluate_joining (ready : Ready store count)
    (bound : store.get? parts = some (blanks count)) :
    joining.evaluate .standard draws store =
      ⟨"c:".toList ++ commas (count * count), [commas count, commas (count * count)], store⟩ := by
  have joined := evaluate_join (draws shown.tags) count ready.join_free bound
  simp only [joining, TagTree.evaluate, evaluate_shown ready, TagTree.tags, joined, List.append_nil,
    List.singleton_append]

/-- A round squares, so the rounds raise the number of commas to a power of a power of two. -/
theorem evaluate_rounds (left : Nat) (draws : Draws) (ready : Ready store count) :
    ((rounds left).evaluate .standard draws store).text = commas (count ^ 2 ^ left) ∧
    ∀ result ∈ ((rounds left).evaluate .standard draws store).results, Text.Plain result := by
  induction left generalizing draws store count with
  | zero => simp [rounds, evaluate_shown ready, plain_commas]
  | succ left ih =>
    have listed := ready.set_parts (blanks count)
    have joined : Ready ((store.set parts (blanks count)).set growing
        (.text (commas (count * count)))) (count * count) := listed.set_growing
    have vector := evaluate_vector (draws listing.tags) count ready.vector_free
    have bind := evaluate_bind (draws.skip (listing.tags + 1) joining.tags) (count * count)
      (.inr ⟨_, listed.bound⟩)
    have further := ih ((draws.skip (listing.tags + 1)).skip (joining.tags + 1)) joined
    have squared : (count * count) ^ 2 ^ left = count ^ 2 ^ (left + 1) := by
      rw [← pow_two, ← pow_mul, pow_succ']
    rw [squared] at further
    simp only [rounds, TagTree.evaluate, evaluate_listing ready, vector,
      evaluate_joining listed (by simp), bind, List.nil_append]
    refine ⟨further.1, ?_⟩
    intro result member
    simp only [List.mem_append, List.mem_cons, List.not_mem_nil, or_false] at member
    rcases member with rfl | rfl | (rfl | rfl) | rfl | later
    · exact plain_commas count
    · exact Text.plain_nil
    · exact plain_commas count
    · exact plain_commas (count * count)
    · exact Text.plain_nil
    · exact further.2 result later

/-- The first tag binds the commas to begin with, so the whole template gives a power of their
number. -/
theorem evaluate_template (seed count : Nat) (draws : Draws) :
    ((template seed count).evaluate .standard draws .empty).text = commas (seed ^ 2 ^ count) ∧
    ∀ result ∈ ((template seed count).evaluate .standard draws .empty).results,
      Text.Plain result := by
  have bind := @evaluate_bind .empty (draws 0) seed (.inl rfl)
  have ready : Ready (Store.empty.set growing (.text (commas seed))) seed := ⟨by simp, rfl, rfl⟩
  have further := evaluate_rounds count (draws.skip 1) ready
  simp only [template, TagTree.evaluate, TagTree.tags, List.append_nil, bind, Nat.zero_add,
    List.nil_append]
  refine ⟨further.1, ?_⟩
  intro result member
  rcases List.mem_cons.mp member with rfl | later
  · exact Text.plain_nil
  · exact further.2 result later

/-- Five evaluations a round and two more square the commas as often as there are rounds. -/
theorem run_template (seed count : Nat) (draws : Draws) :
    (Scope.standard.run (5 * count + 2) draws (template seed count).flatten .empty).1 =
      ⟨commas (seed ^ 2 ^ count), 5 * count + 2, .complete⟩ := by
  obtain ⟨text, plain⟩ := evaluate_template seed count draws
  have finished := locate_eq_finished_iff.mpr (plain_commas (seed ^ 2 ^ count)).2
  have rendered : Scope.standard.Renders ((template seed count).tags + 0) draws
      ([] ++ (template seed count).flatten ++ []) .empty
      (Report.after (template seed count).tags ⟨commas (seed ^ 2 ^ count), 0, .complete⟩)
      ((template seed count).evaluate .standard draws .empty).store := by
    apply TagTree.renders_flatten (template seed count) (by simp) plain
    simpa [text] using Scope.Renders.finished finished
  simp only [List.nil_append, List.append_nil, Nat.add_zero, tags_template] at rendered
  simp [rendered.run_eq, Report.after]

end Squaring

end TagWeave
