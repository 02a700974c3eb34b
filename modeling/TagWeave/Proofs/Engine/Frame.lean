import TagWeave.Proofs.Engine.Evaluations
import TagWeave.Proofs.Tag.Writes

/-! What runs of the builtin functions leave alone. On data without functions each evaluation binds at
most one name, so a run keeps every key in its place and adds no more keys than it evaluates tags. -/
namespace TagWeave

/-- What a number of evaluations may make of a store: keys come at the end only, at most one with each
evaluation, and no functions come in. -/
structure Store.Extended (store : Store) (evaluations : Nat) (left : Store) : Prop where
  keys : store.keys <+: left.keys
  length_keys : left.keys.length ≤ store.keys.length + evaluations
  free : left.functions = []

variable {store left final : Store} {evaluations : Nat}

namespace Store.Extended

theorem start (free : store.functions = []) : store.Extended 0 store :=
  ⟨List.prefix_rfl, Nat.le_refl _, free⟩

theorem written (extended : store.Extended evaluations left) (written : left.Written final) :
    store.Extended (evaluations + 1) final where
  keys := extended.keys.trans written.keys_kept
  length_keys := by
    have before := extended.length_keys
    have after := written.length_keys_le
    omega
  free := written.functions_eq_nil extended.free

end Store.Extended

namespace Scope

/-- The builtin functions under their own names, beside any functions of the host that are not
registered. -/
def withBuiltins (host : Nat → TagFunction) : Scope := ⟨functionsWith host, .standard⟩

variable {host : Nat → TagFunction}

theorem written_withBuiltins (free : store.functions = []) (draw : Draw) (content : Text) :
    store.Written ((withBuiltins host).evaluate draw content store).2 := by
  have only : Registry.standard.Only Builtin.all := by decide
  exact (only.evaluate_effect (Store.not_holds_function free) host draw content).written

/-- The builtin functions only add bindings and change them. Whatever the template does with a store
without functions, the keys from before stay in front in their order; there are at most as many new
ones as evaluations; no function comes into the store; and each evaluation of the run changes what
one name at most is bound to. -/
theorem run_withBuiltins_frames (host : Nat → TagFunction) (budget : Nat) (draws : Draws) (text : Text)
    (free : store.functions = []) :
    let ran := (withBuiltins host).run budget draws text store
    store.keys <+: ran.2.keys ∧
    ran.2.keys.length ≤ store.keys.length + ran.1.iterations ∧
    ran.2.functions = [] ∧
    ∀ evaluation ∈ (withBuiltins host).evaluations budget draws text store, ∀ draw,
      ∃ name, ∀ other, other ≠ name →
        ((withBuiltins host).evaluate draw evaluation.1 evaluation.2).2.get? other =
          evaluation.2.get? other := by
  intro ran
  have extended : store.Extended ran.1.iterations ran.2 := by
    refine ((withBuiltins host).renders_run budget draws text store).store_invariant store.Extended ?_
      (Store.Extended.start free)
    intro count draw content met reached
    exact reached.written (written_withBuiltins reached.free draw content)
  refine ⟨extended.keys, extended.length_keys, extended.free, ?_⟩
  intro evaluation evaluated draw
  have met_free : evaluation.2.functions = [] := by
    refine evaluations_invariant (fun met => met.functions = []) ?_ free evaluation evaluated
    intro draw content met met_free
    exact (written_withBuiltins met_free draw content).functions_eq_nil met_free
  exact (written_withBuiltins met_free draw evaluation.1).frame

def shelves : Store :=
  .ofNamed [("all".toList, .list [.text "a".toList]), ("by".toList, .object [])]

/-- Tags that write in each of the ways there are. -/
def shelvesTemplate : Text :=
  ("⟨all->new⟩⟨all:0=b⟩⟨by:key=all⟩⟨new:⟨by:key⟩⟩" ++
    "⟨vector:more=1,2⟩⟨push:more->by⟩⟨object:new⟩").braced

/-- Eight evaluations add two keys. -/
theorem run_withBuiltins_shelves :
    shelves.functions = [] ∧
    let ran := (withBuiltins fun _ _ _ store => ([], store)).run 8 default shelvesTemplate shelves
    ran.1.iterations = 8 ∧
    ran.2.keys = ["all".toList, "by".toList, "new".toList, "more".toList] ∧
    shelves.keys <+: ran.2.keys ∧
    ran.2.keys.length ≤ shelves.keys.length + ran.1.iterations ∧
    ran.2.functions = [] := by
  have free : shelves.functions = [] := by decide
  obtain ⟨keys, length_keys, final_free, -⟩ := run_withBuiltins_frames
    (fun _ _ _ store => ([], store)) 8 default shelvesTemplate free
  exact ⟨free, by decide +kernel, by decide +kernel, keys, length_keys, final_free⟩

end Scope

end TagWeave
