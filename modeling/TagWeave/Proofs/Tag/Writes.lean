import TagWeave.Proofs.Tag.Effects
import TagWeave.Proofs.Value.Functions

/-! What one tag writes. Unless it calls a function of the host, a tag binds at most one name, keeps every
key in its place, and brings no function into the store that the store did not hold. -/
namespace TagWeave

/-- The stores that a tag can leave: the same one, or one with a name bound anew to a value that has
no functions but those of the store. -/
inductive Store.Written (store : Store) : Store → Prop where
  | nothing : Written store store
  | bound (name : Text) {value : Value} (known : value.functions ⊆ store.functions) :
      Written store (store.set name value)

variable {callable : Builtin → Prop} {store left : Store} {content replacement : Text}
  {value : Value} {reference : FunctionRef}

namespace Store

theorem Holds.functions_subset (held : store.Holds value) : value.functions ⊆ store.functions := by
  cases held with
  | bound bound => exact functions_get?_subset bound
  | entry bound found =>
    exact List.Subset.trans (Value.functions_entry_subset found) (functions_get?_subset bound)

theorem Holds.mem_functions (held : store.Holds (.function reference)) :
    reference ∈ store.functions := held.functions_subset List.mem_cons_self

theorem not_holds_function (free : store.functions = []) (reference : FunctionRef) :
    ¬ store.Holds (.function reference) := by
  intro held
  have listed := held.mem_functions
  rw [free] at listed
  cases listed

theorem functions_pushed_subset (name : Text) (store : Store) :
    (Builtin.pushed name store).functions ⊆ store.functions := by
  unfold Builtin.pushed
  cases bound : store.get? name with
  | none => exact List.nil_subset _
  | some value => exact functions_get?_subset bound

namespace Written

theorem keys_kept (written : store.Written left) : store.keys <+: left.keys := by
  cases written with
  | nothing => exact List.prefix_rfl
  | bound name _ => exact Entries.keys_prefix_write name _ store.entries

theorem length_keys_le (written : store.Written left) :
    left.keys.length ≤ store.keys.length + 1 := by
  cases written with
  | nothing => exact Nat.le_succ _
  | bound name _ =>
    rw [keys_set]
    split
    · exact Nat.le_succ _
    · simp

theorem functions_subset (written : store.Written left) : left.functions ⊆ store.functions := by
  cases written with
  | nothing => exact List.Subset.refl _
  | bound name known => exact functions_set_subset name known

theorem functions_eq_nil (written : store.Written left) (free : store.functions = []) :
    left.functions = [] := by
  have known := written.functions_subset
  rw [free] at known
  exact List.subset_nil.mp known

theorem frame (written : store.Written left) :
    ∃ name, ∀ other, other ≠ name → left.get? other = store.get? other := by
  cases written with
  | nothing => exact ⟨[], fun _ _ => rfl⟩
  | bound name _ =>
    refine ⟨name, ?_⟩
    intro other apart
    rw [get?_set, if_neg (Ne.symm apart)]

end Written

end Store

theorem Effect.written (effect : Effect callable content store replacement left) :
    store.Written left := by
  cases effect with
  | part | upper | lower | number | truth | size | missing | read | select | join => exact .nothing
  | bind => exact .bound _ (List.nil_subset _)
  | vector =>
    refine .bound _ ?_
    rw [Value.functions_texts]
    exact List.nil_subset _
  | object => exact .bound _ (List.nil_subset _)
  | append bound _ =>
    exact .bound _ (Value.functions_append_subset (Store.functions_get?_subset bound)
      (Store.functions_pushed_subset _ store))
  | slot bound _ =>
    exact .bound _
      (Value.functions_set_subset _ (Store.functions_get?_subset bound) (List.nil_subset _))
  | entry bound _ _ =>
    exact .bound _
      (Value.functions_write_subset (Store.functions_get?_subset bound) (List.nil_subset _))

theorem Builtin.call_written (builtin : Builtin) (draw : Draw) (payload : Text) (store : Store) :
    store.Written (builtin.call draw payload store).2 := by
  have effect : Effect (fun _ => True) payload store _ _ :=
    builtin.call_effect trivial draw payload store
  exact effect.written

end TagWeave
