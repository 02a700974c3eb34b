import TagWeave.Proofs.Text.Plain

/-! Lower case is final: what it gives has no other lower case. That is settled on the tables. No run
leads to a code point that another entry maps on, and the few expansions are read. -/
namespace TagWeave.Text

variable {text : Text} {c d : Char} {run other : CaseRun} {point image : Nat}
  {expansions : List (Nat × List Nat)} {runs : List CaseRun}

/-- Whether nothing that a run leads to is mapped on by the other one: it lies apart from it, or it falls
into the gaps of every second code point. -/
def CaseRun.misses (run other : CaseRun) : Bool :=
  run.target + (run.last - run.first) < other.first || other.last < run.target ||
    (other.step == 2 && (run.target + other.first) % 2 == 1 &&
      (run.step == 2 || run.first == run.last))

theorem CaseRun.image?_eq_none_of_misses (misses : run.misses other = true)
    (mapped : run.image? point = some image) : other.image? image = none := by
  simp only [CaseRun.image?, Option.ite_none_right_eq_some, Option.some.injEq] at mapped
  obtain ⟨⟨after, before, placed⟩, rfl⟩ := mapped
  simp only [CaseRun.misses, Bool.or_eq_true, Bool.and_eq_true, decide_eq_true_eq,
    beq_iff_eq] at misses
  apply if_neg
  rintro ⟨other_after, other_before, other_placed⟩
  rcases misses with (below | above) | ⟨⟨every, odd⟩, second | single⟩
  · omega
  · omega
  · rw [every] at other_placed
    rw [second] at placed
    omega
  · rw [every] at other_placed
    omega

/-- Whether the tables of a case lead to nothing that they map on. -/
def isFinal (expansions : List (Nat × List Nat)) (runs : List CaseRun) : Bool :=
  (0 :: expansions.flatMap Prod.snd).all (fun point =>
      mapped expansions runs (Char.ofNat point) == [Char.ofNat point]) &&
    runs.all fun run =>
      expansions.all (fun expansion => run.misses ⟨expansion.1, expansion.1, 1, expansion.1⟩) &&
        runs.all run.misses

theorem mapped_eq_self (expanded : expansions.find? (·.1 == c.toNat) = none)
    (imaged : runs.findSome? (·.image? c.toNat) = none) : mapped expansions runs c = [c] := by
  rw [mapped, expanded, imaged]
  rfl

theorem mapped_of_mem_mapped (final : isFinal expansions runs = true)
    (member : d ∈ mapped expansions runs c) : mapped expansions runs d = [d] := by
  simp only [isFinal, Bool.and_eq_true, List.all_eq_true, beq_iff_eq] at final
  obtain ⟨points, apart⟩ := final
  cases expanded : expansions.find? (·.1 == c.toNat) with
  | some expansion =>
    rw [mapped, expanded] at member
    obtain ⟨point, listed, rfl⟩ := List.mem_map.mp member
    exact points point (List.mem_cons_of_mem _
      (List.mem_flatMap.mpr ⟨expansion, List.mem_of_find?_eq_some expanded, listed⟩))
  | none =>
    cases found : runs.findSome? (·.image? c.toNat) with
    | none =>
      have same := mapped_eq_self expanded found
      rw [same] at member
      rwa [List.mem_singleton.mp member]
    | some image =>
      rw [mapped, expanded, found] at member
      obtain rfl : d = Char.ofNat image := List.mem_singleton.mp member
      obtain ⟨run, listed, mapping⟩ := List.exists_of_findSome?_eq_some found
      obtain ⟨off_expansions, off_runs⟩ := apart run listed
      rcases toNat_ofNat image with valid | invalid
      · apply mapped_eq_self
        · rw [valid, List.find?_eq_none]
          intro expansion present same
          have unmapped := CaseRun.image?_eq_none_of_misses (off_expansions expansion present) mapping
          simp [CaseRun.image?, beq_iff_eq.mp same] at unmapped
        · rw [valid, List.findSome?_eq_none_iff]
          exact fun other present =>
            CaseRun.image?_eq_none_of_misses (off_runs other present) mapping
      · -- What is no code point stands for the first one, which has no case.
        have zero : Char.ofNat image = Char.ofNat 0 := Char.toNat_inj.mp invalid
        rw [zero]
        exact points 0 List.mem_cons_self

theorem lowerChar_of_mem_lowerChar (member : d ∈ lowerChar c) : lowerChar d = [d] :=
  mapped_of_mem_mapped (by decide +kernel) member

/-- Characters that have no other lower case stay, wherever they stand. -/
theorem lowerAfter_eq_self (before : Text) (small : ∀ c ∈ text, lowerChar c = [c]) :
    lowerAfter before text = text := by
  induction text generalizing before with
  | nil => rfl
  | cons first rest ih =>
    obtain ⟨first_small, rest_small⟩ := List.forall_mem_cons.mp small
    have other : first ≠ 'Σ' := by
      rintro rfl
      exact absurd first_small (by decide +kernel)
    rw [lowerAfter, if_neg other, first_small, ih _ rest_small]
    rfl

theorem lowerChar_of_mem_lowerAfter {before : Text} (member : d ∈ lowerAfter before text) :
    lowerChar d = [d] := by
  induction text generalizing before with
  | nil => cases member
  | cons first rest ih =>
    simp only [lowerAfter, List.mem_append] at member
    rcases member with here | later
    · by_cases sigma : first = 'Σ'
      · rw [if_pos sigma] at here
        -- Both forms of the small sigma are small.
        rw [List.mem_singleton.mp here]
        split <;> decide +kernel
      · rw [if_neg sigma] at here
        exact lowerChar_of_mem_lowerChar here
    · exact ih later

/-- What is in lower case has no other lower case. -/
@[simp] theorem lower_lower (text : Text) : lower (lower text) = lower text :=
  lowerAfter_eq_self [] fun _ => lowerChar_of_mem_lowerAfter

end TagWeave.Text
