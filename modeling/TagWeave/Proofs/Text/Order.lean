import Mathlib.Order.Defs.Unbundled
import TagWeave.Text.Basic

/-! The order of texts. Comparing code points one after the other is comparing the UTF-8 forms byte by
byte: a greater code point has a greater first byte or, where the forms begin alike, a greater later
one. -/
namespace TagWeave.Text

def charBytes (c : Char) : List Nat := (String.utf8EncodeChar c).map UInt8.toNat

def bytes (text : Text) : List Nat := text.flatMap charBytes

def Before (first second : Text) : Prop := List.Lex (fun a b => a < b) (bytes first) (bytes second)

variable {first second third : Text}

theorem charBytes_eq (c : Char) :
    charBytes c =
      if c.toNat ≤ 127 then [c.toNat]
      else if c.toNat ≤ 2047 then [c.toNat / 64 + 192, c.toNat % 64 + 128]
      else if c.toNat ≤ 65535 then
        [c.toNat / 4096 + 224, c.toNat / 64 % 64 + 128, c.toNat % 64 + 128]
      else [c.toNat / 262144 + 240, c.toNat / 4096 % 64 + 128, c.toNat / 64 % 64 + 128,
        c.toNat % 64 + 128] := by
  have bound : c.toNat < 1114112 := by
    rcases c.valid with low | high
    · have below : c.toNat < 55296 := low
      omega
    · exact high.2
  have same : c.val.toNat = c.toNat := rfl
  unfold charBytes String.utf8EncodeChar
  simp only [same]
  repeat' split
  all_goals
    simp
    omega

/-- A lesser code point decides the comparison of bytes, whatever follows. -/
theorem lex_charBytes {c d : Char} (less : c.toNat < d.toNat) (left right : List Nat) :
    List.Lex (fun a b => a < b) (charBytes c ++ left) (charBytes d ++ right) := by
  rw [charBytes_eq, charBytes_eq]
  -- The first byte tells how many there are; forms of one length are numbers to the base of 64.
  repeat' split
  all_goals
    simp only [List.cons_append, List.nil_append, List.cons_lex_cons_iff]
    omega

theorem charBytes_ne_nil (c : Char) : charBytes c ≠ [] := by
  rw [charBytes_eq]
  repeat' split
  all_goals simp

theorem lex_append_iff {common left right : List Nat} :
    List.Lex (fun a b => a < b) (common ++ left) (common ++ right) ↔
      List.Lex (fun a b => a < b) left right := by
  induction common with
  | nil => rfl
  | cons byte rest ih => simp [List.cons_lex_cons_iff, ih]

theorem lex_asymm {left right : List Nat} (forth : List.Lex (fun a b => a < b) left right) :
    ¬ List.Lex (fun a b => a < b) right left := by
  induction forth with
  | nil => simp
  | cons _ ih => simpa [List.cons_lex_cons_iff] using ih
  | rel less =>
    simp only [List.cons_lex_cons_iff]
    omega

/-- The order by code points is the order by bytes. -/
theorem precedes_iff_before (first second : Text) :
    precedes first second = true ↔ Before first second := by
  unfold Before
  induction first generalizing second with
  | nil =>
    cases second with
    | nil => simp [precedes, bytes]
    | cons c rest =>
      cases form : charBytes c with
      | nil => exact absurd form (charBytes_ne_nil c)
      | cons byte others => simp [precedes, bytes, form]
  | cons c left ih =>
    cases second with
    | nil => simp [precedes, bytes]
    | cons d right =>
      simp only [precedes, bytes, List.flatMap_cons, Bool.or_eq_true, decide_eq_true_eq,
        Bool.and_eq_true, beq_iff_eq]
      rcases Nat.lt_trichotomy c.toNat d.toNat with less | same | greater
      · simp [less, lex_charBytes less]
      · obtain rfl := Char.toNat_inj.mp same
        rw [lex_append_iff]
        simpa [bytes] using ih right
      · have back := lex_asymm (lex_charBytes greater (bytes right) (bytes left))
        simp only [bytes] at back
        simp [back]
        omega

theorem precedes_irrefl (text : Text) : precedes text text = false := by
  induction text with
  | nil => rfl
  | cons c rest ih => simp [precedes, ih]

theorem precedes_trans (forth : precedes first second = true) (further : precedes second third = true) :
    precedes first third = true := by
  induction first generalizing second third with
  | nil =>
    cases third with
    | nil => cases second <;> simp [precedes] at further
    | cons _ _ => rfl
  | cons a left ih =>
    cases second with
    | nil => simp [precedes] at forth
    | cons b middle =>
      cases third with
      | nil => simp [precedes] at further
      | cons c right =>
        simp only [precedes, Bool.or_eq_true, decide_eq_true_eq, Bool.and_eq_true, beq_iff_eq]
          at forth further ⊢
        rcases forth with less | ⟨same, forth⟩
        · rcases further with more | ⟨same, _⟩ <;> omega
        · rcases further with more | ⟨equal, further⟩
          · omega
          · exact .inr ⟨same.trans equal, ih forth further⟩

theorem precedes_or_eq_or_precedes (first second : Text) :
    precedes first second = true ∨ first = second ∨ precedes second first = true := by
  induction first generalizing second with
  | nil => cases second <;> simp [precedes]
  | cons c left ih =>
    cases second with
    | nil => simp [precedes]
    | cons d right =>
      simp only [precedes, Bool.or_eq_true, decide_eq_true_eq, Bool.and_eq_true, beq_iff_eq,
        List.cons.injEq]
      rcases Nat.lt_trichotomy c.toNat d.toNat with less | same | greater
      · exact .inl (.inl less)
      · obtain rfl := Char.toNat_inj.mp same
        rcases ih right with forth | rfl | back
        · exact .inl (.inr ⟨rfl, forth⟩)
        · exact .inr (.inl ⟨rfl, rfl⟩)
        · exact .inr (.inr (.inr ⟨rfl, back⟩))
      · exact .inr (.inr (.inl greater))

def NotAfter (first second : Text) : Prop := precedes second first = false

instance : DecidableRel NotAfter := fun _ _ => inferInstanceAs (Decidable (_ = _))

theorem notAfter_iff : NotAfter first second ↔ precedes first second = true ∨ first = second := by
  unfold NotAfter
  constructor
  · intro none
    rcases precedes_or_eq_or_precedes first second with forth | same | back
    · exact .inl forth
    · exact .inr same
    · simp [none] at back
  · rintro (forth | rfl)
    · rw [Bool.eq_false_iff]
      intro back
      simpa [precedes_irrefl] using precedes_trans forth back
    · exact precedes_irrefl first

theorem NotAfter.trans (forth : NotAfter first second) (further : NotAfter second third) :
    NotAfter first third := by
  rw [notAfter_iff] at *
  rcases forth with forth | rfl
  · rcases further with further | rfl
    · exact .inl (precedes_trans forth further)
    · exact .inl forth
  · exact further

theorem NotAfter.antisymm (forth : NotAfter first second) (back : NotAfter second first) :
    first = second := by
  rcases notAfter_iff.mp forth with less | same
  · simp [NotAfter, less] at back
  · exact same

theorem NotAfter.total (first second : Text) : NotAfter first second ∨ NotAfter second first := by
  simp only [notAfter_iff]
  rcases precedes_or_eq_or_precedes first second with forth | same | back
  · exact .inl (.inl forth)
  · exact .inl (.inr same)
  · exact .inr (.inl back)

instance : IsTrans Text NotAfter := ⟨fun _ _ _ => NotAfter.trans⟩

instance : Std.Antisymm NotAfter := ⟨fun _ _ => NotAfter.antisymm⟩

instance : Std.Total NotAfter := ⟨NotAfter.total⟩

/-- What is sorted by a text of each item is in the order of these texts. -/
theorem pairwise_mergeSort_by {α : Type} (key : α → Text) (items : List α) :
    (items.mergeSort fun a b => !precedes (key b) (key a)).Pairwise
      fun a b => NotAfter (key a) (key b) := by
  have le_iff (a b : α) : (!precedes (key b) (key a)) = true ↔ NotAfter (key a) (key b) := by
    simp [NotAfter]
  have sorted := List.pairwise_mergeSort
    (fun a b c forth further => (le_iff a c).mpr
      (((le_iff a b).mp forth).trans ((le_iff b c).mp further)))
    (fun a b => by
      rw [Bool.or_eq_true, le_iff, le_iff]
      exact NotAfter.total (key a) (key b))
    items
  exact sorted.imp fun ordered => (le_iff _ _).mp ordered

/-- If no two items have the same text, each stands strictly before the next one. -/
theorem increasing_mergeSort_by {α : Type} (key : α → Text) {items : List α}
    (distinct : (items.map key).Nodup) :
    (items.mergeSort fun a b => !precedes (key b) (key a)).Pairwise
      fun a b => Before (key a) (key b) := by
  have ordered := pairwise_mergeSort_by key items
  have apart := List.pairwise_map.mp
    (((List.mergeSort_perm items fun a b => !precedes (key b) (key a)).map key).nodup_iff.mpr distinct)
  refine (ordered.and apart).imp ?_
  rintro a b ⟨notAfter, different⟩
  rw [← precedes_iff_before]
  exact (notAfter_iff.mp notAfter).resolve_right different

end TagWeave.Text
