import Mathlib.Data.List.Pairwise
import Mathlib.Tactic.Push
import SpanWeave.Proofs.Edit.Order
import SpanWeave.Proofs.Edit.Undo

namespace SpanWeave.Edit

open Text

/-- The edit has a range of the text: its ends are in order, within the text and between
characters. -/
def IsRangeOf (source : Text) (e : Edit) : Prop :=
  e.start ≤ e.stop ∧ e.stop ≤ byteSize source ∧ onBoundary source e.start = true ∧
    onBoundary source e.stop = true

instance (source : Text) (e : Edit) : Decidable (IsRangeOf source e) :=
  inferInstanceAs (Decidable (_ ∧ _))

theorem fits_iff_isRangeOf {source : Text} {e : Edit} :
    fits source e = true ↔ IsRangeOf source e := by
  rw [fits_iff, IsRangeOf]
  constructor
  · rintro ⟨hle, hstart, hstop⟩
    exact ⟨hle, le_byteSize_of_onBoundary hstop, hstart, hstop⟩
  · rintro ⟨hle, -, hstart, hstop⟩
    exact ⟨hle, hstart, hstop⟩

theorem inLine_inOrder_iff {source : Text} {es : List Edit} :
    InLine source 0 (inOrder es) ↔
      (∀ e ∈ es, fits source e = true) ∧ es.Pairwise Apart := by
  constructor
  · intro hline
    refine ⟨fun e he => hline.fits e (mem_inOrder.mpr he), ?_⟩
    refine ((List.mergeSort_perm es before).pairwise_iff Apart.symm).mp ?_
    exact hline.pairwise.imp Or.inl
  · rintro ⟨hfits, hapart⟩
    refine inLine_of_pairwise ?_ (fun e _ => Nat.zero_le _) ?_
    · exact fun e he => hfits e (mem_inOrder.mp he)
    · exact pairwise_stop_le_start_inOrder hfits hapart

/-- The second edit begins inside the first, and the refusal says where. -/
def Clash (source : Text) (err : SourceError) (a b : Edit) : Prop :=
  fits source b = true ∧ b.start < a.stop ∧ err = .overlapping a.stop b.start

theorem of_applyFrom_eq_error {source rest : Text} {a : Edit} {es : List Edit}
    {err : SourceError} (h : applyFrom source a.stop rest es = .error err) :
    (∃ e ∈ es, fits source e = false ∧ err = .invalidRange e.start e.stop) ∨
      ∃ b c, [b, c] <:+: a :: es ∧ Clash source err b c := by
  induction es generalizing a rest with
  | nil => simp [applyFrom] at h
  | cons e es ih =>
      rw [applyFrom] at h
      split at h
      · rename_i hfits
        obtain rfl := Except.error.inj h
        exact .inl ⟨e, by simp, by simpa using hfits, rfl⟩
      rename_i hfits
      split at h
      · rename_i hlt
        obtain rfl := Except.error.inj h
        exact .inr ⟨a, e, ⟨[], es, rfl⟩, by simpa using hfits, hlt, rfl⟩
      dsimp only at h
      split at h
      · simp at h
      rename_i err' htail
      obtain rfl := Except.error.inj h
      rcases ih htail with ⟨f, hf, hbad⟩ | ⟨b, c, hbc, hclash⟩
      · exact .inl ⟨f, by simp [hf], hbad⟩
      · exact .inr ⟨b, c, List.infix_cons hbc, hclash⟩

theorem of_applyAll_eq_error {source : Text} {es : List Edit} {err : SourceError}
    (h : applyAll source es = .error err) :
    (∃ e ∈ es, fits source e = false ∧ err = .invalidRange e.start e.stop) ∨
      ∃ a b, [a, b] <:+: inOrder es ∧ Clash source err a b := by
  -- the pass begins as if an edit of nothing had been made at the start of the text
  have hfirst : applyFrom source (insert 0 []).stop source (inOrder es) = .error err := h
  rcases of_applyFrom_eq_error hfirst with ⟨e, he, hbad⟩ | ⟨a, b, hab, hclash⟩
  · exact .inl ⟨e, mem_inOrder.mp he, hbad⟩
  · refine .inr ⟨a, b, ?_, hclash⟩
    rcases List.infix_cons_iff.mp hab with hlead | hinside
    · obtain ⟨rfl, -⟩ := List.cons_prefix_cons.mp hlead
      exact absurd hclash.2.1 (Nat.not_lt_zero _)
    · exact hinside

theorem Clash.not_apart {source : Text} {err : SourceError} {a b : Edit}
    (h : Clash source err a b) (hab : before a b = true) : ¬ Apart a b := by
  intro hapart
  have := hapart.stop_le_start (fits_iff.mp h.1).1 hab
  have := h.2.1
  omega

theorem pairwise_iff_forall_ne {R : Edit → Edit → Prop} (hsymm : ∀ {a b}, R a b → R b a)
    {es : List Edit} :
    es.Pairwise R ↔ ∀ i j : Fin es.length, i ≠ j → R es[i] es[j] := by
  rw [List.pairwise_iff_get]
  constructor
  · intro h i j hij
    rcases Nat.lt_or_gt_of_ne (Fin.val_ne_of_ne hij) with hlt | hlt
    · exact h i j hlt
    · exact hsymm (h j i hlt)
  · intro h i j hlt
    exact h i j (Fin.ne_of_lt hlt)

theorem exists_places_of_infix {es : List Edit} {a b : Edit} (h : [a, b] <:+: inOrder es) :
    ∃ i j : Fin es.length, i ≠ j ∧ es[i] = a ∧ es[j] = b := by
  by_contra hnone
  push Not at hnone
  have hsymm : ∀ {x y : Edit}, (¬ (x = a ∧ y = b) ∧ ¬ (y = a ∧ x = b)) →
      (¬ (y = a ∧ x = b) ∧ ¬ (x = a ∧ y = b)) := And.symm
  have hlist : es.Pairwise fun x y => ¬ (x = a ∧ y = b) ∧ ¬ (y = a ∧ x = b) :=
    (pairwise_iff_forall_ne hsymm).mpr fun i j hij =>
      ⟨fun hx => hnone i j hij hx.1 hx.2, fun hx => hnone j i hij.symm hx.1 hx.2⟩
  have hordered := ((List.mergeSort_perm es before).pairwise_iff hsymm).mpr hlist
  have hpair := hordered.sublist h.sublist
  simp at hpair

/-- Edits can be made together if and only if each has a range of the text and any two of them lie
apart. A refusal names an edit that has no range of the text, or the end of one edit and the start
of another that overlap. -/
theorem applyAll_succeeds_iff (source : Text) (es : List Edit) :
    ((∃ out, applyAll source es = .ok out) ↔
      (∀ e ∈ es, IsRangeOf source e) ∧
        ∀ i j : Fin es.length, i ≠ j → es[i].stop ≤ es[j].start ∨ es[j].stop ≤ es[i].start) ∧
      ∀ err, applyAll source es = .error err →
        (∃ e ∈ es, ¬ IsRangeOf source e ∧ err = .invalidRange e.start e.stop) ∨
          ∃ i j : Fin es.length, i ≠ j ∧ ¬ Apart es[i] es[j] ∧ es[j].start < es[i].stop ∧
            err = .overlapping es[i].stop es[j].start := by
  constructor
  · simp only [applyAll_eq_ok_iff, exists_and_left, exists_eq, and_true, inLine_inOrder_iff,
      fits_iff_isRangeOf, pairwise_iff_forall_ne Apart.symm]
    rfl
  · intro err h
    rcases of_applyAll_eq_error h with ⟨e, he, hfits, herr⟩ | ⟨a, b, hab, hclash⟩
    · refine .inl ⟨e, he, ?_, herr⟩
      rw [← fits_iff_isRangeOf, hfits]
      simp
    · have hbefore : before a b = true := by
        have := (pairwise_inOrder es).sublist hab.sublist
        simpa using this
      obtain ⟨i, j, hij, rfl, rfl⟩ := exists_places_of_infix hab
      exact .inr ⟨i, j, hij, hclash.not_apart hbefore, hclash.2.1, hclash.2.2⟩

/-- A replacement, and one that begins inside it. -/
def crossing : List Edit := [⟨0, 5, "x".toList⟩, ⟨3, 7, "y".toList⟩]

theorem crossing_refused :
    applyAll "0123456789".toList crossing = .error (.overlapping 5 3) ∧
      ¬ (∃ out, applyAll "0123456789".toList crossing = .ok out) ∧
      ∃ i j : Fin crossing.length, i ≠ j ∧ ¬ Apart crossing[i] crossing[j] := by
  have horder : inOrder crossing = crossing :=
    inOrder_eq_of_rearranged (by decide) (by decide)
  have hrefused : applyAll "0123456789".toList crossing = .error (.overlapping 5 3) := by
    rw [applyAll, horder]
    rfl
  obtain ⟨haccepted, hreason⟩ := applyAll_succeeds_iff "0123456789".toList crossing
  refine ⟨hrefused, ?_, ?_⟩
  · rw [haccepted]
    decide
  · rcases hreason _ hrefused with ⟨e, -, -, herr⟩ | ⟨i, j, hij, hover, -, -⟩
    · simp at herr
    · exact ⟨i, j, hij, hover⟩

end SpanWeave.Edit
