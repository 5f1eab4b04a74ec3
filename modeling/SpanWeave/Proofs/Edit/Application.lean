import SpanWeave.Edit
import SpanWeave.Proofs.Text.Offset

namespace SpanWeave.Edit

open Text

theorem fits_iff {source : Text} {e : Edit} :
    fits source e = true ↔
      e.start ≤ e.stop ∧ onBoundary source e.start = true ∧ onBoundary source e.stop = true := by
  simp [fits, and_assoc]

/-- The edits lie one behind the other from `done` on, each in a range of `source`. -/
def InLine (source : Text) : (done : Nat) → List Edit → Prop
  | _, [] => True
  | done, e :: es => fits source e = true ∧ done ≤ e.start ∧ InLine source e.stop es

/-- What the edits make of `source` from offset `done` on. -/
def spliced (source : Text) : (done : Nat) → List Edit → Text
  | done, [] => dropBytes source done
  | done, e :: es => slice source done e.start ++ e.text ++ spliced source e.stop es

theorem takeBytes_dropBytes {source : Text} {m n : Nat} :
    takeBytes (dropBytes source m) (n - m) = slice source m n := rfl

/-- Ordered edits can be made from `done` on exactly when they lie in line there. -/
theorem applyFrom_eq_ok_iff {source : Text} {done : Nat} {es : List Edit} {out : Text}
    (hdone : onBoundary source done = true) :
    applyFrom source done (dropBytes source done) es = .ok out ↔
      InLine source done es ∧ out = spliced source done es := by
  induction es generalizing done out with
  | nil =>
      simp only [applyFrom, InLine, spliced, Except.ok.injEq, true_and]
      exact eq_comm
  | cons e es ih =>
      simp only [applyFrom, InLine, spliced]
      by_cases hfits : fits source e = true
      · obtain ⟨hle, hstart, hstop⟩ := fits_iff.mp hfits
        by_cases hlt : e.start < done
        · have hnot : ¬ done ≤ e.start := by omega
          simp [hfits, hlt, hnot]
        · have hrest : dropBytes (dropBytes source done) (e.stop - done) =
              dropBytes source e.stop :=
            dropBytes_dropBytes hdone hstop (by omega)
          simp only [hfits, hlt, hrest, takeBytes_dropBytes, Nat.not_lt.mp hlt, Bool.not_true,
            Bool.false_eq_true, ↓reduceIte, true_and]
          constructor
          · intro h
            split at h
            · rename_i tail htail
              obtain ⟨hline, rfl⟩ := (ih hstop).mp htail
              exact ⟨hline, (Except.ok.inj h).symm⟩
            · simp at h
          · rintro ⟨hline, rfl⟩
            rw [(ih hstop).mpr ⟨hline, rfl⟩]
      · simp [hfits]

theorem applyAll_eq_ok_iff {source : Text} {es : List Edit} {out : Text} :
    applyAll source es = .ok out ↔
      InLine source 0 (inOrder es) ∧ out = spliced source 0 (inOrder es) := by
  rw [← applyFrom_eq_ok_iff (onBoundary_zero source), dropBytes_zero, applyAll]

theorem exists_spliced_eq {source : Text} {es : List Edit} {e : Edit} (he : e ∈ es) (done : Nat) :
    ∃ before after, spliced source done es = before ++ (e.text ++ after) := by
  induction es generalizing done with
  | nil => simp at he
  | cons f es ih =>
      rcases List.mem_cons.mp he with rfl | he
      · refine ⟨slice source done e.start, spliced source e.stop es, ?_⟩
        rw [spliced, List.append_assoc]
      · obtain ⟨before, after, heq⟩ := ih he f.stop
        refine ⟨slice source done f.start ++ f.text ++ before, after, ?_⟩
        rw [spliced, heq, List.append_assoc _ before]

theorem exists_applyAll_eq {source out : Text} {es : List Edit} (h : applyAll source es = .ok out)
    {e : Edit} (he : e ∈ es) : ∃ before after, out = before ++ (e.text ++ after) := by
  obtain ⟨-, rfl⟩ := applyAll_eq_ok_iff.mp h
  exact exists_spliced_eq (List.mem_mergeSort.mpr he) 0

theorem before_iff {a b : Edit} :
    before a b = true ↔ a.start < b.start ∨ a.start = b.start ∧ a.stop ≤ b.stop := by
  simp [before]

theorem before_trans (a b c : Edit) (hab : before a b = true) (hbc : before b c = true) :
    before a c = true := by
  rw [before_iff] at *
  omega

theorem before_total (a b : Edit) : (before a b || before b a) = true := by
  rw [Bool.or_eq_true, before_iff, before_iff]
  omega

theorem pairwise_inOrder (es : List Edit) : (inOrder es).Pairwise fun a b => before a b = true :=
  List.pairwise_mergeSort before_trans before_total es

theorem mem_inOrder {es : List Edit} {e : Edit} : e ∈ inOrder es ↔ e ∈ es :=
  List.mem_mergeSort

/-- The ranges of two edits have no byte in common. -/
def Apart (a b : Edit) : Prop := a.stop ≤ b.start ∨ b.stop ≤ a.start

theorem Apart.symm {a b : Edit} (h : Apart a b) : Apart b a := Or.symm h

theorem Apart.stop_le_start {a b : Edit} (h : Apart a b) (hb : b.start ≤ b.stop)
    (hab : before a b = true) : a.stop ≤ b.start := by
  rw [before_iff] at hab
  rcases h with h | h <;> omega

theorem inLine_of_pairwise {source : Text} {done : Nat} {es : List Edit}
    (hfits : ∀ e ∈ es, fits source e = true) (hdone : ∀ e ∈ es, done ≤ e.start)
    (hpair : es.Pairwise fun a b => a.stop ≤ b.start) : InLine source done es := by
  induction es generalizing done with
  | nil => trivial
  | cons e es ih =>
      obtain ⟨hhead, htail⟩ := List.pairwise_cons.mp hpair
      refine ⟨hfits e (by simp), hdone e (by simp), ?_⟩
      exact ih (fun x hx => hfits x (by simp [hx])) hhead htail

theorem pairwise_stop_le_start_inOrder {source : Text} {es : List Edit}
    (hfits : ∀ e ∈ es, fits source e = true) (hapart : es.Pairwise Apart) :
    (inOrder es).Pairwise fun a b => a.stop ≤ b.start := by
  have hperm : (inOrder es).Pairwise Apart :=
    ((List.mergeSort_perm es before).pairwise_iff Apart.symm).mpr hapart
  have hboth := (pairwise_inOrder es).and hperm
  refine hboth.imp_of_mem ?_
  rintro a b - hb ⟨hab, h⟩
  have hb := fits_iff.mp (hfits b (mem_inOrder.mp hb))
  exact h.stop_le_start hb.1 hab

theorem applyAll_of_apart {source : Text} {es : List Edit}
    (hfits : ∀ e ∈ es, fits source e = true) (hapart : es.Pairwise Apart) :
    applyAll source es = .ok (spliced source 0 (inOrder es)) := by
  refine applyAll_eq_ok_iff.mpr ⟨inLine_of_pairwise ?_ ?_ ?_, rfl⟩
  · exact fun e he => hfits e (mem_inOrder.mp he)
  · exact fun e _ => Nat.zero_le _
  · exact pairwise_stop_le_start_inOrder hfits hapart

theorem applyAll_insert (front back text : Text) :
    applyAll (front ++ back) [insert (byteSize front) text] = .ok (front ++ text ++ back) := by
  have hfits : fits (front ++ back) (insert (byteSize front) text) = true :=
    fits_iff.mpr ⟨Nat.le_refl _, onBoundary_append front back, onBoundary_append front back⟩
  have hfront : slice (front ++ back) 0 (byteSize front) = front := by
    simpa using slice_parts [] front back
  have hone : inOrder [insert (byteSize front) text] = [insert (byteSize front) text] :=
    List.mergeSort_singleton _
  refine applyAll_eq_ok_iff.mpr ?_
  rw [hone]
  refine ⟨⟨hfits, Nat.zero_le _, trivial⟩, ?_⟩
  simp only [spliced, insert, hfront, dropBytes_append]

end SpanWeave.Edit
