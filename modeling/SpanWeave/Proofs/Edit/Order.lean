import SpanWeave.Proofs.Edit.Application

namespace SpanWeave.Edit

/-- Both edits have the same range. -/
def sameRange (a b : Edit) : Bool := a.start = b.start && a.stop = b.stop

theorem sameRange_iff {a b : Edit} :
    sameRange a b = true ↔ a.start = b.start ∧ a.stop = b.stop := by
  simp [sameRange]

theorem before_of_sameRange {a b : Edit} (h : sameRange a b = true) : before a b = true := by
  rw [sameRange_iff] at h
  rw [before_iff]
  omega

theorem sameRange_of_before {a b : Edit} (hab : before a b = true) (hba : before b a = true) :
    sameRange a b = true := by
  rw [before_iff] at hab hba
  rw [sameRange_iff]
  omega

/-- The same edits in another order, in which the edits of each range stand as they stood. -/
def Rearranged (es fs : List Edit) : Prop :=
  es.Perm fs ∧ ∀ e ∈ es, es.filter (sameRange e) = fs.filter (sameRange e)

instance (es fs : List Edit) : Decidable (Rearranged es fs) :=
  inferInstanceAs (Decidable (_ ∧ _))

namespace Rearranged

variable {es fs gs : List Edit}

theorem symm (h : Rearranged es fs) : Rearranged fs es :=
  ⟨h.1.symm, fun e he => (h.2 e (h.1.mem_iff.mpr he)).symm⟩

theorem trans (h : Rearranged es fs) (h' : Rearranged fs gs) : Rearranged es gs :=
  ⟨h.1.trans h'.1, fun e he => (h.2 e he).trans (h'.2 e (h.1.mem_iff.mp he))⟩

theorem filter_sameRange (h : Rearranged es fs) (e : Edit) :
    es.filter (sameRange e) = fs.filter (sameRange e) := by
  by_cases hnone : ∃ f ∈ es, sameRange e f = true
  · obtain ⟨f, hf, hef⟩ := hnone
    have hrange : sameRange e = sameRange f := by
      rw [sameRange_iff] at hef
      funext x
      simp only [sameRange, hef]
    rw [hrange]
    exact h.2 f hf
  · have hes : es.filter (sameRange e) = [] :=
      List.filter_eq_nil_iff.mpr fun f hf hef => hnone ⟨f, hf, hef⟩
    have hfs := h.1.filter (sameRange e)
    rw [hes] at hfs ⊢
    exact hfs.nil_eq

theorem filter (h : Rearranged es fs) (p : Edit → Bool) :
    Rearranged (es.filter p) (fs.filter p) := by
  refine ⟨h.1.filter p, ?_⟩
  intro e he
  have hrange := congrArg (List.filter p) (h.2 e (List.mem_filter.mp he).1)
  rw [List.filter_filter, List.filter_filter] at hrange ⊢
  simpa only [Bool.and_comm] using hrange

theorem of_cons {e : Edit} (h : Rearranged (e :: es) (e :: fs)) : Rearranged es fs := by
  refine ⟨h.1.cons_inv, ?_⟩
  intro x hx
  have hrange := h.2 x (List.mem_cons_of_mem e hx)
  rw [List.filter_cons, List.filter_cons] at hrange
  split at hrange
  · exact List.tail_eq_of_cons_eq hrange
  · exact hrange

end Rearranged

theorem eq_of_rearranged {es fs : List Edit} (h : Rearranged es fs)
    (hes : es.Pairwise fun a b => before a b = true)
    (hfs : fs.Pairwise fun a b => before a b = true) : es = fs := by
  induction es generalizing fs with
  | nil => exact h.1.nil_eq
  | cons a es ih =>
      cases fs with
      | nil => exact absurd h.1.length_eq (by simp)
      | cons b fs =>
          obtain ⟨hfirst, hrest⟩ := List.pairwise_cons.mp hes
          obtain ⟨hfirst', hrest'⟩ := List.pairwise_cons.mp hfs
          -- each head comes before the other, so they are the first edits of one range
          have hab : before a b = true := by
            rcases List.mem_cons.mp (h.1.mem_iff.mpr (List.mem_cons_self ..)) with rfl | hb
            · exact before_of_sameRange (sameRange_iff.mpr ⟨rfl, rfl⟩)
            · exact hfirst b hb
          have hba : before b a = true := by
            rcases List.mem_cons.mp (h.1.mem_iff.mp (List.mem_cons_self ..)) with rfl | ha
            · exact before_of_sameRange (sameRange_iff.mpr ⟨rfl, rfl⟩)
            · exact hfirst' a ha
          have hhead : a = b := by
            have hrange := h.2 a (List.mem_cons_self ..)
            have hself : sameRange a a = true := sameRange_iff.mpr ⟨rfl, rfl⟩
            rw [List.filter_cons_of_pos hself,
              List.filter_cons_of_pos (sameRange_of_before hab hba)] at hrange
            exact List.head_eq_of_cons_eq hrange
          subst hhead
          rw [ih h.of_cons hrest hrest']

theorem rearranged_inOrder (es : List Edit) : Rearranged es (inOrder es) := by
  have hperm : (inOrder es).Perm es := List.mergeSort_perm es before
  refine ⟨hperm.symm, ?_⟩
  intro e _
  have hordered : (es.filter (sameRange e)).Pairwise fun a b => before a b = true := by
    refine List.pairwise_filter.mpr (List.pairwise_of_forall ?_)
    intro a b ha hb
    rw [sameRange_iff] at ha hb
    exact before_of_sameRange (sameRange_iff.mpr ⟨ha.1.symm.trans hb.1, ha.2.symm.trans hb.2⟩)
  have hsub : (es.filter (sameRange e)).Sublist (inOrder es) :=
    List.sublist_mergeSort before_trans before_total hordered List.filter_sublist
  have hfiltered := hsub.filter (sameRange e)
  rw [List.filter_filter] at hfiltered
  simp only [Bool.and_self] at hfiltered
  exact hfiltered.eq_of_length (hperm.filter _).length_eq.symm

/-- The order in which edits are made is the one that is ordered and keeps the edits of each
range as they are listed. -/
theorem inOrder_eq_of_rearranged {es ordered : List Edit} (h : Rearranged es ordered)
    (hordered : ordered.Pairwise fun a b => before a b = true) : inOrder es = ordered :=
  eq_of_rearranged ((rearranged_inOrder es).symm.trans h) (pairwise_inOrder es) hordered

/-- Edits give the same text, or are refused for the same reason, however they are listed, as
long as those of one range are listed in the same order. -/
theorem applyAll_of_rearranged (source : Text) {es fs : List Edit} (h : Rearranged es fs) :
    applyAll source es = applyAll source fs := by
  have horder : inOrder es = inOrder fs :=
    inOrder_eq_of_rearranged (h.trans (rearranged_inOrder fs)) (pairwise_inOrder fs)
  rw [applyAll, applyAll, horder]

/-- A replacement in the middle listed first, and two insertions at the start around one there. -/
def outermostLast : List Edit :=
  [⟨4, 7, "B".toList⟩, insert 0 "p".toList, ⟨0, 3, "A".toList⟩, insert 0 "q".toList]

def leftToRight : List Edit :=
  [insert 0 "p".toList, insert 0 "q".toList, ⟨0, 3, "A".toList⟩, ⟨4, 7, "B".toList⟩]

theorem applyAll_outermostLast :
    Rearranged outermostLast leftToRight ∧
      applyAll "aaa bbb".toList outermostLast = applyAll "aaa bbb".toList leftToRight :=
  have h : Rearranged outermostLast leftToRight := by decide
  ⟨h, applyAll_of_rearranged _ h⟩

end SpanWeave.Edit
