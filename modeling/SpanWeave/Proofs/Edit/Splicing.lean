import Mathlib.Algebra.Ring.Nat
import SpanWeave.Proofs.Edit.Order
import SpanWeave.Proofs.Edit.Undo

/-!
Making edits one at a time. The one pass over a text comes to the same as making the ordered edits
in the text one after another, from the last to the first: an edit that lies behind all that are
still to come moves none of them.
-/

namespace SpanWeave.Edit

open Text

/-- The text with one edit made in it; there is none when the edit has no range of the text. -/
def splice? (e : Edit) (s : Text) : Option Text :=
  if fits s e then some (takeBytes s e.start ++ (e.text ++ dropBytes s e.stop)) else none

theorem splice?_parts (a b c : Text) {e : Edit} (hstart : byteSize a = e.start)
    (hstop : byteSize a + byteSize b = e.stop) :
    splice? e (a ++ (b ++ c)) = some (a ++ (e.text ++ c)) := by
  have hfits : fits (a ++ (b ++ c)) e = true := by
    refine fits_iff.mpr ⟨by omega, ?_, ?_⟩
    · rw [← hstart]
      exact onBoundary_append a (b ++ c)
    · rw [← hstop, ← byteSize_append, ← List.append_assoc]
      exact onBoundary_append (a ++ b) c
  rw [splice?, if_pos hfits, ← hstart, ← hstop, takeBytes_append, dropBytes_parts]

/-- Edits in line from `done` on, made one at a time from the last to the first, leave the text in
front of `done` as it is and make of the rest what one pass makes of it. -/
theorem foldrM_splice? {source : Text} {done : Nat} {es : List Edit}
    (hdone : onBoundary source done = true) (hline : InLine source done es) :
    es.foldrM splice? source = some (takeBytes source done ++ spliced source done es) := by
  induction es generalizing done with
  | nil => simp [spliced, takeBytes_append_dropBytes hdone]
  | cons e es ih =>
      obtain ⟨hfits, hle, hrest⟩ := hline
      obtain ⟨hstop, hb₁, hb₂⟩ := fits_iff.mp hfits
      have hsize : byteSize (takeBytes source e.start) = e.start := byteSize_takeBytes hb₁
      have hwidth : byteSize (slice source e.start e.stop) = e.stop - e.start :=
        byteSize_slice hb₁ hb₂ hstop
      calc (e :: es).foldrM splice? source
        _ = splice? e (takeBytes source e.stop ++ spliced source e.stop es) := by
            rw [List.foldrM_cons, ih hb₂ hrest]
            rfl
        _ = splice? e (takeBytes source e.start ++
              (slice source e.start e.stop ++ spliced source e.stop es)) := by
            rw [← takeBytes_append_slice hb₁ hb₂ hstop, List.append_assoc]
        _ = some (takeBytes source e.start ++ (e.text ++ spliced source e.stop es)) :=
            splice?_parts _ _ _ hsize (by omega)
        _ = some (takeBytes source done ++ spliced source done (e :: es)) := by
            rw [← takeBytes_append_slice hdone hb₁ hle, spliced]
            simp only [List.append_assoc]

theorem byteSize_spliced {source : Text} {done : Nat} {es : List Edit}
    (hdone : onBoundary source done = true) (hline : InLine source done es) :
    byteSize (spliced source done es) + done + (es.map fun e => e.stop - e.start).sum =
      byteSize source + (es.map fun e => byteSize e.text).sum := by
  induction es generalizing done with
  | nil =>
      obtain ⟨a, b, rfl, rfl⟩ := onBoundary_iff.mp hdone
      simp [spliced, Nat.add_comm]
  | cons e es ih =>
      obtain ⟨hfits, hle, hrest⟩ := hline
      obtain ⟨hstop, hb₁, hb₂⟩ := fits_iff.mp hfits
      have hrec := ih hb₂ hrest
      have hkept : byteSize (slice source done e.start) = e.start - done :=
        byteSize_slice hdone hb₁ hle
      simp only [spliced, byteSize_append, hkept, List.map_cons, List.sum_cons]
      omega

/-- The edits that put in text at an offset, as they are listed. -/
def insertionsAt (es : List Edit) (p : Nat) : List Edit :=
  es.filter fun e => e.start = p && e.stop = p

theorem insertionsAt_inOrder (es : List Edit) (p : Nat) :
    insertionsAt (inOrder es) p = insertionsAt es p := by
  have hrange : (fun e : Edit => decide (e.start = p) && decide (e.stop = p)) =
      sameRange (insert p []) := by
    funext e
    rw [Bool.eq_iff_iff, sameRange_iff]
    simp only [insert, Bool.and_eq_true, decide_eq_true_eq, eq_comm (a := p)]
  rw [insertionsAt, insertionsAt, hrange, ((rearranged_inOrder es).filter_sameRange _).symm]

theorem filter_append_filter (es : List Edit) (q : Edit → Bool)
    (h : es.Pairwise fun a b => q b = true → q a = true) :
    es = es.filter q ++ es.filter fun e => !q e := by
  induction es with
  | nil => rfl
  | cons a es ih =>
      obtain ⟨hfirst, hrest⟩ := List.pairwise_cons.mp h
      by_cases ha : q a = true
      · rw [List.filter_cons_of_pos ha, List.filter_cons_of_neg (p := fun e => !q e) (by simp [ha]),
          List.cons_append, ← ih hrest]
      · have hnone : es.filter q = [] :=
          List.filter_eq_nil_iff.mpr fun b hb hq => ha (hfirst b hb hq)
        have hall : (es.filter fun e => !q e) = es :=
          List.filter_eq_self.mpr fun b hb => by simpa using fun hq => ha (hfirst b hb hq)
        rw [List.filter_cons_of_neg ha, List.filter_cons_of_pos (p := fun e => !q e) (by simp [ha]),
          hnone, hall, List.nil_append]

/-- Edits in line that miss an offset: those in front of it, those that put in text there, and
those that take away something behind it. -/
theorem InLine.eq_parts {source : Text} {done p : Nat} {es : List Edit}
    (h : InLine source done es) (hmiss : Miss es p p) :
    es = es.filter (fun e => e.start < p) ++
      (insertionsAt es p ++ es.filter fun e => p < e.stop) := by
  have hle : ∀ e ∈ es, e.start ≤ e.stop := fun e he => (fits_iff.mp (h.fits e he)).1
  have hended := filter_append_filter es (fun e => e.stop ≤ p) <| by
    refine h.pairwise.imp_of_mem ?_
    intro a b _ hb hab hend
    have := hle b hb
    simp only [decide_eq_true_eq] at hend ⊢
    omega
  have hbegun := filter_append_filter (es.filter fun e => e.stop ≤ p)
      (fun e => e.start < p) <| by
    refine (h.pairwise.filter _).imp_of_mem ?_
    intro a b ha _ hab hbegin
    have := hle a (List.mem_filter.mp ha).1
    simp only [decide_eq_true_eq] at hbegin ⊢
    omega
  have hfront : (es.filter fun e => e.stop ≤ p).filter (fun e => e.start < p) =
      es.filter fun e => e.start < p := by
    rw [List.filter_filter]
    refine List.filter_congr fun e he => ?_
    have := hmiss e he
    simp only [← Bool.decide_and, decide_eq_decide]
    omega
  have hinsert : (es.filter fun e => e.stop ≤ p).filter (fun e => !decide (e.start < p)) =
      insertionsAt es p := by
    rw [List.filter_filter, insertionsAt]
    refine List.filter_congr fun e he => ?_
    have := hle e he
    simp only [← decide_not, ← Bool.decide_and, decide_eq_decide]
    omega
  have hbehind : (es.filter fun e => !decide (e.stop ≤ p)) = es.filter fun e => p < e.stop := by
    simp only [← decide_not, Nat.not_le]
  rw [hfront, hinsert] at hbegun
  rw [hbegun, hbehind, List.append_assoc] at hended
  exact hended

theorem spliced_insertions {source : Text} {p : Nat} {ins rest : List Edit}
    (h : ∀ e ∈ ins, e.start = p ∧ e.stop = p) :
    spliced source p (ins ++ rest) = ins.flatMap Edit.text ++ spliced source p rest := by
  induction ins with
  | nil => rfl
  | cons e ins ih =>
      obtain ⟨hstart, hstop⟩ := h e (by simp)
      rw [List.cons_append, spliced, hstart, hstop, slice_self, ih fun x hx => h x (by simp [hx])]
      simp

theorem spliced_of_le_start {x y : Text} {done : Nat} {es : List Edit}
    (hdone : onBoundary x done = true) (hline : InLine (x ++ y) done es)
    (hstart : ∀ e ∈ es, byteSize x ≤ e.start) :
    spliced (x ++ y) done es = dropBytes x done ++ spliced (x ++ y) (byteSize x) es := by
  cases es with
  | nil => rw [spliced, spliced, dropBytes_append_right y hdone, dropBytes_append]
  | cons e es =>
      have hb := (fits_iff.mp hline.1).2.1
      have hx := le_byteSize_of_onBoundary hdone
      have hgap : slice (x ++ y) done (byteSize x) = dropBytes x done := by
        obtain ⟨a, b, rfl, rfl⟩ := onBoundary_iff.mp hdone
        rw [List.append_assoc, byteSize_append, slice_parts, dropBytes_append]
      rw [spliced, spliced, ← slice_append_slice (onBoundary_append_right y hdone)
        (onBoundary_append x y) hb hx (hstart e (by simp)), hgap]
      simp only [List.append_assoc]

theorem spliced_append {x y : Text} {done : Nat} {front back : List Edit}
    (hdone : onBoundary x done = true) (hline : InLine (x ++ y) done (front ++ back))
    (hfront : ∀ e ∈ front, e.stop ≤ byteSize x) (hback : ∀ e ∈ back, byteSize x ≤ e.start) :
    InLine x done front ∧
      spliced (x ++ y) done (front ++ back) =
        spliced x done front ++ spliced (x ++ y) (byteSize x) back := by
  induction front generalizing done with
  | nil => exact ⟨trivial, spliced_of_le_start hdone hline hback⟩
  | cons e front ih =>
      obtain ⟨hfits, hle, hrest⟩ := hline
      obtain ⟨hstop, hb₁, hb₂⟩ := fits_iff.mp hfits
      have hend := hfront e (by simp)
      have hb₁ := onBoundary_of_append hb₁ (Nat.le_trans hstop hend)
      have hb₂ := onBoundary_of_append hb₂ hend
      obtain ⟨ihLine, ihText⟩ := ih hb₂ hrest fun f hf => hfront f (by simp [hf])
      refine ⟨⟨fits_iff.mpr ⟨hstop, hb₁, hb₂⟩, hle, ihLine⟩, ?_⟩
      rw [List.cons_append, spliced, spliced, ihText, slice_append_right y hdone hb₁ hle]
      simp only [List.append_assoc]

theorem text_prefix_spliced {source : Text} {p : Nat} {es : List Edit} {e : Edit}
    (hpair : es.Pairwise fun a b => a.stop ≤ b.start) (hend : ∀ x ∈ es, p < x.stop)
    (he : e ∈ es) (hstart : e.start = p) : e.text <+: spliced source p es := by
  cases es with
  | nil => simp at he
  | cons f es =>
      rcases List.mem_cons.mp he with rfl | he
      · rw [spliced, hstart, slice_self, List.nil_append]
        exact List.prefix_append _ _
      · have := (List.pairwise_cons.mp hpair).1 e he
        have := hend f (by simp)
        omega

theorem exists_parts_of_applyAll {source out : Text} {es : List Edit} {p : Nat}
    (h : applyAll source es = .ok out) (hp : onBoundary source p = true) (hmiss : Miss es p p) :
    ∃ front rest, applyAll (takeBytes source p) (es.filter fun e => e.start < p) = .ok front ∧
      out = front ++ ((insertionsAt es p).flatMap Edit.text ++ rest) ∧
      ∀ e ∈ es, e.start = p → p < e.stop → e.text <+: rest := by
  obtain ⟨hline, rfl⟩ := applyAll_eq_ok_iff.mp h
  obtain ⟨x, y, rfl, rfl⟩ := onBoundary_iff.mp hp
  have hmissOrdered : Miss (inOrder es) (byteSize x) (byteSize x) :=
    fun e he => hmiss e (mem_inOrder.mp he)
  have hparts := hline.eq_parts hmissOrdered
  rw [insertionsAt_inOrder] at hparts
  have hinsertions : ∀ e ∈ insertionsAt es (byteSize x),
      e.start = byteSize x ∧ e.stop = byteSize x := by
    intro e he
    simpa [insertionsAt] using (List.mem_filter.mp he).2
  rw [hparts] at hline
  obtain ⟨hfront, htext⟩ := spliced_append (onBoundary_zero x) hline
    (by
      intro e he
      obtain ⟨hmem, hlt⟩ := List.mem_filter.mp he
      have := hmissOrdered e hmem
      simp only [decide_eq_true_eq] at hlt
      omega)
    (by
      intro e he
      rcases List.mem_append.mp he with he | he
      · exact Nat.le_of_eq (hinsertions e he).1.symm
      · obtain ⟨hmem, hlt⟩ := List.mem_filter.mp he
        have := hmissOrdered e hmem
        simp only [decide_eq_true_eq] at hlt
        omega)
  rw [spliced_insertions hinsertions] at htext
  refine ⟨_, _, ?_, by rw [hparts]; exact htext, ?_⟩
  · have horder := inOrder_eq_of_rearranged
      ((rearranged_inOrder es).filter fun e => e.start < byteSize x)
      ((pairwise_inOrder es).filter _)
    rw [takeBytes_append]
    exact applyAll_eq_ok_iff.mpr (by rw [horder]; exact ⟨hfront, rfl⟩)
  · intro e he hstart hstop
    refine text_prefix_spliced ?_ ?_ ?_ hstart
    · rw [← hparts] at hline
      exact hline.pairwise.filter _
    · exact fun f hf => of_decide_eq_true (List.mem_filter.mp hf).2
    · exact List.mem_filter.mpr ⟨mem_inOrder.mpr he, decide_eq_true hstop⟩

/-- Edits made in one pass give what they give when they are sorted, by start and end and else as
listed, and made one at a time from the last to the first. So the texts put in at an offset come
in the order of the list and in front of what replaces the text that begins there; text that no
edit meets stays, and moves by what is put in and taken out in front of it; and the size grows by
all that is put in less all that is taken out. -/
theorem applyAll_eq_splicing {source out : Text} {es : List Edit}
    (h : applyAll source es = .ok out) :
    (Rearranged es (inOrder es) ∧ (inOrder es).Pairwise fun a b => before a b = true) ∧
      (inOrder es).foldrM splice? source = some out ∧
      (∀ p, onBoundary source p = true → Miss es p p →
        ∃ front rest, applyAll (takeBytes source p) (es.filter fun e => e.start < p) = .ok front ∧
          out = front ++ ((insertionsAt es p).flatMap Edit.text ++ rest) ∧
          ∀ e ∈ es, e.start = p → p < e.stop → e.text <+: rest) ∧
      (∀ p q, onBoundary source p = true → onBoundary source q = true → p ≤ q → Miss es p q →
        slice out (moved es p) (moved es p + (q - p)) = slice source p q ∧
          ∀ r, q ≤ r → moved es p + (q - p) ≤ moved es r) ∧
      byteSize out + (es.map fun e => e.stop - e.start).sum =
        byteSize source + (es.map fun e => byteSize e.text).sum := by
  obtain ⟨hline, htext⟩ := applyAll_eq_ok_iff.mp h
  have hperm : (inOrder es).Perm es := List.mergeSort_perm es before
  refine ⟨⟨rearranged_inOrder es, pairwise_inOrder es⟩, ?_, ?_, ?_, ?_⟩
  · rw [foldrM_splice? (onBoundary_zero source) hline, takeBytes_zero, List.nil_append, htext]
  · exact fun p hp hmiss => exists_parts_of_applyAll h hp hmiss
  · intro p q hp hq hpq hmiss
    refine ⟨slice_moved_of_applyAll h hpq hmiss hp hq, ?_⟩
    exact fun r hr => moved_add_le_moved_of_applyAll h hpq hmiss hr
  · have hsize := byteSize_spliced (onBoundary_zero source) hline
    rw [← htext, Nat.add_zero, (hperm.map _).sum_nat, (hperm.map _).sum_nat] at hsize
    exact hsize

theorem applyAll_eq_splicing_outermostLast :
    applyAll "aaa bbb".toList outermostLast = .ok "pqA B".toList ∧
      leftToRight.foldrM splice? "aaa bbb".toList = some "pqA B".toList ∧
      (∃ rest, "pqA B".toList = "pq".toList ++ rest ∧ "A".toList <+: rest) ∧
      slice "pqA B".toList (moved outermostLast 3) (moved outermostLast 3 + 1) = " ".toList := by
  have horder : inOrder outermostLast = leftToRight :=
    inOrder_eq_of_rearranged (by decide) (by decide)
  have happlied : applyAll "aaa bbb".toList outermostLast = .ok "pqA B".toList := by
    rw [applyAll, horder]
    rfl
  obtain ⟨-, hsplicing, hplaced, hkept, -⟩ := applyAll_eq_splicing happlied
  rw [horder] at hsplicing
  refine ⟨happlied, hsplicing, ?_, ?_⟩
  · obtain ⟨front, rest, hfront, hout, hrest⟩ :=
      hplaced 0 (by decide) (by simp [Miss, outermostLast, insert])
    have hnone : outermostLast.filter (fun e => e.start < 0) = [] := by decide
    simp only [hnone, applyAll, inOrder, List.mergeSort_nil] at hfront
    obtain rfl := Except.ok.inj hfront
    exact ⟨rest, hout, hrest ⟨0, 3, "A".toList⟩ (by decide) rfl (by decide)⟩
  · exact (hkept 3 4 (by decide) (by decide) (by decide) (by simp [Miss, outermostLast, insert])).1

end SpanWeave.Edit
