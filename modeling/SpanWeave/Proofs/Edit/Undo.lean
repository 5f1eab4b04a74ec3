import SpanWeave.Proofs.Edit.Application

namespace SpanWeave.Edit

open Text

theorem InLine.le_start {source : Text} {done : Nat} {es : List Edit}
    (h : InLine source done es) : ∀ e ∈ es, done ≤ e.start := by
  induction es generalizing done with
  | nil => simp
  | cons e es ih =>
      obtain ⟨hfits, hle, hrest⟩ := h
      have hstop := (fits_iff.mp hfits).1
      intro x hx
      rcases List.mem_cons.mp hx with rfl | hx
      · exact hle
      · have := ih hrest x hx
        omega

theorem InLine.fits {source : Text} {done : Nat} {es : List Edit}
    (h : InLine source done es) : ∀ e ∈ es, fits source e = true := by
  induction es generalizing done with
  | nil => simp
  | cons e es ih =>
      intro x hx
      rcases List.mem_cons.mp hx with rfl | hx
      · exact h.1
      · exact ih h.2.2 x hx

theorem InLine.pairwise {source : Text} {done : Nat} {es : List Edit}
    (h : InLine source done es) : es.Pairwise fun a b => a.stop ≤ b.start := by
  induction es generalizing done with
  | nil => exact List.Pairwise.nil
  | cons e es ih => exact List.pairwise_cons.mpr ⟨h.2.2.le_start, ih h.2.2⟩

theorem InLine.inOrder_eq {source : Text} {done : Nat} {es : List Edit}
    (h : InLine source done es) : inOrder es = es := by
  apply List.mergeSort_of_pairwise
  induction es generalizing done with
  | nil => exact List.Pairwise.nil
  | cons e es ih =>
      refine List.pairwise_cons.mpr ⟨?_, ih h.2.2⟩
      intro x hx
      have hx₁ := h.2.2.le_start x hx
      have hx₂ := (fits_iff.mp (h.2.2.fits x hx)).1
      have he := (fits_iff.mp h.1).1
      rw [before_iff]
      omega

/-- The edits that take back ordered changes of the text from offset `done` on, which has become
the text from offset `out` on. -/
def undoFrom : (done out : Nat) → List (Edit × Text) → List Edit
  | _, _, [] => []
  | done, out, (e, old) :: rest =>
      let start := out + (e.start - done)
      let stop := start + byteSize e.text
      ⟨start, stop, old⟩ :: undoFrom e.stop stop rest

def changesInOrder (changes : List (Edit × Text)) : List (Edit × Text) :=
  changes.mergeSort fun a b => before a.1 b.1

/-- The edits that take back all changes. -/
def undo (changes : List (Edit × Text)) : List Edit := undoFrom 0 0 (changesInOrder changes)

theorem spliced_undoFrom {source x : Text} {done : Nat} {changes : List (Edit × Text)}
    (hdone : onBoundary source done = true)
    (hline : InLine source done (changes.map Prod.fst))
    (hold : ∀ c ∈ changes, slice source c.1.start c.1.stop = c.2) :
    InLine (x ++ spliced source done (changes.map Prod.fst)) (byteSize x)
        (undoFrom done (byteSize x) changes) ∧
      spliced (x ++ spliced source done (changes.map Prod.fst)) (byteSize x)
        (undoFrom done (byteSize x) changes) = dropBytes source done ∧
      (undoFrom done (byteSize x) changes).map (fun u =>
        (slice (x ++ spliced source done (changes.map Prod.fst)) u.start u.stop, u.text)) =
        changes.map fun c => (c.1.text, c.2) := by
  induction changes generalizing done x with
  | nil => simp [undoFrom, InLine, spliced]
  | cons change changes ih =>
      obtain ⟨e, old⟩ := change
      obtain ⟨hfits, hle, hrest⟩ := hline
      obtain ⟨hstop, hb₁, hb₂⟩ := fits_iff.mp hfits
      have hkept : byteSize (slice source done e.start) = e.start - done :=
        byteSize_slice hdone hb₁ hle
      have holdText : slice source e.start e.stop = old := hold (e, old) (by simp)
      -- what is rebuilt so far: the text before, the part kept and the text put in
      obtain ⟨ihLine, ihText, ihCut⟩ := ih (x := x ++ (slice source done e.start ++ e.text)) hb₂
        hrest fun c hc => hold c (by simp [hc])
      simp only [byteSize_append, hkept, List.append_assoc, ← Nat.add_assoc] at ihLine ihText ihCut
      simp only [List.map_cons, spliced, undoFrom, InLine, List.append_assoc]
      refine ⟨⟨fits_iff.mpr ⟨by simp, ?_, ?_⟩, by simp, ihLine⟩, ?_, ?_⟩
      · have h := onBoundary_append (x ++ slice source done e.start)
          (e.text ++ spliced source e.stop (changes.map Prod.fst))
        simpa [hkept] using h
      · have h := onBoundary_append (x ++ (slice source done e.start ++ e.text))
          (spliced source e.stop (changes.map Prod.fst))
        simpa [hkept, Nat.add_assoc] using h
      · have hslice := slice_parts x (slice source done e.start)
          (e.text ++ spliced source e.stop (changes.map Prod.fst))
        rw [hkept] at hslice
        rw [hslice, ihText, ← holdText, slice_append_dropBytes hb₁ hb₂ hstop,
          slice_append_dropBytes hdone hb₁ hle]
      · have hslice := slice_parts (x ++ slice source done e.start) e.text
          (spliced source e.stop (changes.map Prod.fst))
        rw [byteSize_append, hkept, List.append_assoc] at hslice
        rw [hslice, ihCut]

section
variable {source out : Text} {changes : List (Edit × Text)}
  (hout : applyAll source (changes.map Prod.fst) = .ok out)
  (hold : ∀ c ∈ changes, slice source c.1.start c.1.stop = c.2)
include hout hold

/-- Taking back all changes of a text removes the texts put in, each in its place, and gives the
text as it was. -/
theorem applyAll_undo :
    applyAll out (undo changes) = .ok source ∧
      (undo changes).map (fun u => (slice out u.start u.stop, u.text)) =
        (changesInOrder changes).map fun c => (c.1.text, c.2) := by
  have hsorted : inOrder (changes.map Prod.fst) = (changesInOrder changes).map Prod.fst := by
    symm
    apply List.map_mergeSort
    exact fun _ _ _ _ => rfl
  obtain ⟨hline, rfl⟩ := applyAll_eq_ok_iff.mp hout
  rw [hsorted] at hline ⊢
  obtain ⟨hundo, htext, hcut⟩ := spliced_undoFrom (x := []) (onBoundary_zero source) hline
    fun c hc => hold c (List.mem_mergeSort.mp hc)
  simp only [byteSize_nil, List.nil_append, dropBytes_zero] at hundo htext hcut
  refine ⟨applyAll_eq_ok_iff.mpr ?_, hcut⟩
  rw [undo, hundo.inOrder_eq]
  exact ⟨hundo, htext.symm⟩

end

/-- Bytes put in by the edits that end at or before an offset. -/
def inserted : (es : List Edit) → (p : Nat) → Nat
  | [], _ => 0
  | e :: es, p => (if e.stop ≤ p then byteSize e.text else 0) + inserted es p

/-- Bytes taken out by the edits that end at or before an offset. -/
def removed : (es : List Edit) → (p : Nat) → Nat
  | [], _ => 0
  | e :: es, p => (if e.stop ≤ p then e.stop - e.start else 0) + removed es p

/-- Where an offset lies once the edits are made. -/
def moved (es : List Edit) (p : Nat) : Nat := p + inserted es p - removed es p

theorem moved_perm {es fs : List Edit} (h : es.Perm fs) (p : Nat) : moved es p = moved fs p := by
  have hsums : inserted es p = inserted fs p ∧ removed es p = removed fs p := by
    induction h with
    | nil => exact ⟨rfl, rfl⟩
    | cons e _ ih =>
        simp only [inserted, removed]
        omega
    | swap e f es =>
        simp only [inserted, removed]
        omega
    | trans _ _ ih₁ ih₂ => exact ⟨ih₁.1.trans ih₂.1, ih₁.2.trans ih₂.2⟩
  rw [moved, moved, hsums.1, hsums.2]

theorem InLine.inserted_removed_eq_zero {source : Text} {done p : Nat} {es : List Edit}
    (h : InLine source done es) (hp : p < done) : inserted es p = 0 ∧ removed es p = 0 := by
  induction es generalizing done with
  | nil => exact ⟨rfl, rfl⟩
  | cons e es ih =>
      obtain ⟨hfits, hle, hrest⟩ := h
      have hstop := (fits_iff.mp hfits).1
      have he : ¬ e.stop ≤ p := by omega
      have hzero := ih hrest (by omega)
      simp [inserted, removed, he, hzero]

theorem InLine.moved_eq_self {source : Text} {p : Nat} {e : Edit} {es : List Edit}
    (h : InLine source e.stop es) (hp : p < e.stop) : moved (e :: es) p = p := by
  have he : ¬ e.stop ≤ p := Nat.not_le.mpr hp
  simp [moved, inserted, removed, he, h.inserted_removed_eq_zero hp]

theorem InLine.removed_add_le {source : Text} {done p : Nat} {es : List Edit}
    (h : InLine source done es) (hp : done ≤ p) : removed es p + done ≤ p := by
  induction es generalizing done with
  | nil => simpa [removed] using hp
  | cons e es ih =>
      obtain ⟨hfits, hle, hrest⟩ := h
      have hstop := (fits_iff.mp hfits).1
      rw [removed]
      by_cases he : e.stop ≤ p
      · have := ih hrest he
        simp only [he, ↓reduceIte]
        omega
      · have hzero := (hrest.inserted_removed_eq_zero (Nat.not_le.mp he)).2
        simp only [he, ↓reduceIte, hzero]
        omega

/-- No edit takes out or puts in anything between two offsets. -/
def Miss (es : List Edit) (p q : Nat) : Prop := ∀ e ∈ es, e.stop ≤ p ∨ q ≤ e.start

theorem InLine.moved_add_le_moved {source : Text} {done p q r : Nat} {es : List Edit}
    (h : InLine source done es) (hp : done ≤ p) (hpq : p ≤ q) (hqr : q ≤ r)
    (hmiss : Miss es p q) : moved es p + (q - p) ≤ moved es r := by
  induction es generalizing done with
  | nil =>
      simp only [moved, inserted, removed]
      omega
  | cons e es ih =>
      obtain ⟨hfits, hle, hrest⟩ := h
      have hstop := (fits_iff.mp hfits).1
      by_cases he : e.stop ≤ p
      · have hboth : e.stop ≤ r := by omega
        have hrec := ih hrest he fun x hx => hmiss x (by simp [hx])
        have hremp := hrest.removed_add_le he
        have hremr := hrest.removed_add_le hboth
        simp only [moved, inserted, removed, he, hboth, ↓reduceIte] at hrec ⊢
        omega
      · have hstart : q ≤ e.start := (hmiss e (by simp)).resolve_left he
        rw [hrest.moved_eq_self (Nat.not_le.mp he)]
        by_cases hr : e.stop ≤ r
        · have hremr := hrest.removed_add_le hr
          simp only [moved, inserted, removed, hr, ↓reduceIte]
          omega
        · rw [hrest.moved_eq_self (Nat.not_le.mp hr)]
          omega

theorem slice_spliced {source : Text} {done p q : Nat} {es : List Edit}
    (hdone : onBoundary source done = true) (hline : InLine source done es)
    (hp : onBoundary source p = true) (hq : onBoundary source q = true) (hdp : done ≤ p)
    (hpq : p ≤ q) (hmiss : Miss es p q) :
    onBoundary (spliced source done es) (moved es p - done) = true ∧
      slice (spliced source done es) (moved es p - done) (moved es p - done + (q - p)) =
        slice source p q := by
  induction es generalizing done with
  | nil =>
      have hmoved : moved [] p = p := by simp [moved, inserted, removed]
      rw [hmoved, spliced]
      refine ⟨onBoundary_dropBytes hdone hp hdp, ?_⟩
      rw [slice, dropBytes_dropBytes hdone hp hdp, Nat.add_sub_cancel_left, slice]
  | cons e es ih =>
      obtain ⟨hfits, hle, hrest⟩ := hline
      obtain ⟨hstop, hb₁, hb₂⟩ := fits_iff.mp hfits
      by_cases he : e.stop ≤ p
      · obtain ⟨ihBoundary, ihSlice⟩ := ih hb₂ hrest he fun x hx => hmiss x (by simp [hx])
        have hrem := hrest.removed_add_le he
        have hsize : byteSize (slice source done e.start ++ e.text) =
            e.start - done + byteSize e.text := by
          rw [byteSize_append, byteSize_slice hdone hb₁ hle]
        have hmoved : moved (e :: es) p - done =
            byteSize (slice source done e.start ++ e.text) + (moved es p - e.stop) := by
          rw [hsize]
          simp only [moved, inserted, removed, he, ↓reduceIte]
          omega
        rw [hmoved, spliced]
        refine ⟨?_, ?_⟩
        · obtain ⟨a, b, hab, hsize'⟩ := onBoundary_iff.mp ihBoundary
          refine onBoundary_iff.mpr ⟨(slice source done e.start ++ e.text) ++ a, b, ?_, ?_⟩
          · rw [hab, List.append_assoc _ a b]
          · rw [byteSize_append _ a, hsize']
        · rw [Nat.add_assoc, slice_append_left _ _ _ _ ihBoundary, ihSlice]
      · have hqs : q ≤ e.start := (hmiss e (by simp)).resolve_left he
        have hmoved : moved (e :: es) p = p := hrest.moved_eq_self (Nat.not_le.mp he)
        have hkept : slice source done e.start =
            slice source done p ++ (slice source p q ++ slice source q e.start) := by
          rw [slice_append_slice hp hq hb₁ hpq hqs,
            slice_append_slice hdone hp hb₁ hdp (Nat.le_trans hpq hqs)]
        have hsizep : byteSize (slice source done p) = p - done := byteSize_slice hdone hp hdp
        have hsizeq : byteSize (slice source p q) = q - p := byteSize_slice hp hq hpq
        rw [hmoved, spliced, hkept]
        simp only [List.append_assoc]
        rw [← hsizep, ← hsizeq]
        exact ⟨onBoundary_append _ _, slice_parts _ _ _⟩

section
variable {source out : Text} {es : List Edit} {p q : Nat} (hout : applyAll source es = .ok out)
  (hpq : p ≤ q) (hmiss : Miss es p q)
include hout hpq hmiss

theorem slice_moved_of_applyAll (hp : onBoundary source p = true)
    (hq : onBoundary source q = true) :
    slice out (moved es p) (moved es p + (q - p)) = slice source p q := by
  obtain ⟨hline, rfl⟩ := applyAll_eq_ok_iff.mp hout
  have h := slice_spliced (onBoundary_zero source) hline hp hq (Nat.zero_le p) hpq
    fun e he => hmiss e (mem_inOrder.mp he)
  rw [moved_perm (List.mergeSort_perm es before).symm]
  exact h.2

theorem moved_add_le_moved_of_applyAll {r : Nat} (hqr : q ≤ r) :
    moved es p + (q - p) ≤ moved es r := by
  obtain ⟨hline, -⟩ := applyAll_eq_ok_iff.mp hout
  have h := hline.moved_add_le_moved (Nat.zero_le p) hpq hqr
    fun e he => hmiss e (mem_inOrder.mp he)
  have hperm := (List.mergeSort_perm es before).symm
  rw [moved_perm hperm p, moved_perm hperm r]
  exact h

end

end SpanWeave.Edit
