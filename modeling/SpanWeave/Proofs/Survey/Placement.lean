import Mathlib.Data.List.Pairwise
import SpanWeave.Proofs.Survey.Origin

namespace SpanWeave.Survey

open Syntax Text

/-- What a visit says about the source lies inside `reach`: the span to be replaced, the text of
the function, and the body block of a declaration. -/
structure Within (source : Text) (reach : Span) (v : Visit) : Prop where
  span_fits : v.target.span.Fits source
  span_inside : v.target.span.Inside reach
  text_inside : ∃ t : Span, t.Fits source ∧ t.Inside reach ∧
    slice source t.start t.stop = v.target.text
  block_inside : ∀ b wrapped, v.block = some (b, wrapped) →
    b.Fits source ∧ b.Inside reach ∧ slice source b.start b.stop = v.target.body

theorem mem_of_wrappedFunction? {s : Survey} {value f : Node}
    (h : s.wrappedFunction? value = some f) :
    ∃ args, value.child? .arguments = some args ∧ f ∈ args.significant := by
  simp only [wrappedFunction?] at h
  split at h
  · split at h
    · rename_i callee args _ hargs
      split at h
      · exact ⟨args, hargs, List.mem_of_getLast? (Option.filter_eq_some_iff.mp h).1⟩
      · simp at h
    · simp at h
  · simp at h

theorem within_function {s : Survey} {o f : Node} {exported : Export}
    (ho : o.isNested s.doc.source = true) (hf : f.isNested s.doc.source = true)
    (hin : f.span.Inside o.span) :
    Within s.doc.source o.span (s.visitFunction f exported o.span) where
  span_fits := Node.fits_of_isNested ho
  span_inside := Span.Inside.refl _
  text_inside := ⟨f.span, Node.fits_of_isNested hf, hin, rfl⟩
  block_inside := by
    intro b wrapped h
    simp only [visitFunction, Option.map_eq_some_iff] at h
    obtain ⟨node, hnode, heq⟩ := h
    have hbody := (Option.filter_eq_some_iff.mp hnode).1
    obtain ⟨rfl, -⟩ := Prod.mk.inj heq
    obtain ⟨hnested, hinside⟩ := Node.isNested_of_child? hf hbody
    refine ⟨Node.fits_of_isNested hnested, hinside.trans hin, ?_⟩
    simp [visitFunction, target, Document.fieldText?, hbody, Document.textOf]

theorem Found.within {s : Survey} {o : Node} {v : Visit} (h : Found s o v)
    (ho : o.isNested s.doc.source = true) : Within s.doc.source o.span v := by
  have hfits := Node.fits_of_isNested ho
  cases h with
  | declared _ _ => exact within_function ho ho (Span.Inside.refl _)
  | defaultExport hf =>
      obtain ⟨hnested, hin⟩ := Node.isNested_of_child? ho hf
      exact within_function ho hnested hin
  | signature _ _ _ =>
      exact ⟨hfits, Span.Inside.refl _, ⟨o.span, hfits, Span.Inside.refl _, rfl⟩,
        by simp [visitSignature]⟩
  | bound _ _ hvalue =>
      obtain ⟨hnested, hin⟩ := Node.isNested_of_child? ho hvalue
      have hfits := Node.fits_of_isNested hnested
      exact ⟨hfits, hin, ⟨_, hfits, hin, rfl⟩, by simp [visitConst]⟩
  | boundCall _ _ hvalue hf =>
      obtain ⟨hnested, hin⟩ := Node.isNested_of_child? ho hvalue
      obtain ⟨args, hargs, hmem⟩ := mem_of_wrappedFunction? hf
      obtain ⟨hargsNested, hargsIn⟩ := Node.isNested_of_child? hnested hargs
      obtain ⟨hfNested, hfIn⟩ := Node.isNested_of_mem hargsNested (Node.mem_significant hmem)
      exact ⟨Node.fits_of_isNested hnested, hin,
        ⟨_, Node.fits_of_isNested hfNested, hfIn.trans (hargsIn.trans hin), rfl⟩,
        by simp [visitConst]⟩
  | method c _ =>
      have hspan : ((o.child? .body).map Node.span |>.getD o.span).Fits s.doc.source ∧
          ((o.child? .body).map Node.span |>.getD o.span).Inside o.span := by
        cases hbody : o.child? .body with
        | none => exact ⟨hfits, Span.Inside.refl _⟩
        | some b =>
            obtain ⟨hnested, hin⟩ := Node.isNested_of_child? ho hbody
            exact ⟨Node.fits_of_isNested hnested, hin⟩
      refine ⟨?_, ?_, ⟨o.span, hfits, Span.Inside.refl _, ?_⟩, ?_⟩
      · rw [visitMethod_span]
        exact hspan.1
      · rw [visitMethod_span]
        exact hspan.2
      · rw [visitMethod_text, Document.textOf]
      · simp [visitMethod_block]

theorem Within.retarget {source : Text} {reach : Span} {v : Visit} (h : Within source reach v)
    (names : List Text) : Within source reach (retarget names v) := by
  simp only [Survey.retarget]
  split
  · split
    · rename_i span wrapped hblock
      obtain ⟨hfits, hin, -⟩ := h.block_inside span wrapped hblock
      exact ⟨hfits, hin, h.text_inside, h.block_inside⟩
    · exact h
  · exact h

/-- The visit `v` of a file is made at the node `owner`, and its edit has moved to the body if the
function implements signatures. -/
def Owned (s : Survey) (owner : Node) (v : Visit) : Prop :=
  ∃ first, Found s owner first ∧ v = retarget (signatureNames s.found) first

theorem Owned.within {s : Survey} {o : Node} {v : Visit} (h : Owned s o v)
    (ho : o.isNested s.doc.source = true) : Within s.doc.source o.span v := by
  obtain ⟨first, hfirst, rfl⟩ := h
  exact (hfirst.within ho).retarget _

theorem exists_located_visits (s : Survey) :
    ∃ located : List (Node × Visit),
      located.map Prod.snd = s.visits ∧ (∀ x ∈ located, Owned s x.1 x.2) ∧
        (∀ x ∈ located, ∃ stmt ∈ s.doc.root.significant,
          s.visitStatement stmt ≠ ([], []) ∧ x.1.Under stmt) ∧
        (s.doc.root.isNested s.doc.source = true → Scattered (located.map Prod.fst)) := by
  obtain ⟨located, hvisits, hfound, hunder, hscattered⟩ := exists_located_found s
  refine ⟨located.map fun x => (x.1, retarget (signatureNames s.found) x.2), ?_, ?_, ?_, ?_⟩
  · simp [visits_eq, ← hvisits, Function.comp_def]
  · intro x hx
    obtain ⟨y, hy, rfl⟩ := List.mem_map.mp hx
    exact ⟨y.2, hfound y hy, rfl⟩
  · intro x hx
    obtain ⟨y, hy, rfl⟩ := List.mem_map.mp hx
    exact hunder y.1 (List.mem_map_of_mem hy)
  · simpa [Function.comp_def] using hscattered

theorem exists_owner {s : Survey} {v : Visit} (hv : v ∈ s.visits) :
    ∃ o, Owned s o v ∧ ∃ stmt ∈ s.doc.root.significant,
      s.visitStatement stmt ≠ ([], []) ∧ o.Under stmt := by
  obtain ⟨located, hvisits, howned, hunder, -⟩ := exists_located_visits s
  rw [← hvisits] at hv
  obtain ⟨x, hx, rfl⟩ := List.mem_map.mp hv
  exact ⟨x.1, howned x hx, hunder x hx⟩

section
variable {s : Survey} (hroot : s.doc.root.isNested s.doc.source = true)
include hroot

theorem isNested_of_under_stmt {o stmt : Node} (hstmt : stmt ∈ s.doc.root.significant)
    (ho : o.Under stmt) : o.isNested s.doc.source = true ∧ o.span.Inside stmt.span := by
  have hnested := (Node.isNested_of_mem hroot (Node.mem_significant hstmt)).1
  exact Node.isNested_of_under hnested ho

theorem fits_of_mem_visits {v : Visit} (hv : v ∈ s.visits) :
    v.target.span.Fits s.doc.source := by
  obtain ⟨o, howned, stmt, hstmt, -, hunder⟩ := exists_owner hv
  exact (howned.within (isNested_of_under_stmt hroot hstmt hunder).1).span_fits

/-- The spans of different visited functions have no byte in common. -/
theorem pairwise_apart_visits :
    s.visits.Pairwise fun a b => a.target.span.Apart b.target.span := by
  obtain ⟨located, hvisits, howned, hunder, hscattered⟩ := exists_located_visits s
  have hinside : ∀ x ∈ located, x.2.target.span.Inside x.1.span := by
    intro x hx
    obtain ⟨stmt, hstmt, -, hxs⟩ := hunder x hx
    exact ((howned x hx).within (isNested_of_under_stmt hroot hstmt hxs).1).span_inside
  rw [← hvisits, List.pairwise_map]
  refine (List.pairwise_map.mp (hscattered hroot)).imp_of_mem ?_
  intro x y hx hy h
  exact h.mono (hinside x hx) (hinside y hy)

theorem exists_owner_apart {v : Visit} (hv : v ∈ s.visits) :
    ∃ o, Within s.doc.source o v ∧
      (∃ stmt ∈ s.doc.root.significant,
        s.visitStatement stmt ≠ ([], []) ∧ o.Inside stmt.span) ∧
      ∀ other ∈ s.visits, other ≠ v → other.target.span.Apart o := by
  obtain ⟨located, hvisits, howned, hunder, hscattered⟩ := exists_located_visits s
  have hwithin : ∀ x ∈ located, Within s.doc.source x.1.span x.2 := by
    intro x hx
    obtain ⟨stmt, hstmt, -, hxs⟩ := hunder x hx
    exact (howned x hx).within (isNested_of_under_stmt hroot hstmt hxs).1
  have hsymm : Std.Symm fun a b : Node × Visit => a.1.span.Apart b.1.span :=
    ⟨fun _ _ h => h.symm⟩
  have hapart := (List.pairwise_map.mp (hscattered hroot)).forall
  rw [← hvisits] at hv ⊢
  obtain ⟨x, hx, rfl⟩ := List.mem_map.mp hv
  refine ⟨x.1.span, hwithin x hx, ?_, ?_⟩
  · obtain ⟨stmt, hstmt, hne, hxs⟩ := hunder x hx
    exact ⟨stmt, hstmt, hne, (isNested_of_under_stmt hroot hstmt hxs).2⟩
  · intro other hother hne
    obtain ⟨y, hy, rfl⟩ := List.mem_map.mp hother
    have hxy : x ≠ y := fun h => hne (by rw [h])
    exact (hapart hx hy hxy).symm.mono (hwithin y hy).span_inside (Span.Inside.refl _)

end

end SpanWeave.Survey
