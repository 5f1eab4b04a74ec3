import SpanWeave.Proofs.Syntax.Comment
import SpanWeave.Proofs.Weave.Restoration

namespace SpanWeave

open Syntax Text

namespace Wrapper

section
variable {step : Text} (hstep : blank step = true)
include hstep

theorem exists_reindent_lineComment {u q : Text} (hline : ∀ c ∈ u, isLineEnd c = false)
    (hnext : ∀ c, q.head? = some c → isLineEnd c = true) (a : Text) :
    ∃ a', reindent (a ++ ('/' :: '/' :: u ++ q)) step =
        a' ++ ('/' :: '/' :: u ++ reindent q step) ∧ ink a' = ink a ∧
      ∀ c rest, isLineEnd c = false →
        (ReadsOn ('/' :: '/' :: u ++ reindent q step) (c :: rest) ↔ q = []) := by
  have hnewline : '\n' ∉ '/' :: '/' :: u := by
    intro hmem
    simp only [List.mem_cons, Char.reduceEq, false_or] at hmem
    exact absurd (hline _ hmem) (by decide)
  obtain ⟨a', ha, hink, -⟩ := exists_reindent_append hstep a ('/' :: '/' :: u ++ q)
  obtain ⟨comment, hcomment, -, hsame⟩ := exists_reindent_append hstep ('/' :: '/' :: u) q
  obtain rfl := hsame hnewline
  refine ⟨a', by rw [ha, hcomment], hink, ?_⟩
  intro c rest hc
  cases q with
  | nil =>
      rw [reindent_nil, List.append_nil]
      exact ⟨fun _ => rfl, fun _ => readsOn_line hline hc rest⟩
  | cons d q =>
      have hhead : ∃ q', reindent (d :: q) step = d :: q' := by
        by_cases hd : d = '\n'
        · subst hd
          obtain ⟨gap, -, heq⟩ := exists_reindent_newline hstep q
          exact ⟨_, heq⟩
        · exact ⟨_, reindent_cons hd q step⟩
      obtain ⟨q', hq'⟩ := hhead
      rw [hq']
      constructor
      · intro h
        exact absurd h (not_readsOn_line hline (hnext d rfl) q' (c :: rest))
      · intro h
        cases h

theorem exists_reindent_blockComment (a m q : Text) :
    ∃ a' m', reindent (a ++ ('/' :: '*' :: (m ++ ['*', '/']) ++ q)) step =
        a' ++ ('/' :: '*' :: (m' ++ ['*', '/']) ++ reindent q step) ∧
      ink a' = ink a ∧ ink m' = ink m := by
  have hslash : '/' ≠ '\n' := by decide
  have hstar : '*' ≠ '\n' := by decide
  obtain ⟨a', ha, hinkA, -⟩ :=
    exists_reindent_append hstep a ('/' :: '*' :: (m ++ ['*', '/']) ++ q)
  obtain ⟨m', hm, hinkM, -⟩ := exists_reindent_append hstep m ('*' :: '/' :: q)
  refine ⟨a', m', ?_, hinkA, hinkM⟩
  rw [ha]
  simp only [List.cons_append, List.append_assoc, List.nil_append]
  rw [reindent_cons hslash, reindent_cons hstar, hm, reindent_cons hstar, reindent_cons hslash]

/-- A comment in a text that is moved to the right keeps its place among the other characters, and
it goes on into what is put behind the text only as a line comment at its end. -/
theorem exists_reindent_comment (a : Text) {comment q r : Text}
    (hread : commentLength? (comment ++ (q ++ r)) = some comment.length) :
    ∃ a' comment' q', reindent (a ++ (comment ++ q)) step = a' ++ (comment' ++ q') ∧
      ink a' = ink a ∧ ink comment' = ink comment ∧ ink q' = ink q ∧
      ∀ c rest, isLineEnd c = false →
        (ReadsOn (comment' ++ q') (c :: rest) ↔ comment.take 2 = "//".toList ∧ q = []) := by
  have hink := ink_reindent hstep q
  rcases comment_cases hread with ⟨u, rfl, hline, hnext⟩ | ⟨m, rfl⟩
  · have hhead : ∀ c, q.head? = some c → isLineEnd c = true := by
      intro c hc
      exact hnext c (by rw [List.head?_append, hc]; rfl)
    obtain ⟨a', heq, ha, hreads⟩ := exists_reindent_lineComment hstep hline hhead a
    refine ⟨a', _, _, heq, ha, rfl, hink, ?_⟩
    intro c rest hc
    rw [hreads c rest hc]
    exact ⟨fun h => ⟨rfl, h⟩, fun h => h.2⟩
  · obtain ⟨a', m', heq, ha, hm⟩ := exists_reindent_blockComment hstep a m q
    refine ⟨a', _, _, heq, ha, ?_, hink, ?_⟩
    · have hcons (s : Text) : ink ('/' :: '*' :: s) = '/' :: '*' :: ink s := rfl
      rw [hcons, hcons, ink_append, ink_append, hm]
    · intro c rest _
      constructor
      · intro h
        simp only [List.cons_append, List.append_assoc, List.nil_append] at h
        exact absurd h (not_readsOn_block m' _ _)
      · rintro ⟨hlead, -⟩
        cases hlead

end

end Wrapper

namespace Weaver

section
variable {w : Weaver} {doc : Document} {path : Text} {woven : Woven}
  (hroot : doc.root.isNested doc.source = true)
  (hwoven : w.weaveDocument doc path = .ok woven)
include hroot hwoven

theorem exists_kept_of_mem_wrapped (hbodies : doc.root.everywhere Node.hasMethodBody = true)
    {x : Wrapped} (hx : x ∈ woven.wrapped) :
    ∃ t : Span, t.Fits doc.source ∧ t.Inside x.target.span ∧
      slice doc.source t.start t.stop = x.target.kept := by
  obtain ⟨v, hv, hreason, htarget⟩ := exists_visit_of_mem_wrapped hroot hwoven hx
  obtain ⟨o, howned, stmt, hstmt, -, hunder⟩ := Survey.exists_owner hv
  have hbody : o.hasMethodBody = true :=
    Node.of_everywhere hbodies (hunder.trans (Node.under_of_mem_significant hstmt))
  have hnested := (Survey.isNested_of_under_stmt (s := ⟨doc, w.entry⟩) hroot hstmt hunder).1
  rw [← htarget]
  exact howned.exists_kept hnested hbody (Survey.of_skipReason?_eq_none hreason).2.2

theorem exists_modified_eq {x : Wrapped} (hx : x ∈ woven.wrapped) :
    ∃ before after, woven.modified =
      before ++ (Wrapper.lead x.target x.spanName w.entry doc.lineEnding ++
        (Wrapper.emitted x.target ++ ')' :: after)) := by
  obtain ⟨v, -, hreason, htarget⟩ := exists_visit_of_mem_wrapped hroot hwoven hx
  obtain ⟨hconstructor, hsignature, -⟩ := Survey.of_skipReason?_eq_none hreason
  rw [htarget] at hconstructor hsignature
  obtain ⟨hsame, hout⟩ := applyAll_changes hroot hwoven
  have hedit : x.edit ∈ (w.changes doc path woven.wrapped).map Prod.fst := by
    rw [map_fst_changes (List.ne_nil_of_mem hx)]
    exact List.mem_append_left _ (List.mem_map_of_mem hx)
  obtain ⟨before, after, hmodified⟩ := Edit.exists_applyAll_eq hout hedit
  have htext : x.edit.text =
      Wrapper.replacement x.target x.spanName w.entry doc.lineEnding := by
    rw [hsame] at hx
    obtain ⟨t, -, rfl⟩ := List.mem_map.mp hx
    rfl
  obtain ⟨rest, hrest⟩ := Wrapper.exists_replacement_eq hconstructor hsignature x.spanName w.entry
    doc.lineEnding
  refine ⟨before, rest ++ after, ?_⟩
  rw [hmodified, htext, hrest]
  simp only [List.append_assoc, List.cons_append]

/-- The parenthesis that closes the call on a function stands in a comment of the function exactly
when that is a line comment at the end of the kept part. -/
theorem closing_in_comment_iff (hcomments : doc.root.everywhere doc.readsComment = true)
    (hbodies : doc.root.everywhere Node.hasMethodBody = true) {x : Wrapped}
    (hx : x ∈ woven.wrapped) :
    ∃ (before after : Text) (part : Span),
      woven.modified = before ++ (Wrapper.lead x.target x.spanName w.entry doc.lineEnding ++
        (Wrapper.emitted x.target ++ ')' :: after)) ∧
      part.Fits doc.source ∧ part.Inside x.target.span ∧
      slice doc.source part.start part.stop = x.target.kept ∧
      ∀ c : Node, c.Under doc.root → c.kind = .comment → c.span.Inside part →
        ∃ a comment q, Wrapper.emitted x.target = a ++ (comment ++ q) ∧
          ink a = ink (slice doc.source part.start c.span.start) ∧
          ink comment = ink (doc.textOf c) ∧
          ink q = ink (slice doc.source c.span.stop part.stop) ∧
          (ReadsOn (comment ++ q) (')' :: after) ↔
            doc.isLineComment c = true ∧ c.span.stop = part.stop) := by
  obtain ⟨before, after, hmodified⟩ := exists_modified_eq hroot hwoven hx
  obtain ⟨part, hfits, hin, hkept⟩ := exists_kept_of_mem_wrapped hroot hwoven hbodies hx
  refine ⟨before, after, part, hmodified, hfits, hin, hkept, ?_⟩
  intro c hc hkind hinside
  have hfitsC := Node.fits_of_isNested (Node.isNested_of_under hroot hc).1
  have hread : commentLength? (dropBytes doc.source c.span.start) = some (doc.textOf c).length := by
    have h := Node.of_everywhere hcomments hc
    exact of_decide_eq_true h hkind
  -- the comment and the two parts around it
  rw [← slice_append_dropBytes hfitsC.boundary_start hfitsC.boundary_stop hfitsC.start_le_stop,
    ← slice_append_dropBytes hfitsC.boundary_stop hfits.boundary_stop hinside.2] at hread
  obtain ⟨step, hstep, hemitted⟩ := Wrapper.exists_emitted_eq_reindent x.target
  have hsplit : x.target.kept = slice doc.source part.start c.span.start ++
      (doc.textOf c ++ slice doc.source c.span.stop part.stop) := by
    rw [← hkept, Document.textOf, slice_append_slice hfitsC.boundary_start hfitsC.boundary_stop
      hfits.boundary_stop hfitsC.start_le_stop hinside.2, slice_append_slice hfits.boundary_start
      hfitsC.boundary_start hfits.boundary_stop hinside.1
      (Nat.le_trans hfitsC.start_le_stop hinside.2)]
  obtain ⟨a, comment, q, heq, ha, hcomment, hq, hreads⟩ := Wrapper.exists_reindent_comment hstep
    (slice doc.source part.start c.span.start) hread
  refine ⟨a, comment, q, by rw [hemitted, hsplit, ← heq]; rfl, ha, hcomment, hq, ?_⟩
  rw [hreads ')' after (by decide)]
  have hend : slice doc.source c.span.stop part.stop = [] ↔ c.span.stop = part.stop := by
    rw [← byteSize_eq_zero_iff, byteSize_slice hfitsC.boundary_stop hfits.boundary_stop hinside.2]
    have := hinside.2
    omega
  rw [hend, Document.isLineComment, decide_eq_true_eq]
  exact ⟨fun h => ⟨⟨hkind, h.1⟩, h.2⟩, fun h => ⟨h.1.2, h.2⟩⟩

end

end Weaver

end SpanWeave
