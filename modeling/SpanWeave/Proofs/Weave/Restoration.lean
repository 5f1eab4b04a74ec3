import SpanWeave.Proofs.Edit.Undo
import SpanWeave.Proofs.Wrapper
import SpanWeave.Proofs.Survey.Reason
import SpanWeave.Proofs.Weave.Conflict

/-!
Weaving puts in wrappers and loses nothing. What is cut out for a candidate is the text that its
replacement holds, so the source can be had back from the woven text, and the text outside the
candidates, that of skipped functions included, stays as it is.
-/

namespace SpanWeave

open Syntax Text

namespace Syntax.Node

/-- A method definition has a body. -/
def hasMethodBody (n : Node) : Bool :=
  decide (n.kind ≠ .methodDefinition) || (n.child? .body).isSome

end Syntax.Node

namespace Survey

theorem slice_block_visitFunction {s : Survey} {f : Node} {exported : Export} {span b : Span}
    {wrapped : Bool} (h : (s.visitFunction f exported span).block = some (b, wrapped)) :
    slice s.doc.source b.start b.stop = (s.visitFunction f exported span).target.body := by
  simp only [visitFunction, Option.map_eq_some_iff] at h
  obtain ⟨node, hnode, heq⟩ := h
  have hbody := (Option.filter_eq_some_iff.mp hnode).1
  obtain ⟨rfl, -⟩ := Prod.mk.inj heq
  simp [visitFunction, target, Document.fieldText?, hbody, Document.textOf]

theorem Found.slice_block {s : Survey} {o : Node} {v : Visit} (h : Found s o v) {b : Span}
    {wrapped : Bool} (hb : v.block = some (b, wrapped)) :
    slice s.doc.source b.start b.stop = v.target.body := by
  cases h with
  | declared _ _ => exact slice_block_visitFunction hb
  | defaultExport _ => exact slice_block_visitFunction hb
  | signature _ _ _ => simp [visitSignature] at hb
  | bound _ _ _ => simp [visitConst] at hb
  | boundCall _ _ _ _ => simp [visitConst] at hb
  | method _ _ => simp [visitMethod_block] at hb

theorem Found.overloaded_eq {s : Survey} {o : Node} {v : Visit} (h : Found s o v) :
    v.target.overloaded = false := by
  cases h <;> rfl

/-- The span of a visit holds the part of the source that is kept, unless a statement is replaced
for the function in it or the function is wrapped already. -/
theorem Found.slice_kept {s : Survey} {o : Node} {v : Visit} (h : Found s o v)
    (hbody : o.hasMethodBody = true) (hwrapped : v.wrapped = false)
    (hdefault : v.target.shape ≠ .defaultExportedFunctionDeclaration) :
    slice s.doc.source v.target.span.start v.target.span.stop = v.target.kept := by
  cases h with
  | @declared f exported h =>
      cases exported with
      | none => rfl
      | named => rfl
      | default => exact absurd rfl h
  | defaultExport _ => exact absurd rfl hdefault
  | signature _ _ _ => rfl
  | bound _ _ _ => rfl
  | boundCall _ _ _ _ => simp [visitConst] at hwrapped
  | method c hkind =>
      have hsome : (o.child? .body).isSome = true := by
        simpa [Node.hasMethodBody, hkind] using hbody
      obtain ⟨b, hb⟩ := Option.isSome_iff_exists.mp hsome
      have hkept : (s.visitMethod c o).target.kept = (s.doc.fieldText? o .body).getD [] := by
        rw [Target.kept, Target.keepsHead, isMember_visitMethod, Bool.or_true]
        rfl
      rw [visitMethod_span, hkept, Document.fieldText?, hb]
      rfl

theorem Owned.slice_kept {s : Survey} {o : Node} {v : Visit} (h : Owned s o v)
    (hbody : o.hasMethodBody = true) (hwrapped : v.wrapped = false)
    (hdefault : v.target.shape = .defaultExportedFunctionDeclaration → v.target.overloaded = true) :
    slice s.doc.source v.target.span.start v.target.span.stop = v.target.kept := by
  obtain ⟨first, hfirst, rfl⟩ := h
  rcases retarget_cases (signatureNames s.found) first with heq | ⟨span, wrapped, hblock, heq⟩
  · rw [heq] at hwrapped hdefault ⊢
    refine hfirst.slice_kept hbody hwrapped ?_
    intro hshape
    have hover := hdefault hshape
    rw [hfirst.overloaded_eq] at hover
    exact absurd hover Bool.false_ne_true
  · rw [heq]
    exact hfirst.slice_block hblock

theorem Owned.exists_kept {s : Survey} {o : Node} {v : Visit} (h : Owned s o v)
    (ho : o.isNested s.doc.source = true) (hbody : o.hasMethodBody = true)
    (hwrapped : v.wrapped = false) :
    ∃ t : Span, t.Fits s.doc.source ∧ t.Inside v.target.span ∧
      slice s.doc.source t.start t.stop = v.target.kept := by
  by_cases hdefault : v.target.shape = .defaultExportedFunctionDeclaration →
      v.target.overloaded = true
  · exact ⟨v.target.span, (h.within ho).span_fits, Span.Inside.refl _,
      h.slice_kept hbody hwrapped hdefault⟩
  · rw [Classical.not_imp, Bool.not_eq_true] at hdefault
    obtain ⟨hshape, hover⟩ := hdefault
    obtain ⟨first, hfirst, rfl⟩ := h
    rcases retarget_cases (signatureNames s.found) first with heq | ⟨span, wrapped, -, heq⟩
    · rw [heq] at hshape hover ⊢
      have hkept : first.target.kept = first.target.text := by
        rw [Target.kept, Target.keepsHead, hover, hshape]
        rfl
      obtain ⟨t, hfits, hin, htext⟩ := (hfirst.within ho).text_inside
      refine ⟨t, hfits, ?_, htext.trans hkept.symm⟩
      cases hfirst with
      | declared _ _ => exact hin
      | defaultExport _ => exact hin
      | signature _ _ _ => exact hin
      | bound _ _ _ => cases hshape
      | boundCall _ _ _ _ => cases hshape
      | method c _ =>
          have hmember := isMember_visitMethod s c o
          rw [hshape] at hmember
          cases hmember
    · rw [heq] at hover
      cases hover

end Survey

namespace Weaver

/-- Each edit made to a parsed file together with the text that it replaces. -/
def changes (w : Weaver) (doc : Document) (path : Text) (wrapped : List Wrapped) :
    List (Edit × Text) :=
  if wrapped = [] then []
  else
    wrapped.map (fun x => (x.edit, x.target.kept)) ++
      (w.importEdit? doc path).toList.map fun e => (e, [])

theorem map_fst_changes {w : Weaver} {doc : Document} {path : Text} {wrapped : List Wrapped}
    (h : wrapped ≠ []) : (w.changes doc path wrapped).map Prod.fst = w.edits doc path wrapped := by
  simp [changes, h, edits, Function.comp_def]

section
variable {w : Weaver} {doc : Document} {path : Text} {woven : Woven}
  (hroot : doc.root.isNested doc.source = true)
  (hwoven : w.weaveDocument doc path = .ok woven)
include hroot hwoven

theorem applyAll_changes :
    woven.wrapped = w.wrappedIn doc path ∧
      Edit.applyAll doc.source ((w.changes doc path woven.wrapped).map Prod.fst) =
        .ok woven.modified := by
  by_cases hne : w.wrappedIn doc path = []
  · rw [weaveDocument_eq_unchanged hne] at hwoven
    obtain rfl := Except.ok.inj hwoven
    refine ⟨hne.symm, Edit.applyAll_eq_ok_iff.mpr ?_⟩
    simp [changes, Woven.unchanged, Edit.inOrder, Edit.InLine, Edit.spliced]
  · have hout := applyAll_edits hroot hne
    rw [weaveDocument_eq hne hout] at hwoven
    obtain rfl := Except.ok.inj hwoven
    refine ⟨rfl, ?_⟩
    rw [map_fst_changes hne]
    exact hout

theorem exists_visit_of_mem_wrapped {x : Wrapped} (hx : x ∈ woven.wrapped) :
    ∃ v ∈ (Survey.mk doc w.entry).visits,
      Survey.skipReason? w.skip.isMatch w.entry v = none ∧ v.target = x.target := by
  rw [(applyAll_changes hroot hwoven).1] at hx
  exact exists_visit_of_mem_wrappedIn hx

/-- What is cut out for a wrapped function is what its replacement holds. -/
theorem slice_kept_of_mem_wrapped (hbodies : doc.root.everywhere Node.hasMethodBody = true)
    {x : Wrapped} (hx : x ∈ woven.wrapped)
    (hdefault : x.target.shape = .defaultExportedFunctionDeclaration →
      x.target.overloaded = true) :
    slice doc.source x.target.span.start x.target.span.stop = x.target.kept := by
  obtain ⟨v, hv, hreason, htarget⟩ := exists_visit_of_mem_wrapped hroot hwoven hx
  obtain ⟨o, howned, stmt, hstmt, -, hunder⟩ := Survey.exists_owner hv
  have hbody : o.hasMethodBody = true :=
    Node.of_everywhere hbodies (hunder.trans (Node.under_of_mem_significant hstmt))
  rw [← htarget] at hdefault ⊢
  exact howned.slice_kept hbody (Survey.of_skipReason?_eq_none hreason).2.2 hdefault

theorem exists_miss_of_skipped {v : Visit} (hv : v ∈ (Survey.mk doc w.entry).visits)
    (hskip : Survey.skipReason? w.skip.isMatch w.entry v ≠ none) :
    ∃ t : Span, t.Fits doc.source ∧ slice doc.source t.start t.stop = v.target.text ∧
      Edit.Miss ((w.changes doc path woven.wrapped).map Prod.fst) t.start t.stop := by
  obtain ⟨reach, hwithin, ⟨stmt, hstmt, hne, hin⟩, hapart⟩ :=
    Survey.exists_owner_apart (s := ⟨doc, w.entry⟩) hroot hv
  obtain ⟨t, hfits, htin, htext⟩ := hwithin.text_inside
  refine ⟨t, hfits, htext, ?_⟩
  intro e he
  by_cases hwrapped : woven.wrapped = []
  · simp [changes, hwrapped] at he
  rw [map_fst_changes hwrapped] at he
  rcases List.mem_append.mp he with he | he
  · obtain ⟨x, hx, rfl⟩ := List.mem_map.mp he
    obtain ⟨other, hother, hreason, htarget⟩ := exists_visit_of_mem_wrapped hroot hwoven hx
    have hdistinct : other ≠ v := fun h => hskip (h ▸ hreason)
    have h := (hapart other hother hdistinct).mono (Span.Inside.refl _) htin
    rw [htarget] at h
    exact h
  · obtain ⟨hstop, text, rfl⟩ := exists_of_importEdit?_eq_some (Option.mem_toList.mp he)
    have hle := (ImportSite.insertion_start_le hroot text (List.mem_filter.mp hstmt).1
      (ImportSite.isPreamble_of_visitStatement_ne hne)).1
    refine Or.inl ?_
    rw [hstop]
    exact Nat.le_trans hle (Nat.le_trans hin.1 htin.1)

theorem replacement_of_mem_wrapped {x : Wrapped} (hx : x ∈ woven.wrapped)
    (hdefault : x.target.shape = .defaultExportedFunctionDeclaration →
      x.target.overloaded = true) :
    x.replacement = Wrapper.lead x.target x.spanName w.entry doc.lineEnding ++
      Wrapper.emitted x.target ++ Wrapper.trail x.target doc.lineEnding := by
  obtain ⟨v, -, hreason, htarget⟩ := exists_visit_of_mem_wrapped hroot hwoven hx
  obtain ⟨hconstructor, hsignature, -⟩ := Survey.of_skipReason?_eq_none hreason
  rw [htarget] at hconstructor hsignature
  rw [(applyAll_changes hroot hwoven).1] at hx
  obtain ⟨t, -, rfl⟩ := List.mem_map.mp hx
  exact Wrapper.replacement_eq hconstructor hsignature hdefault _ _ _

theorem slice_of_mem_changes (hbodies : doc.root.everywhere Node.hasMethodBody = true)
    (hdefault : ∀ x ∈ woven.wrapped, x.target.shape = .defaultExportedFunctionDeclaration →
      x.target.overloaded = true) :
    ∀ c ∈ w.changes doc path woven.wrapped, slice doc.source c.1.start c.1.stop = c.2 := by
  intro c hc
  simp only [changes] at hc
  split at hc
  · simp at hc
  rcases List.mem_append.mp hc with hc | hc
  · obtain ⟨x, hx, rfl⟩ := List.mem_map.mp hc
    exact slice_kept_of_mem_wrapped hroot hwoven hbodies hx (hdefault x hx)
  · obtain ⟨e, he, rfl⟩ := List.mem_map.mp hc
    have hstop := (exists_of_importEdit?_eq_some (Option.mem_toList.mp he)).1
    rw [hstop, slice, Nat.sub_self]
    exact takeBytes_zero _

end

/-- Weaving puts in wrappers and nothing else: what is cut out for a function is what its
replacement holds, up to white space in front of lines; taking all changes back gives the source;
and text that no change meets stays in order, that of every skipped function included. -/
theorem source_of_woven {w : Weaver} {source path : Text} {dialect : Dialect} {doc : Document}
    {woven : Woven} (hdialect : Dialect.ofPath? path = some dialect)
    (hparse : Document.parse source dialect = .ok doc)
    (hroot : doc.root.isNested source = true)
    (hbodies : doc.root.everywhere Node.hasMethodBody = true)
    (hwoven : w.weave source path = .ok woven)
    (hdefault : ∀ x ∈ woven.wrapped, x.target.shape = .defaultExportedFunctionDeclaration →
      x.target.overloaded = true) :
    let changes := w.changes doc path woven.wrapped
    let edits := changes.map Prod.fst
    (∀ x ∈ woven.wrapped,
      slice source x.target.span.start x.target.span.stop = x.target.kept ∧
        x.replacement = Wrapper.lead x.target x.spanName w.entry doc.lineEnding ++
          Wrapper.emitted x.target ++ Wrapper.trail x.target doc.lineEnding ∧
        ink (Wrapper.emitted x.target) = ink x.target.kept) ∧
      Edit.applyAll woven.modified (Edit.undo changes) = .ok source ∧
      (Edit.undo changes).map (fun u => (slice woven.modified u.start u.stop, u.text)) =
        (Edit.changesInOrder changes).map (fun c => (c.1.text, c.2)) ∧
      (∀ p q, onBoundary source p = true → onBoundary source q = true → p ≤ q →
        Edit.Miss edits p q →
          slice woven.modified (Edit.moved edits p) (Edit.moved edits p + (q - p)) =
              slice source p q ∧
            ∀ r, q ≤ r → Edit.moved edits p + (q - p) ≤ Edit.moved edits r) ∧
      ∀ v ∈ (Survey.mk doc w.entry).visits,
        Survey.skipReason? w.skip.isMatch w.entry v ≠ none →
          ∃ t : Span, t.Fits source ∧ slice source t.start t.stop = v.target.text ∧
            Edit.Miss edits t.start t.stop ∧
            slice woven.modified (Edit.moved edits t.start)
              (Edit.moved edits t.start + (t.stop - t.start)) = v.target.text := by
  intro changes edits
  obtain ⟨rfl, -⟩ := Document.of_parse_eq_ok hparse
  rw [weave_eq_weaveDocument hdialect hparse] at hwoven
  have hout := (applyAll_changes hroot hwoven).2
  obtain ⟨hundo, hcut⟩ :=
    Edit.applyAll_undo hout (slice_of_mem_changes hroot hwoven hbodies hdefault)
  refine ⟨?_, hundo, hcut, ?_, ?_⟩
  · intro x hx
    exact ⟨slice_kept_of_mem_wrapped hroot hwoven hbodies hx (hdefault x hx),
      replacement_of_mem_wrapped hroot hwoven hx (hdefault x hx), Wrapper.ink_emitted x.target⟩
  · intro p q hp hq hpq hmiss
    exact ⟨Edit.slice_moved_of_applyAll hout hpq hmiss hp hq,
      fun r hqr => Edit.moved_add_le_moved_of_applyAll hout hpq hmiss hqr⟩
  · intro v hv hskip
    obtain ⟨t, hfits, htext, hmiss⟩ := exists_miss_of_skipped hroot hwoven hv hskip
    refine ⟨t, hfits, htext, hmiss, ?_⟩
    rw [← htext]
    exact Edit.slice_moved_of_applyAll hout hfits.start_le_stop hmiss hfits.boundary_start
      hfits.boundary_stop

/-- An overload signature with its implementation, and a class with a method. -/
def variedFile : Text :=
  ("function g();\nfunction g() \x7b\x7d\n" ++ "class A \x7b m() \x7b\x7d \x7d\n").toList

theorem source_of_woven_variedFile :
    ∃ doc woven, Document.parse variedFile .typeScript = .ok doc ∧
      plain.weave variedFile "a.ts".toList = .ok woven ∧ woven.wrapped.length = 2 ∧
      Edit.applyAll woven.modified
        (Edit.undo (plain.changes doc "a.ts".toList woven.wrapped)) = .ok variedFile := by
  have hcheck : yields (Document.parse variedFile .typeScript) (fun doc =>
      (doc.root.isNested variedFile && doc.root.everywhere Node.hasMethodBody) &&
        decide ((plain.wrappedIn doc "a.ts".toList).length = 2 ∧
          ∀ x ∈ plain.wrappedIn doc "a.ts".toList,
            x.target.shape = .defaultExportedFunctionDeclaration → x.target.overloaded = true)) =
      true := by
    decide +kernel
  obtain ⟨doc, hdoc, h⟩ := exists_of_yields hcheck
  obtain ⟨htree, hwrapped⟩ := Bool.and_eq_true_iff.mp h
  obtain ⟨hroot, hbodies⟩ := Bool.and_eq_true_iff.mp htree
  obtain ⟨hlength, hdefault⟩ := of_decide_eq_true hwrapped
  have hdialect : Dialect.ofPath? "a.ts".toList = some .typeScript := by decide
  have hne : plain.wrappedIn doc "a.ts".toList ≠ [] := by
    intro hnil
    rw [hnil] at hlength
    exact absurd hlength (by decide)
  have hsource := (Document.of_parse_eq_ok hdoc).1
  obtain ⟨woven, hwoven, hsame, -⟩ :=
    exists_weave_of_applyAll hdialect hdoc hne (hsource ▸ applyAll_edits (hsource ▸ hroot) hne)
  have hrestored := source_of_woven hdialect hdoc hroot hbodies hwoven (hsame ▸ hdefault)
  exact ⟨doc, woven, hdoc, hwoven, by rw [hsame, hlength], hrestored.2.1⟩

end Weaver

end SpanWeave
