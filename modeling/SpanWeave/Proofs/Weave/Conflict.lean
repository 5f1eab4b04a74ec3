import SpanWeave.Weave
import SpanWeave.Proofs.Edit.Application
import SpanWeave.Proofs.Survey.Placement
import SpanWeave.Proofs.ImportSite

namespace SpanWeave

open Syntax Text

/-- The outcome is a result that satisfies `p`. -/
def yields {ε α : Type} (outcome : Except ε α) (p : α → Bool) : Bool :=
  match outcome with
  | .ok a => p a
  | .error _ => false

theorem exists_of_yields {ε α : Type} {outcome : Except ε α} {p : α → Bool}
    (h : yields outcome p = true) : ∃ a, outcome = .ok a ∧ p a = true := by
  cases outcome with
  | ok a => exact ⟨a, rfl, h⟩
  | error e => simp [yields] at h

theorem Document.of_parse_eq_ok {source : Text} {dialect : Dialect} {doc : Document}
    (h : Document.parse source dialect = .ok doc) :
    doc.source = source ∧ doc.dialect = dialect := by
  simp only [Document.parse] at h
  split at h
  · obtain rfl := Except.ok.inj h
    exact ⟨rfl, rfl⟩
  · simp at h

theorem Edit.inOrder_pair {a b : Edit} (h : a.before b = false) : Edit.inOrder [a, b] = [b, a] := by
  simp [inOrder, List.mergeSort, List.MergeSort.Internal.splitInTwo, h]

theorem mem_candidates_iff {doc : Document} {skip : Text → Bool} {entry : Text} {t : Target} :
    t ∈ (classify doc skip entry).candidates ↔
      ∃ v ∈ (Survey.mk doc entry).visits,
        Survey.skipReason? skip entry v = none ∧ v.target = t := by
  simp only [classify, List.mem_filterMap]
  constructor
  · rintro ⟨v, hv, h⟩
    split at h
    · simp at h
    · rename_i hreason
      exact ⟨v, hv, hreason, Option.some.inj h⟩
  · rintro ⟨v, hv, hreason, rfl⟩
    exact ⟨v, hv, by simp [hreason]⟩

theorem pairwise_candidates {doc : Document} {skip : Text → Bool} {entry : Text}
    {R : Target → Target → Prop}
    (h : (Survey.mk doc entry).visits.Pairwise fun a b => R a.target b.target) :
    (classify doc skip entry).candidates.Pairwise R := by
  simp only [classify]
  refine h.filterMap _ ?_
  intro a b hab s hs t ht
  split at hs
  · simp at hs
  · split at ht
    · simp at ht
    · obtain rfl := Option.some.inj hs
      obtain rfl := Option.some.inj ht
      exact hab

theorem insertion_start_le_of_mem_visits {doc : Document} {entry : Text}
    (hroot : doc.root.isNested doc.source = true) (stmt : Text) {v : Visit}
    (hv : v ∈ (Survey.mk doc entry).visits) :
    (ImportSite.insertion doc stmt).start ≤ v.target.span.start ∧
      onBoundary doc.source (ImportSite.insertion doc stmt).start = true := by
  obtain ⟨o, howned, n, hn, hne, hunder⟩ := Survey.exists_owner hv
  obtain ⟨hnested, hin⟩ := Survey.isNested_of_under_stmt (s := ⟨doc, entry⟩) hroot hn hunder
  obtain ⟨hle, hboundary⟩ := ImportSite.insertion_start_le hroot stmt
    (List.mem_filter.mp hn).1 (ImportSite.isPreamble_of_visitStatement_ne hne)
  have hspan := (howned.within hnested).span_inside.1
  exact ⟨Nat.le_trans hle (Nat.le_trans hin.1 hspan), hboundary⟩

namespace Weaver

/-- The functions that are wrapped in a parsed file. -/
def wrappedIn (w : Weaver) (doc : Document) (path : Text) : List Wrapped :=
  (classify doc w.skip.isMatch w.entry).candidates.map (w.wrap path doc.lineEnding)

theorem exists_of_importEdit?_eq_some {w : Weaver} {doc : Document} {path : Text} {e : Edit}
    (h : w.importEdit? doc path = some e) :
    e.stop = e.start ∧ ∃ stmt, e = ImportSite.insertion doc stmt := by
  simp only [importEdit?] at h
  split at h
  · simp at h
  · obtain rfl := Option.some.inj h
    exact ⟨ImportSite.insertion_stop doc _, _, rfl⟩

theorem exists_visit_of_mem_wrappedIn {w : Weaver} {doc : Document} {path : Text} {x : Wrapped}
    (hx : x ∈ w.wrappedIn doc path) :
    ∃ v ∈ (Survey.mk doc w.entry).visits,
      Survey.skipReason? w.skip.isMatch w.entry v = none ∧ v.target = x.target := by
  obtain ⟨t, ht, rfl⟩ := List.mem_map.mp hx
  exact mem_candidates_iff.mp ht

section
variable {w : Weaver} {doc : Document} {path : Text}
  (hroot : doc.root.isNested doc.source = true)
include hroot

theorem fits_of_mem_edits (hne : w.wrappedIn doc path ≠ []) :
    ∀ e ∈ w.edits doc path (w.wrappedIn doc path), Edit.fits doc.source e = true := by
  intro e he
  rcases List.mem_append.mp he with he | he
  · obtain ⟨x, hx, rfl⟩ := List.mem_map.mp he
    obtain ⟨v, hv, -, htarget⟩ := exists_visit_of_mem_wrappedIn hx
    have hfits := Survey.fits_of_mem_visits (s := ⟨doc, w.entry⟩) hroot hv
    rw [htarget] at hfits
    exact Edit.fits_iff.mpr ⟨hfits.start_le_stop, hfits.boundary_start, hfits.boundary_stop⟩
  · obtain ⟨x, hx⟩ := List.exists_mem_of_ne_nil _ hne
    obtain ⟨v, hv, -, -⟩ := exists_visit_of_mem_wrappedIn hx
    obtain ⟨hstop, stmt, rfl⟩ := exists_of_importEdit?_eq_some (Option.mem_toList.mp he)
    have hboundary := (insertion_start_le_of_mem_visits hroot stmt hv).2
    rw [Edit.fits_iff, hstop]
    exact ⟨Nat.le_refl _, hboundary, hboundary⟩

theorem pairwise_apart_edits :
    (w.edits doc path (w.wrappedIn doc path)).Pairwise Edit.Apart := by
  refine List.pairwise_append.mpr ⟨?_, ?_, ?_⟩
  · rw [wrappedIn, List.pairwise_map, List.pairwise_map]
    exact pairwise_candidates (Survey.pairwise_apart_visits (s := ⟨doc, w.entry⟩) hroot)
  · cases w.importEdit? doc path <;> simp
  · intro a ha b hb
    obtain ⟨x, hx, rfl⟩ := List.mem_map.mp ha
    obtain ⟨v, hv, -, htarget⟩ := exists_visit_of_mem_wrappedIn hx
    obtain ⟨hstop, stmt, rfl⟩ := exists_of_importEdit?_eq_some (Option.mem_toList.mp hb)
    have hle := (insertion_start_le_of_mem_visits hroot stmt hv).1
    rw [htarget] at hle
    refine Or.inr ?_
    rw [hstop]
    exact hle

theorem applyAll_edits (hne : w.wrappedIn doc path ≠ []) :
    Edit.applyAll doc.source (w.edits doc path (w.wrappedIn doc path)) =
      .ok (Edit.spliced doc.source 0
        (Edit.inOrder (w.edits doc path (w.wrappedIn doc path)))) :=
  Edit.applyAll_of_apart (fits_of_mem_edits hroot hne) (pairwise_apart_edits hroot)

end

theorem weaveDocument_eq {w : Weaver} {doc : Document} {path : Text}
    (hne : w.wrappedIn doc path ≠ []) {out : Text}
    (hout : Edit.applyAll doc.source (w.edits doc path (w.wrappedIn doc path)) = .ok out) :
    w.weaveDocument doc path =
      .ok { changed := out ≠ doc.source
            skipped := (classify doc w.skip.isMatch w.entry).skipped
            modified := out
            wrapped := w.wrappedIn doc path } := by
  have hcand : (classify doc w.skip.isMatch w.entry).candidates ≠ [] := by
    intro h
    exact hne (by simp [wrappedIn, h])
  simp only [weaveDocument, hcand, ↓reduceIte]
  rw [wrappedIn] at hout
  simp only [hout, wrappedIn]

theorem weaveDocument_eq_unchanged {w : Weaver} {doc : Document} {path : Text}
    (h : w.wrappedIn doc path = []) :
    w.weaveDocument doc path =
      .ok (Woven.unchanged doc.source (classify doc w.skip.isMatch w.entry).skipped) := by
  have hcand : (classify doc w.skip.isMatch w.entry).candidates = [] := by
    simpa [wrappedIn] using h
  simp [weaveDocument, hcand]

theorem weave_eq_weaveDocument {w : Weaver} {source path : Text} {dialect : Dialect}
    {doc : Document} (hdialect : Dialect.ofPath? path = some dialect)
    (hparse : Document.parse source dialect = .ok doc) :
    w.weave source path = w.weaveDocument doc path := by
  simp only [weave, hdialect, hparse]

theorem exists_weave_of_applyAll {w : Weaver} {source path out : Text} {dialect : Dialect}
    {doc : Document} (hdialect : Dialect.ofPath? path = some dialect)
    (hparse : Document.parse source dialect = .ok doc) (hne : w.wrappedIn doc path ≠ [])
    (hout : Edit.applyAll source (w.edits doc path (w.wrappedIn doc path)) = .ok out) :
    ∃ woven, w.weave source path = .ok woven ∧ woven.wrapped = w.wrappedIn doc path ∧
      woven.modified = out := by
  rw [← (Document.of_parse_eq_ok hparse).1] at hout
  have hwoven := weaveDocument_eq hne hout
  rw [← weave_eq_weaveDocument hdialect hparse] at hwoven
  exact ⟨_, hwoven, rfl, rfl⟩

theorem exists_weave_of_isNested {w : Weaver} {source path : Text} {dialect : Dialect}
    {doc : Document} (hdialect : Dialect.ofPath? path = some dialect)
    (hparse : Document.parse source dialect = .ok doc)
    (hroot : doc.root.isNested doc.source = true) (hne : w.wrappedIn doc path ≠ []) :
    ∃ woven, w.weave source path = .ok woven ∧ woven.wrapped = w.wrappedIn doc path := by
  have hout := applyAll_edits hroot hne
  rw [(Document.of_parse_eq_ok hparse).1] at hout
  obtain ⟨woven, hwoven, hwrapped, -⟩ := exists_weave_of_applyAll hdialect hparse hne hout
  exact ⟨woven, hwoven, hwrapped⟩

/-- A file, what is woven from it and how that reads, where the order of the edits is known. -/
theorem exists_woven (w : Weaver) (source : Text) (test : Document → Text → Document → Bool)
    {path : Text} {dialect : Dialect} {edits ordered : List Edit}
    (hdialect : Dialect.ofPath? path = some dialect) (horder : Edit.inOrder edits = ordered)
    (hcheck : yields (Document.parse source dialect) (fun before =>
      decide (w.wrappedIn before path ≠ [] ∧
        w.edits before path (w.wrappedIn before path) = edits) &&
        yields (Edit.applyFrom source 0 source ordered) fun out =>
          yields (Document.parse out dialect) (test before out)) = true) :
    ∃ before woven after, Document.parse source dialect = .ok before ∧
      w.weave source path = .ok woven ∧ Document.parse woven.modified dialect = .ok after ∧
      woven.changed = decide (woven.modified ≠ source) ∧
      woven.wrapped = w.wrappedIn before path ∧ test before woven.modified after = true := by
  obtain ⟨before, hbefore, h⟩ := exists_of_yields hcheck
  obtain ⟨hedits, hcheckOut⟩ := Bool.and_eq_true_iff.mp h
  obtain ⟨hne, hedits⟩ := of_decide_eq_true hedits
  obtain ⟨out, hout, hcheckAfter⟩ := exists_of_yields hcheckOut
  obtain ⟨after, hafter, htest⟩ := exists_of_yields hcheckAfter
  have hsource := (Document.of_parse_eq_ok hbefore).1
  have hall : Edit.applyAll before.source
      (w.edits before path (w.wrappedIn before path)) = .ok out := by
    rw [Edit.applyAll, hedits, horder, hsource, hout]
  have hwoven := weaveDocument_eq hne hall
  rw [← weave_eq_weaveDocument hdialect hbefore, hsource] at hwoven
  exact ⟨before, _, after, hbefore, hwoven, hafter, rfl, rfl, htest⟩

/-- In a nested tree the spans of all visited functions are ranges of the source without a
common byte, the import is put at or before every candidate, the edits can be made together, and
so weaving has a result. -/
theorem edits_never_conflict (w : Weaver) (doc : Document) (path : Text)
    (hroot : doc.root.isNested doc.source = true) :
    (∀ v ∈ (Survey.mk doc w.entry).visits, v.target.span.Fits doc.source) ∧
      ((Survey.mk doc w.entry).visits.Pairwise fun a b => a.target.span.Apart b.target.span) ∧
      (∀ skip stmt, ∀ t ∈ (classify doc skip w.entry).candidates,
        (ImportSite.insertion doc stmt).start ≤ t.span.start) ∧
      (w.wrappedIn doc path ≠ [] →
        ∃ out, Edit.applyAll doc.source (w.edits doc path (w.wrappedIn doc path)) = .ok out) ∧
      (∃ woven, w.weaveDocument doc path = .ok woven) ∧
      ∀ source, Dialect.ofPath? path = some doc.dialect →
        Document.parse source doc.dialect = .ok doc → ∃ woven, w.weave source path = .ok woven := by
  have hresult : ∃ woven, w.weaveDocument doc path = .ok woven := by
    by_cases hne : w.wrappedIn doc path = []
    · exact ⟨_, weaveDocument_eq_unchanged hne⟩
    · exact ⟨_, weaveDocument_eq hne (applyAll_edits hroot hne)⟩
  refine ⟨?_, ?_, ?_, ?_, hresult, ?_⟩
  · exact fun v hv => Survey.fits_of_mem_visits (s := ⟨doc, w.entry⟩) hroot hv
  · exact Survey.pairwise_apart_visits (s := ⟨doc, w.entry⟩) hroot
  · intro skip stmt t ht
    obtain ⟨v, hv, -, rfl⟩ := mem_candidates_iff.mp ht
    exact (insertion_start_le_of_mem_visits hroot stmt hv).1
  · exact fun hne => ⟨_, applyAll_edits hroot hne⟩
  · intro source hdialect hparse
    rw [weave_eq_weaveDocument hdialect hparse]
    exact hresult

/-- The weaver of the configuration in which nothing is set. -/
def plain : Weaver := ⟨{}, ⟨[]⟩, defaultMaxFileSize⟩

/-- A class with a method, and a constant behind it. -/
def methodAndConstant : Text :=
  "class A \x7b m() \x7b\x7d \x7d\nconst f = () => 1;\n".toList

theorem edits_of_methodAndConstant_never_conflict :
    ∃ doc, Document.parse methodAndConstant .javaScript = .ok doc ∧
      doc.root.isNested doc.source = true ∧
      (plain.wrappedIn doc "a.js".toList).length = 2 ∧
      ∃ out, Edit.applyAll doc.source
        (plain.edits doc "a.js".toList (plain.wrappedIn doc "a.js".toList)) = .ok out := by
  have hcheck : yields (Document.parse methodAndConstant .javaScript) (fun doc =>
      doc.root.isNested doc.source &&
        decide ((plain.wrappedIn doc "a.js".toList).length = 2)) = true := by
    decide +kernel
  obtain ⟨doc, hdoc, h⟩ := exists_of_yields hcheck
  obtain ⟨hroot, htwo⟩ := Bool.and_eq_true_iff.mp h
  have hlength := of_decide_eq_true htwo
  have hne : plain.wrappedIn doc "a.js".toList ≠ [] := by
    intro hnil
    rw [hnil] at hlength
    exact absurd hlength (by decide)
  obtain ⟨-, -, -, hout, -⟩ := edits_never_conflict plain doc "a.js".toList hroot
  exact ⟨doc, hdoc, hroot, hlength, hout hne⟩

end Weaver

end SpanWeave
