import SpanWeave.Proofs.Weave.EntryPoint
import SpanWeave.Proofs.Weave.Restoration

namespace SpanWeave

open Syntax

namespace Weaver

theorem of_weave_eq_ok {w : Weaver} {source path : Text} {woven : Woven}
    (h : w.weave source path = .ok woven) :
    ∃ dialect doc, Dialect.ofPath? path = some dialect ∧ Document.parse source dialect = .ok doc ∧
      w.weaveDocument doc path = .ok woven := by
  simp only [weave] at h
  split at h
  · simp at h
  · rename_i dialect hdialect
    split at h
    · rename_i doc hparse
      exact ⟨dialect, doc, hdialect, hparse, h⟩
    · simp at h

/-- A parsed file either has no candidates and stays as it is, or is changed by its edits. -/
theorem of_weaveDocument_eq_ok {w : Weaver} {doc : Document} {path : Text} {woven : Woven}
    (h : w.weaveDocument doc path = .ok woven) :
    woven.wrapped = w.wrappedIn doc path ∧
      woven.changed = decide (woven.modified ≠ doc.source) ∧
      (woven.wrapped = [] → woven.modified = doc.source) := by
  by_cases hne : w.wrappedIn doc path = []
  · rw [weaveDocument_eq_unchanged hne] at h
    obtain rfl := Except.ok.inj h
    refine ⟨hne.symm, ?_, fun _ => rfl⟩
    simp [Woven.unchanged]
  · have hcand : (classify doc w.skip.isMatch w.entry).candidates ≠ [] := by
      intro hnil
      exact hne (by simp [wrappedIn, hnil])
    simp only [weaveDocument, hcand, ↓reduceIte] at h
    split at h
    · obtain rfl := Except.ok.inj h
      exact ⟨rfl, rfl, fun hnil => absurd hnil hne⟩
    · simp at h

/-- Whatever weaving returns, it counts the wrapped functions, which are the candidates in order;
with none the text is the source and no edit is made. If the woven file reads as it should, then
its text differs from the source exactly when a function is wrapped. -/
theorem outcome_of_weave {w : Weaver} {source path : Text} {woven : Woven}
    (hweave : w.weave source path = .ok woven) :
    ∃ dialect before, Dialect.ofPath? path = some dialect ∧
      Document.parse source dialect = .ok before ∧
      woven.wrapped.map Wrapped.target =
        (classify before w.skip.isMatch w.entry).candidates ∧
      woven.wrappedCount = woven.wrapped.length ∧
      woven.wrappedCount = (classify before w.skip.isMatch w.entry).candidates.length ∧
      (woven.wrappedCount = 0 → woven.changed = false ∧ woven.modified = source ∧
        w.changes before path woven.wrapped = [] ∧ w.addsImport before path = false) ∧
      ((∀ after, Document.parse woven.modified dialect = .ok after →
          (Rereading.mk before after w.skip.isMatch w.entry).isRewoven = true) →
        (woven.changed = true ↔ 0 < woven.wrappedCount)) := by
  obtain ⟨dialect, before, hdialect, hparse, hwoven⟩ := of_weave_eq_ok hweave
  obtain ⟨hwrapped, hchanged, hnothing⟩ := of_weaveDocument_eq_ok hwoven
  have hsource := (Document.of_parse_eq_ok hparse).1
  rw [hsource] at hchanged hnothing
  have htargets : woven.wrapped.map Wrapped.target =
      (classify before w.skip.isMatch w.entry).candidates := by
    rw [hwrapped, wrappedIn, List.map_map]
    exact List.map_id _
  have hcount : woven.wrappedCount =
      (classify before w.skip.isMatch w.entry).candidates.length := by
    rw [← htargets, List.length_map, Woven.wrappedCount]
  have hzero (h : woven.wrappedCount = 0) : woven.wrapped = [] := List.length_eq_zero_iff.mp h
  refine ⟨dialect, before, hdialect, hparse, htargets, rfl, hcount, ?_, ?_⟩
  · intro h
    have hnil := hzero h
    refine ⟨?_, hnothing hnil, ?_, ?_⟩
    · simp [hchanged, hnothing hnil]
    · simp [changes, hnil]
    · simp [addsImport, ← hwrapped, hnil]
  · intro hreread
    constructor
    · intro h
      rw [Nat.pos_iff_ne_zero]
      intro hnone
      simp [hchanged, hnothing (hzero hnone)] at h
    · intro hpos
      rw [hchanged, decide_eq_true_eq]
      intro hsame
      -- the source itself would be the woven file, in which nothing is left to wrap
      have hagain := (Rereading.classify_second (hreread before (hsame ▸ hparse))).1
      rw [hcount, hagain] at hpos
      exact absurd hpos (Nat.lt_irrefl 0)

/-- The comment is dropped with the statement that it stands in, so that the text gets shorter. -/
def commentedExport : Text :=
  "import \x7b traceCall \x7d from 'm';\n".toList ++
    "export /* the function that is meant */ default function f() \x7b\x7d\n".toList

theorem outcome_of_commentedExport :
    ∃ woven, plain.weave commentedExport "a.js".toList = .ok woven ∧
      woven.modified.length < commentedExport.length ∧ woven.changed = true ∧
      woven.wrappedCount = 1 := by
  let edits : List Edit := [⟨31, 94,
    "const f = traceCall('f', function f() \x7b\x7d);\nexport default f;".toList⟩]
  have hdialect : Dialect.ofPath? "a.js".toList = some .javaScript := by decide
  have horder : Edit.inOrder edits = edits := List.mergeSort_singleton _
  obtain ⟨before, woven, after, hbefore, hweave, hafter, -, -, htest⟩ :=
    exists_woven plain commentedExport (fun before out after =>
      (Rereading.mk before after plain.skip.isMatch plain.entry).isRewoven &&
        decide (out.length < commentedExport.length ∧
          (classify before plain.skip.isMatch plain.entry).candidates.length = 1))
      hdialect horder (by decide +kernel)
  simp only [Bool.and_eq_true, decide_eq_true_eq] at htest
  obtain ⟨hrewoven, hshorter, hone⟩ := htest
  obtain ⟨dialect, doc, hpath, hdoc, -, -, hcount, -, hiff⟩ := outcome_of_weave hweave
  obtain rfl := Option.some.inj (hdialect.symm.trans hpath)
  obtain rfl := Except.ok.inj (hbefore.symm.trans hdoc)
  have hchanged : woven.changed = true := by
    refine (hiff ?_).mpr ?_
    · intro reread hreread
      obtain rfl := Except.ok.inj (hafter.symm.trans hreread)
      exact hrewoven
    · rw [hcount, hone]
      exact Nat.one_pos
  exact ⟨woven, hweave, hshorter, hchanged, hcount.trans hone⟩

end Weaver

end SpanWeave
