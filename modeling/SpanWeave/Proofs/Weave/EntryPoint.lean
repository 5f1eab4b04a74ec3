import SpanWeave.Proofs.Weave.Names

namespace SpanWeave

open Syntax

namespace Weaver

/-- The entry point is imported: a function is wrapped and no binding is found. -/
def addsImport (w : Weaver) (doc : Document) (path : Text) : Bool :=
  !(w.wrappedIn doc path).isEmpty && (w.importEdit? doc path).isSome

theorem isSome_importEdit?_iff {w : Weaver} {doc : Document} {path : Text} :
    (w.importEdit? doc path).isSome = true ↔ w.entry ∉ Binding.searchedNames doc := by
  rw [← Binding.isSome_find?_iff]
  simp only [importEdit?]
  split
  · rename_i binding hfound
    simp [hfound]
  · rename_i hnone
    simp [hnone]

theorem addsImport_of_changed {w : Weaver} {source path : Text} {dialect : Dialect}
    {doc : Document} {woven : Woven} (hdialect : Dialect.ofPath? path = some dialect)
    (hparse : Document.parse source dialect = .ok doc)
    (hweave : w.weave source path = .ok woven) (hchanged : woven.changed = true) :
    w.addsImport doc path = true ↔ w.entry ∉ Binding.searchedNames doc := by
  have hne : w.wrappedIn doc path ≠ [] := by
    intro hnil
    rw [weave_eq_weaveDocument hdialect hparse, weaveDocument_eq_unchanged hnil] at hweave
    obtain rfl := Except.ok.inj hweave
    simp [Woven.unchanged] at hchanged
  rw [addsImport, Bool.and_eq_true, isSome_importEdit?_iff]
  simp [hne]

/-- A source that binds the entry point at most once, and is changed, ends with exactly one
binding if and only if the search for a binding gives the right answer. Each binding that the
search misses is doubled. -/
theorem bindings_of_woven {w : Weaver} {source path : Text} {dialect : Dialect}
    {before : Document} {woven : Woven} (hdialect : Dialect.ofPath? path = some dialect)
    (hparse : Document.parse source dialect = .ok before)
    (hweave : w.weave source path = .ok woven)
    (hreread : ∀ after, Document.parse woven.modified dialect = .ok after →
      (Rereading.mk before after w.skip.isMatch w.entry).isRewovenWith
        (w.addsImport before path) = true)
    (hone : (Binding.names before).count w.entry ≤ 1) (hchanged : woven.changed = true) :
    ∀ after, Document.parse woven.modified dialect = .ok after →
      (Binding.names after).count w.entry =
        (Binding.names before).count w.entry +
          (if w.entry ∈ Binding.searchedNames before then 0 else 1) ∧
      ((Binding.names after).count w.entry = 1 ↔
        (w.entry ∈ Binding.names before ↔ w.entry ∈ Binding.searchedNames before)) := by
  intro after hafter
  have hcount := Rereading.count_names (hreread after hafter)
  have hadds := addsImport_of_changed hdialect hparse hweave hchanged
  have hmem := List.count_pos_iff (a := w.entry) (l := Binding.names before)
  by_cases hfound : w.entry ∈ Binding.searchedNames before
  · have himported : w.addsImport before path = false := by
      simpa [hfound] using hadds
    simp only [himported, Bool.false_eq_true, ↓reduceIte] at hcount
    simp only [hfound, ↓reduceIte, iff_true, ← hmem]
    omega
  · have himported : w.addsImport before path = true := hadds.mpr hfound
    simp only [himported, ↓reduceIte] at hcount
    simp only [hfound, ↓reduceIte, iff_false, ← hmem]
    omega

def importedEntry : Text := "import \x7b traceCall \x7d from 'm';\nfunction a() \x7b\x7d\n".toList

theorem bindings_of_importedEntry :
    ∃ before woven after, Document.parse importedEntry .typeScript = .ok before ∧
      plain.weave importedEntry "a.ts".toList = .ok woven ∧ woven.changed = true ∧
      Document.parse woven.modified .typeScript = .ok after ∧
      (Binding.names before).count plain.entry = 1 ∧
      (Binding.names after).count plain.entry = 1 := by
  let edits : List Edit := [⟨31, 46, "const a = traceCall('a', function a() \x7b\x7d);".toList⟩]
  have hdialect : Dialect.ofPath? "a.ts".toList = some .typeScript := by decide
  have horder : Edit.inOrder edits = edits := List.mergeSort_singleton _
  obtain ⟨before, woven, after, hbefore, hweave, hafter, hdiffers, -, htest⟩ :=
    exists_woven plain importedEntry (fun before out after =>
      decide (out ≠ importedEntry) &&
        (Rereading.mk before after plain.skip.isMatch plain.entry).isRewovenWith
          (plain.addsImport before "a.ts".toList) &&
        decide ((Binding.names before).count plain.entry = 1 ∧
          plain.entry ∈ Binding.searchedNames before))
      hdialect horder (by decide +kernel)
  simp only [Bool.and_eq_true, decide_eq_true_eq] at htest
  obtain ⟨⟨hne, hrewoven⟩, hone, hsearched⟩ := htest
  have hchanged : woven.changed = true := hdiffers.trans (decide_eq_true hne)
  have hreread : ∀ reread, Document.parse woven.modified .typeScript = .ok reread →
      (Rereading.mk before reread plain.skip.isMatch plain.entry).isRewovenWith
        (plain.addsImport before "a.ts".toList) = true := by
    intro reread hreread
    obtain rfl := Except.ok.inj (hafter.symm.trans hreread)
    exact hrewoven
  have hcount :=
    (bindings_of_woven hdialect hbefore hweave hreread (Nat.le_of_eq hone) hchanged after hafter).1
  rw [if_pos hsearched, hone] at hcount
  exact ⟨before, woven, after, hbefore, hweave, hchanged, hafter, hone, hcount⟩

/-- A whole module is imported under the name of the entry point. -/
def namespaceEntry : Text := "import * as traceCall from 'm';\nfunction a() \x7b\x7d\n".toList

theorem namespaceEntry_bound_twice :
    ∃ before woven after, Document.parse namespaceEntry .typeScript = .ok before ∧
      plain.weave namespaceEntry "a.ts".toList = .ok woven ∧ woven.changed = true ∧
      Document.parse woven.modified .typeScript = .ok after ∧
      (Binding.names before).count plain.entry = 1 ∧
      (Binding.names after).count plain.entry = 2 := by
  let wrapping : Edit := ⟨32, 47, "const a = traceCall('a', function a() \x7b\x7d);".toList⟩
  let importing : Edit := ⟨0, 0, "import \x7b traceCall \x7d from 'autotel';\n".toList⟩
  have hdialect : Dialect.ofPath? "a.ts".toList = some .typeScript := by decide
  have horder : Edit.inOrder [wrapping, importing] = [importing, wrapping] :=
    Edit.inOrder_pair (by decide)
  obtain ⟨before, woven, after, hbefore, hweave, hafter, hdiffers, -, htest⟩ :=
    exists_woven plain namespaceEntry (fun before out after =>
      decide (out ≠ namespaceEntry ∧ (Binding.names before).count plain.entry = 1 ∧
        (Binding.names after).count plain.entry = 2))
      hdialect horder (by decide +kernel)
  obtain ⟨hne, hone, htwo⟩ := of_decide_eq_true htest
  exact ⟨before, woven, after, hbefore, hweave, hdiffers.trans (decide_eq_true hne), hafter, hone,
    htwo⟩

end Weaver

end SpanWeave
