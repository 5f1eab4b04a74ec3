import SpanWeave.Proofs.SourceFile
import SpanWeave.Proofs.Text.Utf8
import SpanWeave.Proofs.Weave.Outcome

/-!
What writing a file back does to its bytes. The file gets the form of the woven text, and that has
the bytes of the file outside the replaced spans exactly when no fault lies there: a fault becomes
the replacement character on its way through the text.
-/

namespace SpanWeave

open Text

namespace Edit

/-- Bytes of which the spans of ordered edits, from offset `done` of the text on, are exchanged,
and all others stay as they are. -/
def splicedBytes (ks : List Chunk) : (done : Nat) → List Edit → Bytes
  | done, [] => bytesOf (chunksBehind ks done)
  | done, e :: es =>
      bytesOf (chunksOf (chunksBehind ks done) (e.start - done)) ++ encode e.text ++
        splicedBytes ks e.stop es

/-- The bytes outside the spans of ordered edits, from offset `done` of the text on. -/
def outside (ks : List Chunk) : (done : Nat) → List Edit → Bytes
  | done, [] => bytesOf (chunksBehind ks done)
  | done, e :: es =>
      bytesOf (chunksOf (chunksBehind ks done) (e.start - done)) ++ outside ks e.stop es

theorem outside_sublist (ks : List Chunk) (done : Nat) (es : List Edit) :
    (outside ks done es).Sublist (splicedBytes ks done es) := by
  induction es generalizing done with
  | nil => exact List.Sublist.refl _
  | cons e es ih =>
      rw [outside, splicedBytes, List.append_assoc]
      exact (List.Sublist.refl _).append ((ih e.stop).trans (List.sublist_append_right _ _))

theorem exists_chunks {ks : List Chunk} {done : Nat} {e : Edit}
    (hdone : onBoundary (textOf ks) done = true) (hle : done ≤ e.start)
    (hfits : fits (textOf ks) e = true) :
    ∃ gap span rest, chunksBehind ks done = gap ++ (span ++ rest) ∧
      chunksOf (chunksBehind ks done) (e.start - done) = gap ∧ chunksBehind ks e.stop = rest ∧
      slice (textOf ks) done e.start = textOf gap ∧
      done + byteSize (textOf gap) = e.start ∧ e.start + byteSize (textOf span) = e.stop ∧
      ∀ k ∈ gap, k ∈ ks := by
  obtain ⟨hstop, hb₁, hb₂⟩ := fits_iff.mp hfits
  obtain ⟨a, b, rfl, rfl⟩ := exists_chunks_of_onBoundary hdone
  have hstart : onBoundary (textOf b) (e.start - byteSize (textOf a)) = true := by
    have h := onBoundary_dropBytes hdone hb₁ hle
    rwa [textOf_append, dropBytes_append] at h
  obtain ⟨gap, c, rfl, hgap⟩ := exists_chunks_of_onBoundary hstart
  have hend : onBoundary (textOf c) (e.stop - e.start) = true := by
    have h := onBoundary_dropBytes hb₁ hb₂ hstop
    have hsplit : e.start = byteSize (textOf a ++ textOf gap) := by
      rw [byteSize_append]
      omega
    rw [hsplit, textOf_append, textOf_append, ← List.append_assoc, dropBytes_append] at h
    rwa [hsplit]
  obtain ⟨span, rest, rfl, hspan⟩ := exists_chunks_of_onBoundary hend
  have hbehind := (chunksOf_append a (gap ++ (span ++ rest))).2
  refine ⟨gap, span, rest, hbehind, ?_, ?_, ?_, by omega, by omega, ?_⟩
  · rw [hbehind, ← hgap]
    exact (chunksOf_append gap _).1
  · have h := (chunksOf_append (a ++ (gap ++ span)) rest).2
    simp only [textOf_append, byteSize_append, List.append_assoc] at h
    have hsize : byteSize (textOf a) + (byteSize (textOf gap) + byteSize (textOf span)) =
        e.stop := by
      omega
    rwa [hsize] at h
  · have h := slice_parts (textOf a) (textOf gap) (textOf (span ++ rest))
    rw [hgap, Nat.add_sub_cancel' hle] at h
    rwa [textOf_append, textOf_append]
  · intro k hk
    simp [hk]

theorem forall_faults_iff {source : Text} {e : Edit} {es : List Edit} {done : Nat}
    {gap span rest : List Chunk} (hrest : InLine source e.stop es)
    (hstart : done + byteSize (textOf gap) = e.start)
    (hstop : e.start + byteSize (textOf span) = e.stop) :
    (∀ x ∈ faultsFrom done (gap ++ (span ++ rest)), ∃ f ∈ e :: es, f.start ≤ x ∧ x < f.stop) ↔
      faultsFrom done gap = [] ∧
        ∀ x ∈ faultsFrom e.stop rest, ∃ f ∈ es, f.start ≤ x ∧ x < f.stop := by
  rw [faultsFrom_append, faultsFrom_append, hstart, hstop]
  simp only [List.forall_mem_append]
  constructor
  · rintro ⟨hfront, -, hback⟩
    refine ⟨List.eq_nil_iff_forall_not_mem.mpr ?_, ?_⟩
    · intro x hx
      obtain ⟨f, hf, hfx, -⟩ := hfront x hx
      have hbound := bounds_of_mem_faultsFrom hx
      rcases List.mem_cons.mp hf with rfl | hf
      · omega
      · have := hrest.le_start f hf
        omega
    · intro x hx
      obtain ⟨f, hf, hfx, hxf⟩ := hback x hx
      have hbound := bounds_of_mem_faultsFrom hx
      rcases List.mem_cons.mp hf with rfl | hf
      · omega
      · exact ⟨f, hf, hfx, hxf⟩
  · rintro ⟨hfront, hback⟩
    refine ⟨by simp [hfront], ?_, ?_⟩
    · intro x hx
      have hbound := bounds_of_mem_faultsFrom hx
      exact ⟨e, by simp, hbound.1, by omega⟩
    · intro x hx
      obtain ⟨f, hf, h⟩ := hback x hx
      exact ⟨f, by simp [hf], h⟩

/-- Where the edits lie in line, the form of the text that they make has the bytes outside them
unless a fault lies there. -/
theorem encode_spliced_eq_iff {ks : List Chunk} (hks : ∀ k ∈ ks, k.Sound) {done : Nat}
    {es : List Edit} (hdone : onBoundary (textOf ks) done = true)
    (hline : InLine (textOf ks) done es) :
    (splicedBytes ks done es).length ≤ (encode (spliced (textOf ks) done es)).length ∧
      (encode (spliced (textOf ks) done es) = splicedBytes ks done es ↔
        ∀ x ∈ faultsFrom done (chunksBehind ks done), ∃ e ∈ es, e.start ≤ x ∧ x < e.stop) := by
  induction es generalizing done with
  | nil =>
      obtain ⟨a, b, rfl, rfl⟩ := exists_chunks_of_onBoundary hdone
      have hb : ∀ k ∈ b, k.Sound := fun k hk => hks k (by simp [hk])
      simp only [spliced, splicedBytes, textOf_append, dropBytes_append,
        (chunksOf_append a b).2, length_encode]
      refine ⟨length_bytesOf_le hb, ?_⟩
      rw [encode_textOf_eq_iff hb, ← faultsFrom_eq_nil_iff (n := byteSize (textOf a))]
      simp [List.eq_nil_iff_forall_not_mem]
  | cons e es ih =>
      obtain ⟨hfits, hle, hrest⟩ := hline
      obtain ⟨ihLength, ihEq⟩ := ih (fits_iff.mp hfits).2.2 hrest
      obtain ⟨gap, span, rest, hbehind, hgap, hrestChunks, hslice, hstart, hstop, hmem⟩ :=
        exists_chunks hdone hle hfits
      have hgapSound : ∀ k ∈ gap, k.Sound := fun k hk => hks k (hmem k hk)
      have hgapLength := length_bytesOf_le hgapSound
      simp only [spliced, splicedBytes, hslice, hgap, encode_append, List.length_append,
        length_encode] at ihLength ⊢
      refine ⟨by omega, ?_⟩
      rw [hbehind, forall_faults_iff hrest hstart hstop, ← hrestChunks, ← ihEq,
        faultsFrom_eq_nil_iff, ← encode_textOf_eq_iff hgapSound]
      constructor
      · intro h
        have hlengths := congrArg List.length h
        simp only [List.length_append, length_encode] at hlengths
        rw [List.append_assoc, List.append_assoc] at h
        obtain ⟨hfirst, hsecond⟩ := List.append_inj h (by rw [length_encode]; omega)
        exact ⟨hfirst, List.append_cancel_left hsecond⟩
      · rintro ⟨hfirst, hsecond⟩
        rw [hfirst, hsecond]

end Edit

namespace Weaver

/-- The edits that weaving reports, in the order in which they are made. -/
def reportedEdits (w : Weaver) (doc : Document) (path : Text) (woven : Woven) : List Edit :=
  Edit.inOrder ((w.changes doc path woven.wrapped).map Prod.fst)

theorem spliced_of_weaveDocument {w : Weaver} {doc : Document} {path : Text} {woven : Woven}
    (h : w.weaveDocument doc path = .ok woven) :
    Edit.InLine doc.source 0 (w.reportedEdits doc path woven) ∧
      woven.modified = Edit.spliced doc.source 0 (w.reportedEdits doc path woven) := by
  rw [reportedEdits, ← Edit.applyAll_eq_ok_iff]
  by_cases hne : w.wrappedIn doc path = []
  · rw [weaveDocument_eq_unchanged hne] at h
    obtain rfl := Except.ok.inj h
    refine Edit.applyAll_eq_ok_iff.mpr ?_
    simp [changes, Woven.unchanged, Edit.inOrder, Edit.InLine, Edit.spliced]
  · cases hout : Edit.applyAll doc.source (w.edits doc path (w.wrappedIn doc path)) with
    | ok out =>
        rw [weaveDocument_eq hne hout] at h
        obtain rfl := Except.ok.inj h
        rw [map_fst_changes hne]
        exact hout
    | error e =>
        have hcand : (classify doc w.skip.isMatch w.entry).candidates ≠ [] := by
          intro hnil
          exact hne (by simp [wrappedIn, hnil])
        rw [wrappedIn] at hout
        simp [weaveDocument, hcand, hout] at h

/-- A file that does not change stays as it is, and nothing else on the disk changes when it does.
The bytes of a changed file outside the replaced spans are kept if and only if all bytes that are
no characters lie inside those spans; so they are kept in every file that is UTF-8. -/
theorem bytes_of_weaveFile {w : Weaver} {d d' : Disk} {path : Text} {outcome : FileOutcome}
    (h : w.weaveFile false d path = (.ok outcome, d')) :
    ∃ l bytes dialect doc, d.locate path = .ok (l, .file bytes) ∧
      Dialect.ofPath? path = some dialect ∧ Document.parse (decode bytes) dialect = .ok doc ∧
      bytesOf (chunks bytes) = bytes ∧ (outcome.woven.changed = false → d' = d) ∧
      (outcome.woven.changed = true →
        ∃ written, d'.locate path = .ok (l, .file written) ∧
          (∀ m, m ≠ l → d'.find? m = d.find? m) ∧
          let edits := w.reportedEdits doc path outcome.woven
          (written = Edit.splicedBytes (chunks bytes) 0 edits ↔
              ∀ x ∈ faults bytes, ∃ e ∈ edits, e.start ≤ x ∧ x < e.stop) ∧
            ((∀ x ∈ faults bytes, ∃ e ∈ edits, e.start ≤ x ∧ x < e.stop) →
              (Edit.outside (chunks bytes) 0 edits).Sublist written) ∧
            ((decodeStrict? bytes).isSome = true →
              written = Edit.splicedBytes (chunks bytes) 0 edits)) := by
  obtain ⟨l, bytes, hlocate, -, hweave, -, hwritten, rfl⟩ := of_weaveFile_eq_ok h
  obtain ⟨dialect, doc, hdialect, hparse, hwoven⟩ := of_weave_eq_ok hweave
  rw [Bool.not_false, Bool.and_true] at hwritten
  refine ⟨l, bytes, dialect, doc, hlocate, hdialect, hparse, bytesOf_chunks bytes, ?_, ?_⟩
  · intro hchanged
    simp [hwritten, hchanged]
  intro hchanged
  simp only [hwritten, hchanged, ↓reduceIte]
  refine ⟨encode outcome.woven.modified, ?_, ?_, ?_⟩
  · exact Disk.locate_overwrite_self hlocate _
  · intro m hm
    simp [Disk.find?_overwrite hlocate, hm]
  obtain ⟨hline, hmodified⟩ := spliced_of_weaveDocument hwoven
  rw [(Document.of_parse_eq_ok hparse).1, ← textOf_chunks] at hline hmodified
  have hsound : ∀ k ∈ chunks bytes, k.Sound := fun k hk => sound_of_mem_chunksFrom hk
  have hiff := (Edit.encode_spliced_eq_iff hsound (onBoundary_zero _) hline).2
  have hbehind : chunksBehind (chunks bytes) 0 = chunks bytes := (chunksOf_append [] _).2
  rw [← hmodified, hbehind, ← faults] at hiff
  refine ⟨hiff, ?_, ?_⟩
  · intro hfaults
    rw [hiff.mpr hfaults]
    exact Edit.outside_sublist _ _ _
  · intro hstrict
    refine hiff.mpr ?_
    simp [faults_eq_nil_iff.mpr hstrict]

theorem weaveFile_eq {w : Weaver} {d : Disk} {path source : Text} {woven : Woven}
    (hread : readSource d path w.maxFileSize = .ok source)
    (hweave : w.weave source path = .ok woven) (hchanged : woven.changed = true) :
    w.weaveFile false d path =
      (.ok ⟨path, woven, Diff.ofFile path source woven.modified, true⟩,
        d.overwrite path (encode woven.modified)) := by
  have hpreview := previewFile_eq_ok_iff.mpr ⟨source, woven, hread, hweave, rfl⟩
  simp [weaveFile, hpreview, hchanged]

def diskOf (bytes : Bytes) : Disk := ⟨[(["a.ts".toList], .file bytes)], []⟩

theorem exists_weaveFile (bytes : Bytes) {edits ordered : List Edit} (test : Text → Bool)
    (horder : Edit.inOrder edits = ordered)
    (hfile : bytes.length ≤ defaultMaxFileSize ∧ isBinary bytes = false)
    (hcheck : yields (Document.parse (decode bytes) .typeScript) (fun doc =>
      decide (plain.wrappedIn doc "a.ts".toList ≠ [] ∧
        plain.edits doc "a.ts".toList (plain.wrappedIn doc "a.ts".toList) = edits) &&
        yields (Edit.applyFrom (decode bytes) 0 (decode bytes) ordered) fun out =>
          yields (Document.parse out .typeScript) fun _ => decide (out ≠ decode bytes) && test out) =
      true) :
    ∃ doc outcome d', Document.parse (decode bytes) .typeScript = .ok doc ∧
      plain.weaveFile false (diskOf bytes) "a.ts".toList = (.ok outcome, d') ∧
      outcome.woven.changed = true ∧
      plain.reportedEdits doc "a.ts".toList outcome.woven = ordered ∧
      d'.read "a.ts".toList = .ok (encode outcome.woven.modified) ∧
      test outcome.woven.modified = true := by
  have hdialect : Dialect.ofPath? "a.ts".toList = some .typeScript := by decide
  have hlocate : (diskOf bytes).locate "a.ts".toList = .ok (["a.ts".toList], .file bytes) := rfl
  have hread : readSource (diskOf bytes) "a.ts".toList plain.maxFileSize = .ok (decode bytes) :=
    readSource_eq_ok_iff.mpr ⟨_, bytes, hlocate, hfile.1, hfile.2, rfl⟩
  obtain ⟨before, hbefore, hparts⟩ := exists_of_yields hcheck
  obtain ⟨hne, hedits⟩ := of_decide_eq_true (Bool.and_eq_true_iff.mp hparts).1
  obtain ⟨doc, woven, -, hdoc, hweave, -, hchanged, hwrapped, htest⟩ :=
    exists_woven plain (decode bytes) _ hdialect horder hcheck
  obtain rfl := Except.ok.inj (hbefore.symm.trans hdoc)
  obtain ⟨hdiffers, htest⟩ := Bool.and_eq_true_iff.mp htest
  rw [decide_eq_true_eq] at hdiffers
  have hrun := weaveFile_eq hread hweave (by simp [hchanged, hdiffers])
  refine ⟨before, _, _, hdoc, hrun, by simp [hchanged, hdiffers], ?_, ?_, htest⟩
  · simp only [reportedEdits, hwrapped]
    rw [map_fst_changes hne, hedits, horder]
  · exact Disk.read_eq_ok_iff.mpr ⟨_, Disk.locate_overwrite_self hlocate _⟩

/-- A function with a byte in it that is no character. -/
def faultInside : Bytes :=
  encode "function a() \x7b /*".toList ++ 0xE9 :: encode "*/ \x7d\n".toList

theorem bytes_of_faultInside :
    ∃ doc outcome d' written, Document.parse (decode faultInside) .typeScript = .ok doc ∧
      plain.weaveFile false (diskOf faultInside) "a.ts".toList = (.ok outcome, d') ∧
      d'.read "a.ts".toList = .ok written ∧ faults faultInside ≠ [] ∧
      written = Edit.splicedBytes (chunks faultInside) 0
        (plain.reportedEdits doc "a.ts".toList outcome.woven) := by
  let wrapping : Edit :=
    ⟨0, 24, "const a = traceCall('a', function a() \x7b /*\ufffd*/ \x7d);".toList⟩
  let importing : Edit := ⟨0, 0, "import { traceCall } from 'autotel';\n\n".toList⟩
  have horder : Edit.inOrder [wrapping, importing] = [importing, wrapping] :=
    Edit.inOrder_pair (by decide)
  obtain ⟨doc, outcome, d', hdoc, hrun, hchanged, hedits, -⟩ :=
    exists_weaveFile faultInside (fun _ => true) horder (by decide) (by decide +kernel)
  obtain ⟨l, bytes, dialect, doc', hlocate, hdialect, hdoc', -, -, hwritten⟩ :=
    bytes_of_weaveFile hrun
  obtain ⟨written, hfound, -, hiff, -⟩ := hwritten hchanged
  obtain ⟨rfl, hbytes⟩ := Prod.mk.inj (Except.ok.inj
    ((rfl : (diskOf faultInside).locate "a.ts".toList =
      .ok (["a.ts".toList], .file faultInside)).symm.trans hlocate))
  obtain rfl := Entry.file.inj hbytes
  have hsame : Dialect.ofPath? "a.ts".toList = some .typeScript := by decide
  obtain rfl := Option.some.inj (hsame.symm.trans hdialect)
  obtain rfl := Except.ok.inj (hdoc.symm.trans hdoc')
  refine ⟨doc, outcome, d', written, hdoc, hrun, Disk.read_eq_ok_iff.mpr ⟨_, hfound⟩, by decide, ?_⟩
  refine hiff.mpr ?_
  rw [hedits]
  decide

/-- A comment with a byte that is no character, and a function below it. -/
def faultOutside : Bytes :=
  encode "// ".toList ++ 0xE9 :: encode "\nfunction a() {}\n".toList

theorem byte_of_faultOutside_lost :
    ∃ doc outcome d' written, Document.parse (decode faultOutside) .typeScript = .ok doc ∧
      plain.weaveFile false (diskOf faultOutside) "a.ts".toList = (.ok outcome, d') ∧
      d'.read "a.ts".toList = .ok written ∧
      0xE9 ∈ Edit.outside (chunks faultOutside) 0
        (plain.reportedEdits doc "a.ts".toList outcome.woven) ∧ 0xE9 ∉ written := by
  let wrapping : Edit := ⟨7, 22, "const a = traceCall('a', function a() {});".toList⟩
  let importing : Edit := ⟨0, 0, "import { traceCall } from 'autotel';\n\n".toList⟩
  have horder : Edit.inOrder [wrapping, importing] = [importing, wrapping] :=
    Edit.inOrder_pair (by decide)
  obtain ⟨doc, outcome, d', hdoc, hrun, -, hedits, hread, hlost⟩ :=
    exists_weaveFile faultOutside (fun out => !(encode out).contains 0xE9) horder
      (by decide) (by decide +kernel)
  refine ⟨doc, outcome, d', _, hdoc, hrun, hread, ?_, by simpa using hlost⟩
  rw [hedits]
  decide

end Weaver

end SpanWeave
