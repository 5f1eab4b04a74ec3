import SpanWeave.SourceFile
import SpanWeave.Proofs.Disk

namespace SpanWeave

theorem readSource_eq_ok_iff {d : Disk} {path source : Text} {limit : Nat} :
    readSource d path limit = .ok source ↔
      ∃ l bytes, d.locate path = .ok (l, .file bytes) ∧ bytes.length ≤ limit ∧
        isBinary bytes = false ∧ source = Text.decode bytes := by
  simp only [readSource]
  split
  · simp [*]
  · simp [*]
  · rename_i l bytes hlocate
    simp only [hlocate, Except.ok.injEq, Prod.mk.injEq, Entry.file.injEq]
    by_cases hsize : limit < bytes.length
    · simp only [hsize, ↓reduceIte, reduceCtorEq, false_iff]
      rintro ⟨_, _, ⟨rfl, rfl⟩, hle, -⟩
      omega
    by_cases hbinary : isBinary bytes = true
    · simp only [hsize, hbinary, ↓reduceIte, reduceCtorEq, false_iff]
      rintro ⟨_, _, ⟨rfl, rfl⟩, -, hfalse, -⟩
      simp [hbinary] at hfalse
    · simp only [hsize, hbinary, Bool.false_eq_true, ↓reduceIte, Except.ok.injEq]
      constructor
      · rintro rfl
        exact ⟨l, bytes, ⟨rfl, rfl⟩, Nat.not_lt.mp hsize, Bool.eq_false_iff.mpr hbinary, rfl⟩
      · rintro ⟨_, _, ⟨rfl, rfl⟩, -, -, rfl⟩
        rfl

namespace Weaver

theorem previewFile_eq_ok_iff {w : Weaver} {d : Disk} {path : Text} {o : FileOutcome} :
    w.previewFile d path = .ok o ↔
      ∃ source woven, readSource d path w.maxFileSize = .ok source ∧
        w.weave source path = .ok woven ∧
        o = ⟨path, woven, Diff.ofFile path source woven.modified, false⟩ := by
  simp only [previewFile, bind, Except.bind, pure, Except.pure]
  cases hread : readSource d path w.maxFileSize with
  | error e => simp
  | ok source =>
      cases hweave : w.weave source path with
      | error e => simp [hweave]
      | ok woven => simp [hweave, eq_comm]

theorem path_of_previewFile {w : Weaver} {d : Disk} {path : Text} {o : FileOutcome}
    (h : w.previewFile d path = .ok o) : o.path = path := by
  obtain ⟨source, woven, -, -, rfl⟩ := previewFile_eq_ok_iff.mp h
  rfl

theorem previewFile_congr {w : Weaver} {d d' : Disk} {path : Text}
    (h : d'.locate path = d.locate path) : w.previewFile d' path = w.previewFile d path := by
  simp only [previewFile, readSource, h]

theorem exists_locate_of_previewFile {w : Weaver} {d : Disk} {path : Text} {o : FileOutcome}
    (h : w.previewFile d path = .ok o) : ∃ l bytes, d.locate path = .ok (l, .file bytes) := by
  obtain ⟨source, woven, hread, -, -⟩ := previewFile_eq_ok_iff.mp h
  obtain ⟨l, bytes, hlocate, -⟩ := readSource_eq_ok_iff.mp hread
  exact ⟨l, bytes, hlocate⟩

/-- What a run writes in place of the file at a path. It writes nothing for a file that fails or
stays as it is, and nothing at all when it is dry. -/
def rewrite? (w : Weaver) (dryRun : Bool) (d : Disk) (path : Text) : Option Bytes :=
  match w.previewFile d path with
  | .ok o => if o.woven.changed && !dryRun then some (Text.encode o.woven.modified) else none
  | .error _ => none

theorem rewrite?_eq_some_iff {w : Weaver} {dryRun : Bool} {d : Disk} {path : Text}
    {bytes : Bytes} :
    w.rewrite? dryRun d path = some bytes ↔
      dryRun = false ∧ ∃ o, w.previewFile d path = .ok o ∧ o.woven.changed = true ∧
        Text.encode o.woven.modified = bytes := by
  simp only [rewrite?]
  cases w.previewFile d path with
  | error e => simp
  | ok o => cases dryRun <;> simp

theorem rewrite?_congr {w : Weaver} {dryRun : Bool} {d d' : Disk} {path : Text}
    (h : d'.locate path = d.locate path) :
    w.rewrite? dryRun d' path = w.rewrite? dryRun d path := by
  rw [rewrite?, previewFile_congr h, rewrite?]

theorem fst_weaveFile (w : Weaver) (dryRun : Bool) (d : Disk) (path : Text) :
    (w.weaveFile dryRun d path).1 =
      (w.previewFile d path).map fun o =>
        { o with written := o.written || (o.woven.changed && !dryRun) } := by
  simp only [weaveFile]
  cases w.previewFile d path with
  | error e => rfl
  | ok o =>
      cases hwritten : o.woven.changed && !dryRun <;> simp [Except.map, hwritten]

theorem snd_weaveFile (w : Weaver) (dryRun : Bool) (d : Disk) (path : Text) :
    (w.weaveFile dryRun d path).2 =
      match w.rewrite? dryRun d path with
      | some bytes => d.overwrite path bytes
      | none => d := by
  simp only [weaveFile, rewrite?]
  cases w.previewFile d path with
  | error e => rfl
  | ok o => cases hwritten : o.woven.changed && !dryRun <;> simp [hwritten]

theorem snd_weaveFile_of_dryRun (w : Weaver) (d : Disk) (path : Text) :
    (w.weaveFile true d path).2 = d := by
  have hnothing : w.rewrite? true d path = none := by
    rw [rewrite?]
    split <;> simp
  rw [snd_weaveFile, hnothing]

theorem eq_of_weaveFile_eq_error {w : Weaver} {dryRun : Bool} {d d' : Disk} {path : Text}
    {e : RunError} (h : w.weaveFile dryRun d path = (.error e, d')) : d' = d := by
  simp only [weaveFile] at h
  split at h
  · exact (Prod.mk.inj h).2.symm
  · split at h <;> simp at h

/-- All that a run over a file can do when it succeeds. -/
theorem of_weaveFile_eq_ok {w : Weaver} {dryRun : Bool} {d d' : Disk} {path : Text}
    {outcome : FileOutcome} (h : w.weaveFile dryRun d path = (.ok outcome, d')) :
    ∃ l bytes, d.locate path = .ok (l, .file bytes) ∧ outcome.path = path ∧
      w.weave (Text.decode bytes) path = .ok outcome.woven ∧
      outcome.diff = Diff.ofFile path (Text.decode bytes) outcome.woven.modified ∧
      outcome.written = (outcome.woven.changed && !dryRun) ∧
      d' = if outcome.written then d.overwrite path (Text.encode outcome.woven.modified) else d := by
  simp only [weaveFile] at h
  split at h
  · simp at h
  rename_i foreseen hpreview
  obtain ⟨source, woven, hread, hweave, rfl⟩ := previewFile_eq_ok_iff.mp hpreview
  obtain ⟨l, bytes, hlocate, -, -, rfl⟩ := readSource_eq_ok_iff.mp hread
  dsimp only at h
  split at h
  · rename_i hwritten
    obtain ⟨houtcome, rfl⟩ := Prod.mk.inj h
    obtain rfl := Except.ok.inj houtcome
    refine ⟨l, bytes, hlocate, ?_⟩
    simp only [hweave, hwritten, ↓reduceIte, and_self]
  · rename_i hwritten
    obtain ⟨houtcome, rfl⟩ := Prod.mk.inj h
    obtain rfl := Except.ok.inj houtcome
    refine ⟨l, bytes, hlocate, ?_⟩
    simp only [hweave, hwritten, Bool.false_eq_true, ↓reduceIte, and_self]

end Weaver

end SpanWeave
