import SpanWeave.Proofs.Batch.Schedule

namespace SpanWeave.Weaver

open BatchStats

variable {w : Weaver} {c : BatchConfig} {d : Disk}

theorem snd_processFiles_of_dryRun (hdry : c.dryRun = true) (s : BatchStats) (paths : List Text) :
    (w.processFiles c s d paths).2 = d := by
  induction paths generalizing s with
  | nil => rfl
  | cons p paths ih =>
      have hdisk : (w.weaveFile c.dryRun d p).2 = d := by
        rw [hdry, snd_weaveFile_of_dryRun]
      rw [processFiles]
      simp only [hdisk, ih]

theorem enter_dryRun (dryRun : Bool) : enter { c with dryRun } = enter c := by
  funext s x
  obtain ⟨p, e | o⟩ := x <;> rfl

section
variable {paths : List Text} (hapart : paths.Pairwise d.LeadApart) (hreal : c.dryRun = false)
include hapart hreal

theorem rewrite?_ne_none_iff {p : Text} (hp : p ∈ paths) :
    w.rewrite? c.dryRun d p ≠ none ↔ p ∈ (w.processFiles c {} d paths).1.modified := by
  rw [mem_modified_iff hapart, Option.ne_none_iff_exists']
  simp [rewrite?_eq_some_iff, hreal, hp]

theorem read_of_mem_modified {p : Text} (hp : p ∈ (w.processFiles c {} d paths).1.modified) :
    ∃ o, w.previewFile d p = .ok o ∧ o.woven.changed = true ∧
      (w.processFiles c {} d paths).2.read p = .ok (Text.encode o.woven.modified) := by
  obtain ⟨hmem, o, hpreview, hchanged⟩ := (mem_modified_iff hapart).mp hp
  obtain ⟨l, bytes, hlocate⟩ := exists_locate_of_previewFile hpreview
  have hbytes : w.rewrite? c.dryRun d p = some (Text.encode o.woven.modified) :=
    rewrite?_eq_some_iff.mpr ⟨hreal, o, hpreview, hchanged, rfl⟩
  have hdisk := (processFiles_eq (w := w) (c := c) {} hapart).2
  exact ⟨o, hpreview, hchanged,
    Disk.read_eq_ok_iff.mpr ⟨l, hdisk.locate_eq_of_written hmem hbytes hlocate⟩⟩

theorem locate_of_mem_errors {p : Text} {e : RunError}
    (hp : (p, e) ∈ (w.processFiles c {} d paths).1.errors) :
    (w.processFiles c {} d paths).2.locate p = d.locate p := by
  obtain ⟨hmem, hfailed⟩ := (mem_errors_iff hapart).mp hp
  refine (processFiles_eq {} hapart).2.locate_eq_of_kept fun q hq hsome => ?_
  obtain ⟨-, o, hpreview, -⟩ :=
    (mem_modified_iff hapart).mp ((rewrite?_ne_none_iff hapart hreal hq).mp hsome)
  have hne : q ≠ p := by
    rintro rfl
    simp [hfailed] at hpreview
  have : Std.Symm d.LeadApart := ⟨fun _ _ h => h.symm⟩
  exact hapart.forall hq hmem hne

theorem find?_of_processFiles {l : Location}
    (hl : ∀ p ∈ (w.processFiles c {} d paths).1.modified, ∀ e, d.locate p ≠ .ok (l, e)) :
    (w.processFiles c {} d paths).2.find? l = d.find? l := by
  refine (processFiles_eq {} hapart).2.kept l fun p hp e hlocate => ?_
  by_contra hsome
  exact hl p ((rewrite?_ne_none_iff hapart hreal hp).mp hsome) e hlocate

end

/-- The weaver that a batch works with. -/
def forBatch (w : Weaver) (c : BatchConfig) : Weaver := { w with maxFileSize := c.maxFileSize }

theorem mem_modified_batch_iff {root p : Text} {dryRun : Bool}
    (hapart : (Batch.files c d root).Pairwise d.LeadApart) :
    p ∈ (w.batch { c with dryRun } d root).1.modified ↔ p ∈ Batch.files c d root ∧
      ∃ o, (w.forBatch c).previewFile d p = .ok o ∧ o.woven.changed = true :=
  mem_modified_iff hapart

theorem mem_errors_batch_iff {root p : Text} {e : RunError} {dryRun : Bool}
    (hapart : (Batch.files c d root).Pairwise d.LeadApart) :
    (p, e) ∈ (w.batch { c with dryRun } d root).1.errors ↔ p ∈ Batch.files c d root ∧
      (w.forBatch c).previewFile d p = .error e :=
  mem_errors_iff hapart

end SpanWeave.Weaver
