import SpanWeave.Proofs.Batch.DryRun
import SpanWeave.Proofs.Edit.Refusal
import SpanWeave.Proofs.Wrapper

namespace SpanWeave

namespace Path

theorem steps_append (root path : Text) :
    steps (root ++ '/' :: path) = steps root ++ steps path := by
  simp [steps, Text.splitAt_append]

theorem steps_join (root path : Text) : steps (join root path) = steps root ++ steps path := by
  rw [join]
  split
  · subst root
    rfl
  split
  · rename_i hne hlast
    obtain ⟨front, rfl⟩ := List.getLast?_eq_some_iff.mp hlast
    rw [List.append_assoc, List.singleton_append, steps_append, steps_append,
      show steps [] = [] from rfl, List.append_nil]
  · exact steps_append root path

theorem join_left_cancel {root p q : Text} : join root p = join root q ↔ p = q := by
  simp only [join]
  split
  · rfl
  split <;> simp

theorem exists_fileName?_of_extension? {path e : Text} (h : extension? path = some e) :
    ∃ name, fileName? path = some name := by
  obtain ⟨name, hname, -⟩ := Option.bind_eq_some_iff.mp h
  exact ⟨name, hname⟩

theorem fileName?_join {path name : Text} (h : fileName? path = some name) (root : Text) :
    fileName? (join root path) = some name := by
  simp only [fileName?, steps_join, List.getLast?_append] at h ⊢
  cases hlast : (steps path).getLast? with
  | none => simp [hlast] at h
  | some last => simpa [hlast] using h

theorem extension?_join {path e : Text} (h : extension? path = some e) (root : Text) :
    extension? (join root path) = some e := by
  obtain ⟨name, hname, hext⟩ := Option.bind_eq_some_iff.mp h
  rw [extension?, fileName?_join hname]
  exact hext

end Path

namespace Dialect

theorem exists_ofExtension?_iff {e : Text} :
    (∃ dialect, ofExtension? e = some dialect) ↔ e ∈ allExtensions.map String.toList := by
  rw [← Option.isSome_iff_exists, ofExtension?, List.find?_isSome]
  simp only [allExtensions, List.mem_map, List.mem_flatMap, List.any_eq_true, decide_eq_true_eq]
  constructor
  · rintro ⟨dialect, hall, s, hs, rfl⟩
    exact ⟨s, ⟨dialect, hall, hs⟩, rfl⟩
  · rintro ⟨s, ⟨dialect, hall, hs⟩, rfl⟩
    exact ⟨dialect, hall, s, hs, rfl⟩

theorem lower_of_mem_allExtensions :
    ∀ e ∈ allExtensions.map String.toList, lower e = e := by
  decide

theorem exists_ofPath?_iff {path : Text} :
    (∃ dialect, ofPath? path = some dialect) ↔
      ∃ e, Path.extension? path = some e ∧ lower e ∈ allExtensions.map String.toList := by
  simp only [← exists_ofExtension?_iff, ofPath?, Option.bind_eq_some_iff]
  constructor
  · rintro ⟨dialect, e, he, hdialect⟩
    exact ⟨e, he, dialect, hdialect⟩
  · rintro ⟨e, he, dialect, hdialect⟩
    exact ⟨dialect, e, he, hdialect⟩

theorem ofPath?_join {path : Text} {dialect : Dialect} (h : ofPath? path = some dialect)
    (root : Text) : ofPath? (Path.join root path) = some dialect := by
  obtain ⟨e, he, hdialect⟩ := Option.bind_eq_some_iff.mp h
  rw [ofPath?, Path.extension?_join he]
  exact hdialect

end Dialect

/-- Nothing but the extension speaks against the file: it is no file of declarations, and no
directory on the way to it is skipped. -/
structure BatchConfig.Admits (c : BatchConfig) (path : Text) : Prop where
  undeclared : ∀ name ∈ Path.fileName? path, ∀ e ∈ declarationEnds, Text.endsWith name e = false
  unskipped : ∀ s ∈ Path.directories path, s ∉ c.skipDirs

namespace BatchConfig

variable {c : BatchConfig} {path : Text}

theorem accepts_iff : c.accepts path = true ↔
    c.Admits path ∧ ∃ e ∈ c.extensions, Path.extension? path = some e := by
  constructor
  · intro h
    simp only [accepts] at h
    split at h
    · simp at h
    rename_i name hname
    simp only [Bool.and_eq_true, Bool.not_eq_true', Option.any_eq_true] at h
    obtain ⟨⟨hends, hdirs⟩, e, he, hmem⟩ := h
    refine ⟨⟨?_, ?_⟩, e, by simpa using hmem, he⟩
    · rintro _ hname' tail htail
      obtain rfl := Option.some.inj (hname.symm.trans hname')
      exact Bool.eq_false_iff.mpr (List.any_eq_false.mp hends tail htail)
    · intro s hs hskipped
      exact List.any_eq_false.mp hdirs s hs (by simpa using hskipped)
  · rintro ⟨⟨hends, hdirs⟩, e, hmem, he⟩
    obtain ⟨name, hname⟩ := Path.exists_fileName?_of_extension? he
    simp only [accepts, hname, he, Bool.and_eq_true, Bool.not_eq_true', Option.any_some]
    refine ⟨⟨List.any_eq_false.mpr fun tail htail => ?_, List.any_eq_false.mpr fun s hs => ?_⟩,
      by simpa using hmem⟩
    · exact Bool.eq_false_iff.mp (hends name hname tail htail)
    · simpa using hdirs s hs

theorem exists_ofPath?_of_accepts (hall : c.extensions = ({} : BatchConfig).extensions)
    (h : c.accepts path = true) : ∃ dialect, Dialect.ofPath? path = some dialect := by
  obtain ⟨-, e, hmem, he⟩ := accepts_iff.mp h
  rw [hall] at hmem
  refine Dialect.exists_ofPath?_iff.mpr ⟨e, he, ?_⟩
  rw [Dialect.lower_of_mem_allExtensions e hmem]
  exact hmem

/-- With all extensions selected, the files left out although they have a dialect are those whose
extension is not in lower case. -/
theorem accepts_iff_of_admits (hall : c.extensions = ({} : BatchConfig).extensions)
    (h : c.Admits path) : c.accepts path = true ↔
      (∃ dialect, Dialect.ofPath? path = some dialect) ∧
        ∀ e ∈ Path.extension? path, Dialect.lower e = e := by
  constructor
  · intro haccepts
    refine ⟨exists_ofPath?_of_accepts hall haccepts, fun e he => ?_⟩
    obtain ⟨-, f, hmem, hf⟩ := accepts_iff.mp haccepts
    obtain rfl := Option.some.inj (hf.symm.trans he)
    rw [hall] at hmem
    exact Dialect.lower_of_mem_allExtensions f hmem
  · rintro ⟨hdialect, hlower⟩
    obtain ⟨e, he, hmem⟩ := Dialect.exists_ofPath?_iff.mp hdialect
    rw [hlower e he] at hmem
    refine accepts_iff.mpr ⟨h, e, ?_, he⟩
    rw [hall]
    exact hmem

end BatchConfig

theorem Batch.mem_files_join_iff {c : BatchConfig} {d : Disk} {root path : Text} :
    Path.join root path ∈ Batch.files c d root ↔
      path ∈ Walk.files d root ∧ c.accepts path = true := by
  rw [Batch.files, List.mem_map]
  constructor
  · rintro ⟨q, hq, hjoin⟩
    obtain rfl := Path.join_left_cancel.mp hjoin
    exact List.mem_filter.mp hq
  · exact fun h => ⟨path, List.mem_filter.mpr h, rfl⟩

namespace Weaver

open BatchStats

variable {w : Weaver} {c : BatchConfig}

theorem weaveDocument_ne_unsupported (doc : Document) (path name : Text) :
    w.weaveDocument doc path ≠ .error (.unsupported name) := by
  simp only [weaveDocument]
  split
  · simp
  split
  · simp
  · rename_i err happly
    rcases Edit.of_applyAll_eq_error happly with ⟨e, -, -, rfl⟩ | ⟨a, b, -, -, -, rfl⟩
    · simp [RunError.ofSource]
    · simp [RunError.ofSource]

theorem weave_ne_unsupported {path : Text} {dialect : Dialect}
    (h : Dialect.ofPath? path = some dialect) (source name : Text) :
    w.weave source path ≠ .error (.unsupported name) := by
  simp only [weave, h]
  cases hparse : Document.parse source dialect with
  | ok doc => exact weaveDocument_ne_unsupported doc path name
  | error e =>
      obtain rfl : e = .unparsable := by
        simp only [Document.parse] at hparse
        split at hparse
        · simp at hparse
        · exact (Except.error.inj hparse).symm
      simp [RunError.ofSource]

theorem of_previewFile_eq_error {d : Disk} {path : Text} {e : RunError}
    (h : w.previewFile d path = .error e) :
    readSource d path w.maxFileSize = .error e ∨ ∃ source, w.weave source path = .error e := by
  simp only [previewFile, bind, Except.bind, pure, Except.pure] at h
  cases hread : readSource d path w.maxFileSize with
  | error e' => exact .inl (by simpa [hread] using h)
  | ok source =>
      cases hweave : w.weave source path with
      | error e' => exact .inr ⟨source, by simpa [hread, hweave] using h⟩
      | ok woven => simp [hread, hweave] at h

theorem readSource_ne_unsupported (d : Disk) (path : Text) (limit : Nat) (name : Text) :
    readSource d path limit ≠ .error (.unsupported name) := by
  simp only [readSource]
  split
  · simp
  · simp
  split
  · simp
  split <;> simp

theorem previewFile_ne_unsupported {path : Text} {dialect : Dialect}
    (h : Dialect.ofPath? path = some dialect) (d : Disk) (name : Text) :
    w.previewFile d path ≠ .error (.unsupported name) := by
  intro hfailed
  rcases of_previewFile_eq_error hfailed with hread | ⟨source, hweave⟩
  · exact readSource_ne_unsupported d path w.maxFileSize name hread
  · exact weave_ne_unsupported h source name hweave

theorem mem_errors_add {s : BatchStats} {path p : Text} {r : Except RunError FileOutcome}
    {e : RunError} (h : (p, e) ∈ (s.add c path r).errors) :
    (p, e) ∈ s.errors ∨ p = path ∧ r = .error e := by
  cases r with
  | error e' =>
      have hmem := (insertBy_perm Prod.fst (path, e') s.errors).mem_iff.mp h
      rcases List.mem_cons.mp hmem with heq | hold
      · obtain ⟨rfl, rfl⟩ := Prod.mk.inj heq
        exact .inr ⟨rfl, rfl⟩
      · exact .inl hold
  | ok o =>
      left
      simp only [add] at h
      split at h <;> exact h

theorem exists_of_mem_errors_processFiles {s : BatchStats} {d : Disk} {paths : List Text}
    {p : Text} {e : RunError} (h : (p, e) ∈ (w.processFiles c s d paths).1.errors) :
    (p, e) ∈ s.errors ∨ p ∈ paths ∧ ∃ d', w.previewFile d' p = .error e := by
  induction paths generalizing s d with
  | nil => exact .inl h
  | cons path paths ih =>
      rw [processFiles] at h
      simp only [add_weaveFile] at h
      rcases ih h with hstep | ⟨hmem, hfailed⟩
      · rcases mem_errors_add hstep with hold | ⟨rfl, hfailed⟩
        · exact .inl hold
        · exact .inr ⟨by simp, d, hfailed⟩
      · exact .inr ⟨by simp [hmem], hfailed⟩

theorem notMem_errors_batch (hall : c.extensions = ({} : BatchConfig).extensions) (d : Disk)
    (root p name : Text) : (p, RunError.unsupported name) ∉ (w.batch c d root).1.errors := by
  intro h
  rcases exists_of_mem_errors_processFiles h with hnone | ⟨hmem, d', hfailed⟩
  · simp at hnone
  · obtain ⟨path, hpath, rfl⟩ := List.mem_map.mp hmem
    obtain ⟨dialect, hdialect⟩ :=
      BatchConfig.exists_ofPath?_of_accepts hall (List.mem_filter.mp hpath).2
    exact previewFile_ne_unsupported (Dialect.ofPath?_join hdialect root) d' name hfailed

end Weaver

/-- What a batch over all extensions takes, for a file that nothing but its extension can keep
out: it is taken exactly if it has a dialect and its extension is in lower case. A file with a
dialect is not refused for want of one when it is named itself, whether the batch takes it or
not, and no file of a batch is. -/
theorem Batch.takes_iff_of_admits (dryRun collectDiffs : Bool) (limit : Nat) {path : Text}
    (h : ({} : BatchConfig).Admits path) :
    let c : BatchConfig := { dryRun, collectDiffs, maxFileSize := limit }
    (c.accepts path = true ↔ (∃ dialect, Dialect.ofPath? path = some dialect) ∧
      ∀ e ∈ Path.extension? path, Dialect.lower e = e) ∧
    (∀ (d : Disk) root, path ∈ Walk.files d root →
      (Path.join root path ∈ Batch.files c d root ↔ c.accepts path = true)) ∧
    ((∃ dialect, Dialect.ofPath? path = some dialect) → ∀ (w : Weaver) source root name,
      w.weave source (Path.join root path) ≠ .error (.unsupported name)) ∧
    ∀ (w : Weaver) (d : Disk) root p name,
      (p, RunError.unsupported name) ∉ (w.batch c d root).1.errors := by
  intro c
  refine ⟨c.accepts_iff_of_admits rfl ⟨h.undeclared, h.unskipped⟩, ?_, ?_, ?_⟩
  · intro d root hwalk
    rw [mem_files_join_iff]
    exact and_iff_right hwalk
  · rintro ⟨dialect, hdialect⟩ w source root name
    exact Weaver.weave_ne_unsupported (Dialect.ofPath?_join hdialect root) source name
  · exact fun w d root p name => Weaver.notMem_errors_batch (c := c) rfl d root p name

theorem Batch.takes_moduleFile :
    let path := "lib/v1.2/.setup.mts".toList
    ({} : BatchConfig).Admits path ∧ ({} : BatchConfig).accepts path = true ∧
      ∀ (w : Weaver) source name,
        w.weave source (Path.join "src/".toList path) ≠ .error (.unsupported name) := by
  intro path
  have hadmits : ({} : BatchConfig).Admits path := ⟨by decide, by decide⟩
  have hdialect : ∃ dialect, Dialect.ofPath? path = some dialect := ⟨.typeScript, by decide⟩
  obtain ⟨haccepts, -, hnamed, -⟩ := takes_iff_of_admits true false defaultMaxFileSize hadmits
  exact ⟨hadmits, haccepts.mpr ⟨hdialect, by decide⟩,
    fun w source name => hnamed hdialect w source _ name⟩

def capitalFile : Disk := ⟨[(["A.TS".toList], .file (Text.encode "function a() {}\n".toList))], []⟩

/-- The file has a dialect and changes when it is named, and a batch leaves it out without a
word. -/
theorem Batch.capitalFile_left_out :
    ({} : BatchConfig).Admits "A.TS".toList ∧
      Dialect.ofPath? "A.TS".toList = some .typeScript ∧
      "A.TS".toList ∈ Walk.files capitalFile ".".toList ∧
      ({} : BatchConfig).accepts "A.TS".toList = false ∧
      (Weaver.plain.batch {} capitalFile ".".toList).1 = {} ∧
      ∃ woven, Weaver.plain.weave "function a() {}\n".toList "A.TS".toList = .ok woven ∧
        woven.changed = true := by
  have hfiles : Batch.files {} capitalFile ".".toList = [] := by decide +kernel
  have hdialect : Dialect.ofPath? "A.TS".toList = some .typeScript := by decide
  refine ⟨⟨by decide, by decide⟩, hdialect, by decide +kernel, by decide, ?_, ?_⟩
  · rw [Weaver.batch, hfiles]
    rfl
  · let wrapping : Edit := ⟨0, 15, "const a = traceCall('a', function a() {});".toList⟩
    let importing : Edit := ⟨0, 0, "import { traceCall } from 'autotel';\n\n".toList⟩
    have horder : Edit.inOrder [wrapping, importing] = [importing, wrapping] :=
      Edit.inOrder_pair (by decide)
    obtain ⟨-, woven, -, -, hweave, -, hchanged, -, hdiffers⟩ :=
      Weaver.exists_woven Weaver.plain "function a() {}\n".toList
        (fun _ out _ => decide (out ≠ "function a() {}\n".toList)) hdialect horder
        (by decide +kernel)
    exact ⟨woven, hweave, hchanged.trans hdiffers⟩

end SpanWeave
