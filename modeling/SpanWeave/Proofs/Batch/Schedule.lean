import SpanWeave.Proofs.Batch.Stats
import SpanWeave.Proofs.SourceFile
import SpanWeave.Proofs.Weave.Conflict

namespace SpanWeave

namespace Disk

/-- The place that a path leads to. -/
def placeOf? (d : Disk) (path : Text) : Option Location := (d.locate path).toOption.map Prod.fst

theorem leadApart_iff {d : Disk} {p q : Text} :
    d.LeadApart p q ↔ p ≠ q ∧ (d.placeOf? p = none ∨ d.placeOf? p ≠ d.placeOf? q) := by
  refine and_congr_right fun _ => ?_
  cases hp : d.locate p with
  | error t => simp [placeOf?, hp, Except.toOption]
  | ok found =>
      cases hq : d.locate q with
      | error t => simp [placeOf?, hp, hq, Except.toOption]
      | ok other =>
          obtain ⟨l, e⟩ := found
          obtain ⟨m, f⟩ := other
          simp only [placeOf?, hp, hq, Except.toOption, Option.map_some, ne_eq, Except.ok.injEq,
            Prod.mk.injEq, Option.some.injEq, reduceCtorEq, false_or]
          constructor
          · rintro h rfl
            exact h l e f ⟨rfl, rfl⟩ ⟨rfl, rfl⟩
          · rintro h k _ _ ⟨rfl, -⟩ ⟨rfl, -⟩
            exact h rfl

instance (d : Disk) (p q : Text) : Decidable (d.LeadApart p q) :=
  decidable_of_iff _ leadApart_iff.symm

theorem LeadApart.congr {d d' : Disk} {p q : Text} (h : d.LeadApart p q)
    (hp : d'.locate p = d.locate p) (hq : d'.locate q = d.locate q) : d'.LeadApart p q := by
  rwa [LeadApart, hp, hq]

/-- The disk `d'` is `d` with the files at some paths rewritten, and nothing else. -/
structure Rewritten (rewrite? : Text → Option Bytes) (d d' : Disk) (paths : List Text) : Prop where
  here_eq : d'.here = d.here
  follow_eq : ∀ l pieces, d'.follow l pieces = d.follow l pieces
  written : ∀ p ∈ paths, ∀ bytes, rewrite? p = some bytes → ∀ l e, d.locate p = .ok (l, e) →
    d'.find? l = some (.file bytes)
  kept : ∀ l, (∀ p ∈ paths, ∀ e, d.locate p = .ok (l, e) → rewrite? p = none) →
    d'.find? l = d.find? l

namespace Rewritten

variable {rewrite? : Text → Option Bytes} {d d' : Disk} {paths : List Text}

theorem nil (rewrite? : Text → Option Bytes) (d : Disk) : Rewritten rewrite? d d [] :=
  ⟨rfl, fun _ _ => rfl, by simp, fun _ _ => rfl⟩

theorem congr {other? : Text → Option Bytes} (h : Rewritten rewrite? d d' paths)
    (hsame : ∀ p ∈ paths, other? p = rewrite? p) : Rewritten other? d d' paths where
  here_eq := h.here_eq
  follow_eq := h.follow_eq
  written p hp bytes hbytes := h.written p hp bytes (hsame p hp ▸ hbytes)
  kept l hl := h.kept l fun p hp e hlocate => hsame p hp ▸ hl p hp e hlocate

theorem locate_eq_of_written (h : Rewritten rewrite? d d' paths) {p : Text} (hp : p ∈ paths)
    {bytes : Bytes} (hbytes : rewrite? p = some bytes) {l : Location} {e : Entry}
    (hlocate : d.locate p = .ok (l, e)) : d'.locate p = .ok (l, .file bytes) := by
  obtain ⟨hne, hfollow, -⟩ := locate_eq_ok_iff.mp hlocate
  refine locate_eq_ok_iff.mpr ⟨hne, ?_, h.written p hp bytes hbytes l e hlocate⟩
  rw [h.follow_eq, origin, h.here_eq]
  exact hfollow

theorem locate_eq_of_kept (h : Rewritten rewrite? d d' paths) {q : Text}
    (hapart : ∀ p ∈ paths, rewrite? p ≠ none → d.LeadApart p q) :
    d'.locate q = d.locate q := by
  have horigin : d'.origin q = d.origin q := by rw [origin, h.here_eq, origin]
  rw [Disk.locate_eq, Disk.locate_eq, horigin, h.follow_eq]
  split
  · rfl
  rename_i hne
  cases hfollow : d.follow (d.origin q) (Text.splitAt '/' q) with
  | error t => rfl
  | ok l =>
      have hfind : d'.find? l = d.find? l := by
        refine h.kept l fun p hp e hlocate => ?_
        by_contra hsome
        have hq := locate_eq_ok_iff.mpr ⟨hne, hfollow, (locate_eq_ok_iff.mp hlocate).2.2⟩
        exact (hapart p hp hsome).2 l e e hlocate hq
      simp only [hfind]

theorem find?_eq {d'' : Disk} {order : List Text} (h : Rewritten rewrite? d d' paths)
    (h' : Rewritten rewrite? d d'' order) (hperm : order.Perm paths) (l : Location) :
    d''.find? l = d'.find? l := by
  by_cases hkept : ∀ p ∈ paths, ∀ e, d.locate p = .ok (l, e) → rewrite? p = none
  · rw [h.kept l hkept, h'.kept l fun p hp => hkept p (hperm.mem_iff.mp hp)]
  · push Not at hkept
    obtain ⟨p, hp, e, hlocate, hsome⟩ := hkept
    obtain ⟨bytes, hbytes⟩ := Option.ne_none_iff_exists'.mp hsome
    rw [h.written p hp bytes hbytes l e hlocate,
      h'.written p (hperm.mem_iff.mpr hp) bytes hbytes l e hlocate]

end Rewritten

end Disk

namespace Weaver

open BatchStats

variable {w : Weaver} {c : BatchConfig} {d : Disk}

theorem locate_weaveFile {p q : Text} (hapart : d.LeadApart p q) (dryRun : Bool) :
    (w.weaveFile dryRun d p).2.locate q = d.locate q := by
  rw [snd_weaveFile]
  split
  · rename_i bytes hbytes
    obtain ⟨-, o, hpreview, -⟩ := rewrite?_eq_some_iff.mp hbytes
    obtain ⟨l, old, hlocate⟩ := exists_locate_of_previewFile hpreview
    exact hapart.locate_overwrite hlocate bytes
  · rfl

theorem add_weaveFile (s : BatchStats) (dryRun : Bool) (p : Text) :
    s.add c p (w.weaveFile dryRun d p).1 = s.add c p (w.previewFile d p) := by
  rw [fst_weaveFile]
  cases w.previewFile d p <;> rfl

theorem rewritten_cons {d' : Disk} {dryRun : Bool} {p : Text} {paths : List Text}
    (hapart : ∀ q ∈ paths, d.LeadApart p q)
    (h : Disk.Rewritten (w.rewrite? dryRun d) (w.weaveFile dryRun d p).2 d' paths) :
    Disk.Rewritten (w.rewrite? dryRun d) d d' (p :: paths) := by
  have hothers : ∀ q ∈ paths, (w.weaveFile dryRun d p).2.locate q = d.locate q :=
    fun q hq => locate_weaveFile (hapart q hq) dryRun
  cases hp : w.rewrite? dryRun d p with
  | none =>
      rw [snd_weaveFile, hp] at h
      refine ⟨h.here_eq, h.follow_eq, ?_, fun l hl => h.kept l fun q hq => hl q (by simp [hq])⟩
      rintro q hq bytes hbytes
      rcases List.mem_cons.mp hq with rfl | hq
      · simp [hp] at hbytes
      · exact h.written q hq bytes hbytes
  | some bytes =>
      obtain ⟨-, o, hpreview, -⟩ := rewrite?_eq_some_iff.mp hp
      obtain ⟨l, old, hlocate⟩ := exists_locate_of_previewFile hpreview
      rw [snd_weaveFile, hp] at h hothers
      dsimp only at h hothers
      -- no other path leads to the place of `p`
      have hplace : d'.find? l = some (.file bytes) := by
        rw [h.kept l, Disk.find?_overwrite hlocate, if_pos rfl]
        intro q hq e hfound
        rw [hothers q hq] at hfound
        exact absurd hfound ((hapart q hq).2 l _ e hlocate)
      refine ⟨?_, ?_, ?_, ?_⟩
      · rw [h.here_eq, Disk.overwrite_eq hlocate]
        rfl
      · intro m pieces
        rw [h.follow_eq, Disk.follow_overwrite hlocate]
      · intro q hq bytes' hbytes m e hfound
        rcases List.mem_cons.mp hq with rfl | hq
        · rw [hp] at hbytes
          rw [hlocate] at hfound
          obtain rfl := Option.some.inj hbytes
          obtain ⟨rfl, -⟩ := Prod.mk.inj (Except.ok.inj hfound)
          exact hplace
        · exact h.written q hq bytes' hbytes m e (by rwa [hothers q hq])
      · intro m hm
        have hne : m ≠ l := by
          rintro rfl
          simpa [hp] using hm p (by simp) _ hlocate
        rw [h.kept m, Disk.find?_overwrite hlocate, if_neg hne]
        intro q hq e hfound
        exact hm q (by simp [hq]) e (by rwa [← hothers q hq])

/-- What comes of each file alone. -/
def previews (w : Weaver) (d : Disk) (paths : List Text) : List Entered :=
  paths.map fun p => (p, w.previewFile d p)

/-- A batch enters what comes of each file alone, and rewrites each file that changes. -/
theorem processFiles_eq (s : BatchStats) {paths : List Text}
    (hapart : paths.Pairwise d.LeadApart) :
    (w.processFiles c s d paths).1 = (w.previews d paths).foldl (enter c) s ∧
      Disk.Rewritten (w.rewrite? c.dryRun d) d (w.processFiles c s d paths).2 paths := by
  induction paths generalizing s d with
  | nil => exact ⟨rfl, Disk.Rewritten.nil _ d⟩
  | cons p paths ih =>
      obtain ⟨hfirst, hrest⟩ := List.pairwise_cons.mp hapart
      have hlocate : ∀ q ∈ paths, (w.weaveFile c.dryRun d p).2.locate q = d.locate q :=
        fun q hq => locate_weaveFile (hfirst q hq) c.dryRun
      have hpreviews : w.previews (w.weaveFile c.dryRun d p).2 paths = w.previews d paths :=
        List.map_congr_left fun q hq => by rw [previewFile_congr (hlocate q hq)]
      obtain ⟨hstats, hdisk⟩ := ih (s.add c p (w.previewFile d p))
        (hrest.imp_of_mem fun hq hr h => h.congr (hlocate _ hq) (hlocate _ hr))
      rw [processFiles]
      simp only [add_weaveFile]
      refine ⟨?_, rewritten_cons hfirst (hdisk.congr fun q hq => ?_)⟩
      · rw [hstats, hpreviews]
        rfl
      · exact (rewrite?_congr (hlocate q hq)).symm

theorem map_fst_previews (w : Weaver) (d : Disk) (paths : List Text) :
    (w.previews d paths).map Prod.fst = paths := by
  simp [previews, Function.comp_def]

theorem mem_previews_iff {paths : List Text} {p : Text} {r : Except RunError FileOutcome} :
    (p, r) ∈ w.previews d paths ↔ p ∈ paths ∧ w.previewFile d p = r := by
  simp only [previews, List.mem_map, Prod.mk.injEq]
  constructor
  · rintro ⟨q, hq, rfl, hr⟩
    exact ⟨hq, hr⟩
  · rintro ⟨hp, hr⟩
    exact ⟨p, hp, rfl, hr⟩

theorem labelled_of_mem_previews {paths : List Text} {x : Entered} (h : x ∈ w.previews d paths) :
    Labelled x := by
  obtain ⟨p, r⟩ := x
  rintro o rfl
  exact path_of_previewFile (mem_previews_iff.mp h).2

theorem foldl_enter_perm {walk order : List Text} (horder : order.Perm walk) (s : BatchStats) :
    (w.previews d order).foldl (enter c) s = (w.previews d walk).foldl (enter c) s := by
  refine List.Perm.foldl_eq' (horder.map _) ?_ s
  rintro ⟨p, r⟩ hx ⟨q, t⟩ hy s
  by_cases hpq : p = q
  · subst hpq
    rw [← (mem_previews_iff.mp hx).2, ← (mem_previews_iff.mp hy).2]
  · exact enter_comm c s (labelled_of_mem_previews hx) (labelled_of_mem_previews hy) hpq

theorem tells_processFiles {paths : List Text} (hapart : paths.Pairwise d.LeadApart) :
    Tells c (w.previews d paths) (w.processFiles c {} d paths).1 := by
  rw [(processFiles_eq {} hapart).1]
  exact (tells_nil c).foldl _

section
variable {paths : List Text} (hapart : paths.Pairwise d.LeadApart)
include hapart

theorem mem_errors_iff {p : Text} {e : RunError} :
    (p, e) ∈ (w.processFiles c {} d paths).1.errors ↔
      p ∈ paths ∧ w.previewFile d p = .error e := by
  rw [(tells_processFiles hapart).mem_errors_iff, mem_previews_iff]

theorem mem_modified_iff {p : Text} :
    p ∈ (w.processFiles c {} d paths).1.modified ↔
      p ∈ paths ∧ ∃ o, w.previewFile d p = .ok o ∧ o.woven.changed = true := by
  rw [(tells_processFiles hapart).mem_modified_iff fun x hx => labelled_of_mem_previews hx]
  simp only [mem_previews_iff, and_assoc, exists_and_left]

end

/-- A file that changes, one without functions and one that is no text. -/
def threeFiles : Disk :=
  ⟨[(["a.ts".toList], .file (Text.encode "function a() {}\n".toList)),
    (["b.ts".toList], .file (Text.encode "b();\n".toList)), (["c.ts".toList], .file [0])], []⟩

theorem files_of_threeFiles :
    Batch.files {} threeFiles ".".toList = ["./a.ts", "./b.ts", "./c.ts"].map String.toList := by
  decide +kernel

theorem changed_of_threeFiles :
    ∃ o, plain.previewFile threeFiles "./a.ts".toList = .ok o ∧ o.woven.changed = true := by
  let bytes := Text.encode "function a() {}\n".toList
  let wrapping : Edit := ⟨0, 15, "const a = traceCall('a', function a() {});".toList⟩
  let importing : Edit := ⟨0, 0, "import { traceCall } from 'autotel';\n\n".toList⟩
  have horder : Edit.inOrder [wrapping, importing] = [importing, wrapping] :=
    Edit.inOrder_pair (by decide)
  have hdialect : Dialect.ofPath? "./a.ts".toList = some .typeScript := by decide
  have hread : readSource threeFiles "./a.ts".toList plain.maxFileSize = .ok (Text.decode bytes) :=
    readSource_eq_ok_iff.mpr ⟨_, bytes, rfl, by decide, by decide, rfl⟩
  obtain ⟨-, woven, -, -, hweave, -, hchanged, -, hdiffers⟩ :=
    exists_woven plain (Text.decode bytes) (fun _ out _ => decide (out ≠ Text.decode bytes))
      hdialect horder (by decide +kernel)
  refine ⟨_, previewFile_eq_ok_iff.mpr ⟨_, woven, hread, hweave, rfl⟩, ?_⟩
  rw [hchanged]
  exact hdiffers

theorem failed_of_threeFiles :
    plain.previewFile threeFiles "./c.ts".toList = .error .binaryFile := by
  have hlocate : threeFiles.locate "./c.ts".toList = .ok (["c.ts".toList], .file [0]) := rfl
  have hread : readSource threeFiles "./c.ts".toList plain.maxFileSize = .error .binaryFile := by
    simp only [readSource, hlocate]
    simp [isBinary, binaryProbe, plain, defaultMaxFileSize]
  rw [previewFile, hread]
  rfl

theorem leadApart_files_threeFiles :
    (Batch.files {} threeFiles ".".toList).Pairwise threeFiles.LeadApart := by
  rw [files_of_threeFiles]
  decide

end Weaver

end SpanWeave
