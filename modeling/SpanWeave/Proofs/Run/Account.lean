import SpanWeave.Run
import SpanWeave.Proofs.Run.Course

/-!
The account that a run gives of itself. Without a good configuration it does nothing; otherwise it
deals with its paths one after another on the disk as it stands, tells each of them once, and its
exit status says whether any file failed.
-/

namespace SpanWeave

namespace CommandLine

variable {o o' : Options} {arg : Text} {args : List Text}

theorem readFrom_path (hne : arg ≠ []) (hplain : arg.head? ≠ some '-') :
    readFrom o (arg :: args) = readFrom { o with paths := o.paths ++ [arg] } args := by
  have hlong : Text.afterLead? "--".toList arg = none := by
    obtain ⟨c, s, rfl⟩ := List.exists_cons_of_ne_nil hne
    have hc : '-' ≠ c := by simpa [eq_comm] using hplain
    simp [Text.afterLead?, hc]
  have hdash : arg ≠ "--".toList := by
    rintro rfl
    exact hplain rfl
  rw [readFrom, if_neg hdash, hlong]
  simp [looksLikeOption, hplain, path?, hne, readFrom.continueWith]

theorem readFrom_switch {long : Text} {s : Switch} (hdash : arg ≠ "--".toList)
    (hlong : Text.afterLead? "--".toList arg = some long) (hname : (splitLong long).2 = none)
    (hsetting : setting? (splitLong long).1 = none) (hswitch : switch? (splitLong long).1 = some s)
    (hturn : turnOn o s = some o') : readFrom o (arg :: args) = readFrom o' args := by
  rw [readFrom, if_neg hdash, hlong]
  simp only [hname, hsetting, hswitch, hturn, readFrom.continueWith]

end CommandLine

namespace Run

open BatchStats

/-- What came of one path. -/
inductive Visit where
  | file (outcome : FileOutcome)
  | failure (path : Text) (error : RunError)
  /-- The outcomes of the files of a directory. -/
  | directory (root : Text) (inside : List Entered)

namespace Visit

def path : Visit → Text
  | file f => f.path
  | failure path _ => path
  | directory root _ => root

/-- The files that were dealt with, and what came of each. -/
def outcomes : Visit → List Entered
  | file f => [(f.path, .ok f)]
  | failure path e => [(path, .error e)]
  | directory _ inside => inside

def file? : Visit → Option FileOutcome
  | file f => some f
  | _ => none

def failure? : Visit → Option (Text × RunError)
  | failure path e => some (path, e)
  | _ => none

def books? (c : BatchConfig) : Visit → Option (Text × BatchStats)
  | directory root inside => some (root, inside.foldl (enter c) {})
  | _ => none

theorem path_of_file? {v : Visit} {f : FileOutcome} (h : v.file? = some f) : f.path = v.path := by
  cases v with
  | file g =>
      obtain rfl := Option.some.inj h
      rfl
  | failure => simp [file?] at h
  | directory => simp [file?] at h

theorem path_of_failure? {v : Visit} {e : Text × RunError} (h : v.failure? = some e) :
    e.1 = v.path := by
  cases v with
  | file => simp [failure?] at h
  | failure =>
      obtain rfl := Option.some.inj h
      rfl
  | directory => simp [failure?] at h

theorem path_of_books? {c : BatchConfig} {v : Visit} {b : Text × BatchStats}
    (h : v.books? c = some b) : b.1 = v.path := by
  cases v with
  | file => simp [books?] at h
  | failure => simp [books?] at h
  | directory =>
      obtain rfl := Option.some.inj h
      rfl

end Visit

/-- A path is dealt with on the disk as it stands: a directory by its files in the order of the
walk, anything else as a file. -/
inductive Deals (w : Weaver) (o : Options) (d : Disk) (path : Text) : Visit → Disk → Prop where
  | file {f : FileOutcome} {d' : Disk} (kind : d.isDirectory path = false)
      (run : w.weaveFile (!o.write) d path = (.ok f, d')) : Deals w o d path (.file f) d'
  | failure {e : RunError} {d' : Disk} (kind : d.isDirectory path = false)
      (run : w.weaveFile (!o.write) d path = (.error e, d')) :
      Deals w o d path (.failure path e) d'
  | directory {inside : List Entered} {d' : Disk} (kind : d.isDirectory path = true)
      (run : InTurn (w.Weaves (!o.write)) d (Batch.files (batchConfig w o) d path) inside d') :
      Deals w o d path (.directory path inside) d'

/-- The report on some visits: each in one list, in their order. -/
def reportOf (c : BatchConfig) (vs : List Visit) : Report :=
  { files := vs.filterMap Visit.file?
    directories := vs.filterMap (Visit.books? c)
    errors := vs.filterMap Visit.failure? }

/-- The configuration cannot be loaded, or is refused with the options on top of it. -/
def Unconfigured (d : Disk) (o : Options) : Prop :=
  (∃ path e, configPath? d o = some path ∧ ConfigFile.load d path = .error e) ∨
    ∃ c e, loadConfig d o = .ok c ∧ Weaver.ofConfig (CommandLine.override o c) = .error e

theorem path_of_deals {w : Weaver} {o : Options} {d d' : Disk} {path : Text} {v : Visit}
    (h : Deals w o d path v d') : v.path = path := by
  cases h with
  | file _ run =>
      obtain ⟨_, _, _, hpath, -⟩ := Weaver.of_weaveFile_eq_ok run
      exact hpath
  | failure => rfl
  | directory => rfl

def told (r s : Report) : Report :=
  { files := r.files ++ s.files
    directories := r.directories ++ s.directories
    errors := r.errors ++ s.errors }

theorem told_assoc (r s t : Report) : told (told r s) t = told r (told s t) := by
  simp [told]

theorem reportOf_cons (c : BatchConfig) (v : Visit) (vs : List Visit) :
    reportOf c (v :: vs) = told (reportOf c [v]) (reportOf c vs) := by
  cases v <;> rfl

theorem exists_deals_step (w : Weaver) (o : Options) (r : Report) (d : Disk) (path : Text) :
    ∃ v, Deals w o d path v (step w o r d path).2 ∧
      (step w o r d path).1 = told r (reportOf (batchConfig w o) [v]) := by
  rw [step]
  split
  · rename_i hkind
    obtain ⟨xs, hturn, hstats⟩ := w.exists_inTurn_processFiles (batchConfig w o) {} d
      (Batch.files (batchConfig w o) d path)
    have hbatch : (w.batch (batchConfig w o) d path).1 = xs.foldl (enter (batchConfig w o)) {} :=
      hstats
    refine ⟨.directory path xs, .directory hkind hturn, ?_⟩
    simp [hbatch, told, reportOf, Visit.file?, Visit.books?, Visit.failure?]
  · rename_i hkind
    have hkind : d.isDirectory path = false := by simpa using hkind
    split
    · rename_i f d' hrun
      refine ⟨.file f, .file hkind hrun, ?_⟩
      simp [told, reportOf, Visit.file?, Visit.books?, Visit.failure?]
    · rename_i e d' hrun
      refine ⟨.failure path e, .failure hkind hrun, ?_⟩
      simp [told, reportOf, Visit.file?, Visit.books?, Visit.failure?]

/-- The steps of a run deal with its paths one after another and tell them in this order. -/
theorem exists_inTurn_steps (w : Weaver) (o : Options) (r : Report) (d : Disk)
    (paths : List Text) :
    ∃ vs, InTurn (Deals w o) d paths vs (steps w o r d paths).2 ∧
      (steps w o r d paths).1 = told r (reportOf (batchConfig w o) vs) := by
  induction paths generalizing r d with
  | nil => exact ⟨[], .nil d, by simp [steps, told, reportOf]⟩
  | cons path paths ih =>
      obtain ⟨v, hdeals, hstep⟩ := exists_deals_step w o r d path
      obtain ⟨vs, hturn, hrest⟩ := ih (step w o r d path).1 (step w o r d path).2
      refine ⟨v :: vs, .cons hdeals hturn, ?_⟩
      rw [steps, hrest, hstep, told_assoc, ← reportOf_cons]

section
variable {w : Weaver} {o : Options} {d d' : Disk} {paths : List Text} {vs : List Visit}
  (h : InTurn (Deals w o) d paths vs d')
include h

theorem map_path_of_inTurn : vs.map Visit.path = paths := by
  induction h with
  | nil => rfl
  | cons head _ ih => rw [List.map_cons, ih, path_of_deals head]

theorem exists_inTurn_outcomes :
    ∃ files, InTurn (w.Weaves (!o.write)) d files (vs.flatMap Visit.outcomes) d' := by
  induction h with
  | nil s => exact ⟨[], .nil s⟩
  | cons head _ ih =>
      rename_i d d₁ d₂ path v paths vs _
      obtain ⟨files, hrest⟩ := ih
      obtain ⟨first, hfirst⟩ : ∃ first, InTurn (w.Weaves (!o.write)) d first v.outcomes d₁ := by
        have hpath := path_of_deals head
        cases head with
        | file _ run => exact ⟨[path], .cons ⟨hpath, run⟩ (.nil _)⟩
        | failure _ run => exact ⟨[path], .cons ⟨rfl, run⟩ (.nil _)⟩
        | directory _ run => exact ⟨_, run⟩
      exact ⟨first ++ files, hfirst.append hrest⟩

end

theorem map_filterMap_sublist {f : Visit → Option α} {name : α → Text}
    (hname : ∀ v a, f v = some a → name a = v.path) (vs : List Visit) :
    ((vs.filterMap f).map name).Sublist (vs.map Visit.path) := by
  induction vs with
  | nil => exact .slnil
  | cons v vs ih =>
      cases hv : f v with
      | none =>
          rw [List.filterMap_cons_none hv]
          exact ih.cons _
      | some a =>
          rw [List.filterMap_cons_some hv, List.map_cons, List.map_cons, hname v a hv]
          exact ih.cons_cons _

theorem reportOf_perm (c : BatchConfig) (vs : List Visit) :
    ((reportOf c vs).files.map FileOutcome.path ++
      ((reportOf c vs).directories.map Prod.fst ++ (reportOf c vs).errors.map Prod.fst)).Perm
      (vs.map Visit.path) := by
  induction vs with
  | nil => exact .nil
  | cons v vs ih =>
      cases v with
      | file f => exact ih.cons f.path
      | failure path e =>
          have hmiddle (a b c : List Text) :
              (a ++ (b ++ path :: c)).Perm (path :: (a ++ (b ++ c))) :=
            (List.perm_middle.append_left a).trans List.perm_middle
          exact (hmiddle _ _ _).trans (ih.cons path)
      | directory root inside => exact List.perm_middle.trans (ih.cons root)

theorem errors_eq_nil_iff (c : BatchConfig) (xs : List Entered) :
    (xs.foldl (enter c) {}).errors = [] ↔ ∀ x ∈ xs, ∃ f, x.2 = .ok f := by
  have htells : Tells c xs (xs.foldl (enter c) {}) := (tells_nil c).foldl xs
  rw [List.eq_nil_iff_forall_not_mem]
  constructor
  · intro h x hx
    obtain ⟨p, e | f⟩ := x
    · exact absurd (htells.mem_errors_iff.mpr hx) (h (p, e))
    · exact ⟨f, rfl⟩
  · rintro h ⟨p, e⟩ hx
    obtain ⟨f, hf⟩ := h _ (htells.mem_errors_iff.mp hx)
    simp at hf

theorem foldl_add_eq_zero_iff {f : α → Nat} {n : Nat} {l : List α} :
    l.foldl (fun n a => n + f a) n = 0 ↔ n = 0 ∧ ∀ a ∈ l, f a = 0 := by
  induction l generalizing n with
  | nil => simp
  | cons a l ih =>
      rw [List.foldl_cons, ih, List.forall_mem_cons, Nat.add_eq_zero_iff, and_assoc]

theorem faultless_iff (c : BatchConfig) (v : Visit) :
    (v.failure? = none ∧ ∀ b, v.books? c = some b → b.2.errors = []) ↔
      ∀ x ∈ v.outcomes, ∃ f, x.2 = .ok f := by
  cases v with
  | file f => simp [Visit.failure?, Visit.books?, Visit.outcomes]
  | failure path e => simp [Visit.failure?, Visit.outcomes]
  | directory root inside =>
      simpa [Visit.failure?, Visit.books?, Visit.outcomes] using errors_eq_nil_iff c inside

theorem errorCount_reportOf (c : BatchConfig) (vs : List Visit) :
    (reportOf c vs).errorCount = 0 ↔ ∀ x ∈ vs.flatMap Visit.outcomes, ∃ f, x.2 = .ok f := by
  rw [Report.errorCount, foldl_add_eq_zero_iff]
  simp only [List.length_eq_zero_iff, reportOf, List.filterMap_eq_nil_iff, List.mem_filterMap,
    List.mem_flatMap]
  constructor
  · rintro ⟨hnamed, hinside⟩ x ⟨v, hv, hx⟩
    exact (faultless_iff c v).mp ⟨hnamed v hv, fun b hb => hinside b ⟨v, hv, hb⟩⟩ x hx
  · intro h
    have hvisit : ∀ v ∈ vs, v.failure? = none ∧ ∀ b, v.books? c = some b → b.2.errors = [] :=
      fun v hv => (faultless_iff c v).mpr fun x hx => h x ⟨v, hv, hx⟩
    refine ⟨fun v hv => (hvisit v hv).1, ?_⟩
    rintro b ⟨v, hv, hb⟩
    exact (hvisit v hv).2 b hb

theorem weaver_cases (d : Disk) (o : Options) :
    (Unconfigured d o ∧ ∃ line, weaver d o = .error line) ∨
      ¬ Unconfigured d o ∧ ∃ c w, loadConfig d o = .ok c ∧
        Weaver.ofConfig (CommandLine.override o c) = .ok w ∧ weaver d o = .ok w := by
  have hload : (∃ path e, configPath? d o = some path ∧ ConfigFile.load d path = .error e) ↔
      ∃ line, loadConfig d o = .error line := by
    rw [loadConfig]
    cases configPath? d o with
    | none => simp
    | some path => cases hload : ConfigFile.load d path <;> simp [hload]
  rw [Unconfigured, hload, weaver]
  cases loadConfig d o with
  | error line => simp
  | ok c => cases hconfig : Weaver.ofConfig (CommandLine.override o c) <;> simp [hconfig]

theorem perform_of_weaver_eq_ok {d : Disk} {o : Options} {w : Weaver} (hw : weaver d o = .ok w) :
    ∃ vs, InTurn (Deals w o) d o.paths vs (perform o d).disk ∧
      perform o d = conclude o (reportOf (batchConfig w o) vs) (perform o d).disk := by
  obtain ⟨vs, hturn, hreport⟩ := exists_inTurn_steps w o {} d o.paths
  have hperform : perform o d =
      conclude o (steps w o {} d o.paths).1 (steps w o {} d o.paths).2 := by
    rw [perform, hw]
  have hdisk : (perform o d).disk = (steps w o {} d o.paths).2 := by rw [hperform, conclude]
  refine ⟨vs, hdisk ▸ hturn, ?_⟩
  rw [hdisk, hperform, hreport]
  rfl

theorem steps_json (w : Weaver) (o : Options) (json : Bool) (r : Report) (d : Disk)
    (paths : List Text) : steps w { o with json } r d paths = steps w o r d paths := by
  induction paths generalizing r d with
  | nil => rfl
  | cons path paths ih => exact ih _ _

theorem perform_json (o : Options) (json : Bool) (d : Disk) :
    (perform { o with json } d).exit = (perform o d).exit ∧
      (perform { o with json } d).disk = (perform o d).disk := by
  have hweaver : weaver d { o with json } = weaver d o := rfl
  rw [perform, perform, hweaver]
  cases weaver d o with
  | error line => exact ⟨rfl, rfl⟩
  | ok w =>
      simp only [steps_json]
      exact ⟨rfl, rfl⟩

/-- A run with accepted arguments. Without a configuration it fails and touches nothing. With one
it deals with its paths one after another, each on the disk as it then stands, and tells each path
in one list of its report, in the order of the arguments. It changes nothing unless told to write,
and then every place holds what the last change of a file there has left, or what it held before.
It succeeds exactly when no file failed, whatever the form of the report. -/
theorem run_of_accepted {args : List Text} {o : Options} (hread : CommandLine.read args = .run o)
    (d : Disk) :
    (Unconfigured d o → (run args d).exit ≠ 0 ∧ (run args d).disk = d) ∧
      (¬ Unconfigured d o → ∃ c w vs, loadConfig d o = .ok c ∧
        Weaver.ofConfig (CommandLine.override o c) = .ok w ∧
        InTurn (Deals w o) d o.paths vs (run args d).disk ∧
        let report := reportOf (batchConfig w o) vs
        run args d = conclude o report (run args d).disk ∧
          (report.files.map FileOutcome.path ++
            (report.directories.map Prod.fst ++ report.errors.map Prod.fst)).Perm o.paths ∧
          (report.files.map FileOutcome.path).Sublist o.paths ∧
          (report.directories.map Prod.fst).Sublist o.paths ∧
          (report.errors.map Prod.fst).Sublist o.paths ∧
          (o.write = false → (run args d).disk = d) ∧
          (o.write = true → d.ChangedBy (vs.flatMap Visit.outcomes) (run args d).disk) ∧
          ((run args d).exit = 0 ↔ ∀ x ∈ vs.flatMap Visit.outcomes, ∃ f, x.2 = .ok f)) ∧
      ∀ args', CommandLine.read args' = .run { o with json := !o.json } →
        (run args' d).exit = (run args d).exit ∧ (run args' d).disk = (run args d).disk := by
  have hrun : run args d = perform o d := by rw [run, hread]
  rw [hrun]
  refine ⟨?_, ?_, ?_⟩
  · intro hbad
    rcases weaver_cases d o with ⟨-, line, hline⟩ | ⟨hgood, -⟩
    · simp [perform, hline]
    · exact absurd hbad hgood
  · intro hgood
    rcases weaver_cases d o with ⟨hbad, -⟩ | ⟨-, c, w, hload, hconfig, hw⟩
    · exact absurd hbad hgood
    obtain ⟨vs, hturn, hreport⟩ := perform_of_weaver_eq_ok hw
    obtain ⟨files, hfiles⟩ := exists_inTurn_outcomes hturn
    have hargs := map_path_of_inTurn hturn
    refine ⟨c, w, vs, hload, hconfig, hturn, hreport, ?_, ?_, ?_, ?_, ?_, ?_, ?_⟩
    · rw [← hargs]
      exact reportOf_perm _ vs
    · rw [← hargs]
      exact map_filterMap_sublist (fun _ _ => Visit.path_of_file?) vs
    · rw [← hargs]
      exact map_filterMap_sublist (fun _ _ => Visit.path_of_books?) vs
    · rw [← hargs]
      exact map_filterMap_sublist (fun _ _ => Visit.path_of_failure?) vs
    · intro hwrite
      rw [hwrite] at hfiles
      exact Weaver.eq_of_inTurn_of_dryRun hfiles
    · intro hwrite
      rw [hwrite] at hfiles
      exact Weaver.changedBy_of_inTurn hfiles
    · rw [← errorCount_reportOf (batchConfig w o), hreport, conclude]
      simp
  · intro args' hread'
    have hrun' : run args' d = perform { o with json := !o.json } d := by rw [run, hread']
    rw [hrun']
    exact perform_json o _ d

/-- Arguments that name a file that fails, and one that is written. -/
def failAndWrite : List Text := ["./c.ts", "--write", "./a.ts"].map String.toList

def failAndWriteOptions : Options :=
  { write := true, paths := ["./c.ts", "./a.ts"].map String.toList }

theorem configured_failAndWrite :
    loadConfig Weaver.threeFiles failAndWriteOptions = .ok {} ∧
      Weaver.ofConfig (CommandLine.override failAndWriteOptions {}) = .ok Weaver.plain ∧
      ¬ Unconfigured Weaver.threeFiles failAndWriteOptions := by
  have hpath : configPath? Weaver.threeFiles failAndWriteOptions = none := by decide
  have hload : loadConfig Weaver.threeFiles failAndWriteOptions = .ok {} := by
    rw [loadConfig, hpath]
  have hplain : Weaver.ofConfig (CommandLine.override failAndWriteOptions {}) =
      .ok Weaver.plain := rfl
  refine ⟨hload, hplain, ?_⟩
  rintro (⟨path, e, hsome, -⟩ | ⟨c, e, hc, he⟩)
  · simp [hpath] at hsome
  · obtain rfl := Except.ok.inj (hload.symm.trans hc)
    cases hplain.symm.trans he

theorem visits_of_failAndWrite {vs : List Visit} {after : Disk}
    (h : InTurn (Deals Weaver.plain failAndWriteOptions) Weaver.threeFiles
      failAndWriteOptions.paths vs after) :
    ∃ o, Weaver.plain.previewFile Weaver.threeFiles "./a.ts".toList = .ok o ∧
      o.woven.changed = true ∧
      vs = [.failure "./c.ts".toList .binaryFile, .file { o with written := true }] := by
  obtain ⟨o, hpreview, hchanged⟩ := Weaver.changed_of_threeFiles
  have hfailed : Weaver.plain.weaveFile false Weaver.threeFiles "./c.ts".toList =
      (.error .binaryFile, Weaver.threeFiles) := by
    simp only [Weaver.weaveFile, Weaver.failed_of_threeFiles]
  have hwritten : (Weaver.plain.weaveFile false Weaver.threeFiles "./a.ts".toList).1 =
      .ok { o with written := true } := by
    rw [Weaver.fst_weaveFile, hpreview, Except.map, hchanged]
    simp
  refine ⟨o, hpreview, hchanged, ?_⟩
  change InTurn _ _ ["./c.ts".toList, "./a.ts".toList] vs after at h
  cases h with
  | cons hfirst hrest =>
      cases hfirst with
      | file _ run => cases hfailed.symm.trans run
      | directory kind => exact absurd kind (by decide)
      | failure _ run =>
          obtain ⟨herror, rfl⟩ := Prod.mk.inj (hfailed.symm.trans run)
          obtain rfl := Except.error.inj herror
          cases hrest with
          | cons hsecond hnone =>
              cases hnone
              cases hsecond with
              | failure _ run => cases hwritten.symm.trans (congrArg Prod.fst run)
              | directory kind => exact absurd kind (by decide)
              | file _ run =>
                  rw [Except.ok.inj (hwritten.symm.trans (congrArg Prod.fst run))]

theorem run_of_failAndWrite :
    CommandLine.read failAndWrite = .run failAndWriteOptions ∧
      (run failAndWrite Weaver.threeFiles).exit ≠ 0 ∧
      (run ("--json".toList :: failAndWrite) Weaver.threeFiles).exit ≠ 0 ∧
      ∃ o, Weaver.plain.previewFile Weaver.threeFiles "./a.ts".toList = .ok o ∧
        o.woven.changed = true ∧
        (run failAndWrite Weaver.threeFiles).disk.find? ["a.ts".toList] =
          some (.file (Text.encode o.woven.modified)) := by
  have hargs (o : Options) (ho : o.write = false) (hnone : o.paths = []) :
      CommandLine.readFrom o failAndWrite =
        .run { o with write := true, paths := failAndWriteOptions.paths } := by
    have hturn : CommandLine.turnOn { o with paths := ["./c.ts".toList] } .write =
        some { o with write := true, paths := ["./c.ts".toList] } := by
      simp [CommandLine.turnOn, ho]
    change CommandLine.readFrom o ["./c.ts".toList, "--write".toList, "./a.ts".toList] = _
    rw [CommandLine.readFrom_path (by decide) (by decide), hnone, List.nil_append,
      CommandLine.readFrom_switch (by decide) rfl rfl rfl rfl hturn,
      CommandLine.readFrom_path (by decide) (by decide), CommandLine.readFrom]
    rfl
  have hread : CommandLine.read failAndWrite = .run failAndWriteOptions := hargs {} rfl rfl
  have hjson : CommandLine.read ("--json".toList :: failAndWrite) =
      .run { failAndWriteOptions with json := true } := by
    have hturn : CommandLine.turnOn {} .json = some { json := true } := rfl
    rw [CommandLine.read, CommandLine.readFrom_switch (by decide) rfl rfl rfl rfl hturn]
    exact hargs _ rfl rfl
  obtain ⟨hload, hplain, hgood⟩ := configured_failAndWrite
  obtain ⟨-, haccepted, hforms⟩ := run_of_accepted hread Weaver.threeFiles
  obtain ⟨c, w, vs, hload', hplain', hturn, -, -, -, -, -, -, hdisk, hexit⟩ := haccepted hgood
  obtain rfl := Except.ok.inj (hload.symm.trans hload')
  obtain rfl := Except.ok.inj (hplain.symm.trans hplain')
  obtain ⟨o, hpreview, hchanged, rfl⟩ := visits_of_failAndWrite hturn
  have hfails : (run failAndWrite Weaver.threeFiles).exit ≠ 0 := by
    rw [ne_eq, hexit]
    intro h
    obtain ⟨f, hf⟩ := h ("./c.ts".toList, .error .binaryFile) (by simp [Visit.outcomes])
    cases hf
  have hplace : Weaver.threeFiles.placeOf? o.path = some ["a.ts".toList] := by
    rw [Weaver.path_of_previewFile hpreview]
    rfl
  refine ⟨hread, hfails, ?_, o, hpreview, hchanged, ?_⟩
  · rw [(hforms _ hjson).1]
    exact hfails
  · rw [(hdisk rfl).2]
    simp [lastChange?, altered, successes, Visit.outcomes, Except.toOption, hchanged, hplace]

end Run

end SpanWeave
