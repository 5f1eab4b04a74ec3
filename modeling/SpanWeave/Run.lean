import SpanWeave.CommandLine
import SpanWeave.Report.Basic

/-!
A run of the program, as a function from the arguments and the disk to the output and the disk
that results.
-/

namespace SpanWeave.Run

/-- The configuration that is read when none is named and there is one. -/
def defaultConfig : Text := "tracewrap.toml".toList

structure Result where
  exit : Nat
  output : Text
  /-- Lines told apart from the output. -/
  errors : List Text
  disk : Disk

/-- The path of the configuration that a run reads. -/
def configPath? (d : Disk) (o : Options) : Option Text :=
  match o.config with
  | some path => some path
  | none => if d.isFile defaultConfig then some defaultConfig else none

/-- The configuration of a run, before the options. -/
def loadConfig (d : Disk) (o : Options) : Except Text Config :=
  match configPath? d o with
  | none => .ok {}
  | some path =>
      match ConfigFile.load d path with
      | .ok c => .ok c
      | .error _ => .error ("Error: failed to load config ".toList ++ path)

/-- The weaver of a run, or the line that tells why there is none. -/
def weaver (d : Disk) (o : Options) : Except Text Weaver :=
  match loadConfig d o with
  | .error line => .error line
  | .ok c =>
      match Weaver.ofConfig (CommandLine.override o c) with
      | .ok w => .ok w
      | .error _ => .error "Error: invalid configuration".toList

/-- What is done with the files of a directory. -/
def batchConfig (w : Weaver) (o : Options) : BatchConfig :=
  { dryRun := !o.write, maxFileSize := w.maxFileSize, collectDiffs := o.diff }

/-- Deals with one path: a directory as a batch, anything else as a file. -/
def step (w : Weaver) (o : Options) (r : Report) (d : Disk) (path : Text) : Report × Disk :=
  if d.isDirectory path then
    let (stats, d) := w.batch (batchConfig w o) d path
    ({ r with directories := r.directories ++ [(path, stats)] }, d)
  else
    match w.weaveFile (!o.write) d path with
    | (.ok f, d) => ({ r with files := r.files ++ [f] }, d)
    | (.error e, d) => ({ r with errors := r.errors ++ [(path, e)] }, d)

/-- Deals with all paths from left to right. -/
def steps (w : Weaver) (o : Options) : Report → Disk → List Text → Report × Disk
  | r, d, [] => (r, d)
  | r, d, path :: paths =>
      let (r, d) := step w o r d path
      steps w o r d paths

/-- The result of a run with a report. -/
def conclude (o : Options) (r : Report) (d : Disk) : Result :=
  { exit := if r.errorCount = 0 then 0 else 1
    output := if o.json then r.toJson.write 0 ++ ['\n'] else r.toText ⟨o.write, o.diff⟩
    errors := if o.json then [] else r.errorLines
    disk := d }

/-- A run with good arguments. -/
def perform (o : Options) (d : Disk) : Result :=
  match weaver d o with
  | .error line => { exit := 1, output := [], errors := [line], disk := d }
  | .ok w =>
      let (r, d) := steps w o {} d o.paths
      conclude o r d

/-- How the program is called. -/
def usage : Text :=
  ("Usage: tracewrap [OPTIONS] <PATHS>...\n" ++
    "Wraps functions in an instrumentation call. Dry run unless --write.\n").toList

def run (args : List Text) (d : Disk) : Result :=
  match CommandLine.read args with
  | .run o => perform o d
  | .help => { exit := 0, output := usage, errors := [], disk := d }
  | .unusable => { exit := 2, output := [], errors := [], disk := d }

end SpanWeave.Run
