import SpanWeave.SourceFile
import SpanWeave.Walk

namespace SpanWeave

/-- Which files of a directory are taken, and what is done with them. -/
structure BatchConfig where
  /-- Leaves all files as they are. -/
  dryRun : Bool := true
  maxFileSize : Nat := defaultMaxFileSize
  /-- Names of directories of which no file is taken. -/
  skipDirs : List Text := ["node_modules", ".git", "dist", "build"].map String.toList
  /-- Extensions of the files taken, without the dot. -/
  extensions : List Text := Dialect.allExtensions.map String.toList
  /-- Keeps the diff of every changed file. -/
  collectDiffs : Bool := false

/-- Ends of the names of files that hold declarations only. -/
def declarationEnds : List Text := [".d.ts", ".d.mts", ".d.cts"].map String.toList

/-- The file is taken; its path begins at the root of the walk. -/
def BatchConfig.accepts (c : BatchConfig) (path : Text) : Bool :=
  match Path.fileName? path with
  | none => false
  | some name =>
      !(declarationEnds.any fun e => Text.endsWith name e) &&
        !((Path.directories path).any c.skipDirs.contains) &&
        (Path.extension? path).any c.extensions.contains

/-- The counts of a batch, and what is told of its files. -/
structure BatchStats where
  scanned : Nat := 0
  changed : Nat := 0
  wrapped : Nat := 0
  skipped : Nat := 0
  errors : List (Text × RunError) := []
  modified : List Text := []
  /-- The diffs of those files, when they are collected. -/
  diffs : List (Text × Text) := []

namespace BatchStats

/-- The order of paths: by their characters, from the first on. -/
def pathLe : Text → Text → Bool
  | [], _ => true
  | _ :: _, [] => false
  | a :: s, b :: t => a.toNat < b.toNat || (a = b && pathLe s t)

/-- Puts something in front of the first element that is not before it. -/
def insertBy (key : α → Text) (a : α) : List α → List α
  | [] => [a]
  | b :: bs => if pathLe (key a) (key b) then a :: b :: bs else b :: insertBy key a bs

/-- The counts with the outcome for one more file. Lists are kept in the order of paths. -/
def add (c : BatchConfig) (s : BatchStats) (path : Text) :
    Except RunError FileOutcome → BatchStats
  | .error e =>
      { s with scanned := s.scanned + 1, errors := insertBy Prod.fst (path, e) s.errors }
  | .ok o =>
      let s := { s with scanned := s.scanned + 1, skipped := s.skipped + o.woven.skipped.length }
      if o.woven.changed then
        { s with
          changed := s.changed + 1
          wrapped := s.wrapped + o.woven.wrappedCount
          modified := insertBy id o.path s.modified
          diffs := if c.collectDiffs then insertBy Prod.fst (o.path, o.diff) s.diffs
            else s.diffs }
      else s

end BatchStats

/-- Weaves spans into the files at the given paths, one after another. -/
def Weaver.processFiles (w : Weaver) (c : BatchConfig) :
    BatchStats → Disk → List Text → BatchStats × Disk
  | s, d, [] => (s, d)
  | s, d, path :: paths =>
      let (outcome, d) := w.weaveFile c.dryRun d path
      w.processFiles c (s.add c path outcome) d paths

/-- The files below a root that are taken, by their full paths. -/
def Batch.files (c : BatchConfig) (d : Disk) (root : Text) : List Text :=
  ((Walk.files d root).filter c.accepts).map (Path.join root)

/-- Weaves spans into all files below a root that are taken. -/
def Weaver.batch (w : Weaver) (c : BatchConfig) (d : Disk) (root : Text) : BatchStats × Disk :=
  { w with maxFileSize := c.maxFileSize }.processFiles c {} d (Batch.files c d root)

end SpanWeave
