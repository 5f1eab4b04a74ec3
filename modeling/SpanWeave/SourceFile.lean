import SpanWeave.Weave
import SpanWeave.Disk
import SpanWeave.ConfigFile
import SpanWeave.Diff.Unified

namespace SpanWeave

/-- Number of bytes in which a zero byte marks a file as binary. -/
def binaryProbe : Nat := 8192

/-- The contents are not those of a text. -/
def isBinary (bytes : Bytes) : Bool := (bytes.take binaryProbe).contains 0

/-- Reads a source of at most `limit` bytes. -/
def readSource (d : Disk) (path : Text) (limit : Nat) : Except RunError Text :=
  match d.locate path with
  | .error _ => .error (.notFound path)
  | .ok (_, .directory) => .error (.io .directory)
  | .ok (_, .file bytes) =>
      if limit < bytes.length then .error (.tooLarge bytes.length limit)
      else if isBinary bytes then .error .binaryFile
      else .ok (Text.decode bytes)

def ConfigFile.load (d : Disk) (path : Text) : Except RunError Config :=
  match d.read path with
  | .error t => .error (.unreadableConfig path t)
  | .ok bytes =>
      match Text.decodeStrict? bytes with
      | none => .error (.unreadableConfig path .notText)
      | some source => ConfigFile.parse source

/-- What weaving does to a file. -/
structure FileOutcome where
  path : Text
  woven : Woven
  /-- The change as a unified diff; empty without one. -/
  diff : Text
  written : Bool

namespace Weaver

/-- The outcome for the file at a path, without any change to the disk. -/
def previewFile (w : Weaver) (d : Disk) (path : Text) : Except RunError FileOutcome := do
  let source ← readSource d path w.maxFileSize
  let woven ← w.weave source path
  return { path, woven, diff := Diff.ofFile path source woven.modified, written := false }

/-- Weaves spans into the file at a path. In a dry run the disk stays as it is. -/
def weaveFile (w : Weaver) (dryRun : Bool) (d : Disk) (path : Text) :
    Except RunError FileOutcome × Disk :=
  match w.previewFile d path with
  | .error e => (.error e, d)
  | .ok outcome =>
      if outcome.woven.changed && !dryRun then
        (.ok { outcome with written := true },
          d.overwrite path (Text.encode outcome.woven.modified))
      else (.ok outcome, d)

end Weaver

end SpanWeave
