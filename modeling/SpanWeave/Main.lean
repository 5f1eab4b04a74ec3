import SpanWeave.Run

namespace SpanWeave.Program

def absolute (l : Location) : String := String.ofList ('/' :: Text.joinWith ['/'] l)

/-- What stands at a location, apart from what a directory holds. -/
def look (l : Location) : IO (Option Entry) := do
  try
    let path ← IO.FS.realPath (absolute l)
    if ← path.isDir then return some .directory
    return some (.file (← IO.FS.readBinFile path).toList)
  catch _ => return none

def takeOne (d : Disk) (l : Location) : IO Disk := do
  if l = [] || (d.find? l).isSome then return d
  match ← look l with
  | some e => return d.place l e
  | none => return d

/-- Takes up a directory on the way to a file, with the files that hold its rules. -/
def takeRules (d : Disk) (l : Location) : IO Disk := do
  let names := [[".ignore"], [".gitignore"], [".git"], [".git", "info", "exclude"]]
  names.foldlM (fun d (names : List String) => takeOne d (l ++ names.map String.toList))
    (← takeOne d l)

def names (l : Location) : IO (List Text) := do
  try
    let path ← IO.FS.realPath (absolute l)
    return (← path.readDir).toList.map fun e => e.fileName.toList
  catch _ => return []

/-- Takes up what stands at a location, with all that is below it. -/
partial def takeAll (d : Disk) (l : Location) : IO Disk := do
  let d ← takeOne d l
  match d.find? l with
  | some .directory => (← names l).foldlM (fun d name => takeAll d (l ++ [name])) d
  | _ => return d

/-- Takes up the directories that a path passes, and gives the location it leads to. -/
def takeWay : Disk → Location → List Text → IO (Disk × Location)
  | d, l, [] => return (d, l)
  | d, l, piece :: rest => do
      let d ← takeRules d l
      if piece = [] || piece = ['.'] then takeWay d l rest
      else if piece = "..".toList then takeWay d l.dropLast rest
      else takeWay d (l ++ [piece]) rest

def takePath (d : Disk) (path : Text) : IO Disk := do
  let start := if path.head? = some '/' then [] else d.here
  let way := (List.range (start.length + 1)).map fun n => start.take n
  let d ← way.foldlM takeRules d
  let (d, l) ← takeWay d start (Text.splitAt '/' path)
  takeAll d l

def writeBack (before after : Disk) : IO Unit :=
  after.entries.forM fun (l, e) => do
    match e with
    | .file bytes =>
        if before.find? l ≠ some e then
          IO.FS.writeBinFile (absolute l) (ByteArray.mk bytes.toArray)
    | .directory => return

def pathsOf : CommandLine.Request → List Text
  | .run o => Run.defaultConfig :: o.config.toList ++ o.paths
  | _ => []

end SpanWeave.Program

open SpanWeave in
def main (args : List String) : IO UInt32 := do
  let args := args.map String.toList
  let here := Path.steps (toString (← IO.currentDir)).toList
  let before ← (Program.pathsOf (CommandLine.read args)).foldlM Program.takePath ⟨[], here⟩
  let result := Run.run args before
  Program.writeBack before result.disk
  IO.print (String.ofList result.output)
  result.errors.forM fun line => IO.eprintln (String.ofList line)
  return UInt32.ofNat result.exit
