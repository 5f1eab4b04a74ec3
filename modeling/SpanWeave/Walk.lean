import SpanWeave.Disk
import SpanWeave.Path
import SpanWeave.Ignore.Rule

namespace SpanWeave.Walk

open Ignore

/-- The rules of one directory. -/
structure Rules where
  /-- Rules that always count. -/
  always : List Rule
  /-- Rules that count under version control, listed in the directory. -/
  versioned : List Rule
  /-- Rules that count under version control, kept with the history. -/
  excluded : List Rule
  /-- The directory is the top of a tree under version control. -/
  isTop : Bool

def rulesIn (d : Disk) (l : Location) : List Rule :=
  match d.find? l with
  | some (.file bytes) => readRules bytes
  | _ => []

/-- The rules of the directory at a location. -/
def rulesOf (d : Disk) (l : Location) : Rules :=
  { always := rulesIn d (l ++ [".ignore".toList])
    versioned := rulesIn d (l ++ [".gitignore".toList])
    excluded := rulesIn d (l ++ [".git".toList, "info".toList, "exclude".toList])
    isTop := (d.find? (l ++ [".git".toList])).isSome }

/-- The directories above a location, nearest first. -/
def above (l : Location) : List Location :=
  (List.range l.length).reverse.map fun n => l.take n

/-- What the directories above a thing say of it. -/
structure Said where
  always : Option Bool := none
  versioned : Option Bool := none
  excluded : Option Bool := none
  /-- A top was passed, so version control says nothing more. -/
  passedTop : Bool := false

/-- Asks the directories `dirs`, nearest first. The first that says anything decides. -/
def ask (d : Disk) (tracked isDirectory : Bool) (l : Location) : Said → List Location → Said
  | said, [] => said
  | said, dir :: dirs =>
      let rules := rulesOf d dir
      let path := Text.joinWith ['/'] (l.drop dir.length)
      let tell (rs : List Rule) : Option Bool := verdict rs path isDirectory
      let counts := tracked && !said.passedTop
      ask d tracked isDirectory l
        { always := said.always.or (tell rules.always)
          versioned := if counts then said.versioned.or (tell rules.versioned) else said.versioned
          excluded := if counts then said.excluded.or (tell rules.excluded) else said.excluded
          passedTop := said.passedTop || rules.isTop } dirs

/-- The thing at a location is left out of a walk. -/
def isLeftOut (d : Disk) (l : Location) (isDirectory : Bool) : Bool :=
  let dirs := above l
  let tracked := dirs.any fun dir => (rulesOf d dir).isTop
  let said := ask d tracked isDirectory l {} dirs
  match (said.always.or said.versioned).or said.excluded with
  | some out => out
  | none => l.getLast?.any fun name => name.head? = some '.'

/-- The files below a directory, each by its path from that directory on. -/
def filesBelow (d : Disk) : (fuel : Nat) → (l : Location) → (path : Text) → List Text
  | 0, _, _ => []
  | fuel + 1, l, path =>
      (d.listing l).flatMap fun (name, e) =>
        let inner := l ++ [name]
        match e with
        | .file _ => if isLeftOut d inner false then [] else [Path.join path name]
        | .directory =>
            if isLeftOut d inner true then [] else filesBelow d fuel inner (Path.join path name)

/-- The files that a walk from a root visits, each by its path from the root on. A root that is
no directory has none. -/
def files (d : Disk) (root : Text) : List Text :=
  match d.locate root with
  | .ok (l, .directory) => filesBelow d (d.entries.length + 1) l []
  | _ => []

end SpanWeave.Walk
