import SpanWeave.Config

namespace SpanWeave

/-- What the arguments ask for. -/
structure Options where
  config : Option Text := none
  skip : List Text := []
  namePattern : Option Text := none
  function : Option Text := none
  module : Option Text := none
  importStyle : Option ImportStyle := none
  /-- Number of workers; the result does not depend on it. -/
  workers : Option Nat := none
  write : Bool := false
  diff : Bool := false
  json : Bool := false
  verbose : Bool := false
  paths : List Text := []
  deriving DecidableEq, Repr

namespace CommandLine

inductive Setting where
  | config
  | skip
  | namePattern
  | function
  | module
  | importStyle
  | workers
  deriving DecidableEq, Repr

/-- An option without a value. -/
inductive Switch where
  | write
  | diff
  | json
  | verbose
  deriving DecidableEq, Repr

def setting? (name : String) : Option Setting :=
  [("config", .config), ("skip", .skip), ("name-pattern", .namePattern),
   ("function", .function), ("module", .module), ("import-style", .importStyle),
   ("workers", .workers)].lookup name

def switch? (name : String) : Option Switch :=
  [("write", .write), ("diff", .diff), ("json", .json), ("verbose", .verbose)].lookup name

/-- What `value` becomes in a place that is still empty. -/
def once (old : Option α) (value : Option α) : Option (Option α) :=
  match old, value with
  | none, some v => some (some v)
  | _, _ => none

/-- A path, which is not empty. -/
def path? (s : Text) : Option Text := if s = [] then none else some s

/-- The styles by the names the command line knows. -/
def style? (s : Text) : Option ImportStyle :=
  if s = "cjs".toList then some .commonJs else ImportStyle.ofLabel? s

/-- A number of 64 bits, perhaps with a sign in front. -/
def count? (s : Text) : Option Nat :=
  let digits := (Text.afterLead? ['+'] s).getD s
  if digits ≠ [] && digits.all Char.isDigit then
    let n := digits.foldl (fun n c => n * 10 + (c.toNat - 48)) 0
    if n < 18446744073709551616 then some n else none
  else none

/-- Gives a value to an option. Only patterns may be given more than once. -/
def assign (o : Options) (s : Setting) (value : Text) : Option Options :=
  match s with
  | .config => (once o.config (path? value)).map fun v => { o with config := v }
  | .skip => some { o with skip := o.skip ++ [value] }
  | .namePattern => (once o.namePattern (some value)).map fun v => { o with namePattern := v }
  | .function => (once o.function (some value)).map fun v => { o with function := v }
  | .module => (once o.module (some value)).map fun v => { o with module := v }
  | .importStyle => (once o.importStyle (style? value)).map fun v => { o with importStyle := v }
  | .workers => (once o.workers (count? value)).map fun v => { o with workers := v }

def turnOn (o : Options) : Switch → Option Options
  | .write => if o.write then none else some { o with write := true }
  | .diff => if o.diff then none else some { o with diff := true }
  | .json => if o.json then none else some { o with json := true }
  | .verbose => if o.verbose then none else some { o with verbose := true }

/-- What a command line amounts to. -/
inductive Request where
  | run (o : Options)
  /-- The user asks how the program is called. -/
  | help
  /-- The arguments have no meaning. -/
  | unusable
  deriving DecidableEq, Repr

/-- Short switches behind a hyphen: the options with them, or the end of the reading. -/
def shortSwitches : Options → Text → Except Request Options
  | o, [] => .ok o
  | o, c :: s =>
      if c = 'v' then
        match turnOn o .verbose with
        | some o => shortSwitches o s
        | none => .error .unusable
      else if c = 'h' then .error .help
      else .error .unusable

/-- An argument that begins with two hyphens, split at its first equals sign. -/
def splitLong (s : Text) : String × Option Text :=
  let name := s.takeWhile fun c => c ≠ '='
  (String.ofList name, if name.length < s.length then some (s.drop (name.length + 1)) else none)

/-- An argument that begins with a hyphen and is no value. -/
def looksLikeOption (s : Text) : Bool := s.head? = some '-' && s ≠ ['-']

def takePaths : Options → List Text → Option Options
  | o, [] => some o
  | o, arg :: args =>
      match path? arg with
      | some p => takePaths { o with paths := o.paths ++ [p] } args
      | none => none

/-- Ends the reading: there must be a path. -/
def finish : Option Options → Request
  | some o => if o.paths = [] then .unusable else .run o
  | none => .unusable

/-- Reads the arguments from left to right. -/
def readFrom (o : Options) : List Text → Request
  | [] => finish (some o)
  | arg :: args =>
      if arg = "--".toList then finish (takePaths o args)
      else
        match Text.afterLead? "--".toList arg with
        | some long =>
            let (name, attached) := splitLong long
            match setting? name, switch? name, attached with
            | some s, _, some value => continueWith (assign o s value) args
            | some s, _, none =>
                match args with
                | value :: rest =>
                    if looksLikeOption value then .unusable
                    else
                      match assign o s value with
                      | some o => readFrom o rest
                      | none => .unusable
                | [] => .unusable
            | none, some s, none => continueWith (turnOn o s) args
            | none, none, none => if name = "help" then .help else .unusable
            | none, _, some _ => .unusable
        | none =>
            if looksLikeOption arg then
              match shortSwitches o (arg.drop 1) with
              | .ok o => readFrom o args
              | .error r => r
            else continueWith ((path? arg).map fun p => { o with paths := o.paths ++ [p] }) args
where
  continueWith (o : Option Options) (args : List Text) : Request :=
    match o with
    | some o => readFrom o args
    | none => .unusable

def read (args : List Text) : Request := readFrom {} args

/-- A configuration with the options on top of it. -/
def override (o : Options) (c : Config) : Config :=
  { skip := c.skip ++ o.skip
    namePattern := o.namePattern.or c.namePattern
    instrumentation :=
      { function := o.function.getD c.instrumentation.function
        module := o.module.getD c.instrumentation.module
        importStyle := o.importStyle.getD c.instrumentation.importStyle } }

end CommandLine

end SpanWeave
