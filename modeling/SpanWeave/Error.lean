import SpanWeave.Text.Basic

namespace SpanWeave

/-- Failures of reading a source and of editing a text. -/
inductive SourceError where
  /-- The source does not follow the grammar. -/
  | unparsable
  /-- No dialect goes by this name or extension. -/
  | unsupported (name : Text)
  /-- An edit begins before the end of an earlier one. -/
  | overlapping (firstEnd secondStart : Nat)
  /-- An edit lies outside the text or splits a character. -/
  | invalidRange (start stop : Nat)
  deriving DecidableEq, Repr

def SourceError.message : SourceError → Text
  | .unparsable => "Parse error".toList
  | .unsupported name => "Unsupported language: ".toList ++ name
  | .overlapping a b =>
      "Overlapping edits at bytes ".toList ++ Text.ofNat a ++ " and ".toList ++ Text.ofNat b
  | .invalidRange a b => "Invalid edit range ".toList ++ Text.ofNat a ++ "..".toList ++ Text.ofNat b

/-- Why a file could not be opened or read. -/
inductive FileTrouble where
  | missing
  | directory
  | notDirectory
  | notText
  deriving DecidableEq, Repr

def FileTrouble.message : FileTrouble → Text
  | .missing => "No such file or directory (os error 2)".toList
  | .directory => "Is a directory (os error 21)".toList
  | .notDirectory => "Not a directory (os error 20)".toList
  | .notText => "stream did not contain valid UTF-8".toList

/-- Failures of a transformation, from the configuration to the files. -/
inductive RunError where
  | notFound (path : Text)
  | tooLarge (size limit : Nat)
  | binaryFile
  | io (trouble : FileTrouble)
  | unparsable
  | unsupported (name : Text)
  | replacement (cause : SourceError)
  | badFunction (name : Text)
  /-- The module of the entry point cannot be quoted; the path is given as it is shown. -/
  | badModule (shown : Text)
  | badPattern (pattern : Text)
  | badStyle (name : Text)
  /-- The configuration is no document of its format, or holds a value of a wrong type. -/
  | badDocument
  | unreadableConfig (path : Text) (trouble : FileTrouble)
  deriving DecidableEq, Repr

def RunError.message : RunError → Text
  | .notFound path => "File not found: ".toList ++ path
  | .tooLarge size limit =>
      "File too large: ".toList ++ Text.ofNat size ++ " bytes (limit: ".toList ++
        Text.ofNat limit ++ ")".toList
  | .binaryFile => "Binary file detected".toList
  | .io trouble => "IO error: ".toList ++ trouble.message
  | .unparsable => SourceError.unparsable.message
  | .unsupported name => (SourceError.unsupported name).message
  | .replacement cause => "Replacement error: ".toList ++ cause.message
  | .badFunction name =>
      "Pattern error: instrumentation function \x60".toList ++ name ++
        "\x60 is not a valid identifier".toList
  | .badModule shown =>
      "Config error: invalid instrumentation module path: ".toList ++ shown
  | .badPattern pattern =>
      "Pattern error: invalid skip pattern \x60".toList ++ pattern ++ "\x60".toList
  | .badStyle name => "Config error: unknown import style: ".toList ++ name
  | .badDocument => "Config error: TOML parse error".toList
  | .unreadableConfig path trouble =>
      "Config error: ".toList ++ path ++ ": ".toList ++ trouble.message

/-- The failure of a transformation that a failure of its source or its edits is. -/
def RunError.ofSource : SourceError → RunError
  | .unparsable => .unparsable
  | .unsupported name => .unsupported name
  | cause => .replacement cause

end SpanWeave
