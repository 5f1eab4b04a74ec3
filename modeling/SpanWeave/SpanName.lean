import SpanWeave.Path

namespace SpanWeave.SpanName

/-- Stands for the identifier. -/
def nameToken : Text := "\x7bname\x7d".toList

/-- Stands for the stem of the file. -/
def fileToken : Text := "\x7bfile\x7d".toList

/-- Puts `name` and `file` in for their tokens, once `skip` characters of a token are passed. -/
def fill (name file : Text) : (skip : Nat) → Text → Text
  | _, [] => []
  | skip + 1, _ :: s => fill name file skip s
  | 0, c :: s =>
      if Text.startsWith (c :: s) nameToken then name ++ fill name file 5 s
      else if Text.startsWith (c :: s) fileToken then file ++ fill name file 5 s
      else c :: fill name file 0 s

/-- The name of the span around a function: its identifier, or the filled template. -/
def resolve (identifier path : Text) (template : Option Text) : Text :=
  match template with
  | none => identifier
  | some t => fill identifier ((Path.stem? path).getD []) 0 t

end SpanWeave.SpanName
