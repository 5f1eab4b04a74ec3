import SpanWeave.Text.Basic

namespace SpanWeave.Report

/-- A value of a report. -/
inductive Json where
  | null
  | bool (b : Bool)
  | number (n : Nat)
  | string (s : Text)
  | array (items : List Json)
  | object (fields : List (Text × Json))

namespace Json

def optional (f : α → Json) : Option α → Json
  | some a => f a
  | none => null

def list (f : α → Json) (as : List α) : Json := array (as.map f)

def word (s : String) : Json := string s.toList

/-- An object with fixed names. -/
def record (fields : List (String × Json)) : Json :=
  object (fields.map fun f => (f.1.toList, f.2))

def hexDigit (n : Nat) : Char := if n < 10 then Char.ofNat (48 + n) else Char.ofNat (87 + n)

/-- A character of a string. Quotes, backslashes and controls are escaped. -/
def escape (c : Char) : Text :=
  if c = '\x22' then "\\\"".toList
  else if c = '\\' then "\\\\".toList
  else if c = '\n' then "\\n".toList
  else if c = '\r' then "\\r".toList
  else if c = '\t' then "\\t".toList
  else if c = '\x08' then "\\b".toList
  else if c = '\x0c' then "\\f".toList
  else if c.toNat < 32 then "\\u00".toList ++ [hexDigit (c.toNat / 16), hexDigit (c.toNat % 16)]
  else [c]

def quote (s : Text) : Text := '\x22' :: s.flatMap escape ++ ['\x22']

/-- A line break, and the indentation of the line that follows. -/
def lineBreak (depth : Nat) : Text := '\n' :: List.replicate (2 * depth) ' '

mutual

/-- A value at a depth of indentation. -/
def write (depth : Nat) : Json → Text
  | null => "null".toList
  | bool b => (if b then "true" else "false").toList
  | number n => Text.ofNat n
  | string s => quote s
  | array [] => "[]".toList
  | array (v :: vs) =>
      '[' :: lineBreak (depth + 1) ++ write (depth + 1) v ++ writeItems depth vs
  | object [] => "\x7b\x7d".toList
  | object (f :: fs) =>
      '\x7b' :: lineBreak (depth + 1) ++ quote f.1 ++ ": ".toList ++ write (depth + 1) f.2 ++
        writeFields depth fs

/-- The items of an array behind the first one, and its end. -/
def writeItems (depth : Nat) : List Json → Text
  | [] => lineBreak depth ++ [']']
  | v :: vs => ',' :: lineBreak (depth + 1) ++ write (depth + 1) v ++ writeItems depth vs

/-- The fields of an object behind the first one, and its end. -/
def writeFields (depth : Nat) : List (Text × Json) → Text
  | [] => lineBreak depth ++ ['\x7d']
  | f :: fs =>
      ',' :: lineBreak (depth + 1) ++ quote f.1 ++ ": ".toList ++ write (depth + 1) f.2 ++
        writeFields depth fs

end

end Json

end SpanWeave.Report
