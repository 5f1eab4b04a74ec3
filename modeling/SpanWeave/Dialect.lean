import SpanWeave.Path

namespace SpanWeave

/-- A dialect of the source language. -/
inductive Dialect where
  | typeScript
  | tsx
  | javaScript
  | jsx
  deriving DecidableEq, Repr

namespace Dialect

def all : List Dialect := [typeScript, tsx, javaScript, jsx]

def short : Dialect → String
  | typeScript => "ts"
  | tsx => "tsx"
  | javaScript => "js"
  | jsx => "jsx"

def fullName : Dialect → String
  | typeScript => "TypeScript"
  | tsx => "Tsx"
  | javaScript => "JavaScript"
  | jsx => "Jsx"

def extensions : Dialect → List String
  | typeScript => ["ts", "mts", "cts"]
  | tsx => ["tsx"]
  | javaScript => ["js", "mjs", "cjs"]
  | jsx => ["jsx"]

def allExtensions : List String := all.flatMap extensions

def ofExtension? (extension : Text) : Option Dialect :=
  all.find? fun d => d.extensions.any fun e => e.toList = extension

/-- Lower case of the letters A to Z. No other character has one of the letters of a dialect's
names as its lower case, so names are compared rightly. -/
def lower (s : Text) : Text := s.map Char.toLower

/-- The dialect of a file, told from its extension in any letter case. -/
def ofPath? (path : Text) : Option Dialect :=
  (Path.extension? path).bind fun e => ofExtension? (lower e)

/-- The dialect with a given short or full name, in any letter case. -/
def ofName? (name : Text) : Option Dialect :=
  all.find? fun d => lower name = d.short.toList || lower name = lower d.fullName.toList

/-- Markup elements are part of the dialect. Only plain typed sources do without them, and use
angle brackets for type assertions instead. -/
def hasMarkup : Dialect → Bool
  | typeScript => false
  | _ => true

end Dialect

end SpanWeave
