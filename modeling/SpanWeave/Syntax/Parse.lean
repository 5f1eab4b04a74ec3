import SpanWeave.Syntax.Statements

namespace SpanWeave.Syntax

/-- The rule of each goal. -/
def produce (g : Grammar) : Goal → Rule Forest
  | .statement => statementRule g
  | .declaration soft => declarationRule g soft
  | .block p => blockRule g p
  | .expressions m => expressionsRule g m
  | .expression m => expressionRule g m
  | .binary level m => binaryRule g level m
  | .operand m => operandRule g m
  | .chain m => chainRule g m
  | .type m => anyType g m
  | .pattern => anyPattern g
  | .parameters => formalParameters g
  | .classBody => classBody g
  | .element => markupElement g

/-- The reader whose rules are nested at most `depth` deep. -/
def derive (markup : Bool) : (depth : Nat) → Goal → Rule Forest
  | 0, _ => failure
  | depth + 1, goal => produce ⟨markup, derive markup depth⟩ goal

/-- The line that names the interpreter of a script. -/
def hashBangLine : Rule Forest := do
  let s ← ahead
  require (Text.startsWith s "#!".toList)
  thenFresh true (lexeme .hashBangLine (runLength (fun c => c != '\n') s))

def programRule (g : Grammar) : Rule Forest := do
  let ns ← seq [optionally hashBangLine, many (g.read .statement), comments]
  require (← get).rest.isEmpty
  return ns

/-- Between two characters read, rules nest less deep than this. -/
def depthPerCharacter : Nat := 24

/-- The syntax tree of a source, if the whole of it follows the grammar. A null character stands
in no source. -/
def parse? (markup : Bool) (source : Text) : Option Node :=
  let depth := depthPerCharacter * (source.length + 1)
  if source.any fun c => c.toNat == 0 then none
  else
    match programRule ⟨markup, derive markup depth⟩ (.ofText source) with
    | some (ns, _) => some (.mk .program none ⟨0, Text.byteSize source⟩ ns)
    | none => none

end SpanWeave.Syntax
