import SpanWeave.Syntax.Rule

namespace SpanWeave.Syntax

/-- Number of characters up to and with the closing `quote`, which stands on the same line. -/
def quotedLength? (quote : Char) : (escaped : Bool) → Text → Nat → Option Nat
  | _, [], _ => none
  | true, _ :: s, n => quotedLength? quote false s (n + 1)
  | false, c :: s, n =>
      if c == quote then some (n + 1)
      else if c == '\n' then none
      else quotedLength? quote (c == '\\') s (n + 1)

/-- The bracket that closes `c`. -/
def closerOf? (c : Char) : Option Char :=
  if c == '(' then some ')'
  else if c == '[' then some ']'
  else if c == '\x7b' then some '\x7d'
  else none

/-- Words behind which an operand stands. -/
def leadingWords : List String :=
  ["return", "typeof", "case", "in", "of", "void", "delete", "do", "else", "instanceof", "new",
   "throw", "await", "yield", "extends", "default"]

/-- The text behind the bracket that closes the brackets `open`; `skip` characters are passed
first. In a template, whose mark is on the stack, only its end and a substitution count. The
flag tells whether an operand stands next, so a slash begins a regular expression. -/
def afterClose? : (skip : Nat) → (stack : List Char) → (operand : Bool) → Text → Option Text
  | _, [], _, s => some s
  | _, _ :: _, _, [] => none
  | skip + 1, stack, operand, _ :: s => afterClose? skip stack operand s
  | 0, top :: stack, operand, c :: s =>
      if top == '\x60' then
        if c == '\x60' then afterClose? 0 stack false s
        else if c == '\\' then afterClose? 1 (top :: stack) operand s
        else if c == '$' && s.head? == some '\x7b' then
          afterClose? 1 ('\x7d' :: top :: stack) true s
        else afterClose? 0 (top :: stack) operand s
      else if c == '\x60' then afterClose? 0 (c :: top :: stack) operand s
      else if c == '\x22' || c == '\x27' then
        afterClose? ((quotedLength? c false s 0).getD 0) (top :: stack) false s
      else if c == top then afterClose? 0 stack (c == '\x7d') s
      else if c == ')' || c == ']' || c == '\x7d' then none
      else
        match closerOf? c with
        | some d => afterClose? 0 (d :: top :: stack) true s
        | none =>
            if c == '/' then
              match commentLength? (c :: s) with
              | some n => afterClose? (n - 1) (top :: stack) operand s
              | none =>
                  match if operand then regexBodyLength? (c :: s) else none with
                  | some n => afterClose? (n + 1) (top :: stack) false s
                  | none => afterClose? 0 (top :: stack) true s
            else if isSpace c then afterClose? 0 (top :: stack) operand s
            else
              let n := wordTailLength 0 (c :: s)
              if n > 0 then
                afterClose? (n - 1) (top :: stack)
                  (leadingWords.contains (String.ofList ((c :: s).take n))) s
              else afterClose? 0 (top :: stack) true s

/-- What follows the bracket that closes the one at the head of a text, white space and
comments skipped. -/
def behindBracket? (s : Text) : Option Text :=
  match s with
  | c :: t =>
      match closerOf? c with
      | some d => (afterClose? 0 [d] true t).map fun u => (Cursor.ofText u).ahead
      | none => none
  | [] => none

def arrowStands (s : Text) : Bool := Text.startsWith s "=>".toList

/-- The parentheses ahead are followed by an arrow. -/
def parametersAhead : Rule Bool := do
  return (behindBracket? (← ahead)).any arrowStands

/-- The parentheses ahead are followed by a colon, which may announce a result type. -/
def annotationBehind : Rule Bool := do
  return (behindBracket? (← ahead)).any fun s => s.head? == some ':'

/-- An assignment sign stands at the head of a text. -/
def assignmentStands : Text → Bool
  | '=' :: s => !(s.head? == some '=' || s.head? == some '>')
  | _ => false

def targetAhead : Rule Bool := do
  return (behindBracket? (← ahead)).any assignmentStands

end SpanWeave.Syntax
