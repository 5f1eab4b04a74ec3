import SpanWeave.Syntax.Cursor

namespace SpanWeave.Syntax

/-- Characters that end a word: controls, white space and the marks of the language. -/
def isMark (c : Char) : Bool :=
  c.toNat < 0x20 || isSpace c ||
    ":;\x60\"'@#.,|^&<=>+-*/\\%?!~()[]\x7b\x7d".toList.contains c

def isHexDigit (c : Char) : Bool :=
  c.isDigit || ('a' ≤ c && c ≤ 'f') || ('A' ≤ c && c ≤ 'F')

def isOctalDigit (c : Char) : Bool := '0' ≤ c && c ≤ '7'

/-- Number of leading characters with property `p`. -/
def runLength (p : Char → Bool) (s : Text) : Nat := (s.takeWhile p).length

/-- Length of a Unicode escape without its backslash: `u` with four digits, or with digits in
braces. -/
def unicodeEscapeLength? : Text → Option Nat
  | 'u' :: '\x7b' :: s =>
      let n := runLength isHexDigit s
      if n > 0 && (s.drop n).head? == some '\x7d' then some (n + 3) else none
  | 'u' :: s => if 4 ≤ runLength isHexDigit (s.take 4) then some 5 else none
  | _ => none

/-- Length of the rest of a word, once `skip` characters of an escape are passed. -/
def wordTailLength : (skip : Nat) → Text → Nat
  | _, [] => 0
  | skip + 1, _ :: s => 1 + wordTailLength skip s
  | 0, c :: s =>
      if c == '\\' then
        match unicodeEscapeLength? s with
        | some n => 1 + wordTailLength n s
        | none => 0
      else if isMark c then 0
      else 1 + wordTailLength 0 s

/-- Length of the word at the head of a text; zero when there is none. -/
def wordLength (s : Text) : Nat :=
  match s with
  | [] => 0
  | c :: _ => if c.isDigit then 0 else wordTailLength 0 s

def wordAt (s : Text) : Text := s.take (wordLength s)

/-- Length of an escape sequence, backslash included. -/
def escapeLength? : Text → Option Nat
  | '\\' :: 'x' :: s => if 2 ≤ runLength isHexDigit (s.take 2) then some 4 else none
  | '\\' :: 'u' :: s => (unicodeEscapeLength? ('u' :: s)).map (· + 1)
  | '\\' :: '\r' :: c :: _ => if c == '\n' || isSeparator c then some 3 else some 2
  | '\\' :: '?' :: c :: _ => if c == '\n' || isSeparator c then some 3 else some 2
  | '\\' :: c :: s =>
      if isOctalDigit c then some (1 + runLength isOctalDigit ((c :: s).take 3)) else some 2
  | _ => none

/-- Digits of class `p` in groups divided by single underscores; `inner` when a digit stands in
front. -/
def groupedLength (p : Char → Bool) : (inner : Bool) → Text → Nat
  | _, [] => 0
  | inner, c :: s =>
      if p c then 1 + groupedLength p true s
      else if inner && c == '_' && s.head?.any p then 1 + groupedLength p false s
      else 0

/-- Length of an exponent such as `e-3`; zero when there is none. -/
def exponentLength (s : Text) : Nat :=
  match s with
  | e :: sign :: t =>
      if e == 'e' || e == 'E' then
        if sign == '-' || sign == '+' then
          let n := groupedLength Char.isDigit false t
          if n > 0 then n + 2 else 0
        else
          let n := groupedLength Char.isDigit false (sign :: t)
          if n > 0 then n + 1 else 0
      else 0
  | _ => 0

/-- Length of a literal with a base mark, such as `0x1F`; zero when no digit follows. -/
def radixLength (p : Char → Bool) (s : Text) : Nat :=
  let n := groupedLength p false s
  if n = 0 then 0 else
    let n := n + 2
    if (s.drop (n - 2)).head? == some 'n' then n + 1 else n

/-- Digits that may stand in front of a fraction or an exponent: a zero alone, or digits whose
first or second one is the first that is not zero. -/
def isWholePart : Text → Bool
  | ['0'] => true
  | '0' :: c :: _ => c.isDigit && c != '0'
  | c :: _ => c.isDigit
  | [] => false

/-- Length of the decimal literal at the head of a text. -/
def decimalLength (s : Text) : Nat :=
  let whole := groupedLength Char.isDigit false s
  let rest := s.drop whole
  let exact := isWholePart (s.take whole)
  match rest with
  | 'n' :: _ => if whole > 0 then whole + 1 else 0
  | '.' :: t =>
      let fraction := groupedLength Char.isDigit false t
      if whole = 0 && fraction = 0 then 0
      else if whole > 0 && !exact then whole
      else
        let n := whole + 1 + fraction
        n + exponentLength (s.drop n)
  | _ => if exact then whole + exponentLength rest else whole

/-- Length of the number at the head of a text; zero when there is none. -/
def numberLength (s : Text) : Nat :=
  match s with
  | '0' :: b :: t =>
      let special :=
        if b == 'x' || b == 'X' then radixLength isHexDigit t
        else if b == 'b' || b == 'B' then radixLength (fun c => c == '0' || c == '1') t
        else if b == 'o' || b == 'O' then radixLength isOctalDigit t
        else 0
      if special > 0 then special else decimalLength s
  | _ => decimalLength s

/-- Length of the body of a regular expression literal, up to its closing slash. A slash in a
character class does not close it. -/
def regexBodyEnd? : (inClass : Bool) → Text → Nat → Option Nat
  | _, [], _ => none
  | _, '\n' :: _, _ => none
  | _, '\\' :: [], _ => none
  | _, '\\' :: '\n' :: _, _ => none
  | k, '\\' :: _ :: s, n => regexBodyEnd? k s (n + 2)
  | false, '/' :: _, n => if n = 0 then none else some n
  | false, '[' :: s, n => regexBodyEnd? true s (n + 1)
  | true, ']' :: s, n => regexBodyEnd? false s (n + 1)
  | k, _ :: s, n => regexBodyEnd? k s (n + 1)

/-- Length of the body of the regular expression at the head of a text. -/
def regexBodyLength? : Text → Option Nat
  | '/' :: s => regexBodyEnd? false s 0
  | _ => none

end SpanWeave.Syntax
