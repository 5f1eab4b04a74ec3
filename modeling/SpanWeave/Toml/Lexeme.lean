import SpanWeave.Text.Basic

namespace SpanWeave.Toml

/-- Takes something from the front of a text. -/
abbrev Reader (α : Type) := StateT Text Option α

def isSpace (c : Char) : Bool := c = ' ' || c = '\t'

/-- Characters that may stand in comments and strings: no controls but the tab. -/
def isPrintable (c : Char) : Bool := c = '\t' || (0x20 ≤ c.toNat && c.toNat ≠ 0x7F)

def isHexDigit (c : Char) : Bool :=
  c.isDigit || ('a' ≤ c && c ≤ 'f') || ('A' ≤ c && c ≤ 'F')

def rest : Reader Text := get

/-- Succeeds exactly when `b` holds. -/
def require (b : Bool) : Reader Unit := if b then pure () else failure

/-- Takes `lead`. -/
def literal (lead : String) : Reader Unit := do
  match Text.afterLead? lead.toList (← rest) with
  | some s => set s
  | none => failure

/-- Takes `lead` if it stands there, and tells whether it did. -/
def taken (lead : String) : Reader Bool := do
  match Text.afterLead? lead.toList (← rest) with
  | some s => set s; return true
  | none => return false

/-- Takes all leading characters with a property. -/
def takeWhile (p : Char → Bool) : Reader Text := do
  let s ← rest
  set (s.dropWhile p)
  return s.takeWhile p

/-- Takes `n` characters. -/
def takeN (n : Nat) : Reader Text := do
  let s ← rest
  require (n ≤ s.length)
  set (s.drop n)
  return s.take n

/-- Takes a line end. -/
def newline : Reader Unit := do
  if !(← taken "\r\n") then literal "\n"

def spaces : Reader Unit := do discard (takeWhile isSpace)

/-- The number that digits in a base stand for; digits are grouped by underscores. -/
def numeral (base : Nat) (digits : Text) : Nat :=
  digits.foldl (fun n c =>
    if c = '_' then n
    else if c.isDigit then n * base + (c.toNat - 48)
    else n * base + (c.toLower.toNat - 87)) 0

/-- An escape sequence behind its backslash. -/
def escape : Reader Char := do
  match ← takeN 1 with
  | ['b'] => return '\x08'
  | ['t'] => return '\t'
  | ['n'] => return '\n'
  | ['f'] => return '\x0c'
  | ['r'] => return '\r'
  | ['\x22'] => return '\x22'
  | ['\\'] => return '\\'
  | ['u'] => scalar 4
  | ['U'] => scalar 8
  | _ => failure
where
  /-- A character by its number in `n` digits. -/
  scalar (n : Nat) : Reader Char := do
    let digits ← takeN n
    require (digits.all isHexDigit)
    let code := numeral 16 digits
    require (code < 0xD800 || (0xE000 ≤ code && code ≤ 0x10FFFF))
    return Char.ofNat code

/-- The rest of a string on one line, up to its closing quote. -/
def basicTail : Nat → Reader Text
  | 0 => failure
  | fuel + 1 => do
      match ← takeN 1 with
      | ['\x22'] => return []
      | ['\\'] => return (← escape) :: (← basicTail fuel)
      | [c] =>
          require (isPrintable c)
          return c :: (← basicTail fuel)
      | _ => failure

/-- A string on one line, in which nothing is escaped. -/
def plainString : Reader Text := do
  literal "'"
  let s ← takeWhile fun c => c ≠ '\x27' && isPrintable c
  literal "'"
  return s

def basicString : Reader Text := fun s =>
  (do literal "\""; basicTail (s.length + 1) : Reader Text) s

def quotes (quote : Char) (s : Text) : Nat := (s.takeWhile fun c => c = quote).length

/-- The rest of a string over several lines, up to its three closing quotes; up to two more
quotes in front of those belong to it. With escapes, a backslash at the end of a line joins the
lines. -/
def linesTail (quote : Char) (escapes : Bool) : Nat → Reader Text
  | 0 => failure
  | fuel + 1 => do
      let s ← rest
      let n := quotes quote s
      if 3 ≤ n then
        require (n ≤ 5)
        discard (takeN n)
        return List.replicate (n - 3) quote
      else
        match s with
        | [] => failure
        | '\r' :: '\n' :: _ =>
            discard (takeN 2)
            return '\n' :: (← linesTail quote escapes fuel)
        | '\n' :: _ =>
            discard (takeN 1)
            return '\n' :: (← linesTail quote escapes fuel)
        | c :: t =>
            if escapes && c = '\\' then
              let blank := t.dropWhile isSpace
              if blank.head? = some '\n' || Text.startsWith blank "\r\n".toList then
                set blank
                newline
                joined fuel
                linesTail quote escapes fuel
              else
                discard (takeN 1)
                return (← escape) :: (← linesTail quote escapes fuel)
            else
              require (isPrintable c)
              discard (takeN 1)
              return c :: (← linesTail quote escapes fuel)
where
  joined : Nat → Reader Unit
    | 0 => pure ()
    | fuel + 1 => do
        spaces
        let s ← rest
        if s.head? = some '\n' || Text.startsWith s "\r\n".toList then
          newline
          joined fuel

/-- A string in three quotes. A line end right behind them is dropped. -/
def longString (quote : Char) (escapes : Bool) : Reader Text := do
  literal (String.ofList [quote, quote, quote])
  if !(← taken "\r\n") then discard (taken "\n")
  let s ← rest
  linesTail quote escapes (s.length + 1)

def string : Reader Text := fun s =>
  if 3 ≤ quotes '\x22' s then longString '\x22' true s
  else if 3 ≤ quotes '\x27' s then longString '\x27' false s
  else if s.head? = some '\x22' then basicString s
  else plainString s

def simpleKey : Reader Text := do
  match (← rest).head? with
  | some '\x22' => basicString
  | some '\x27' => plainString
  | _ =>
      let k ← takeWhile fun c => c.isAlphanum || c = '-' || c = '_'
      require (k ≠ [])
      return k

/-- A key has fewer parts than this. -/
def maxParts : Nat := 80

/-- A key, perhaps with dots, and the blank space around its parts. -/
def key : Reader (List Text × Text) := fun s =>
  let rec parts : Nat → Reader (List Text × Text)
    | 0 => failure
    | fuel + 1 => do
        spaces
        let k ← simpleKey
        spaces
        if ← taken "." then
          let (path, last) ← parts fuel
          return (k :: path, last)
        else return ([], k)
  parts (maxParts - 1) s

/-- Digits of a class, in groups divided by single underscores; `inner` when a digit stands in
front. -/
def grouped (p : Char → Bool) : (inner : Bool) → Text → Text
  | _, [] => []
  | inner, c :: s =>
      if p c then c :: grouped p true s
      else if inner && c = '_' && s.head?.any p then c :: grouped p false s
      else []

def digits (p : Char → Bool) : Reader Text := do
  let s ← rest
  let ds := grouped p false s
  require (ds ≠ [])
  set (s.drop ds.length)
  return ds

def maxWhole : Nat := 9223372036854775807

/-- A whole number in a base other than ten. -/
def radixNumber (lead : String) (base : Nat) (p : Char → Bool) : Reader Unit := do
  literal lead
  let ds ← digits p
  require (numeral base ds ≤ maxWhole)

/-- A number with `whole` digits and a tenth power is too large to be told from infinity. -/
def overflows (mantissa : Text) (exponent : Int) : Bool :=
  let ds := (mantissa.filter fun c => c ≠ '_').dropWhile fun c => c = '0'
  let magnitude := (ds.length : Int) + exponent
  if ds = [] || magnitude < 300 then false
  else if 310 < magnitude then true
  else
    let limit := Nat.pow 2 1024 - Nat.pow 2 970
    let n := numeral 10 ds
    let power := Nat.pow 10 exponent.natAbs
    if exponent < 0 then limit * power ≤ n else limit ≤ n * power

/-- A whole or fractional number in base ten. -/
def decimalNumber : Reader Unit := do
  let negative ← taken "-"
  if !negative then discard (taken "+")
  if (← taken "inf") || (← taken "nan") then return
  let whole ← do
    if ← taken "0" then pure ['0'] else digits Char.isDigit
  let fraction ← do
    if ← taken "." then some <$> digits Char.isDigit else pure none
  let power ← do
    if (← taken "e") || (← taken "E") then
      let down ← taken "-"
      if !down then discard (taken "+")
      let ds ← digits Char.isDigit
      let n := numeral 10 ds
      pure (some (if down then -(n : Int) else n))
    else pure none
  match fraction, power with
  | none, none =>
      require (numeral 10 whole ≤ if negative then maxWhole + 1 else maxWhole)
  | _, _ =>
      let f := (fraction.getD []).filter fun c => c ≠ '_'
      require (negative || !overflows (whole ++ f) (power.getD 0 - f.length))

/-- A number of exactly `n` digits between two bounds. -/
def field (n least most : Nat) : Reader Nat := do
  let ds ← takeN n
  require (ds.all Char.isDigit)
  let v := numeral 10 ds
  require (least ≤ v && v ≤ most)
  return v

def daysIn (year month : Nat) : Nat :=
  if month = 2 then
    if year % 4 = 0 && (year % 100 ≠ 0 || year % 400 = 0) then 29 else 28
  else if month = 4 || month = 6 || month = 9 || month = 11 then 30
  else 31

def time : Reader Unit := do
  discard (field 2 0 23)
  literal ":"
  discard (field 2 0 59)
  literal ":"
  discard (field 2 0 60)
  if ← taken "." then
    require ((← takeWhile Char.isDigit) ≠ [])

/-- A distance from the common time. -/
def offset : Reader Unit := do
  if (← taken "Z") || (← taken "z") then return
  if (← taken "+") || (← taken "-") then
    discard (field 2 0 23)
    literal ":"
    discard (field 2 0 59)

/-- A date, perhaps with a time of day. -/
def date : Reader Unit := do
  let year ← field 4 0 9999
  literal "-"
  let month ← field 2 1 12
  literal "-"
  discard (field 2 1 (daysIn year month))
  match ← rest with
  | c :: t =>
      if (c = 'T' || c = 't' || c = ' ') && ((t.take 3).map Char.isDigit = [true, true, false]) &&
          (t.drop 2).head? = some ':' then
        set t
        time
        offset
  | [] => return

/-- `n` digits stand in front of the mark `c`. -/
def digitsBefore (n : Nat) (c : Char) (s : Text) : Bool :=
  (s.takeWhile Char.isDigit).length = n && (s.drop n).head? = some c

def number : Reader Unit := do
  let s ← rest
  if digitsBefore 4 '-' s then date
  else if digitsBefore 2 ':' s then time
  else if Text.startsWith s "0x".toList then radixNumber "0x" 16 isHexDigit
  else if Text.startsWith s "0o".toList then radixNumber "0o" 8 fun c => '0' ≤ c && c ≤ '7'
  else if Text.startsWith s "0b".toList then radixNumber "0b" 2 fun c => c = '0' || c = '1'
  else decimalNumber

end SpanWeave.Toml
