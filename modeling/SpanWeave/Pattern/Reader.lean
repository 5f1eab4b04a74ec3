import SpanWeave.Pattern.Property
import SpanWeave.Pattern.Size
import SpanWeave.Text.Blank

namespace SpanWeave.Pattern

/-- Switches that change the meaning of what follows them. -/
structure Flags where
  ignoreCase : Bool := false
  multiLine : Bool := false
  dotAll : Bool := false
  verbose : Bool := false
  unicode : Bool := true
  returns : Bool := false

/-- A reader's state: what is left, the switches in force and the group names used. -/
structure State where
  rest : Text
  flags : Flags
  names : List Text

/-- A reader of a part of a pattern. -/
abbrev Reader (α : Type) := StateT State Option α

def peek : Reader (Option Char) := do return (← get).rest.head?

/-- Passes `n` characters. -/
def drop (n : Nat) : Reader Unit := modify fun s => { s with rest := s.rest.drop n }

/-- Passes `lead` if it is next, and tells whether it was. -/
def taken (lead : String) : Reader Bool := do
  match Text.afterLead? lead.toList (← get).rest with
  | some t =>
      modify fun s => { s with rest := t }
      return true
  | none => return false

/-- White space and comments in front of a text. -/
def afterBlank : (inComment : Bool) → Text → Text
  | _, [] => []
  | true, c :: s => afterBlank (c != '\n') s
  | false, c :: s =>
      if c = '#' then afterBlank true s
      else if Text.isBlank c then afterBlank false s
      else c :: s

/-- Passes white space and comments where the switches say that they do not count. -/
def skipBlank : Reader Unit := modify fun s =>
  if s.flags.verbose then { s with rest := afterBlank false s.rest } else s

def hexValue (ds : Text) : Nat :=
  ds.foldl (fun n d => 16 * n + (if d.isDigit then d.toNat - '0'.toNat
    else if d.isUpper then d.toNat - 'A'.toNat + 10 else d.toNat - 'a'.toNat + 10)) 0

def isHex (c : Char) : Bool :=
  c.isDigit || ('a' ≤ c && c ≤ 'f') || ('A' ≤ c && c ≤ 'F')

def charOf? (n : Nat) : Option Char :=
  if n < 0xD800 || (0xDFFF < n && n < 0x110000) then some (Char.ofNat n) else none

/-- Characters while `keep` holds, at most `limit` of them. White space and comments in front
of each and behind the last are passed where they do not count. -/
def gather (keep : Char → Bool) : (limit : Nat) → Reader Text
  | 0 => return []
  | limit + 1 => do
      match ← peek with
      | some c =>
          if keep c then
            drop 1
            skipBlank
            return c :: (← gather keep limit)
          else return []
      | none => return []

/-- The text up to a closing brace, which is passed too. White space and comments in the text
are left out where they do not count. -/
def braced (keep : Char → Bool) : Reader Text := do
  drop 1
  skipBlank
  let body ← gather (fun c => c ≠ '\x7d' && keep c) (← get).rest.length
  if !(← taken "\x7d") then failure
  return body

/-- A character by its code: in braces, or with a fixed number of digits. -/
def hexEscape (digits : Nat) : Reader Char := do
  skipBlank
  let inBraces := (← peek) = some '\x7b'
  let ds ← if inBraces then braced isHex else gather isHex digits
  skipBlank
  if ds = [] || !inBraces && ds.length ≠ digits then failure
  (charOf? (hexValue ds) : Option Char)

/-- What an escape stands for. -/
inductive Escape where
  | char (c : Char)
  | cls (c : CharClass)
  | anchor (a : Anchor)

/-- The class behind a property's name, closed under case if the switches say so. -/
def propertyClass (f : Flags) (p : Option CharClass) (negated : Bool) : Option CharClass :=
  if f.unicode then
    p.map fun q =>
      let c := if f.ignoreCase then .anyCase q else q
      if negated then .compl c else c
  else none

/-- The text in front of `mark` and the text behind it. -/
def splitAt? (mark : Text) : Text → Option (Text × Text)
  | [] => none
  | c :: s =>
      match Text.afterLead? mark (c :: s) with
      | some t => some ([], t)
      | none => (splitAt? mark s).map fun (a, b) => (c :: a, b)

/-- The named property behind an escape. -/
def propertyEscape (negated : Bool) : Reader CharClass := do
  skipBlank
  let f := (← get).flags
  match ← peek with
  | some '\x7b' =>
      let body ← braced fun _ => true
      match splitAt? "!=".toList body with
      | some (kind, value) =>
          (propertyClass f (Property.valued? kind value) (!negated) : Option CharClass)
      | none =>
          match (splitAt? [':'] body).or (splitAt? ['='] body) with
          | some (kind, value) =>
              (propertyClass f (Property.valued? kind value) negated : Option CharClass)
          | none => (propertyClass f (Property.named? body) negated : Option CharClass)
  | some c =>
      drop 1
      skipBlank
      (propertyClass f (Property.named? [c]) negated : Option CharClass)
  | none => failure

/-- Digits, white space and words, and their complements. Without the switch for Unicode only
the basic Latin block counts, and complements have no meaning. -/
def shorthandClass (f : Flags) (c : Char) : Option CharClass :=
  let base : CharClass :=
    if c.toLower = 'd' then
      if f.unicode then .runs Text.Category.decimalDigits else .range '0' '9'
    else if c.toLower = 's' then
      if f.unicode then Property.whiteSpace else .ofRanges [('\t', '\r'), (' ', ' ')]
    else if f.unicode then Property.word
    else .ofRanges [('0', '9'), ('A', 'Z'), ('a', 'z'), ('_', '_')]
  if c.isLower then some base
  else if f.unicode then some (.compl base)
  else none

/-- A word boundary, or one of its special forms in braces. -/
def boundaryEscape (latin : Bool) : Reader Escape := do
  let s ← get
  let named := fun (c : Char) => c.isAlpha || c = '-'
  if s.rest.head? ≠ some '\x7b' then return .anchor (.wordBoundary latin)
  drop 1
  skipBlank
  if !(← peek).any named then
    set s
    return .anchor (.wordBoundary latin)
  let name ← gather named s.rest.length
  if !(← taken "\x7d") then failure
  match String.ofList name with
  | "start" => return .anchor (.wordStart latin)
  | "end" => return .anchor (.wordEnd latin)
  | "start-half" => return .anchor (.wordStartHalf latin)
  | "end-half" => return .anchor (.wordEndHalf latin)
  | _ => failure

def escape : Reader Escape := do
  match (← get).rest with
  | [] => failure
  | c :: _ =>
      drop 1
      let f := (← get).flags
      let latin := !f.unicode
      if c = 'a' then return .char '\x07'
      else if c = 'f' then return .char '\x0c'
      else if c = 't' then return .char '\t'
      else if c = 'n' then return .char '\n'
      else if c = 'r' then return .char '\r'
      else if c = 'v' then return .char '\x0b'
      else if c = 'x' then
        skipBlank
        let inBraces := (← peek) = some '\x7b'
        let d ← hexEscape 2
        if latin && !inBraces && 128 ≤ d.toNat then failure
        return .char d
      else if c = 'u' then return .char (← hexEscape 4)
      else if c = 'U' then return .char (← hexEscape 8)
      else if c = 'p' then return .cls (← propertyEscape false)
      else if c = 'P' then return .cls (← propertyEscape true)
      else if "dswDSW".toList.contains c then
        return .cls (← (shorthandClass f c : Option CharClass))
      else if c = 'A' then return .anchor .textStart
      else if c = 'z' then return .anchor .textEnd
      else if c = 'b' then boundaryEscape latin
      else if c = 'B' then return .anchor (.noWordBoundary latin)
      else if c = '<' then return .anchor (.wordStart latin)
      else if c = '>' then return .anchor (.wordEnd latin)
      else if c.toNat < 128 && !c.isAlphanum then return .char c
      else failure

/-- A class closed under case if the switches say so. -/
def cased (f : Flags) (c : CharClass) : CharClass :=
  if !f.ignoreCase then c else if f.unicode then .anyCase c else .anyLatinCase c

/-- One item of a set: a character, or a class in short form. Without the switch for Unicode
a set has characters of the basic Latin block alone. -/
def setItem : Reader Escape := do
  let s ← get
  let item ← (do
    match s.rest with
    | [] => failure
    | '\\' :: _ =>
        drop 1
        escape
    | c :: _ =>
        drop 1
        return .char c : Reader Escape)
  match item with
  | .anchor _ => failure
  | .char c => if !s.flags.unicode && 128 ≤ c.toNat then failure else return item
  | .cls _ => return item

/-- The character that decides what a hyphen means: the next one, where white space and one
comment sign in front of it may not count. -/
def behindHyphen (f : Flags) (s : Text) : Option Char :=
  let t := s.drop 1
  if !f.verbose then t.head?
  else
    match t.dropWhile Text.isBlank with
    | '#' :: u => (u.dropWhile Text.isBlank).head?
    | u => u.head?

/-- A character or a range of characters in a set. -/
def setRange : Reader CharClass := do
  let first ← setItem
  skipBlank
  let s := (← get).rest
  if s = [] then failure
  let behind := behindHyphen (← get).flags s
  if s.head? ≠ some '-' || behind = some ']' || behind = some '-' then
    match first with
    | .char c => return .single c
    | .cls c => return c
    | .anchor _ => failure
  else
    drop 1
    skipBlank
    match first, ← setItem with
    | .char a, .char b => if a ≤ b then return .range a b else failure
    | _, _ => failure

/-- A class by its name between colons, such as `[:alpha:]`, whether it is negated, and the
length of its written form. -/
def namedSet? (s : Text) : Option (CharClass × Bool × Nat) :=
  match s with
  | '[' :: ':' :: t =>
      let (negated, t) := match t with
        | '^' :: u => (true, u)
        | u => (false, u)
      let name := t.takeWhile fun c => c ≠ ':'
      if (t.drop name.length).take 2 = ":]".toList then
        (asciiClass? name).map fun c => (c, negated, 4 + name.length + if negated then 1 else 0)
      else none
  | _ => none

/-- An operation between two sets. -/
inductive SetOp where
  | inter
  | diff
  | symmDiff

/-- The result of an operation between sets. -/
def SetOp.apply (f : Flags) : SetOp → CharClass → CharClass → CharClass
  | .inter, a, b => .inter (cased f a) (cased f b)
  | .diff, a, b => .diff (cased f a) (cased f b)
  | .symmDiff, a, b => .symmDiff (cased f a) (cased f b)

/-- The operation still to be done with the set on its left, applied to the set on its right. -/
def finishOp (f : Flags) (pending : Option (SetOp × CharClass)) (right : CharClass) :
    CharClass :=
  match pending with
  | some (op, left) => op.apply f left right
  | none => right

/-- The operation that is next in a set. -/
def setOp? (s : Text) : Option SetOp :=
  match s with
  | '&' :: '&' :: _ => some .inter
  | '-' :: '-' :: _ => some .diff
  | '~' :: '~' :: _ => some .symmDiff
  | _ => none

def negate (f : Flags) (negated : Bool) (c : CharClass) : Reader CharClass :=
  if !negated then pure c
  else if f.unicode then pure (.compl c)
  else failure

/-- Hyphens at the beginning of a set stand for themselves. -/
def leadingHyphens : Nat → CharClass → Reader CharClass
  | 0, _ => failure
  | fuel + 1, c => do
      if (← peek) = some '-' then
        drop 1
        skipBlank
        leadingHyphens fuel (.union c (.single '-'))
      else return c

/-- A set behind its opening bracket, up to and with the closing one. -/
def setBody : Nat → (pending : Option (SetOp × CharClass)) → (found : CharClass) →
    Reader CharClass
  | 0, _, _ => failure
  | fuel + 1, pending, found => do
      skipBlank
      let s ← get
      match s.rest with
      | [] => failure
      | '[' :: _ =>
          match namedSet? s.rest with
          | some (c, negated, n) =>
              drop n
              let c ← negate s.flags negated (cased s.flags c)
              setBody fuel pending (.union found c)
          | none =>
              drop 1
              skipBlank
              let negated ← taken "^"
              skipBlank
              let mut start ← leadingHyphens (fuel + 1) .empty
              if (← peek) = some ']' && (match start with | .empty => true | _ => false) then
                drop 1
                skipBlank
                start := .single ']'
              let inner ← setBody fuel none start
              let inner ← negate s.flags negated (cased s.flags inner)
              setBody fuel pending (.union found inner)
      | ']' :: _ =>
          drop 1
          return finishOp s.flags pending found
      | _ =>
          match setOp? s.rest with
          | some op =>
              drop 2
              setBody fuel (some (op, finishOp s.flags pending found)) .empty
          | none =>
              let c ← setRange
              setBody fuel pending (.union found c)

def bracketed (fuel : Nat) : Reader CharClass := do
  let f := (← get).flags
  drop 1
  skipBlank
  let negated ← taken "^"
  skipBlank
  let mut start ← leadingHyphens fuel .empty
  if (← peek) = some ']' && (match start with | .empty => true | _ => false) then
    drop 1
    skipBlank
    start := .single ']'
  let c ← setBody fuel none start
  negate f negated (cased f c)

/-- A decimal number of at most 32 bits, with white space around it. -/
def decimal : Reader Nat := do
  modify fun s => { s with rest := s.rest.dropWhile Text.isBlank }
  let ds ← gather Char.isDigit (← get).rest.length
  if ds = [] then failure
  modify fun s => { s with rest := s.rest.dropWhile Text.isBlank }
  skipBlank
  let n := ds.foldl (fun n d => 10 * n + (d.toNat - '0'.toNat)) 0
  if n < 4294967296 then return n else failure

/-- How often something is repeated, in braces. -/
def counts : Reader (Nat × Option Nat) := do
  drop 1
  skipBlank
  let least ← decimal
  let range ← (do
    if ← taken "," then
      skipBlank
      if (← peek) = some '\x7d' then return (least, none)
      return (least, some (← decimal))
    else return (least, some least) : Reader (Nat × Option Nat))
  if !(← taken "\x7d") then failure
  skipBlank
  if range.2.any fun m => m < range.1 then failure
  return range

/-- The switches behind a question mark: those on, and behind a hyphen those off. -/
def flagList : Nat → (off : Bool) → (seen : List Char) → Flags → Reader (Flags × List Char × Bool)
  | 0, _, _, _ => failure
  | fuel + 1, off, seen, f => do
      match (← get).rest with
      | [] => failure
      | c :: _ =>
          if c = ':' || c = ')' then return (f, seen, off)
          drop 1
          if c = '-' then
            if off then failure
            flagList fuel true seen f
          else
            if seen.contains c then failure
            let on := !off
            let f ← (
              if c = 'i' then some { f with ignoreCase := on }
              else if c = 'm' then some { f with multiLine := on }
              else if c = 's' then some { f with dotAll := on }
              else if c = 'x' then some { f with verbose := on }
              else if c = 'u' then some { f with unicode := on }
              else if c = 'R' then some { f with returns := on }
              else if c = 'U' then some f
              else none : Option Flags)
            flagList fuel off (c :: seen) f

/-- The name of a group up to and with its closing bracket. -/
def groupName : Reader Unit := do
  let s ← get
  let name := s.rest.takeWhile fun c => c ≠ '>'
  if name.length = s.rest.length then failure
  match name with
  | [] => failure
  | c :: t =>
      if !(c = '_' || Text.isAlphabetic c) then failure
      if !t.all (fun d => d = '_' || d = '.' || d = '[' || d = ']' || Text.isAlphanumeric d) then
        failure
  if s.names.contains name then failure
  set { s with rest := s.rest.drop (name.length + 1), names := name :: s.names }

/-- What an opening parenthesis begins: a group with its switches, whose place may be kept, or a
change of the switches. -/
def groupHead : Reader (Option (Bool × Flags)) := do
  let s ← get
  drop 1
  skipBlank
  if ← taken "?P<" then
    groupName
    return some (true, s.flags)
  if Text.startsWith (← get).rest "?<=".toList || Text.startsWith (← get).rest "?<!".toList then
    failure
  if ← taken "?<" then
    groupName
    return some (true, s.flags)
  if ← taken "?" then
    let t := (← get).rest
    let (f, seen, off) ← flagList (t.length + 1) false [] s.flags
    if off && (t.takeWhile fun c => c ≠ ':' && c ≠ ')').getLast? = some '-' then failure
    if ← taken ":" then return some (false, f)
    drop 1
    if seen = [] then failure
    modify fun s => { s with flags := f }
    return none
  return some (true, s.flags)

/-- Items one after another. -/
def catAll : List Pattern → Pattern
  | [] => .empty
  | [p] => p
  | p :: ps => .cat p (catAll ps)

def altAll : List Pattern → Pattern
  | [] => .empty
  | [p] => p
  | p :: ps => .alt p (altAll ps)

/-- A single character as a pattern. -/
def literal (f : Flags) (c : Char) : Pattern := .one (cased f (.single c))

/-- The dot: every character, or every one that ends no line. -/
def dot (f : Flags) : Reader Pattern :=
  if !f.unicode then failure
  else if f.dotAll then pure (.one (.compl .empty))
  else if f.returns then pure (.one (.compl (.union (.single '\r') (.single '\n'))))
  else pure (.one (.compl (.single '\n')))

/-- Alternatives up to a closing parenthesis or the end. The items of the current alternative
are kept last first; `none` among them is a change of switches, which cannot be repeated. -/
def branches : Nat → (done : List Pattern) → (items : List (Option Pattern)) → Reader Pattern
  | 0, _, _ => failure
  | fuel + 1, done, items => do
      skipBlank
      let s ← get
      let f := s.flags
      let current := catAll (items.reverse.map fun p => p.getD .empty)
      let repeatLast (least : Nat) (most : Option Nat) : Reader Pattern := do
        match items with
        | some p :: rest =>
            let _ ← taken "?"
            branches fuel done (some (.times p least most) :: rest)
        | _ => failure
      match s.rest with
      | [] => return altAll (done ++ [current])
      | c :: _ =>
          if c = ')' then return altAll (done ++ [current])
          else if c = '|' then
            drop 1
            branches fuel (done ++ [current]) []
          else if c = '(' then
            match ← groupHead with
            | none => branches fuel done (none :: items)
            | some (kept, inner) =>
                modify fun s => { s with flags := inner }
                let p ← branches fuel [] []
                if !(← taken ")") then failure
                modify fun s => { s with flags := f }
                branches fuel done (some (.group kept p) :: items)
          else if c = '*' then
            drop 1
            repeatLast 0 none
          else if c = '+' then
            drop 1
            repeatLast 1 none
          else if c = '?' then
            drop 1
            repeatLast 0 (some 1)
          else if c = '\x7b' then
            if !(items.head?.any Option.isSome) then failure
            let (least, most) ← counts
            repeatLast least most
          else if c = '[' then
            let set ← bracketed (fuel + 1)
            branches fuel done (some (.one set) :: items)
          else if c = '.' then
            drop 1
            let p ← dot f
            branches fuel done (some p :: items)
          else if c = '^' then
            drop 1
            let a := if f.multiLine then Anchor.lineStart f.returns else .textStart
            branches fuel done (some (.anchor a) :: items)
          else if c = '$' then
            drop 1
            let a := if f.multiLine then Anchor.lineEnd f.returns else .textEnd
            branches fuel done (some (.anchor a) :: items)
          else if c = '\\' then
            drop 1
            let p ← (do
              match ← escape with
              | .char d => return literal f d
              | .cls k => return .one k
              | .anchor a => return .anchor a : Reader Pattern)
            branches fuel done (some p :: items)
          else
            drop 1
            branches fuel done (some (literal f c) :: items)

/-- The pattern with a written form, if the form has a meaning and the pattern is not too
large. -/
def read? (source : Text) : Option Pattern :=
  match branches (source.length + 2) [] [] ⟨source, {}, []⟩ with
  | some (p, s) => if s.rest = [] && p.fits then some p else none
  | none => none

end SpanWeave.Pattern
