import SpanWeave.Pattern.Basic
import SpanWeave.Text.Utf8

namespace SpanWeave.Ignore

inductive Part where
  | char (c : Char)
  /-- One byte of a step. -/
  | any
  /-- Any bytes of a step. -/
  | star
  /-- Any steps at the front. -/
  | anyFront
  /-- Any steps at the end. -/
  | anyBack
  /-- Any steps, with a slash on each side. -/
  | anyBetween
  /-- One of a set of characters, given by ranges, or one that is not in it. -/
  | set (negated : Bool) (ranges : List (Char × Char))
  | choice (globs : List (List Part))

/-- A glob is a list of parts. -/
abbrev Glob := List Part

namespace Glob

/-- The rest of a set behind its bracket. `ranges` holds what was read, last first; `first` tells
that nothing was read yet, and `pending` that a hyphen was. -/
def readRanges : (first pending : Bool) → (ranges : List (Char × Char)) → Text →
    Option (List (Char × Char) × Text)
  | _, _, _, [] => none
  | first, pending, ranges, c :: s =>
      if c = ']' && !first then
        some ((if pending then ('-', '-') :: ranges else ranges).reverse, s)
      else if c = '-' && !first && !pending then readRanges false true ranges s
      else
        match pending, ranges with
        | true, (low, _) :: rest =>
            if c < low then none else readRanges false false ((low, c) :: rest) s
        | _, _ => readRanges false false ((c, c) :: ranges) s

/-- A set behind its bracket. -/
def readSet (s : Text) : Option (Part × Text) :=
  let negated := s.head? = some '!' || s.head? = some '^'
  match readRanges true false [] (if negated then s.drop 1 else s) with
  | some (ranges, rest) => some (.set negated ranges, rest)
  | none => none

/-- A glob while it is read: in each choice that is open, the globs before the current one and
the parts of the current one, last first; the innermost choice stands first, the whole glob
last. -/
abbrev Stack := List (List Glob × Glob)

/-- Adds a part to the current glob. -/
def push (p : Part) : Stack → Stack
  | (before, parts) :: outer => (before, p :: parts) :: outer
  | [] => []

/-- Adds two stars that stand for steps of their own, in place of the slash in front of them. -/
def pushSteps (atEnd : Bool) : Stack → Stack
  | (before, .anyFront :: parts) :: outer => (before, .anyFront :: parts) :: outer
  | (before, .anyBack :: parts) :: outer => (before, .anyBack :: parts) :: outer
  | (before, _ :: parts) :: outer =>
      (before, (if atEnd then .anyBack else .anyBetween) :: parts) :: outer
  | stack => stack

/-- Two stars, of which the second is read. They stand for whole steps only where steps begin
and end, and otherwise for two single stars. Gives the rest of the text too. -/
def readStars (previous : Option Char) (stack : Stack) (s : Text) : Stack × Text :=
  let single := (push .star (push .star stack), s)
  let inChoice := 2 ≤ stack.length
  match stack with
  | (_, []) :: _ =>
      match s with
      | [] => (push .anyFront stack, [])
      | c :: t => if c = '/' then (push .anyFront stack, t) else single
  | _ =>
      if previous ≠ some '/' && !(inChoice && (previous = some ',' || previous = some '\x7b')) then
        single
      else
        match s with
        | [] => (pushSteps true stack, [])
        | c :: t =>
            if inChoice && (c = ',' || c = '\x7d') then (pushSteps true stack, s)
            else if c = '/' then (pushSteps false stack, t)
            else single

/-- Reads a glob; `previous` is the character in front of the text. -/
def readFrom : (fuel : Nat) → (previous : Option Char) → Stack → Text → Option Glob
  | 0, _, _, _ => none
  | _ + 1, _, stack, [] =>
      match stack with
      | [([], parts)] => some parts.reverse
      | _ => none
  | fuel + 1, previous, stack, c :: s =>
      if c = '?' then readFrom fuel (some c) (push .any stack) s
      else if c = '*' then
        match s with
        | '*' :: t =>
            let (stack, rest) := readStars previous stack t
            readFrom fuel (some (if rest.length < t.length then '/' else '*')) stack rest
        | _ => readFrom fuel (some c) (push .star stack) s
      else if c = '[' then
        match readSet s with
        | some (p, rest) => readFrom fuel (some ']') (push p stack) rest
        | none => none
      else if c = '\x7b' then readFrom fuel (some c) (([], []) :: stack) s
      else if c = '\x7d' then
        match stack with
        | (before, parts) :: outer :: rest =>
            readFrom fuel (some c)
              (push (.choice (before ++ [parts.reverse])) (outer :: rest)) s
        | _ => none
      else if c = ',' then
        match stack with
        | (before, parts) :: outer :: rest =>
            readFrom fuel (some c) ((before ++ [parts.reverse], []) :: outer :: rest) s
        | _ => readFrom fuel (some c) (push (.char c) stack) s
      else if c = '\\' then
        match s with
        | d :: t => readFrom fuel (some d) (push (.char d) stack) t
        | [] => none
      else readFrom fuel (some c) (push (.char c) stack) s

/-- The glob with a written form, if the form has a meaning. -/
def read? (s : Text) : Option Glob := readFrom (s.length + 1) none [([], [])] s

/-- A byte as a character, for patterns that go by bytes. -/
def byteChar (b : UInt8) : Char := Char.ofNat b.toNat

def byteChars (s : Text) : Text := (Text.encode s).map byteChar

def anyByte : Pattern := .one (.compl .empty)

def stepByte : Pattern := .one (.compl (.range '/' '/'))

/-- The pattern as often as one likes. -/
def anyTimes (p : Pattern) : Pattern := .times p 0 none

/-- A text, byte by byte. -/
def literally (s : Text) : Pattern :=
  (byteChars s).foldr (fun c p => .cat (.one (.range c c)) p) .empty

/-- The bytes of the characters in a range: those of its ends, with all bytes from the last one
of the first character to the first one of the last character. -/
def rangeBytes (low high : Char) : Pattern.CharClass :=
  let bytes := (byteChars [low]).dropLast.map (fun c => Pattern.CharClass.range c c)
  let more := (byteChars [high]).drop 1 |>.map (fun c => Pattern.CharClass.range c c)
  let middle := Pattern.CharClass.range ((byteChars [low]).getLast?.getD low)
    ((byteChars [high]).head?.getD high)
  (bytes ++ more).foldl .union middle

def setBytes (ranges : List (Char × Char)) : Pattern.CharClass :=
  ranges.foldl (fun k r =>
    if r.1 = r.2 then (byteChars [r.1]).foldl (fun k c => .union k (.range c c)) k
    else .union k (rangeBytes r.1 r.2)) .empty

mutual

def partPattern : Part → Pattern
  | .char c => literally [c]
  | .any => stepByte
  | .star => anyTimes stepByte
  | .anyFront =>
      .alt (.times (literally ['/']) 0 (some 1)) (.cat (anyTimes anyByte) (literally ['/']))
  | .anyBack => .cat (literally ['/']) (anyTimes anyByte)
  | .anyBetween =>
      .alt (literally ['/']) (.cat (literally ['/']) (.cat (anyTimes anyByte) (literally ['/'])))
  | .set negated ranges =>
      .one (if negated then .compl (setBytes ranges) else setBytes ranges)
  | .choice globs => choicePattern globs

def partsPattern : List Part → Pattern
  | [] => .empty
  | p :: ps => .cat (partPattern p) (partsPattern ps)

/-- The pattern for one of several globs. Globs without parts do not count, and with no others
the choice stands for nothing at all. -/
def choicePattern : List (List Part) → Pattern
  | [] => .empty
  | [] :: globs => choicePattern globs
  | (p :: ps) :: globs => choiceFrom (.cat (partPattern p) (partsPattern ps)) globs

/-- The pattern for `first` or one of several globs. -/
def choiceFrom (first : Pattern) : List (List Part) → Pattern
  | [] => first
  | [] :: globs => choiceFrom first globs
  | (p :: ps) :: globs => .alt first (choiceFrom (.cat (partPattern p) (partsPattern ps)) globs)

end

/-- The pattern that finds a path exactly when the glob matches all of it. -/
def pattern : Glob → Pattern
  | [.anyFront] => anyTimes anyByte
  | g => .cat (.anchor .textStart) (.cat (partsPattern g) (.anchor .textEnd))

/-- The glob matches the whole path. -/
def isMatch (g : Glob) (path : Text) : Bool := (pattern g).isFoundIn (byteChars path)

end Glob

end SpanWeave.Ignore
