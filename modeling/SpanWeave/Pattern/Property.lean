import SpanWeave.Pattern.CharClass
import SpanWeave.Text.Age
import SpanWeave.Text.Casing
import SpanWeave.Text.Segment
import SpanWeave.Text.SharedScript
import SpanWeave.Text.Shown
import SpanWeave.Text.Script
import SpanWeave.Text.Trait

namespace SpanWeave.Pattern.Property

open CharClass Text.Category

def letters : CharClass :=
  ofTables [uppercaseLetters, lowercaseLetters, titlecaseLetters, modifierLetters, otherLetters]

def marks : CharClass := ofTables [nonspacingMarks, spacingMarks, enclosingMarks]

def numbers : CharClass := ofTables [decimalDigits, letterNumbers, otherNumbers]

def punctuation : CharClass :=
  ofTables [connectors, dashes, openers, closers, initialQuotes, finalQuotes, otherPunctuation]

/-- The general category of signs. -/
def symbols : CharClass :=
  ofTables [mathSymbols, currencySymbols, modifierSymbols, otherSymbols]

def separators : CharClass := ofTables [spaces, lineSeparators, paragraphSeparators]

/-- What belongs to none of these categories. -/
def other : CharClass :=
  CharClass.compl (anyOf [letters, marks, numbers, punctuation, symbols, separators])

def unassigned : CharClass := diff other (ofTables [controls, formats, privateUse])

def categories : List (List String × CharClass) :=
  [(["l", "letter"], letters),
   (["lc", "casedletter"], ofTables [uppercaseLetters, lowercaseLetters, titlecaseLetters]),
   (["lu", "uppercaseletter"], runs uppercaseLetters),
   (["ll", "lowercaseletter"], runs lowercaseLetters),
   (["lt", "titlecaseletter"], runs titlecaseLetters),
   (["lm", "modifierletter"], runs modifierLetters),
   (["lo", "otherletter"], runs otherLetters),
   (["m", "mark", "combiningmark"], marks),
   (["mn", "nonspacingmark"], runs nonspacingMarks),
   (["mc", "spacingmark"], runs spacingMarks),
   (["me", "enclosingmark"], runs enclosingMarks),
   (["n", "number"], numbers),
   (["nd", "decimalnumber", "digit"], runs decimalDigits),
   (["nl", "letternumber"], runs letterNumbers),
   (["no", "othernumber"], runs otherNumbers),
   (["p", "punctuation", "punct"], punctuation),
   (["pc", "connectorpunctuation"], runs connectors),
   (["pd", "dashpunctuation"], runs dashes),
   (["ps", "openpunctuation"], runs openers),
   (["pe", "closepunctuation"], runs closers),
   (["pi", "initialpunctuation"], runs initialQuotes),
   (["pf", "finalpunctuation"], runs finalQuotes),
   (["po", "otherpunctuation"], runs otherPunctuation),
   (["s", "symbol"], symbols),
   (["sm", "mathsymbol"], runs mathSymbols),
   (["sc", "currencysymbol"], runs currencySymbols),
   (["sk", "modifiersymbol"], runs modifierSymbols),
   (["so", "othersymbol"], runs otherSymbols),
   (["z", "separator"], separators),
   (["zs", "spaceseparator"], runs spaces),
   (["zl", "lineseparator"], runs lineSeparators),
   (["zp", "paragraphseparator"], runs paragraphSeparators),
   (["c", "other"], other),
   (["cc", "control", "cntrl"], runs controls),
   (["cf", "format"], runs formats),
   (["co", "privateuse"], runs privateUse),
   (["cn", "unassigned"], unassigned),
   (["any"], CharClass.compl CharClass.empty),
   (["ascii"], range '\x00' '\x7f'),
   (["assigned"], CharClass.compl unassigned)]

/-- Letters, numbers that are letters, and what else is alphabetic. -/
def alphabetic : CharClass :=
  anyOf [letters, ofTables [letterNumbers, Text.Property.otherAlphabetic]]

/-- Lowercase letters, and what else counts as lowercase. -/
def lowercase : CharClass := ofTables [lowercaseLetters, Text.Property.otherLowercase]

/-- Uppercase letters, and what else counts as uppercase. -/
def uppercase : CharClass := ofTables [uppercaseLetters, Text.Property.otherUppercase]

def whiteSpace : CharClass :=
  anyOf [separators, ofRanges [('\t', '\r'), ('\u0085', '\u0085')]]

/-- Characters of words: alphabetic ones, marks, decimal digits, connecting punctuation and the
joiners. -/
def word : CharClass :=
  anyOf [alphabetic, marks, ofTables [decimalDigits, connectors], range '\u200c' '\u200d']

/-- Characters that attach to the one before them. -/
def extenders : CharClass :=
  ofTables [nonspacingMarks, enclosingMarks, Text.Property.otherExtenders]

/-- Letters and numbers that are letters, except the vertical tilde, and a few others. -/
def identifierStart : CharClass :=
  diff (anyOf [letters, ofTables [letterNumbers, Text.Trait.otherIdentifierStarts]])
    (single '\u2e2f')

/-- What begins an identifier, marks, decimal digits, connectors, and a few others. -/
def identifierPart : CharClass :=
  anyOf [identifierStart, ofTables [nonspacingMarks, spacingMarks, decimalDigits, connectors,
    Text.Trait.otherIdentifierParts]]

def changesInLowercase : CharClass :=
  diff (anyOf [uppercase, runs titlecaseLetters]) (runs Text.Casing.fixedUppercase)

def changesInUppercase : CharClass :=
  diff (anyOf [lowercase, runs titlecaseLetters]) (runs Text.Casing.fixedLowercase)

def changesInTitle : CharClass :=
  anyOf [diff changesInUppercase (ofTables [titlecaseLetters, Text.Casing.untitledLowercase]),
    runs Text.Casing.titledUppercase]

def changesWhenFolded : CharClass :=
  anyOf [diff changesInLowercase (runs Text.Casing.unfoldedUppercase),
    runs Text.Casing.foldedLowercase]

/-- Characters that do not tell apart the beginning of a word from its middle. -/
def caseIgnorable : CharClass :=
  anyOf [ofTables [nonspacingMarks, enclosingMarks, formats, modifierLetters, modifierSymbols,
    Text.Segment.betweenLetters, Text.Segment.betweenBoth], single '\x27']

/-- Properties that characters have or lack and that follow from others. -/
def derived : List (List String × CharClass) :=
  [(["alphabetic", "alpha"], alphabetic),
   (["lowercase", "lower"], lowercase),
   (["uppercase", "upper"], uppercase),
   (["cased"], anyOf [lowercase, uppercase, runs titlecaseLetters]),
   (["caseignorable", "ci"], caseIgnorable),
   (["changeswhenlowercased", "cwl"], changesInLowercase),
   (["changeswhenuppercased", "cwu"], changesInUppercase),
   (["changeswhentitlecased", "cwt"], changesInTitle),
   (["changeswhencasefolded", "cwcf"], changesWhenFolded),
   (["changeswhencasemapped", "cwcm"],
     anyOf [changesInLowercase, changesInUppercase, changesInTitle]),
   (["whitespace", "wspace", "space"], whiteSpace),
   (["math"], ofTables [mathSymbols, Text.Trait.otherMath]),
   (["graphemeextend", "grext"], extenders),
   (["graphemebase", "grbase"],
     diff (anyOf [letters, marks, numbers, punctuation, symbols, runs spaces]) extenders),
   (["idstart", "ids"], identifierStart),
   (["idcontinue", "idc"], identifierPart),
   (["xidstart", "xids"], diff identifierStart
     (ofTables [Text.Trait.unstableIdentifierParts, Text.Trait.unstableIdentifierStarts])),
   (["xidcontinue", "xidc"], diff identifierPart (runs Text.Trait.unstableIdentifierParts)),
   (["otheralphabetic", "oalpha"], runs Text.Property.otherAlphabetic),
   (["othergraphemeextend", "ogrext"], runs Text.Property.otherExtenders),
   (["otheridstart", "oids"], runs Text.Trait.otherIdentifierStarts),
   (["otheridcontinue", "oidc"], runs Text.Trait.otherIdentifierParts),
   (["otherlowercase", "olower"], runs Text.Property.otherLowercase),
   (["othermath", "omath"], runs Text.Trait.otherMath),
   (["otheruppercase", "oupper"], runs Text.Property.otherUppercase)]

/-- What is listed under a name. -/
def lookUp {α : Type} (table : List (List String × α)) (name : Text) : Option α :=
  (table.find? fun e => e.1.any fun n => n.toList = name).map Prod.snd

/-- The property with a name that characters have or lack. -/
def trait? (name : Text) : Option CharClass :=
  (lookUp derived name).or ((lookUp Text.Trait.table name).map runs)

/-- The characters with a property that is listed under its name. -/
def traits (name : String) : CharClass :=
  ((lookUp Text.Trait.table name.toList).map runs).getD .empty

def script? (name : Text) : Option CharClass := (lookUp Text.Script.table name).map runs

/-- The characters that the script with a name uses: its own ones, except those listed for
several scripts, and those that are listed for it. -/
def scriptUse? (name : Text) : Option CharClass :=
  (Text.Script.table.find? fun e => e.1.any fun n => n.toList = name).map fun e =>
    let shared := ofTables (Text.Script.shared.map Prod.snd)
    let listed := Text.Script.shared.filter fun row => row.1.any e.1.contains
    anyOf [diff (runs e.2) shared, ofTables (listed.map Prod.snd)]

/-- The characters that were in use by the version with a name. -/
def age? (name : Text) : Option CharClass :=
  let later := Text.Age.table.dropWhile fun e => !e.1.any fun n => n.toList = name
  if later.isEmpty then none
  else some (ofTables ((Text.Age.table.take (Text.Age.table.length + 1 - later.length)).map
    Prod.snd))

/-- Characters that join in front of digits or letters. -/
def joiningSigns : CharClass := traits "pcm"

def clusterParts : List (List String × CharClass) :=
  open Text.Segment in
  let joiners := range '\u200c' '\u200d'
  [(["cr"], single '\r'),
   (["lf"], single '\n'),
   (["cn", "control"],
     diff (anyOf [ofTables [lineSeparators, paragraphSeparators, controls, formats],
         inter unassigned (traits "di")])
       (anyOf [ofRanges [('\n', '\n'), ('\r', '\r')], joiners, joiningSigns, extenders])),
   (["ex", "extend"], anyOf [extenders, traits "emod"]),
   (["zwj"], single '\u200d'),
   (["ri", "regionalindicator"], traits "ri"),
   (["pp", "prepend"], anyOf [joiningSigns, runs leadingLetters]),
   (["sm", "spacingmark"],
     anyOf [diff (runs spacingMarks) (anyOf [extenders, runs looseSpacingMarks]),
       runs clusterVowels]),
   (["l"], runs syllableLeads),
   (["v"], runs syllableVowels),
   (["t"], runs syllableTails),
   (["lv"], runs openSyllables),
   (["lvt"], diff (runs syllables) (runs openSyllables))]

/-- Marks and other characters that stay with the word or sentence before them. -/
def attached : CharClass := diff (anyOf [extenders, runs spacingMarks]) (single '\u200d')

/-- Digits, and the signs that join in front of them. -/
def digitsOfWords : CharClass :=
  anyOf [runs decimalDigits, diff joiningSigns (single '\u070f'),
    ofRanges [('\u066b', '\u066b'), ('\u19da', '\u19da')]]

def hebrewLetters : CharClass :=
  inter ((script? "hebrew".toList).getD .empty) (runs otherLetters)

def katakana : CharClass :=
  anyOf [(script? "katakana".toList).getD .empty, runs Text.Segment.otherKatakana]

/-- Letters of words in scripts that write spaces between words. -/
def lettersOfWords : CharClass :=
  anyOf [diff alphabetic (anyOf [traits "ideographic", katakana, hebrewLetters, attached,
      (script? "hiragana".toList).getD .empty, runs Text.Segment.unspacedLetters]),
    runs Text.Segment.otherWordLetters]

def wordParts : List (List String × CharClass) :=
  open Text.Segment in
  [(["cr"], single '\r'),
   (["lf"], single '\n'),
   (["newline", "nl"], runs otherLineEnds),
   (["extend"], anyOf [attached, traits "emod"]),
   (["zwj"], single '\u200d'),
   (["format", "fo"],
     diff (runs formats) (anyOf [range '\u200b' '\u200d', joiningSigns, extenders])),
   (["katakana", "ka"], katakana),
   (["hebrewletter", "hl"], hebrewLetters),
   (["aletter", "le"], lettersOfWords),
   (["singlequote", "sq"], single '\x27'),
   (["doublequote", "dq"], single '\x22'),
   (["midnumlet", "mb"], runs betweenBoth),
   (["midletter", "ml"], runs betweenLetters),
   (["midnum", "mn"], runs betweenDigits),
   (["numeric", "nu"], digitsOfWords),
   (["extendnumlet", "ex"], anyOf [runs connectors, single '\u202f']),
   (["regionalindicator", "ri"], traits "ri"),
   (["wsegspace"], runs joinedSpaces)]

def lowerInSentences : CharClass :=
  diff lowercase (anyOf [extenders, runs Text.Casing.untitledLowercase])

def upperInSentences : CharClass :=
  diff (anyOf [uppercase, runs titlecaseLetters])
    (ofRanges [('\u1c90', '\u1cba'), ('\u1cbd', '\u1cbf')])

def sentenceParts : List (List String × CharClass) :=
  open Text.Segment in
  [(["cr"], single '\r'),
   (["lf"], single '\n'),
   (["sep", "se"], runs paragraphEnds),
   (["extend", "ex"], anyOf [attached, single '\u200d']),
   (["format", "fo"],
     diff (runs formats) (anyOf [range '\u200c' '\u200d', extenders,
       diff joiningSigns (single '\u070f')])),
   (["sp"], diff whiteSpace (anyOf [runs paragraphEnds, ofRanges [('\n', '\n'), ('\r', '\r')]])),
   (["lower", "lo"], lowerInSentences),
   (["upper", "up"], upperInSentences),
   (["oletter", "le"],
     diff (anyOf [alphabetic, single '\u05f3'])
       (anyOf [lowerInSentences, upperInSentences, attached])),
   (["numeric", "nu"], anyOf [digitsOfWords, single '\u066c']),
   (["aterm", "at"], runs ambiguousStops),
   (["sterm", "st"], diff (traits "sterm") (runs ambiguousStops)),
   (["close", "cl"],
     ofTables [openers, closers, initialQuotes, finalQuotes, otherQuotes]),
   (["scontinue", "sc"], runs sentenceLinks)]

/-- A name without what does not count: case, blanks, hyphens, underscores, characters outside
the basic Latin block and a leading `is`. -/
def plainName (name : Text) : Text :=
  let plain := fun (s : Text) => (s.filter fun c =>
    c.toNat < 128 && c ≠ ' ' && c ≠ '-' && c ≠ '_').map Char.toLower
  match Text.afterLead? "is".toList (name.map Char.toLower) with
  | some t => if plain t = ['c'] then "isc".toList else plain t
  | none => plain name

def named? (name : Text) : Option CharClass :=
  let n := plainName name
  ((trait? n).or (lookUp categories n)).or (script? n)

/-- The property whose kind and value are named. -/
def valued? (kind value : Text) : Option CharClass :=
  let v := plainName value
  match String.ofList (plainName kind) with
  | "generalcategory" | "gc" => lookUp categories v
  | "script" | "sc" => script? v
  | "scriptextensions" | "scx" => scriptUse? v
  | "age" => age? v
  | "graphemeclusterbreak" | "gcb" => lookUp clusterParts v
  | "wordbreak" | "wb" => lookUp wordParts v
  | "sentencebreak" | "sb" => lookUp sentenceParts v
  | _ => none

end SpanWeave.Pattern.Property
