import SpanWeave.Survey
import SpanWeave.Proofs.Syntax.Identifier
import SpanWeave.Proofs.Syntax.NamedCall
import SpanWeave.Proofs.Text.Offset

namespace SpanWeave

open Syntax

namespace Survey

/-- `entry('x', () => {})`, read as a whole file in a dialect, is one statement, and what that
consists of is a call which counts as wrapped already. -/
def recognisesEntry (entry : Text) (dialect : Dialect) : Bool :=
  match Document.parse (entry ++ callTail) dialect with
  | .ok doc =>
      match doc.root.children with
      | [.mk .expressionStatement _ _ [call]] =>
          (Survey.wrappedFunction? ⟨doc, entry⟩ call).isSome
      | _ => false
  | .error _ => false

theorem wrappedFunction?_namedCall {entry : Text} {dialect : Dialect} {root : Node} :
    Survey.wrappedFunction? ⟨⟨entry ++ callTail, dialect, root⟩, entry⟩
      (namedCall (Text.byteSize entry)) = some (emptyFunction (Text.byteSize entry + 6)) := by
  have hcallee : (namedCall (Text.byteSize entry)).child? .function =
      some (.mk .identifier (some .function) ⟨0, Text.byteSize entry⟩ []) := rfl
  have hargs : (namedCall (Text.byteSize entry)).child? .arguments =
      some (callNode (Text.byteSize entry)) := rfl
  have hlast : (callNode (Text.byteSize entry)).significant.getLast? =
      some (emptyFunction (Text.byteSize entry + 6)) := rfl
  have hname : Text.slice (entry ++ callTail) 0 (Text.byteSize entry) = entry := by
    simp [Text.slice]
  have hfunction : (emptyFunction (Text.byteSize entry + 6)).isFunctionExpression = true := rfl
  have hkind : (namedCall (Text.byteSize entry)).kind = .callExpression := rfl
  simp only [wrappedFunction?, hkind, if_true, hcallee, hargs, hlast]
  simp [Document.textOf, Node.kind, Node.span, hname, hfunction]

/-- The call of a name that the grammar keeps for nothing else is recognised in every dialect. -/
theorem recognisesEntry_of_isIdentifier {entry : Text} (h : isIdentifier entry = true)
    (hfree : String.ofList entry ∉ reservedWords) (dialect : Dialect) :
    recognisesEntry entry dialect = true := by
  have hparse := parse?_of_name (spelled_of_isIdentifier h) hfree dialect.hasMarkup
  simp [recognisesEntry, Document.parse, hparse, Node.children, wrappedFunction?_namedCall]

theorem recognisesEntry_congr {entry : Text} {d d' : Dialect} (h : d.hasMarkup = d'.hasMarkup) :
    recognisesEntry entry d = recognisesEntry entry d' := by
  simp only [recognisesEntry, Document.parse, h]
  cases parse? d'.hasMarkup (entry ++ callTail) <;> rfl

/-- No reserved word is recognised: its call breaks the grammar, or it is no call of a name. -/
theorem recognisesEntry_of_mem_reservedWords {entry : Text}
    (h : String.ofList entry ∈ reservedWords) (dialect : Dialect) :
    recognisesEntry entry dialect = false := by
  have hall : ∀ w ∈ reservedWords, ∀ d ∈ [Dialect.typeScript, .tsx],
      recognisesEntry w.toList d = false := by
    decide +kernel
  have hwithout := hall _ h .typeScript (by simp)
  have hwith := hall _ h .tsx (by simp)
  rw [String.toList_ofList] at hwithout hwith
  cases hmarkup : dialect.hasMarkup
  · have hsame : dialect.hasMarkup = Dialect.typeScript.hasMarkup := hmarkup
    rw [recognisesEntry_congr hsame]
    exact hwithout
  · have hsame : dialect.hasMarkup = Dialect.tsx.hasMarkup := hmarkup
    rw [recognisesEntry_congr hsame]
    exact hwith

end Survey

namespace Config

/-- A configuration with another name of the entry point. -/
def withEntry (c : Config) (entry : Text) : Config :=
  { c with instrumentation := { c.instrumentation with function := entry } }

/-- Of the configurations that are accepted, those whose entry point is no reserved word make
calls that are recognised in each dialect, and no others do; and every reserved word is accepted
as an entry point. -/
theorem recognisesEntry_iff_of_validate {c : Config} (h : c.validate = .ok ()) :
    (∀ d, Survey.recognisesEntry c.instrumentation.function d = true ↔
      String.ofList c.instrumentation.function ∉ reservedWords) ∧
    ∀ w ∈ reservedWords, (c.withEntry w.toList).validate = .ok () := by
  obtain ⟨hentry, hmodule⟩ := validate_eq_ok_iff.mp h
  constructor
  · intro d
    constructor
    · intro hrecognised hreserved
      rw [Survey.recognisesEntry_of_mem_reservedWords hreserved d] at hrecognised
      contradiction
    · exact fun hfree => Survey.recognisesEntry_of_isIdentifier hentry hfree d
  · have hwords : ∀ w ∈ reservedWords, isIdentifier w.toList = true := by decide
    exact fun w hw => validate_eq_ok_iff.mpr ⟨hwords w hw, hmodule⟩

theorem recognisesEntry_traceCall :
    ({} : Config).validate = .ok () ∧
      Survey.recognisesEntry "traceCall".toList .typeScript = true ∧
      (({} : Config).withEntry "class".toList).validate = .ok () := by
  have hvalid : ({} : Config).validate = .ok () := validate_eq_ok_iff.mpr (by decide)
  obtain ⟨hrecognised, haccepted⟩ := recognisesEntry_iff_of_validate hvalid
  exact ⟨hvalid, (hrecognised .typeScript).mpr (by decide), haccepted "class" (by decide)⟩

/-- Two reserved words are accepted as entry points. A call of the one is no text of the language;
that of the other is, and it does not count as wrapped. -/
theorem reservedEntry_unrecognised :
    (({} : Config).withEntry "class".toList).validate = .ok () ∧
      (({} : Config).withEntry "this".toList).validate = .ok () ∧
      (parse? false ("class".toList ++ callTail)).isNone = true ∧
      (parse? false ("this".toList ++ callTail)).isSome = true ∧
      Survey.recognisesEntry "this".toList .typeScript = false :=
  ⟨validate_eq_ok_iff.mpr (by decide), validate_eq_ok_iff.mpr (by decide), by decide +kernel⟩

end Config

end SpanWeave
