import SpanWeave.ImportSite
import SpanWeave.Proofs.Config
import SpanWeave.Proofs.Text.Quotation
import SpanWeave.Wrapper

namespace SpanWeave

open Syntax Text Literal

namespace Wrapper

/-- A text that holds a literal at one place and depends on it nowhere else. -/
def HoldsLiteral (f : Text → Text) : Prop := ∃ before after, ∀ l, f l = before ++ (l ++ after)

namespace HoldsLiteral

variable {f : Text → Text}

theorem behind (before : Text) : HoldsLiteral fun l => before ++ l := by
  refine ⟨before, [], ?_⟩
  intro l
  rw [List.append_nil]

theorem prepend (h : HoldsLiteral f) (s : Text) : HoldsLiteral fun l => s ++ f l := by
  obtain ⟨before, after, hf⟩ := h
  refine ⟨s ++ before, after, ?_⟩
  intro l
  simp only [hf, List.append_assoc]

theorem append (h : HoldsLiteral f) (s : Text) : HoldsLiteral fun l => f l ++ s := by
  obtain ⟨before, after, hf⟩ := h
  refine ⟨before, after ++ s, ?_⟩
  intro l
  simp only [hf, List.append_assoc]

theorem around (h : HoldsLiteral f) :
    ∃ before after, ∀ name, f (quote name) = before ++ (quote name ++ after) := by
  obtain ⟨before, after, hf⟩ := h
  exact ⟨before, after, fun name => hf (quote name)⟩

end HoldsLiteral

variable (t : Target) (entry newline : Text)

theorem holdsLiteral_wrapCall : HoldsLiteral fun l => wrapCall t l entry :=
  (((HoldsLiteral.behind _).append _).append _).append _

theorem holdsLiteral_wrapDeclaration : HoldsLiteral fun l => wrapDeclaration t l entry :=
  ((holdsLiteral_wrapCall t entry).prepend _).append _

theorem holdsLiteral_wrapBody : HoldsLiteral fun l => wrapBody t l entry newline := by
  unfold wrapBody
  iterate 8 apply HoldsLiteral.append
  apply HoldsLiteral.behind

/-- The name of a span stands at one place of a replacement, and nothing else depends on it. A
function of a form that is not wrapped stays as it is. -/
theorem replacement_around_literal :
    (∀ name, replacement t name entry newline = t.text) ∨
      ∃ before after, ∀ name,
        replacement t name entry newline = before ++ (quote name ++ after) := by
  have hbody := (holdsLiteral_wrapBody t entry newline).around
  have hconst := holdsLiteral_wrapDeclaration t entry
  have hcall := (holdsLiteral_wrapCall t entry).around
  cases hover : t.overloaded with
  | true =>
      right
      simpa only [replacement, hover, ↓reduceIte] using hbody
  | false =>
      cases hshape : t.shape with
      | functionDeclaration | exportedFunctionDeclaration =>
          right
          simpa only [replacement, hover, hshape, Bool.false_eq_true, ↓reduceIte]
            using hconst.around
      | defaultExportedFunctionDeclaration =>
          right
          have hexport := ((((hconst.append newline).append t.indent).append
            "export default ".toList).append (t.name.getD [])).append ";".toList
          simpa only [replacement, hover, hshape, Bool.false_eq_true, ↓reduceIte]
            using hexport.around
      | constFunction =>
          right
          simpa only [replacement, hover, hshape, Bool.false_eq_true, ↓reduceIte] using hcall
      | instanceMethod | staticMethod | objectMethod =>
          right
          simpa only [replacement, hover, hshape, Bool.false_eq_true, ↓reduceIte] using hbody
      | constructorMethod | overloadSignature =>
          left
          simp [replacement, hover, hshape]

end Wrapper

namespace ImportSite

theorem statement_around_literal {i : Instrumentation} (h : '\x27' ∉ i.function)
    (style : ImportStyle) :
    ∃ before after, statement i style = before ++ (bare i.module ++ after) ∧ '\x27' ∉ before := by
  cases style with
  | commonJs =>
      refine ⟨"const \x7b ".toList ++ i.function ++ " \x7d = require(".toList, ");".toList, ?_, ?_⟩
      · unfold statement bare
        simp
      · simp [h]
  | esm | auto =>
      refine ⟨"import \x7b ".toList ++ i.function ++ " \x7d from ".toList, ";".toList, ?_, ?_⟩
      · unfold statement bare
        simp
      · simp [h]

end ImportSite

namespace Config

variable {c : Config}

theorem quote_notMem_of_validate (h : c.validate = .ok ()) :
    '\x27' ∉ c.instrumentation.function := by
  intro hmem
  have hname := isNameCharacter_of_mem (validate_eq_ok_iff.mp h).1 hmem
  exact absurd hname (by decide +kernel)

theorem isPlain_of_validate (h : c.validate = .ok ()) :
    ∀ d ∈ c.instrumentation.module, IsPlain d := by
  have hmodule := (validate_eq_ok_iff.mp h).2
  simp only [isModulePath, Bool.and_eq_true, Bool.not_eq_true', List.any_eq_false,
    Bool.or_eq_true, decide_eq_true_eq, not_or] at hmodule
  intro d hd
  obtain ⟨⟨⟨hquote, hfeed⟩, hreturn⟩, hbackslash⟩ := hmodule.2 d hd
  exact ⟨hquote, hbackslash, hfeed, hreturn⟩

end Config

/-- The name of a span is read back from its literal, which holds no end of a line; so no two names
have one literal, and what stands around a literal does not depend on the name. The module of an
accepted configuration is read back from the statement that imports the entry point, where it is
the first literal; of the ends of lines, only separators that it holds itself stand in it. -/
theorem literals_read_back :
    (∀ s, StandsFor (quote s) s ∧ ∀ c ∈ quote s, isLineEnd c = false) ∧
      Function.Injective quote ∧
      (∀ t entry newline, (∀ name, Wrapper.replacement t name entry newline = t.text) ∨
        ∃ before after, ∀ name,
          Wrapper.replacement t name entry newline = before ++ (quote name ++ after)) ∧
      ∀ c : Config, c.validate = .ok () → ∀ style,
        StandsFor (bare c.instrumentation.module) c.instrumentation.module ∧
        (∀ d ∈ bare c.instrumentation.module, isLineEnd d = true →
          d ∈ c.instrumentation.module ∧ isSeparator d = true) ∧
        ∃ before after, '\x27' ∉ before ∧ ImportSite.statement c.instrumentation style =
          before ++ (bare c.instrumentation.module ++ after) := by
  refine ⟨?_, quote_injective, Wrapper.replacement_around_literal, ?_⟩
  · intro s
    exact ⟨standsFor_quote s, fun c => isLineEnd_of_mem_quote⟩
  · intro c hvalid style
    have hplain := Config.isPlain_of_validate hvalid
    obtain ⟨before, after, heq, hbefore⟩ :=
      ImportSite.statement_around_literal (Config.quote_notMem_of_validate hvalid) style
    refine ⟨standsFor_bare hplain, ?_, before, after, hbefore, heq⟩
    intro d hd hend
    have hmodule : d ∈ c.instrumentation.module := by
      simp only [bare, List.mem_cons, List.mem_append, List.not_mem_nil, or_false] at hd
      rcases hd with rfl | hd | rfl
      · exact absurd hend (by decide)
      · exact hd
      · exact absurd hend (by decide)
    refine ⟨hmodule, ?_⟩
    obtain ⟨-, -, hfeed, hreturn⟩ := hplain d hmodule
    simpa [isLineEnd, hfeed, hreturn] using hend

/-- A configuration whose module holds a line separator. -/
def separatedModule : Config := { instrumentation := { module := "@a/\x22b\u2028".toList } }

theorem literals_read_back_separatedModule :
    separatedModule.validate = .ok () ∧
      read? false (quote "\\'\u2028\n\\".toList ++ "'".toList) =
        some ("\\'\u2028\n\\".toList, "'".toList) ∧
      ∃ before after, '\x27' ∉ before ∧
        ImportSite.statement separatedModule.instrumentation .commonJs =
          before ++ (bare "@a/\x22b\u2028".toList ++ after) ∧
        read? true (bare "@a/\x22b\u2028".toList ++ after) =
          some ("@a/\x22b\u2028".toList, after) := by
  have hvalid : separatedModule.validate = .ok () :=
    Config.validate_eq_ok_iff.mpr ⟨by decide +kernel, by decide +kernel⟩
  obtain ⟨hquote, -, -, hmodule⟩ := literals_read_back
  obtain ⟨hstands, -, before, after, hbefore, heq⟩ := hmodule separatedModule hvalid .commonJs
  exact ⟨hvalid, (hquote _).1.read_eq false _, before, after, hbefore, heq,
    hstands.read_eq true after⟩

end SpanWeave
