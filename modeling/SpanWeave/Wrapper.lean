import SpanWeave.Target
import SpanWeave.Text.Blank
import SpanWeave.Text.Literal

/-!
The text that replaces a function when it is wrapped. A declaration becomes a constant that
holds the result of the entry point; a method, or the implementation of overload signatures,
keeps its head, and its body becomes the return of a traced arrow function.
-/

namespace SpanWeave.Wrapper

/-- The depth of one level of indentation when the body does not show it. -/
def defaultStep : Text := "  ".toList

/-- What a line is indented by beyond `indent`; none for a line that is not. -/
def extraIndent? (indent line : Text) : Option Text :=
  if Text.blank line then none
  else
    match Text.afterLead? indent line with
    | some rest =>
        let extra := Text.leadingBlank rest
        if extra = [] then none else some extra
    | none => none

/-- One level of indentation, taken from the first line of the body that shows it. -/
def indentStep (body indent : Text) : Text :=
  ((Text.lines body).drop 1).findSome? (extraIndent? indent) |>.getD defaultStep

/-- A line moved to the right; blank lines stay as they are. -/
def shift (step line : Text) : Text := if Text.blank line then line else step ++ line

/-- Every line but the first moved to the right by `step`. -/
def reindent (body step : Text) : Text :=
  match Text.splitAt '\n' body with
  | [] => []
  | first :: rest => Text.joinWith ['\n'] (first :: rest.map (shift step))

/-- The block that replaces a body: it returns the traced call of the body as an arrow
function, which keeps `this`, `arguments` and `super`. A body with a template is not moved,
since that could change the template. -/
def wrapBody (t : Target) (literal entry newline : Text) : Text :=
  let step := indentStep t.body t.indent
  let body := if t.body.contains '\x60' then t.body else reindent t.body step
  "\x7b".toList ++ newline ++ t.indent ++ step ++ "return ".toList ++ entry ++ "(".toList ++
    literal ++ ", ".toList ++ (if t.isAsync then "async ".toList else []) ++ "() => ".toList ++
    body ++ ")();".toList ++ newline ++ t.indent ++ "\x7d".toList

/-- The call of the entry point on a function. -/
def wrapCall (t : Target) (literal entry : Text) : Text :=
  entry ++ "(".toList ++ literal ++ ", ".toList ++ t.text ++ ")".toList

/-- The constant that a declaration becomes. -/
def wrapDeclaration (t : Target) (literal entry : Text) : Text :=
  "const ".toList ++ t.name.getD [] ++ " = ".toList ++ wrapCall t literal entry ++ ";".toList

/-- What replaces the span of a function. Constructors and signatures are not wrapped. -/
def replacement (t : Target) (spanName entry newline : Text) : Text :=
  let literal := Text.Literal.quote spanName
  if t.overloaded then wrapBody t literal entry newline
  else
    match t.shape with
    | .functionDeclaration | .exportedFunctionDeclaration => wrapDeclaration t literal entry
    | .defaultExportedFunctionDeclaration =>
        wrapDeclaration t literal entry ++ newline ++ t.indent ++ "export default ".toList ++
          t.name.getD [] ++ ";".toList
    | .constFunction => wrapCall t literal entry
    | .instanceMethod | .staticMethod | .objectMethod => wrapBody t literal entry newline
    | .constructorMethod | .overloadSignature => t.text

end SpanWeave.Wrapper
