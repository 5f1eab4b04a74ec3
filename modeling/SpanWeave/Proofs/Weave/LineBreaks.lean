import SpanWeave.Proofs.Config
import SpanWeave.Proofs.Text.LineBreak
import SpanWeave.Proofs.Weave.Outcome

namespace SpanWeave

open Syntax Text

/-- A property of texts that can be checked part by part. It holds of texts without line breaks and
of the line terminator of a file, and when a body is moved. -/
structure Piecewise (P : Text → Prop) (newline : Text) : Prop where
  unbroken : ∀ {s}, Unbroken s → P s
  append : ∀ {s t}, P s → P t → P (s ++ t)
  newline : P newline
  step : ∀ {body} indent, P body → P (Wrapper.indentStep body indent)
  moved : ∀ {body step}, P body → P step → P (Wrapper.reindent body step)

theorem piecewise_paired : Piecewise Paired "\r\n".toList where
  unbroken h := paired_of_notMem h.1
  append := Paired.append
  newline := by decide
  step indent _ := paired_of_notMem fun hmem => by
    rcases Wrapper.mem_of_mem_indentStep hmem with hspace | ⟨-, hne⟩
    · simp at hspace
    · exact hne rfl
  moved hbody hstep := Wrapper.paired_reindent hbody hstep

theorem piecewise_withoutReturn : Piecewise (fun s => '\r' ∉ s) "\n".toList where
  unbroken h := h.2
  append hs ht := by simp [hs, ht]
  newline := by decide
  step indent hbody := fun hmem => by
    rcases Wrapper.mem_of_mem_indentStep hmem with hspace | ⟨hmem, -⟩
    · simp at hspace
    · exact hbody hmem
  moved hbody hstep := fun hmem => by
    rcases Wrapper.mem_of_mem_reindent hmem with hmem | hmem
    · exact hbody hmem
    · exact hstep hmem

/-- The parts of a text from an offset on have the property. -/
structure Opens (P : Text → Prop) (source : Text) (n : Nat) : Prop where
  tail : P (dropBytes source n)
  slice : ∀ m, P (slice source n m)

theorem opens_of_paired {source : Text} {n : Nat} (h : Paired source)
    (hn : splitsBreak source n = false) : Opens Paired source n :=
  ⟨h.dropBytes hn, h.slice hn⟩

theorem opens_of_withoutReturn {source : Text} (h : '\r' ∉ source) (n : Nat) :
    Opens (fun s => '\r' ∉ s) source n :=
  ⟨fun hmem => h ((isSuffix_dropBytes source n).subset hmem),
    fun _ hmem => h (mem_of_mem_slice hmem)⟩

namespace Document

variable {d : Document}

theorem lineEnding_of_withoutReturn (h : '\r' ∉ d.source) : d.lineEnding = "\n".toList := by
  rw [lineEnding, if_neg]
  intro hboth
  simp only [Bool.and_eq_true, beq_iff_eq] at hboth
  exact h (List.takeWhile_subset _ (List.mem_of_getLast? hboth.1))

theorem lineEnding_of_paired (h : Paired d.source) (hbreak : '\n' ∈ d.source) :
    d.lineEnding = "\r\n".toList := by
  have hrest : d.source.dropWhile (fun c => c != '\n') ≠ [] := by
    intro hnil
    rw [← List.takeWhile_append_dropWhile (p := fun c => c != '\n') (l := d.source), hnil,
      List.append_nil] at hbreak
    have hall := List.all_eq_true.mp List.all_takeWhile _ hbreak
    simp at hall
  obtain ⟨c, rest, hdrop⟩ := List.exists_cons_of_ne_nil hrest
  have hc : c = '\n' := by
    have hhead := List.head?_dropWhile_not (fun c => c != '\n') d.source
    simpa [hdrop] using hhead
  subst hc
  have hsplit : d.source = d.source.takeWhile (fun c => c != '\n') ++ '\n' :: rest := by
    rw [← hdrop, List.takeWhile_append_dropWhile]
  rw [lineEnding, h _ _ hsplit]
  simp [hbreak]

theorem splitsBreak_lineStart (d : Document) (offset : Nat) :
    splitsBreak d.source (d.lineStart offset) = false := by
  simp only [lineStart]
  split
  · rename_i a b hbreak
    obtain ⟨hab, a', rfl⟩ := eq_append_of_breakAfterLast? hbreak
    obtain ⟨rest, hsource⟩ := isPrefix_takeBytes d.source (d.clamp offset)
    rw [hab, List.append_assoc] at hsource
    rw [splitsBreak, ← hsource, takeBytes_append]
    simp
  · simp [splitsBreak]

theorem lineStart_zero (d : Document) : d.lineStart 0 = 0 := by
  simp [lineStart, clamp, breakAfterLast?]

theorem unbroken_indentAt (d : Document) (offset : Nat) : Unbroken (d.indentAt offset) := by
  have hall : ∀ c ∈ d.indentAt offset, (c == ' ' || c == '\t') = true :=
    List.all_eq_true.mp List.all_takeWhile
  exact ⟨fun hmem => absurd (hall _ hmem) (by decide), fun hmem => absurd (hall _ hmem) (by decide)⟩

end Document

/-- An accepted entry point and its module hold no line break. -/
theorem Config.unbroken_of_validate {c : Config} (h : c.validate = .ok ()) :
    Unbroken c.instrumentation.function ∧ Unbroken c.instrumentation.module := by
  obtain ⟨hfunction, hmodule⟩ := validate_eq_ok_iff.mp h
  constructor
  · exact ⟨fun hmem => absurd (isNameCharacter_of_mem hfunction hmem) (by decide +kernel),
      fun hmem => absurd (isNameCharacter_of_mem hfunction hmem) (by decide +kernel)⟩
  · simp only [isModulePath, Bool.and_eq_true, Bool.not_eq_true', List.any_eq_false] at hmodule
    exact ⟨fun hmem => by simpa using hmodule.2 _ hmem, fun hmem => by simpa using hmodule.2 _ hmem⟩

theorem ImportSite.unbroken_statement {i : Instrumentation} (hfunction : Unbroken i.function)
    (hmodule : Unbroken i.module) (style : ImportStyle) : Unbroken (statement i style) := by
  obtain ⟨hfeed, hreturn⟩ := hfunction
  obtain ⟨hfeed', hreturn'⟩ := hmodule
  unfold statement
  split <;> simp [Unbroken, hfeed, hreturn, hfeed', hreturn']

namespace Piecewise

variable {P : Text → Prop} {newline : Text} (h : Piecewise P newline)
include h

theorem flatten {parts : List Text} (hparts : ∀ s ∈ parts, P s) : P parts.flatten := by
  induction parts with
  | nil => exact h.unbroken (by simp [Unbroken])
  | cons s parts ih =>
      exact h.append (hparts s (by simp)) (ih fun t ht => hparts t (by simp [ht]))

section replacement
variable {t : Target} {entry literal : Text} (hentry : Unbroken entry) (hliteral : Unbroken literal)
include hentry hliteral

theorem wrapCall (htext : P t.text) : P (Wrapper.wrapCall t literal entry) := by
  have hparts : Wrapper.wrapCall t literal entry =
      [entry, "(".toList, literal, ", ".toList, t.text, ")".toList].flatten := by
    unfold Wrapper.wrapCall
    simp only [List.flatten_cons, List.flatten_nil, List.append_nil, List.append_assoc]
  rw [hparts]
  refine h.flatten ?_
  simp only [List.forall_mem_cons, List.not_mem_nil, false_implies, implies_true, and_true]
  refine ⟨h.unbroken hentry, ?_, h.unbroken hliteral, ?_, htext, ?_⟩
  all_goals exact h.unbroken (by simp [Unbroken])

theorem wrapDeclaration (htext : P t.text) (hname : P (t.name.getD [])) :
    P (Wrapper.wrapDeclaration t literal entry) := by
  refine h.append (h.append (h.append (h.append ?_ hname) ?_)
    (h.wrapCall hentry hliteral htext)) ?_
  all_goals exact h.unbroken (by simp [Unbroken])

theorem wrapBody (hbody : P t.body) (hindent : Unbroken t.indent) :
    P (Wrapper.wrapBody t literal entry newline) := by
  have hstep := h.step t.indent hbody
  have hmoved : P (if t.body.contains '\x60' then t.body
      else Wrapper.reindent t.body (Wrapper.indentStep t.body t.indent)) := by
    split
    · exact hbody
    · exact h.moved hbody hstep
  have hasync : Unbroken (if t.isAsync then "async ".toList else []) := by
    split <;> simp [Unbroken]
  have hparts : Wrapper.wrapBody t literal entry newline =
      ["\x7b".toList, newline, t.indent, Wrapper.indentStep t.body t.indent, "return ".toList,
        entry, "(".toList, literal, ", ".toList, if t.isAsync then "async ".toList else [],
        "() => ".toList, if t.body.contains '\x60' then t.body
          else Wrapper.reindent t.body (Wrapper.indentStep t.body t.indent),
        ")();".toList, newline, t.indent, "\x7d".toList].flatten := by
    unfold Wrapper.wrapBody
    simp only [List.flatten_cons, List.flatten_nil, List.append_nil, List.append_assoc]
  rw [hparts]
  refine h.flatten ?_
  simp only [List.forall_mem_cons, List.not_mem_nil, false_implies, implies_true, and_true]
  refine ⟨?_, h.newline, h.unbroken hindent, hstep, ?_, h.unbroken hentry, ?_,
    h.unbroken hliteral, ?_, h.unbroken hasync, ?_, hmoved, ?_, h.newline, h.unbroken hindent, ?_⟩
  all_goals exact h.unbroken (by simp [Unbroken])

end replacement

theorem replacement {t : Target} {entry : Text} (hentry : Unbroken entry) (htext : P t.text)
    (hbody : P t.body) (hindent : Unbroken t.indent)
    (hname : t.shape.isDeclaration = true → P (t.name.getD [])) (spanName : Text) :
    P (Wrapper.replacement t spanName entry newline) := by
  have hliteral := unbroken_quote spanName
  have hblock := h.wrapBody hentry hliteral hbody hindent
  have hconst := h.wrapDeclaration hentry hliteral htext
  unfold Wrapper.replacement
  dsimp only
  split
  · exact hblock
  split
  · exact hconst (hname (by simp [*, Shape.isDeclaration]))
  · exact hconst (hname (by simp [*, Shape.isDeclaration]))
  · have hname := hname (by simp [*, Shape.isDeclaration])
    have hline := h.append (h.append (hconst hname) h.newline) (h.unbroken hindent)
    exact h.append (h.append (h.append hline (h.unbroken (by simp [Unbroken]))) hname)
      (h.unbroken (by simp [Unbroken]))
  · exact h.wrapCall hentry hliteral htext
  · exact hblock
  · exact hblock
  · exact hblock
  · exact htext
  · exact htext

theorem insertion {d : Document} (hd : d.lineEnding = newline) {stmt : Text}
    (hstmt : Unbroken stmt) : P (ImportSite.insertion d stmt).text := by
  have hstmt := h.unbroken hstmt
  simp only [ImportSite.insertion, hd]
  split
  · simp only [Edit.insert]
    split
    · exact h.append hstmt h.newline
    · exact h.append hstmt (h.append h.newline h.newline)
  · simp only [Edit.insert]
    refine h.append (h.append ?_ hstmt) h.newline
    split
    · exact h.unbroken (by decide)
    · exact h.newline

theorem spliced {source : Text} {es : List Edit} {done : Nat} (hdone : Opens P source done)
    (hes : ∀ e ∈ es, Opens P source e.stop ∧ P e.text) : P (Edit.spliced source done es) := by
  induction es generalizing done with
  | nil => exact hdone.tail
  | cons e es ih =>
      obtain ⟨hstop, htext⟩ := hes e (by simp)
      exact h.append (h.append (hdone.slice e.start) htext)
        (ih hstop fun f hf => hes f (by simp [hf]))

end Piecewise

/-- The text is empty or that of a node. -/
def Document.IsNodeText (d : Document) (s : Text) : Prop :=
  s = [] ∨ ∃ n : Node, n.Under d.root ∧ s = d.textOf n

theorem Document.isNodeText_getD {d : Document} {n : Node} (hn : n.Under d.root) (f : Field) :
    d.IsNodeText ((d.fieldText? n f).getD []) := by
  cases hchild : n.child? f with
  | none => exact .inl (by simp [fieldText?, hchild])
  | some c =>
      exact .inr ⟨c, (Node.under_of_child? hchild).trans hn, by simp [fieldText?, hchild]⟩

namespace Survey

/-- What a visit says about the source is read off nodes of its tree. -/
structure ReadOff (d : Document) (v : Visit) : Prop where
  span : ∃ n : Node, n.Under d.root ∧ v.target.span = n.span
  text : d.IsNodeText v.target.text
  body : d.IsNodeText v.target.body
  name : v.target.shape.isDeclaration = true → d.IsNodeText (v.target.name.getD [])
  indent : ∃ offset, v.target.indent = d.indentAt offset
  block : ∀ b wrapped, v.block = some (b, wrapped) → ∃ n : Node, n.Under d.root ∧ b = n.span

variable {s : Survey}

theorem readOff_function {f stmt : Node} (hf : f.Under s.doc.root) (hstmt : stmt.Under s.doc.root)
    (exported : Export) : ReadOff s.doc (s.visitFunction f exported stmt.span) where
  span := ⟨stmt, hstmt, rfl⟩
  text := .inr ⟨f, hf, rfl⟩
  body := Document.isNodeText_getD hf .body
  name _ := Document.isNodeText_getD hf .name
  indent := ⟨_, rfl⟩
  block b wrapped h := by
    simp only [visitFunction, Option.map_eq_some_iff] at h
    obtain ⟨node, hnode, heq⟩ := h
    obtain ⟨rfl, -⟩ := Prod.mk.inj heq
    exact ⟨node, (Node.under_of_child? (Option.filter_eq_some_iff.mp hnode).1).trans hf, rfl⟩

theorem readOff_const {f value : Node} (hf : f.Under s.doc.root) (hvalue : value.Under s.doc.root)
    (name : Text) (exported : Export) (wrapped : Bool) :
    ReadOff s.doc (s.visitConst name f value.span exported wrapped) where
  span := ⟨value, hvalue, rfl⟩
  text := .inr ⟨f, hf, rfl⟩
  body := Document.isNodeText_getD hf .body
  name h := by cases h
  indent := ⟨_, rfl⟩
  block _ _ h := by cases h

theorem Found.readOff {o : Node} {v : Visit} (h : Found s o v) (ho : o.Under s.doc.root) :
    ReadOff s.doc v := by
  cases h with
  | declared _ _ => exact readOff_function ho ho _
  | defaultExport hf => exact readOff_function ((Node.under_of_child? hf).trans ho) ho _
  | signature _ _ _ =>
      refine ⟨⟨o, ho, rfl⟩, .inr ⟨o, ho, rfl⟩, .inl rfl, ?_, ⟨_, rfl⟩, ?_⟩
      · intro h
        cases h
      · intro _ _ h
        cases h
  | bound _ _ hvalue =>
      have hunder := (Node.under_of_child? hvalue).trans ho
      exact readOff_const hunder hunder _ _ _
  | boundCall _ _ hvalue hf =>
      have hunder := (Node.under_of_child? hvalue).trans ho
      obtain ⟨args, hargs, hmem⟩ := mem_of_wrappedFunction? hf
      have hargs := (Node.under_of_child? hargs).trans hunder
      exact readOff_const ((Node.under_of_mem_significant hmem).trans hargs) hunder _ _ _
  | method c _ =>
      refine ⟨?_, .inr ⟨o, ho, rfl⟩, Document.isNodeText_getD ho .body, ?_, ⟨_, rfl⟩, ?_⟩
      · rw [visitMethod_span]
        cases hbody : o.child? .body with
        | none => exact ⟨o, ho, rfl⟩
        | some b => exact ⟨b, (Node.under_of_child? hbody).trans ho, rfl⟩
      · intro hdeclaration
        have hmember := isMember_visitMethod s c o
        cases hshape : (s.visitMethod c o).target.shape <;>
          simp [hshape, Shape.isMember, Shape.isDeclaration] at hmember hdeclaration
      · simp [visitMethod_block]

theorem ReadOff.retarget {d : Document} {v : Visit} (h : ReadOff d v) (names : List Text) :
    ReadOff d (retarget names v) := by
  rcases retarget_cases names v with heq | ⟨span, wrapped, hblock, heq⟩
  · rw [heq]
    exact h
  · rw [heq]
    exact ⟨h.block span wrapped hblock, h.text, h.body, h.name, h.indent, h.block⟩

theorem readOff_of_mem_visits {v : Visit} (hv : v ∈ s.visits) : ReadOff s.doc v := by
  obtain ⟨o, ⟨first, hfirst, rfl⟩, stmt, hstmt, -, hunder⟩ := exists_owner hv
  exact (hfirst.readOff (hunder.trans (Node.under_of_mem_significant hstmt))).retarget _

end Survey

namespace Weaver

variable {w : Weaver} {doc : Document} {path : Text} {woven : Woven}

theorem applyAll_of_weaveDocument (hweave : w.weaveDocument doc path = .ok woven)
    (hne : woven.wrapped ≠ []) :
    Edit.applyAll doc.source (w.edits doc path woven.wrapped) = .ok woven.modified := by
  have hwrapped := (of_weaveDocument_eq_ok hweave).1
  rw [hwrapped] at hne
  have hcand : (classify doc w.skip.isMatch w.entry).candidates ≠ [] := by
    intro hnil
    exact hne (by simp [wrappedIn, hnil])
  simp only [weaveDocument, hcand, ↓reduceIte] at hweave
  split at hweave
  · obtain rfl := Except.ok.inj hweave
    assumption
  · simp at hweave

section
variable {P : Text → Prop}
  (hnodes : ∀ n : Node, n.Under doc.root →
    Opens P doc.source n.span.start ∧ Opens P doc.source n.span.stop)
  (hlines : ∀ offset, Opens P doc.source (doc.lineStart offset))
include hnodes hlines

theorem opens_insertion (stmt : Text) :
    Opens P doc.source (ImportSite.insertion doc stmt).start := by
  let preamble := doc.root.namedChildren.takeWhile (ImportSite.isPreamble doc)
  have hunder : ∀ n ∈ doc.root.namedChildren, n.Under doc.root :=
    fun n hn => Node.under_of_mem (Node.mem_namedChildren hn)
  have hpreamble : ∀ n ∈ preamble, n.Under doc.root :=
    fun n hn => hunder n (List.takeWhile_subset _ hn)
  simp only [ImportSite.insertion]
  split
  · rename_i first rest hdrop
    have hfound : ImportSite.anchor doc first preamble.reverse ∈ doc.root.namedChildren := by
      rcases List.mem_cons.mp (ImportSite.anchor_mem doc first preamble.reverse) with heq | hmem
      · rw [heq]
        exact List.mem_of_mem_drop (hdrop ▸ List.mem_cons_self)
      · exact List.takeWhile_subset _ (List.mem_reverse.mp hmem)
    simp only [Edit.insert, ImportSite.offsetBefore]
    split
    · exact hlines _
    · exact (hnodes _ (hunder _ hfound)).1
  · simp only [Edit.insert]
    cases hlast : preamble.getLast? with
    | none => exact doc.lineStart_zero ▸ hlines 0
    | some n => exact (hnodes n (hpreamble n (List.mem_of_getLast? hlast))).2

variable (hP : Piecewise P doc.lineEnding)
include hP

omit hlines in
theorem of_isNodeText {s : Text} (hs : doc.IsNodeText s) : P s := by
  rcases hs with rfl | ⟨n, hn, rfl⟩
  · exact hP.unbroken (by decide)
  · exact (hnodes n hn).1.slice _

omit hlines in
theorem replacement_of_mem_wrappedIn (hentry : Unbroken w.entry) {x : Wrapped}
    (hx : x ∈ w.wrappedIn doc path) :
    Opens P doc.source x.edit.stop ∧ P x.edit.text := by
  obtain ⟨v, hv, -, htarget⟩ := exists_visit_of_mem_wrappedIn hx
  have hread := Survey.readOff_of_mem_visits hv
  obtain ⟨n, hn, hspan⟩ := hread.span
  obtain ⟨offset, hindent⟩ := hread.indent
  obtain ⟨t, -, rfl⟩ := List.mem_map.mp hx
  obtain rfl : v.target = t := htarget
  constructor
  · have hstop : (w.wrap path doc.lineEnding v.target).edit.stop = n.span.stop :=
      congrArg Span.stop hspan
    rw [hstop]
    exact (hnodes n hn).2
  · refine hP.replacement hentry (of_isNodeText hnodes hP hread.text)
      (of_isNodeText hnodes hP hread.body) ?_
      (fun h => of_isNodeText hnodes hP (hread.name h)) _
    rw [hindent]
    exact doc.unbroken_indentAt offset

/-- The woven text has a property that can be checked part by part. -/
theorem of_weaveDocument (hvalid : w.config.validate = .ok ())
    (hweave : w.weaveDocument doc path = .ok woven) : P woven.modified := by
  have hstart : Opens P doc.source 0 := doc.lineStart_zero ▸ hlines 0
  obtain ⟨hwrapped, -, hunchanged⟩ := of_weaveDocument_eq_ok hweave
  by_cases hne : woven.wrapped = []
  · rw [hunchanged hne, ← dropBytes_zero doc.source]
    exact hstart.tail
  obtain ⟨hfunction, hmodule⟩ := Config.unbroken_of_validate hvalid
  obtain ⟨-, hmodified⟩ :=
    Edit.applyAll_eq_ok_iff.mp (applyAll_of_weaveDocument hweave hne)
  rw [hmodified]
  refine hP.spliced hstart fun e he => ?_
  rcases List.mem_append.mp (Edit.mem_inOrder.mp he) with he | he
  · obtain ⟨x, hx, rfl⟩ := List.mem_map.mp he
    exact replacement_of_mem_wrappedIn hnodes hP hfunction (hwrapped ▸ hx)
  · have himport := Option.mem_toList.mp he
    simp only [importEdit?] at himport
    split at himport
    · simp at himport
    obtain rfl := Option.some.inj himport
    rw [ImportSite.insertion_stop]
    exact ⟨opens_insertion hnodes hlines _,
      hP.insertion rfl (ImportSite.unbroken_statement hfunction hmodule _)⟩

end

/-- No node begins or ends between a carriage return and the line feed behind it. -/
def keepsBreaks (d : Document) (n : Node) : Bool :=
  !splitsBreak d.source n.span.start && !splitsBreak d.source n.span.stop

/-- A file has the line breaks of its source. In a source where each line feed stands behind a
carriage return, and some line feed does, no other line feed is put in; and no carriage return is
put into a source without one. -/
theorem lineBreaks_of_woven {w : Weaver} {source path : Text} {dialect : Dialect} {doc : Document}
    {woven : Woven} (hvalid : w.config.validate = .ok ())
    (hparse : Document.parse source dialect = .ok doc)
    (hdialect : Dialect.ofPath? path = some dialect)
    (hweave : w.weave source path = .ok woven) :
    (doc.root.everywhere (keepsBreaks doc) = true → '\n' ∈ source → Paired source →
      Paired woven.modified) ∧
    ('\r' ∉ source → '\r' ∉ woven.modified) := by
  rw [weave_eq_weaveDocument hdialect hparse] at hweave
  obtain ⟨rfl, -⟩ := Document.of_parse_eq_ok hparse
  constructor
  · intro hkeeps hbreak hpaired
    refine of_weaveDocument ?_ ?_ (doc.lineEnding_of_paired hpaired hbreak ▸ piecewise_paired)
      hvalid hweave
    · intro n hn
      have hn := Node.of_everywhere hkeeps hn
      simp only [keepsBreaks, Bool.and_eq_true, Bool.not_eq_true'] at hn
      exact ⟨opens_of_paired hpaired hn.1, opens_of_paired hpaired hn.2⟩
    · exact fun offset => opens_of_paired hpaired (doc.splitsBreak_lineStart offset)
  · intro hreturn
    refine of_weaveDocument ?_ ?_
      (doc.lineEnding_of_withoutReturn hreturn ▸ piecewise_withoutReturn) hvalid hweave
    · exact fun n _ => ⟨opens_of_withoutReturn hreturn _, opens_of_withoutReturn hreturn _⟩
    · exact fun offset => opens_of_withoutReturn hreturn _

/-- A class and a default export in a file with carriage returns. -/
def returningFile : Text :=
  ("class A \x7b\r\n  m() \x7b\r\n    return 1;\r\n  \x7d\r\n\x7d\r\n" ++
    "export default function f() \x7b\x7d\r\n").toList

/-- A weaver with line breaks in its span names. -/
def breakingNames : Weaver :=
  { plain with config := { namePattern := some "\x7bname\x7d\r\n\n".toList } }

theorem lineBreaks_of_returningFile :
    ∃ doc woven, Document.parse returningFile .typeScript = .ok doc ∧
      breakingNames.weave returningFile "a.ts".toList = .ok woven ∧
      woven.wrapped.length = 2 ∧ doc.root.everywhere (keepsBreaks doc) = true ∧
      '\n' ∈ returningFile ∧ Paired returningFile ∧ Paired woven.modified := by
  have hcheck : yields (Document.parse returningFile .typeScript) (fun doc =>
      doc.root.isNested returningFile && doc.root.everywhere (keepsBreaks doc) &&
        decide ((breakingNames.wrappedIn doc "a.ts".toList).length = 2)) = true := by
    decide +kernel
  have hdialect : Dialect.ofPath? "a.ts".toList = some .typeScript := by decide
  have hbreak : '\n' ∈ returningFile := by decide +kernel
  have hpaired : Paired returningFile := by decide +kernel
  obtain ⟨doc, hparse, h⟩ := exists_of_yields hcheck
  simp only [Bool.and_eq_true, decide_eq_true_eq] at h
  obtain ⟨⟨hroot, hkeeps⟩, hlength⟩ := h
  rw [← (Document.of_parse_eq_ok hparse).1] at hroot
  obtain ⟨woven, hweave, hwrapped⟩ := exists_weave_of_isNested hdialect hparse hroot
    (w := breakingNames) fun hnil => by
      rw [hnil] at hlength
      cases hlength
  have hvalid : breakingNames.config.validate = .ok () := by decide +kernel
  have hpaired' := (lineBreaks_of_woven hvalid hparse hdialect hweave).1 hkeeps hbreak hpaired
  exact ⟨doc, woven, hparse, hweave, hwrapped ▸ hlength, hkeeps, hbreak, hpaired, hpaired'⟩

end Weaver

end SpanWeave
