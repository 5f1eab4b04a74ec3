import SpanWeave.Proofs.Survey.Overload
import SpanWeave.Proofs.Weave.Outcome

namespace SpanWeave

open Syntax Text

namespace Document

/-- Nothing but white space stands between the nodes, from `start` up to `stop`. -/
def gapsBlank (d : Document) (stop : Nat) : (start : Nat) → List Node → Bool
  | start, [] => blank (slice d.source start stop)
  | start, c :: cs =>
      blank (slice d.source start c.span.start) && gapsBlank d stop c.span.stop cs

/-- An export statement is its children with white space between them; none of them is empty, and
the keywords and marks read as they are called. -/
def isLaidOut (d : Document) (n : Node) : Bool :=
  n.kind ≠ .exportStatement ||
    gapsBlank d n.span.stop n.span.start n.children &&
      n.children.all fun c => !blank (d.textOf c) &&
        match c.kind with
        | .token word => d.textOf c = word.toList
        | _ => true

theorem ink_slice_of_gapsBlank {d : Document} {start stop : Nat} {cs : List Node}
    (hstart : onBoundary d.source start = true) (hstop : onBoundary d.source stop = true)
    (hnested : Node.areNested d.source stop start cs = true)
    (hgaps : d.gapsBlank stop start cs = true) :
    ink (slice d.source start stop) = cs.flatMap fun c => ink (d.textOf c) := by
  induction cs generalizing start with
  | nil => exact ink_of_blank hgaps
  | cons c cs ih =>
      obtain ⟨hle, hc, hrest⟩ := Node.areNested_cons_iff.mp hnested
      obtain ⟨hgap, hgaps⟩ := Bool.and_eq_true_iff.mp hgaps
      have hfits := Node.fits_of_isNested hc
      have hstop_le : c.span.stop ≤ stop := (Node.areNested_iff.mp hrest).1
      rw [List.flatMap_cons, ← ih hfits.boundary_stop hrest hgaps,
        ← slice_append_slice hstart hfits.boundary_start hstop hle
          (Nat.le_trans hfits.start_le_stop hstop_le),
        ← slice_append_slice hfits.boundary_start hfits.boundary_stop hstop hfits.start_le_stop
          hstop_le, ink_append, ink_append, ink_of_blank hgap, List.nil_append, textOf]

theorem gapsBlank_append {d : Document} {start stop : Nat} {before after : List Node} {f : Node}
    (h : d.gapsBlank stop start (before ++ f :: after) = true) :
    d.gapsBlank f.span.start start before = true ∧ d.gapsBlank stop f.span.stop after = true := by
  induction before generalizing start with
  | nil => exact Bool.and_eq_true_iff.mp h
  | cons c before ih =>
      obtain ⟨hgap, hgaps⟩ := Bool.and_eq_true_iff.mp h
      exact ⟨Bool.and_eq_true_iff.mpr ⟨hgap, (ih hgaps).1⟩, (ih hgaps).2⟩

theorem of_isLaidOut {d : Document} {stmt : Node} (hlaid : d.isLaidOut stmt = true)
    (hkind : stmt.kind = .exportStatement) :
    d.gapsBlank stmt.span.stop stmt.span.start stmt.children = true ∧
      ∀ c ∈ stmt.children, ink (d.textOf c) ≠ [] ∧
        ∀ word, c.kind = .token word → d.textOf c = word.toList := by
  simp only [isLaidOut, hkind, ne_eq, not_true_eq_false, decide_false, Bool.false_or,
    Bool.and_eq_true, List.all_eq_true, Bool.not_eq_true'] at hlaid
  refine ⟨hlaid.1, fun c hc => ?_⟩
  obtain ⟨hblank, htoken⟩ := hlaid.2 c hc
  constructor
  · intro hink
    rw [blank_of_ink_eq_nil hink] at hblank
    cases hblank
  · intro word hword
    simpa only [hword, decide_eq_true_eq] using htoken

section
variable {d : Document} {stmt f : Node} {before after : List Node}
  (hstmt : stmt.isNested d.source = true) (hlaid : d.isLaidOut stmt = true)
  (hkind : stmt.kind = .exportStatement) (hchildren : stmt.children = before ++ f :: after)
include hstmt hlaid hkind hchildren

/-- What stands around one child of an export statement is the other children. -/
theorem exists_around_of_isLaidOut :
    ∃ head tail, slice d.source stmt.span.start stmt.span.stop = head ++ (d.textOf f ++ tail) ∧
      ink head = before.flatMap (fun c => ink (d.textOf c)) ∧
      ink tail = after.flatMap (fun c => ink (d.textOf c)) := by
  have hgaps := (of_isLaidOut hlaid hkind).1
  obtain ⟨hfits, hnested⟩ := Node.isNested_iff.mp hstmt
  obtain ⟨hf, hinside⟩ := Node.isNested_of_mem (c := f) hstmt (by simp [hchildren])
  have hf := Node.fits_of_isNested hf
  rw [hchildren] at hgaps hnested
  obtain ⟨hgapsBefore, hgapsAfter⟩ := gapsBlank_append hgaps
  obtain ⟨hbefore, hafter⟩ := Node.areNested_append hnested
  refine ⟨slice d.source stmt.span.start f.span.start, slice d.source f.span.stop stmt.span.stop,
    ?_, ?_, ?_⟩
  · rw [textOf, slice_append_slice hf.boundary_start hf.boundary_stop hfits.boundary_stop
        hf.start_le_stop hinside.2,
      slice_append_slice hfits.boundary_start hf.boundary_start hfits.boundary_stop hinside.1
        (Nat.le_trans hf.start_le_stop hinside.2)]
  · exact ink_slice_of_gapsBlank hfits.boundary_start hf.boundary_start hbefore hgapsBefore
  · exact ink_slice_of_gapsBlank hf.boundary_stop hfits.boundary_stop hafter hgapsAfter

end

end Document

theorem Wrapper.replacement_defaultExport {t : Target} {name : Text}
    (hshape : t.shape = .defaultExportedFunctionDeclaration) (hoverloaded : t.overloaded = false)
    (hname : t.name = some name) (spanName entry newline : Text) :
    replacement t spanName entry newline =
      lead t spanName entry newline ++ (t.text ++ (");".toList ++ newline ++ t.indent ++
        "export default ".toList ++ name ++ ";".toList)) := by
  have hclose : ")".toList ++ ";".toList = ");".toList := by decide
  have hhead : t.keepsHead = false := by simp [Target.keepsHead, hoverloaded, hshape, Shape.isMember]
  unfold replacement lead wrapDeclaration wrapCall
  simp only [hoverloaded, hshape, hhead, hname, Option.getD_some, ↓reduceIte, Bool.false_eq_true,
    reduceCtorEq]
  simp only [List.append_assoc, ← hclose]

namespace Survey

theorem mem_found_of_mem_visits {s : Survey} {v : Visit} (hv : v ∈ s.visits)
    (hoverloaded : v.target.overloaded = false) : v ∈ s.found := by
  obtain ⟨found, hfound, rfl⟩ := List.mem_map.mp (visits_eq s ▸ hv)
  rcases retarget_cases (signatureNames s.found) found with heq | ⟨span, wrapped, -, heq⟩
  · rw [heq]
    exact hfound
  · rw [heq] at hoverloaded
    cases hoverloaded

theorem exists_defaultExport {s : Survey} {v : Visit} (hv : v ∈ s.found)
    (hshape : v.target.shape = .defaultExportedFunctionDeclaration) :
    ∃ stmt ∈ s.doc.root.children, ∃ f ∈ stmt.children, stmt.kind = .exportStatement ∧
      stmt.hasToken "default" = true ∧ v = s.visitFunction f .default stmt.span := by
  have hmem {x c : Site} (hc : c ∈ x.children) : c.node ∈ x.node.children :=
    Site.map_node_children x ▸ List.mem_map_of_mem hc
  rcases mem_found_iff.mp hv with ⟨x, stmt, hstmt, hx⟩ | ⟨x, b, c, -, hx⟩
  · refine ⟨stmt.node, hmem hstmt, ?_⟩
    cases hx with
    | declared hd hx =>
        cases hx with
        | function _ =>
            have hdefault : exportOf stmt.node = .default := by
              cases hexport : exportOf stmt.node <;> simp [visitFunction, target, hexport] at hshape ⊢
            have hkind : stmt.node.kind = .exportStatement := by
              by_contra hkind
              simp [exportOf, hkind] at hdefault
            have htoken : stmt.node.hasToken "default" = true := by
              by_contra htoken
              simp [exportOf, hkind, htoken] at hdefault
            refine ⟨x.node, ?_, hkind, htoken, by rw [reach, hdefault]; rfl⟩
            cases hd with
            | bare hne => exact absurd hkind hne
            | exported _ hd => exact hmem (Site.mem_children_of_child? hd)
        | signature _ => cases hshape
        | constant _ _ _ hx => cases hx <;> cases hshape
    | value hx _ =>
        exact ⟨x.node, hmem (Site.mem_children_of_child? hx.value), hx.kind, hx.isDefault, rfl⟩
  · cases hx with
    | method _ _ _ _ =>
        have hmember := isMember_visitMethod s c x.node
        rw [hshape] at hmember
        cases hmember
    | signature _ _ _ => cases hshape

end Survey

/-- One of the two keywords of a default export. -/
def isExportWord (n : Node) : Bool := n.kind = .token "export" || n.kind = .token "default"

theorem length_flatMap_filter_le (p : Node → Bool) (g : Node → Text) (cs : List Node) :
    ((cs.filter p).flatMap g).length ≤ (cs.flatMap g).length := by
  induction cs with
  | nil => exact Nat.le_refl _
  | cons c cs ih =>
      by_cases hc : p c = true
      · simpa [hc] using ih
      · simp only [hc, List.filter_cons_of_neg, Bool.false_eq_true, not_false_eq_true,
          List.flatMap_cons, List.length_append]
        omega

/-- Where no part left out is empty, the parts that are kept make up the whole only if all are kept. -/
theorem flatMap_filter_eq_iff {p : Node → Bool} {g : Node → Text} {cs : List Node}
    (hne : ∀ c ∈ cs, p c = false → g c ≠ []) :
    cs.flatMap g = (cs.filter p).flatMap g ↔ ∀ c ∈ cs, p c = true := by
  induction cs with
  | nil => simp
  | cons c cs ih =>
      have ih := ih fun x hx => hne x (List.mem_cons_of_mem c hx)
      by_cases hc : p c = true
      · simp [hc, ih]
      · have hlength := length_flatMap_filter_le p g cs
        have hpos := List.length_pos_iff.mpr (hne c List.mem_cons_self (by simpa using hc))
        simp only [hc, List.filter_cons_of_neg, Bool.false_eq_true, not_false_eq_true,
          List.flatMap_cons, List.forall_mem_cons, false_and, iff_false]
        intro heq
        have heq := congrArg List.length heq
        rw [List.length_append] at heq
        omega

namespace Weaver

/-- What becomes of a default export of a named function that is not overloaded. Its statement is
replaced as a whole, by a constant that holds the traced function as it is written and an export of
that constant. Of the statement only the function is kept; around it stand the other children,
comments and decorators among them, and nothing but the keywords stands there exactly if each of
these is `export` or `default`. -/
theorem defaultExport_of_woven {w : Weaver} {source path : Text} {dialect : Dialect}
    {doc : Document} {woven : Woven} (hdialect : Dialect.ofPath? path = some dialect)
    (hparse : Document.parse source dialect = .ok doc)
    (hroot : doc.root.isNested doc.source = true)
    (hlaid : ∀ n ∈ doc.root.children, doc.isLaidOut n = true)
    (hweave : w.weave source path = .ok woven) :
    ∀ x ∈ woven.wrapped, x.target.shape = .defaultExportedFunctionDeclaration →
      x.target.overloaded = false →
      ∃ stmt ∈ doc.root.children, ∃ before f after head tail name,
        stmt.kind = .exportStatement ∧ stmt.hasToken "default" = true ∧
          stmt.span = x.target.span ∧ stmt.children = before ++ f :: after ∧
          x.target.text = doc.textOf f ∧ x.target.name = some name ∧
          x.replacement = Wrapper.lead x.target x.spanName w.entry doc.lineEnding ++
            (doc.textOf f ++ (");".toList ++ doc.lineEnding ++ x.target.indent ++
              "export default ".toList ++ name ++ ";".toList)) ∧
          slice source x.target.span.start x.target.span.stop = head ++ (doc.textOf f ++ tail) ∧
          ink head = before.flatMap (fun c => ink (doc.textOf c)) ∧
          ink tail = after.flatMap (fun c => ink (doc.textOf c)) ∧
          (∀ c ∈ before ++ after, isExportWord c = true →
            doc.textOf c = "export".toList ∨ doc.textOf c = "default".toList) ∧
          (ink head ++ ink tail = ((before ++ after).filter isExportWord).flatMap
              (fun c => ink (doc.textOf c)) ↔
            ∀ c ∈ before ++ after, isExportWord c = true) := by
  intro x hx hshape hoverloaded
  have hsource := (Document.of_parse_eq_ok hparse).1
  rw [weave_eq_weaveDocument hdialect hparse] at hweave
  rw [(of_weaveDocument_eq_ok hweave).1] at hx
  obtain ⟨v, hv, hreason, htarget⟩ := exists_visit_of_mem_wrappedIn hx
  have hfound := Survey.mem_found_of_mem_visits hv (by rw [htarget, hoverloaded])
  obtain ⟨stmt, hstmt, f, hf, hkind, htoken, rfl⟩ :=
    Survey.exists_defaultExport hfound (htarget ▸ hshape)
  have hname : ∃ name, x.target.name = some name := by
    obtain ⟨name, hname, -⟩ := Survey.exists_identifier_of_skipReason?_eq_none hreason
    rw [htarget, Target.identifier?, hshape] at hname
    exact ⟨name, hname⟩
  obtain ⟨name, hname⟩ := hname
  have hspan : stmt.span = x.target.span := congrArg Target.span htarget
  have htext : x.target.text = doc.textOf f := (congrArg Target.text htarget).symm
  have hreplacement : x.replacement = Wrapper.replacement x.target x.spanName w.entry
      doc.lineEnding := by
    obtain ⟨t, -, rfl⟩ := List.mem_map.mp hx
    rfl
  rw [Wrapper.replacement_defaultExport hshape hoverloaded hname, htext] at hreplacement
  obtain ⟨before, after, hchildren⟩ := List.append_of_mem hf
  obtain ⟨head, tail, hslice, hhead, htail⟩ :
      ∃ head tail, slice source x.target.span.start x.target.span.stop =
          head ++ (doc.textOf f ++ tail) ∧
        ink head = before.flatMap (fun c => ink (doc.textOf c)) ∧
        ink tail = after.flatMap (fun c => ink (doc.textOf c)) := by
    rw [← hspan, ← hsource]
    exact Document.exists_around_of_isLaidOut (Node.isNested_of_mem hroot hstmt).1
      (hlaid stmt hstmt) hkind hchildren
  have hparts := (Document.of_isLaidOut (hlaid stmt hstmt) hkind).2
  have hmem {c : Node} (hc : c ∈ before ++ after) : c ∈ stmt.children := by
    rw [hchildren]
    exact List.mem_append.mpr ((List.mem_append.mp hc).imp_right (List.mem_cons_of_mem f))
  refine ⟨stmt, hstmt, before, f, after, head, tail, name, hkind, htoken, hspan, hchildren, htext,
    hname, hreplacement, hslice, hhead, htail, ?_, ?_⟩
  · intro c hc hword
    simp only [isExportWord, Bool.or_eq_true, decide_eq_true_eq] at hword
    exact hword.imp ((hparts c (hmem hc)).2 _) ((hparts c (hmem hc)).2 _)
  · rw [hhead, htail, ← List.flatMap_append]
    exact flatMap_filter_eq_iff fun c hc _ => (hparts c (hmem hc)).1

def decoratedDefault : Text := "@a export default async function f() \x7b\x7d\n".toList

theorem defaultExport_of_decoratedDefault :
    ∃ doc woven, Document.parse decoratedDefault .typeScript = .ok doc ∧
      plain.weave decoratedDefault "a.ts".toList = .ok woven ∧
      ∃ x ∈ woven.wrapped, ∃ stmt ∈ doc.root.children, ∃ before f after head tail,
        stmt.children = before ++ f :: after ∧
          slice decoratedDefault 0 39 = head ++ (doc.textOf f ++ tail) ∧
          ink head = before.flatMap (fun c => ink (doc.textOf c)) ∧
          ink tail = after.flatMap (fun c => ink (doc.textOf c)) ∧
          x.replacement = Wrapper.lead x.target x.spanName plain.entry doc.lineEnding ++
            (doc.textOf f ++ ");\nexport default f;".toList) := by
  have hcheck : yields (Document.parse decoratedDefault .typeScript) (fun doc =>
      doc.root.isNested doc.source && doc.root.children.all doc.isLaidOut &&
        decide (doc.lineEnding = "\n".toList) &&
        (plain.wrappedIn doc "a.ts".toList).any fun x =>
          decide (x.target.shape = .defaultExportedFunctionDeclaration ∧
            x.target.overloaded = false ∧ x.target.span = ⟨0, 39⟩ ∧
            x.target.name = some "f".toList ∧ x.target.indent = [])) = true := by
    decide +kernel
  obtain ⟨doc, hdoc, h⟩ := exists_of_yields hcheck
  simp only [Bool.and_eq_true, List.any_eq_true, List.all_eq_true, decide_eq_true_eq] at h
  obtain ⟨⟨⟨hroot, hlaid⟩, hline⟩, x, hx, hshape, hoverloaded, hspan, hname, hindent⟩ := h
  have hdialect : Dialect.ofPath? "a.ts".toList = some .typeScript := by decide
  obtain ⟨woven, hwoven, hwrapped⟩ :=
    exists_weave_of_isNested hdialect hdoc hroot (List.ne_nil_of_mem hx)
  rw [← hwrapped] at hx
  obtain ⟨stmt, hstmt, before, f, after, head, tail, name, -, -, -, hchildren, -, hname',
    hreplacement, hslice, hhead, htail, -⟩ :=
    defaultExport_of_woven hdialect hdoc hroot hlaid hwoven x hx hshape hoverloaded
  obtain rfl := Option.some.inj (hname.symm.trans hname')
  rw [hspan] at hslice
  refine ⟨doc, woven, hdoc, hwoven, x, hx, stmt, hstmt, before, f, after, head, tail, hchildren,
    hslice, hhead, htail, ?_⟩
  rw [hreplacement, hline, hindent]
  rfl

/-- Comments between the keywords and in front of the function. -/
def commentedDefault : Text := "export /* a */ default /* b */ function f() \x7b\x7d\n".toList

theorem comments_of_commentedDefault_lost :
    ∃ woven, plain.weave commentedDefault "a.ts".toList = .ok woven ∧
      ∃ x ∈ woven.wrapped, x.target.shape = .defaultExportedFunctionDeclaration ∧
        x.target.overloaded = false ∧
        "/* a */".toList <:+: slice commentedDefault x.target.span.start x.target.span.stop ∧
        "/* b */".toList <:+: slice commentedDefault x.target.span.start x.target.span.stop ∧
        ¬ "/* a */".toList <:+: x.replacement ∧ ¬ "/* b */".toList <:+: x.replacement := by
  have hcheck : yields (Document.parse commentedDefault .typeScript) (fun doc =>
      doc.root.isNested doc.source && (plain.wrappedIn doc "a.ts".toList).any fun x =>
        decide (x.target.shape = .defaultExportedFunctionDeclaration ∧
          x.target.overloaded = false ∧
          "/* a */".toList <:+: slice commentedDefault x.target.span.start x.target.span.stop ∧
          "/* b */".toList <:+: slice commentedDefault x.target.span.start x.target.span.stop ∧
          ¬ "/* a */".toList <:+: x.replacement ∧ ¬ "/* b */".toList <:+: x.replacement)) =
      true := by
    decide +kernel
  obtain ⟨doc, hdoc, h⟩ := exists_of_yields hcheck
  simp only [Bool.and_eq_true, List.any_eq_true, decide_eq_true_eq] at h
  obtain ⟨hroot, x, hx, hlost⟩ := h
  have hdialect : Dialect.ofPath? "a.ts".toList = some .typeScript := by decide
  obtain ⟨woven, hwoven, hwrapped⟩ :=
    exists_weave_of_isNested hdialect hdoc hroot (List.ne_nil_of_mem hx)
  exact ⟨woven, hwoven, x, hwrapped ▸ hx, hlost⟩

end Weaver

end SpanWeave
