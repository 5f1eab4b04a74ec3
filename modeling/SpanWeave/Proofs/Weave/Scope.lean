import SpanWeave.Proofs.Binding
import SpanWeave.Proofs.Survey.Overload
import SpanWeave.Proofs.Weave.Restoration
import SpanWeave.Proofs.Wrapper

/-!
Where the call of the entry point stands when a body becomes a traced arrow function. It stands in
the scope of the parameters, and nothing between that and the top level binds a name but class
expressions, which bind their own. So the call reaches the entry point unless one of these has its
name.
-/

namespace SpanWeave

open Syntax Text

namespace Binding

/-- The names that a parameter binds, from its parts: the pattern stands behind decorators and
modifiers, and `this` binds none. -/
def partsNames (d : Document) : List Node → List Text
  | [] => []
  | c :: cs =>
      if c.kind = .token "this" then []
      else if c.kind.isNamed && !c.kind.isExtra && c.kind ≠ .decorator then patternNames d c
      else partsNames d cs

/-- The names that the parameters of a function bind. -/
def parameterNames (d : Document) (f : Node) : List Text :=
  (f.child? .parameters).toList.flatMap (fun ps =>
      ps.significant.flatMap fun p => partsNames d p.children) ++
    (f.child? .parameter).toList.flatMap (patternNames d)

/-- The names that a call of a function binds. An arrow function has no `arguments`. -/
def callNames (d : Document) (f : Node) : List Text :=
  (if f.kind = .arrowFunction then [] else ["arguments".toList]) ++ parameterNames d f

/-- The names that functions and classes bind for what is inside them. The name of a declaration is
bound outside it. -/
def innerNames (d : Document) (n : Node) : List Text :=
  match n.kind with
  | .functionDeclaration | .generatorFunctionDeclaration | .methodDefinition | .arrowFunction =>
      callNames d n
  | .functionExpression | .generatorFunction => (d.fieldText? n .name).toList ++ callNames d n
  | .classExpression => (d.fieldText? n .name).toList
  | _ => []

/-- Inside the node at the end of a path, a name is that of the top level. -/
def LeadsOut (d : Document) (path : List Nat) (name : Text) : Prop :=
  ∀ n ∈ d.root.way path, name ∉ innerNames d n

end Binding

namespace Survey

/-- Functions are looked for inside nodes of these kinds only; none of them is a block. -/
def isPassed : Kind → Bool
  | .exportStatement | .lexicalDeclaration | .variableDeclarator | .classDeclaration
  | .abstractClassDeclaration | .classExpression | .classBody | .object => true
  | _ => false

/-- The body of a class is a class body. -/
def hasClassBody (n : Node) : Bool :=
  !(n.kind = .classDeclaration || n.kind = .abstractClassDeclaration ||
    n.kind = .classExpression) ||
    (n.child? .body).all fun b => b.kind = .classBody

/-- Only nodes inside which functions are looked for stand on the way to a site. -/
structure Passes (root : Node) (x : Site) : Prop where
  isIn : x.IsIn root
  way : ∀ n ∈ root.way x.path, isPassed n.kind = true

theorem passes_top (root : Node) : Passes root (Site.top root) := ⟨rfl, fun _ hn => by cases hn⟩

theorem Passes.child {root : Node} {x c : Site} (h : Passes root x) (hc : c ∈ x.children)
    (hkind : isPassed c.node.kind = true) : Passes root c := by
  refine ⟨h.isIn.of_mem_children hc, ?_⟩
  rw [Site.way_of_mem_children h.isIn hc]
  intro n hn
  rcases List.mem_append.mp hn with hn | hn
  · exact h.way n hn
  · exact List.mem_singleton.mp hn ▸ hkind

theorem mem_innerNames_iff_of_isPassed {d : Document} {n : Node} (h : isPassed n.kind = true)
    {name : Text} : name ∈ Binding.innerNames d n ↔
      n.kind = .classExpression ∧ d.fieldText? n .name = some name := by
  rw [Binding.innerNames]
  split
  case h_7 hkind => simp [hkind]
  case h_8 _ _ _ _ _ _ _ hkind => simp [show n.kind ≠ .classExpression from hkind]
  all_goals
    rename_i hkind
    simp [hkind, isPassed] at h

/-- Of what stands around a function only class expressions bind names, besides the function. -/
theorem leadsOut_iff {d : Document} {p f : Site} (h : Passes d.root p) (hf : f ∈ p.children)
    {name : Text} :
    Binding.LeadsOut d f.path name ↔ name ∉ Binding.innerNames d f.node ∧
      ∀ c ∈ d.root.way p.path, c.kind = .classExpression → d.fieldText? c .name ≠ some name := by
  have hway {n : Node} (hn : n ∈ d.root.way p.path) :
      name ∉ Binding.innerNames d n ↔
        (n.kind = .classExpression → d.fieldText? n .name ≠ some name) := by
    rw [mem_innerNames_iff_of_isPassed (h.way n hn), not_and]
  rw [Binding.LeadsOut, Site.way_of_mem_children h.isIn hf]
  constructor
  · intro hall
    refine ⟨hall _ (by simp), ?_⟩
    intro c hc
    exact (hway hc).mp (hall c (List.mem_append_left _ hc))
  · rintro ⟨hown, hothers⟩ n hn
    rcases List.mem_append.mp hn with hn | hn
    · exact (hway hn).mpr (hothers n hn)
    · exact List.mem_singleton.mp hn ▸ hown

section
variable {s : Survey}

theorem passes_of_declares {stmt d : Site} (hstmt : stmt ∈ s.statements) (hd : Declares stmt d)
    (hkind : isPassed d.node.kind = true) : Passes s.doc.root d := by
  cases hd with
  | bare _ => exact (passes_top _).child hstmt hkind
  | exported hexport hd =>
      exact ((passes_top _).child hstmt (by rw [hexport]; rfl)).child
        (Site.mem_children_of_child? hd) hkind

theorem exists_parent_of_declares {stmt d : Site} (hstmt : stmt ∈ s.statements)
    (hd : Declares stmt d) : ∃ p, Passes s.doc.root p ∧ d ∈ p.children := by
  cases hd with
  | bare _ => exact ⟨_, passes_top _, hstmt⟩
  | exported hexport hd =>
      exact ⟨stmt, (passes_top _).child hstmt (by rw [hexport]; rfl),
        Site.mem_children_of_child? hd⟩

variable (hclasses : s.doc.root.everywhere hasClassBody = true)
include hclasses

theorem passes_bodyOf {c : Site} (h : Passes s.doc.root c)
    (hkind : c.node.kind = .classDeclaration ∨ c.node.kind = .abstractClassDeclaration ∨
      c.node.kind = .classExpression) : Passes s.doc.root (bodyOf c) := by
  rw [bodyOf]
  cases hbody : c.child? .body with
  | none => exact h
  | some b =>
      refine h.child (Site.mem_children_of_child? hbody) ?_
      have hclass := Node.of_everywhere hclasses (Node.under_of_at? h.isIn)
      have hb : c.node.child? .body = some b.node := by
        rw [← Site.map_node_child?, hbody, Option.map_some]
      have hb : b.node.kind = .classBody := by
        rcases hkind with hkind | hkind | hkind <;> simpa [hasClassBody, hkind, hb] using hclass
      simp [hb, isPassed]

theorem VariableHolds.passes {v b : Site} {c : Container} (hv : Passes s.doc.root v)
    (h : VariableHolds s v b c) : Passes s.doc.root b := by
  cases h with
  | ofClass hbinds hkind =>
      refine passes_bodyOf hclasses (hv.child (Site.mem_children_of_child? hbinds.value) ?_)
        (Or.inr (Or.inr hkind))
      rw [hkind]
      rfl
  | ofObject hbinds hkind =>
      refine hv.child (Site.mem_children_of_child? hbinds.value) ?_
      rw [hkind]
      rfl

theorem DeclarationHolds.passes {stmt d b : Site} {c : Container} (hstmt : stmt ∈ s.statements)
    (hd : Declares stmt d) (h : DeclarationHolds s d b c) : Passes s.doc.root b := by
  cases h with
  | ofClass hkind =>
      refine passes_bodyOf hclasses (passes_of_declares hstmt hd ?_) (hkind.imp_right Or.inl)
      rcases hkind with hkind | hkind <;> rw [hkind] <;> rfl
  | @constant v _ _ hkind _ hv hb =>
      refine VariableHolds.passes hclasses ?_ hb
      refine (passes_of_declares hstmt hd (by rw [hkind]; rfl)).child hv ?_
      have hvariable : v.node.kind = .variableDeclarator := by
        cases hb with
        | ofClass hbinds _ => exact hbinds.kind
        | ofObject hbinds _ => exact hbinds.kind
      rw [hvariable]
      rfl

theorem Holds.passes {stmt b : Site} {c : Container} (hstmt : stmt ∈ s.statements)
    (h : Holds s stmt b c) : Passes s.doc.root b := by
  have hexport {x : Site} (hx : ExportsValue stmt x) (hkind : isPassed x.node.kind = true) :
      Passes s.doc.root x :=
    ((passes_top _).child hstmt (by rw [hx.kind]; rfl)).child
      (Site.mem_children_of_child? hx.value) hkind
  cases h with
  | declared hd hb => exact hb.passes hclasses hstmt hd
  | ofClass hx hkind =>
      exact passes_bodyOf hclasses (hexport hx (by rw [hkind]; rfl)) (Or.inr (Or.inr hkind))
  | ofObject hx hkind => exact hexport hx (by rw [hkind]; rfl)

end

theorem mem_innerNames_iff_of_function {d : Document} {f : Node} {name : Text}
    (hf : f.kind = .functionDeclaration ∨ f.kind = .generatorFunctionDeclaration ∨
      f.kind = .methodDefinition ∨ f.isFunctionExpression = true)
    (hname : f.isFunctionExpression = true → d.fieldText? f .name ≠ some name) :
    name ∈ Binding.innerNames d f ↔ name ∈ Binding.callNames d f := by
  rcases hf with hkind | hkind | hkind | hf
  · rw [Binding.innerNames, hkind]
  · rw [Binding.innerNames, hkind]
  · rw [Binding.innerNames, hkind]
  · have hname := hname hf
    simp only [Node.isFunctionExpression] at hf
    split at hf
    · rename_i hkind
      rw [Binding.innerNames, hkind]
    · rename_i hkind
      simp [Binding.innerNames, hkind, hname]
    · rename_i hkind
      simp [Binding.innerNames, hkind, hname]
    · cases hf

theorem of_retarget_visitFunction {s : Survey} {skip : Text → Bool} {names : List Text} {f : Node}
    {exported : Export} {whole : Span}
    (hreason : skipReason? skip s.entry (retarget names (s.visitFunction f exported whole)) = none)
    (hhead : (retarget names (s.visitFunction f exported whole)).target.keepsHead = true) :
    (∃ body, f.child? .body = some body ∧
      body.span = (retarget names (s.visitFunction f exported whole)).target.span) ∧
      s.doc.fieldText? f .name ≠ some s.entry := by
  have hmember : (s.visitFunction f exported whole).target.shape.isMember = false := by
    cases exported <;> rfl
  constructor
  · rcases retarget_visitFunction_cases names f exported whole with
      ⟨body, -, hbody, -, -, -, -, hspan⟩ | ⟨-, heq⟩
    · exact ⟨body, hbody, hspan.symm⟩
    · rw [heq, Target.keepsHead, hmember] at hhead
      cases hhead
  · obtain ⟨identifier, hidentifier, hentry⟩ := exists_identifier_of_skipReason?_eq_none hreason
    obtain ⟨hshape, hname, -⟩ := target_retarget names (s.visitFunction f exported whole)
    rw [Target.identifier?, hshape, hmember, hname] at hidentifier
    rw [hshape] at hentry
    intro heq
    have hfield : s.doc.fieldText? f .name = some identifier := hidentifier
    exact hentry hmember (Option.some.inj (hfield.symm.trans heq))

/-- A function whose body alone is replaced is reached through nodes in which functions are looked
for, and of the names that it binds inside, the entry point's can only be one that a call of it
binds. -/
theorem exists_body {s : Survey} {skip : Text → Bool} {v : Visit}
    (hbodies : s.doc.root.everywhere Node.hasMethodBody = true)
    (hclasses : s.doc.root.everywhere hasClassBody = true) (hv : v ∈ s.visits)
    (hreason : skipReason? skip s.entry v = none) (hhead : v.target.keepsHead = true) :
    ∃ p f : Site, ∃ body, Passes s.doc.root p ∧ f ∈ p.children ∧
      f.node.child? .body = some body ∧ body.span = v.target.span ∧
      (s.entry ∈ Binding.innerNames s.doc f.node ↔ s.entry ∈ Binding.callNames s.doc f.node) := by
  obtain ⟨found, hfound, rfl⟩ := List.mem_map.mp (visits_eq s ▸ hv)
  have hsignature := (of_skipReason?_eq_none hreason).2.1
  rw [(target_retarget _ found).1] at hsignature
  have hsame (h : found.target.shape.isDeclaration = false) :
      retarget (signatureNames s.found) found = found := by
    simp [retarget, h]
  rcases mem_found_iff.mp hfound with ⟨f, stmt, hstmt, hf⟩ | ⟨f, b, c, ⟨stmt, hstmt, hb⟩, hf⟩
  · cases hf with
    | declared hd hf =>
        cases hf with
        | function hkind =>
            obtain ⟨⟨body, hbody, hspan⟩, hname⟩ := of_retarget_visitFunction hreason hhead
            obtain ⟨p, hp, hf⟩ := exists_parent_of_declares hstmt hd
            exact ⟨p, f, body, hp, hf, hbody, hspan,
              mem_innerNames_iff_of_function (by tauto) fun _ => hname⟩
        | signature _ => exact absurd rfl hsignature
        | constant _ _ _ hf =>
            -- a constant is replaced by a constant
            rw [hsame (by cases hf <;> rfl)] at hhead
            cases hf <;> cases hhead
    | value hf hkind =>
        obtain ⟨⟨body, hbody, hspan⟩, hname⟩ := of_retarget_visitFunction hreason hhead
        refine ⟨stmt, f, body, (passes_top _).child hstmt (by rw [hf.kind]; rfl),
          Site.mem_children_of_child? hf.value, hbody, hspan,
          mem_innerNames_iff_of_function (by tauto) fun _ => hname⟩
  · cases hf with
    | method hm hkind _ _ =>
        have hp := hb.passes hclasses hstmt
        have hbody := Node.of_everywhere hbodies
          (Node.under_of_at? (hp.isIn.of_mem_children hm))
        have hnone : f.node.isFunctionExpression ≠ true := by
          simp [Node.isFunctionExpression, hkind]
        simp only [Node.hasMethodBody, hkind, ne_eq, not_true_eq_false, decide_false,
          Bool.false_or, Option.isSome_iff_exists] at hbody
        obtain ⟨body, hbody⟩ := hbody
        have hdeclaration : (s.visitMethod c f.node).target.shape.isDeclaration = false := by
          have hmember := isMember_visitMethod s c f.node
          cases hshape : (s.visitMethod c f.node).target.shape <;>
            simp [hshape, Shape.isMember, Shape.isDeclaration] at hmember ⊢
        refine ⟨b, f, body, hp, hm, hbody, ?_,
          mem_innerNames_iff_of_function (by tauto) fun h => absurd h hnone⟩
        rw [hsame hdeclaration, visitMethod_span, hbody]
        rfl
    | signature _ _ _ => exact absurd rfl hsignature

/-- What becomes of a candidate whose body alone is replaced: a block at whose beginning the entry
point is called. The name of the entry point means there what it means at the top level, unless the
function has a parameter of that name, plain or in a pattern, or the name is `arguments`, or a class
expression around the function is called so. The body is found among nodes that bind nothing else. -/
theorem callee_of_candidate {doc : Document} {skip : Text → Bool} {entry : Text}
    (hbodies : doc.root.everywhere Node.hasMethodBody = true)
    (hclasses : doc.root.everywhere hasClassBody = true) :
    ∀ t ∈ (classify doc skip entry).candidates, t.keepsHead = true →
      (∀ spanName newline, ∃ step rest, blank step = true ∧
        Wrapper.replacement t spanName entry newline =
          "\x7b".toList ++ newline ++ t.indent ++ step ++ "return ".toList ++ entry ++
            "(".toList ++ rest) ∧
        ∃ p f : Site, ∃ body, Passes doc.root p ∧ f ∈ p.children ∧
          f.node.child? .body = some body ∧ body.span = t.span ∧
          (Binding.LeadsOut doc f.path entry ↔
            entry ∉ Binding.parameterNames doc f.node ∧
              (f.node.kind ≠ .arrowFunction → entry ≠ "arguments".toList) ∧
              ∀ c ∈ doc.root.way p.path, c.kind = .classExpression →
                doc.fieldText? c .name ≠ some entry) := by
  intro t ht hhead
  obtain ⟨v, hv, hreason, rfl⟩ := mem_candidates_iff.mp ht
  obtain ⟨p, f, body, hp, hf, hbody, hspan, hnames⟩ :=
    exists_body hbodies hclasses hv hreason hhead
  constructor
  · intro spanName newline
    obtain ⟨hconstructor, hsignature, -⟩ := of_skipReason?_eq_none hreason
    have hdefault (hshape : v.target.shape = .defaultExportedFunctionDeclaration) :
        v.target.overloaded = true := by
      simpa [Target.keepsHead, hshape, Shape.isMember] using hhead
    refine ⟨Wrapper.indentStep v.target.body v.target.indent,
      Literal.quote spanName ++ ", ".toList ++ (if v.target.isAsync then "async ".toList else []) ++
        "() => ".toList ++ Wrapper.emitted v.target ++ Wrapper.trail v.target newline,
      Wrapper.blank_indentStep _ _, ?_⟩
    rw [Wrapper.replacement_eq hconstructor hsignature hdefault, Wrapper.lead, if_pos hhead]
    simp only [List.append_assoc]
  · refine ⟨p, f, body, hp, hf, hbody, hspan, ?_⟩
    have hcall : entry ∉ Binding.callNames doc f.node ↔
        entry ∉ Binding.parameterNames doc f.node ∧
          (f.node.kind ≠ .arrowFunction → entry ≠ "arguments".toList) := by
      rw [Binding.callNames, List.mem_append, not_or, and_comm]
      by_cases harrow : f.node.kind = .arrowFunction <;> simp [harrow]
    rw [leadsOut_iff hp hf, not_congr hnames, hcall, and_assoc]

/-- A method with parameters of several kinds. -/
def manyParameters : Text :=
  "class A \x7b m(a, \x7b b: [c = 1], ...d \x7d, ...e) \x7b\x7d \x7d\n".toList

theorem callee_of_manyParameters :
    ∃ doc, Document.parse manyParameters .typeScript = .ok doc ∧
      ∃ t ∈ (classify doc (fun _ => false) "d".toList).candidates, t.keepsHead = true ∧
        ∃ p f : Site, ∃ body, f ∈ p.children ∧ f.node.child? .body = some body ∧
          body.span = t.span ∧
          (Binding.LeadsOut doc f.path "d".toList ↔
            "d".toList ∉ Binding.parameterNames doc f.node ∧
              (f.node.kind ≠ .arrowFunction → "d".toList ≠ "arguments".toList) ∧
              ∀ c ∈ doc.root.way p.path, c.kind = .classExpression →
                doc.fieldText? c .name ≠ some "d".toList) := by
  have hcheck : yields (Document.parse manyParameters .typeScript) (fun doc =>
      doc.root.everywhere Node.hasMethodBody && doc.root.everywhere hasClassBody &&
        (classify doc (fun _ => false) "d".toList).candidates.any Target.keepsHead) = true := by
    decide +kernel
  obtain ⟨doc, hdoc, h⟩ := exists_of_yields hcheck
  simp only [Bool.and_eq_true, List.any_eq_true] at h
  obtain ⟨⟨hbodies, hclasses⟩, t, ht, hhead⟩ := h
  obtain ⟨-, p, f, body, -, hf, hbody, hspan, hcallee⟩ :=
    callee_of_candidate hbodies hclasses t ht hhead
  exact ⟨doc, hdoc, t, ht, hhead, p, f, body, hf, hbody, hspan, hcallee⟩

/-- A method with a parameter that has the name of the entry point. -/
def capturedCall : Text := "class A \x7b m(traceCall) \x7b\x7d \x7d\n".toList

theorem captured_in_capturedCall :
    ∃ doc, Document.parse capturedCall .typeScript = .ok doc ∧
      ∃ t ∈ (classify doc (fun _ => false) "traceCall".toList).candidates, t.keepsHead = true ∧
        ∃ f : Site, ∃ body, f.IsIn doc.root ∧ f.node.child? .body = some body ∧
          body.span = t.span ∧ Binding.parameterNames doc f.node = ["traceCall".toList] ∧
          ¬ Binding.LeadsOut doc f.path "traceCall".toList := by
  have hcheck : yields (Document.parse capturedCall .typeScript) (fun doc =>
      (doc.root.at? [0, 2, 1]).any fun f =>
        decide (Binding.parameterNames doc f = ["traceCall".toList]) &&
          (f.child? .body).any fun body =>
            (classify doc (fun _ => false) "traceCall".toList).candidates.any (fun t =>
              t.keepsHead && decide (body.span = t.span)) &&
            (doc.root.way [0, 2, 1]).any fun n =>
              (Binding.innerNames doc n).contains "traceCall".toList) = true := by
    decide +kernel
  obtain ⟨doc, hdoc, h⟩ := exists_of_yields hcheck
  simp only [Option.any_eq_true, Bool.and_eq_true, List.any_eq_true, decide_eq_true_eq,
    List.contains_iff_mem] at h
  obtain ⟨f, hf, hnames, body, hbody, ⟨t, ht, hhead, hspan⟩, n, hn, hmem⟩ := h
  exact ⟨doc, hdoc, t, ht, hhead, ⟨[0, 2, 1], f⟩, body, hf, hbody, hspan, hnames,
    fun hout => hout n hn hmem⟩

end Survey

end SpanWeave
