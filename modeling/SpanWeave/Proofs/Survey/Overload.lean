import SpanWeave.Proofs.Survey.Traversal
import SpanWeave.Proofs.Weave.Conflict

namespace SpanWeave.Survey

open Syntax

/-- The file has a signature of that name at its top level, bare or exported. -/
def SignatureAtTop (s : Survey) (name : Text) : Prop :=
  ∃ stmt ∈ s.statements, ∃ d, Declares stmt d ∧ d.node.kind = .functionSignature ∧
    s.doc.fieldText? d.node .name = some name

/-- A class without a name has a signature of that name. -/
def SignatureInNameless (s : Survey) (name : Text) : Prop :=
  ∃ stmt ∈ s.statements, ∃ b c, Holds s stmt b c ∧ c.isClass = true ∧ c.name = none ∧
    ∃ m ∈ b.children, m.node.kind = .methodSignature ∧
      s.doc.fieldText? m.node .name = some name

variable {s : Survey}

theorem signatureName?_eq_some_iff {v : Visit} {name : Text} :
    signatureName? v = some name ↔
      v.target.shape = .overloadSignature ∧ v.target.enclosing = none ∧
        v.target.name = some name := by
  rw [signatureName?]
  split
  · rename_i h
    simp only [Bool.and_eq_true, decide_eq_true_eq] at h
    simp [h]
  · rename_i h
    simp only [Bool.and_eq_true, decide_eq_true_eq, not_and] at h
    constructor
    · intro hnone
      simp at hnone
    · rintro ⟨hshape, henclosing, -⟩
      exact absurd henclosing (h hshape)

theorem shape_visitFunction_ne (f : Node) (exported : Export) (whole : Span) :
    (s.visitFunction f exported whole).target.shape ≠ .overloadSignature := by
  cases exported <;> simp [visitFunction, target]

theorem signatureAtTop_of_topLevel {x : Site} {a : Visit} {name : Text} (hx : TopLevel s x a)
    (hname : signatureName? a = some name) : SignatureAtTop s name := by
  obtain ⟨hshape, -, hname⟩ := signatureName?_eq_some_iff.mp hname
  obtain ⟨stmt, hstmt, hx⟩ := hx
  cases hx with
  | declared hd hx =>
      cases hx with
      | function _ => exact absurd hshape (shape_visitFunction_ne _ _ _)
      | signature hkind => exact ⟨stmt, hstmt, _, hd, hkind, hname⟩
      | constant _ _ _ hx =>
          cases hx <;> simp [visitConst, target] at hshape
  | value _ _ => exact absurd hshape (shape_visitFunction_ne _ _ _)

theorem signatureInNameless_of_member {x : Site} {a : Visit} {name : Text} (hx : Member s x a)
    (hname : signatureName? a = some name) : SignatureInNameless s name := by
  obtain ⟨hshape, henclosing, hname⟩ := signatureName?_eq_some_iff.mp hname
  obtain ⟨b, c, ⟨stmt, hstmt, hb⟩, hx⟩ := hx
  cases hx with
  | method _ _ _ _ =>
      have hmember := isMember_visitMethod s c x.node
      rw [hshape] at hmember
      simp [Shape.isMember] at hmember
  | signature hm hkind hclass =>
      exact ⟨stmt, hstmt, b, c, hb, hclass, henclosing, x, hm, hkind, hname⟩

theorem mem_signatureNames_iff {name : Text} :
    name ∈ signatureNames s.found ↔ SignatureAtTop s name ∨ SignatureInNameless s name := by
  rw [signatureNames_eq, List.mem_filterMap]
  constructor
  · rintro ⟨a, ha, hname⟩
    rcases mem_found_iff.mp ha with ⟨x, hx⟩ | ⟨x, hx⟩
    · exact Or.inl (signatureAtTop_of_topLevel hx hname)
    · exact Or.inr (signatureInNameless_of_member hx hname)
  · rintro (⟨stmt, hstmt, d, hd, hkind, hname⟩ |
      ⟨stmt, hstmt, b, c, hb, hclass, hnameless, m, hm, hkind, hname⟩)
    · refine ⟨_, mem_found_iff.mpr (Or.inl ⟨d, stmt, hstmt, .declared hd (.signature hkind)⟩), ?_⟩
      exact signatureName?_eq_some_iff.mpr ⟨rfl, rfl, hname⟩
    · refine ⟨_, mem_found_iff.mpr
        (Or.inr ⟨m, b, c, ⟨stmt, hstmt, hb⟩, .signature hm hkind hclass⟩), ?_⟩
      exact signatureName?_eq_some_iff.mpr ⟨rfl, hnameless, hname⟩

theorem isDeclaration_visitFunction (f : Node) (exported : Export) (whole : Span) :
    (s.visitFunction f exported whole).target.shape.isDeclaration = true := by
  cases exported <;> rfl

theorem block_visitFunction_eq_some_iff {f : Node} {exported : Export} {whole b : Span}
    {wrapped : Bool} :
    (s.visitFunction f exported whole).block = some (b, wrapped) ↔
      ∃ body, f.child? .body = some body ∧ body.kind = .statementBlock ∧ body.span = b ∧
        s.blockIsWrapped body = wrapped := by
  simp only [visitFunction, Option.map_eq_some_iff, Option.filter_eq_some_iff, decide_eq_true_eq,
    Prod.mk.injEq, and_assoc]

/-- The edit of a declared function moves to its body, if it has a block for a body and its name is
one of those with signatures; otherwise nothing about it changes. -/
theorem retarget_visitFunction_cases (names : List Text) (f : Node) (exported : Export)
    (whole : Span) :
    (∃ body name, f.child? .body = some body ∧ body.kind = .statementBlock ∧
        s.doc.fieldText? f .name = some name ∧ name ∈ names ∧
        (retarget names (s.visitFunction f exported whole)).target.overloaded = true ∧
        (retarget names (s.visitFunction f exported whole)).target.span = body.span) ∨
      ((∀ body name, f.child? .body = some body → body.kind = .statementBlock →
          s.doc.fieldText? f .name = some name → name ∉ names) ∧
        retarget names (s.visitFunction f exported whole) = s.visitFunction f exported whole) := by
  have hname : (s.visitFunction f exported whole).target.name = s.doc.fieldText? f .name := rfl
  simp only [retarget, isDeclaration_visitFunction, Bool.true_and, hname, Option.any_eq_true,
    List.contains_iff_mem]
  split
  · rename_i hnamed
    obtain ⟨name, hname, hmem⟩ := hnamed
    split
    · rename_i b wrapped hblock
      obtain ⟨body, hbody, hkind, rfl, -⟩ := block_visitFunction_eq_some_iff.mp hblock
      exact Or.inl ⟨body, name, hbody, hkind, hname, hmem, rfl, rfl⟩
    · rename_i hblock
      refine Or.inr ⟨?_, rfl⟩
      intro body _ hbody hkind _ _
      have hsome : (s.visitFunction f exported whole).block =
          some (body.span, s.blockIsWrapped body) :=
        block_visitFunction_eq_some_iff.mpr ⟨body, hbody, hkind, rfl, rfl⟩
      rw [hblock] at hsome
      simp at hsome
  · rename_i hnamed
    refine Or.inr ⟨?_, rfl⟩
    intro _ name _ _ hname hmem
    exact hnamed ⟨name, hname, hmem⟩

theorem reason_ne_generator {skip : Text → Bool} {entry : Text} {f : Node} {exported : Export}
    {whole : Span} :
    skipReason? skip entry (s.visitFunction f exported whole) ≠ some .generator := by
  have hmember : (s.visitFunction f exported whole).target.shape.isMember = false := by
    cases exported <;> rfl
  have hoverloaded : (s.visitFunction f exported whole).target.overloaded = false := rfl
  simp only [skipReason?, hmember, hoverloaded, Bool.or_self, Bool.and_false, Bool.false_eq_true,
    ↓reduceIte]
  split
  · simp
  · split
    · simp
    · split
      · simp
      · split
        · simp
        · split <;> simp

/-- A function declared at the top level counts as the implementation of signatures, its edit moves
to its body, and it can be left alone as a generator, exactly when its name has a signature at the
top level or in a class without a name. -/
theorem overloaded_iff_of_declares {doc : Document} {stmt f : Site} (skip : Text → Bool)
    (entry : Text) (hstmt : stmt ∈ (Survey.mk doc entry).statements) (hf : Declares stmt f)
    (hkind : f.node.kind = .functionDeclaration ∨ f.node.kind = .generatorFunctionDeclaration) :
    let s : Survey := ⟨doc, entry⟩
    let visit := s.visitFunction f.node (exportOf stmt.node) (reach stmt.node f.node)
    let o := s.outcome skip visit
    TopLevel s f visit ∧ o ∈ s.outcomes skip ∧
      (o.target.overloaded = true ↔
        ∃ body name, f.node.child? .body = some body ∧ body.kind = .statementBlock ∧
          doc.fieldText? f.node .name = some name ∧
            (SignatureAtTop s name ∨ SignatureInNameless s name)) ∧
      (o.target.overloaded = true →
        ∃ body, f.node.child? .body = some body ∧ o.target.span = body.span) ∧
      (o.target.overloaded = false →
        o.target = visit.target ∧ o.reason ≠ some .generator) := by
  intro s visit o
  have htop : TopLevel s f visit := ⟨stmt, hstmt, .declared hf (.function hkind)⟩
  refine ⟨htop, ?_, ?_⟩
  · exact List.mem_map_of_mem (mem_found_iff.mpr (Or.inl ⟨f, htop⟩))
  · rcases retarget_visitFunction_cases (s := s) (signatureNames s.found) f.node
      (exportOf stmt.node) (reach stmt.node f.node) with
      ⟨body, name, hbody, hblock, hname, hmem, hoverloaded, hspan⟩ | ⟨hnone, heq⟩
    · have htrue : o.target.overloaded = true := hoverloaded
      rw [htrue]
      refine ⟨?_, fun _ => ⟨body, hbody, hspan⟩, by simp⟩
      simp only [true_iff]
      exact ⟨body, name, hbody, hblock, hname, mem_signatureNames_iff.mp hmem⟩
    · have htarget : o.target = visit.target := congrArg Visit.target heq
      have hreason : o.reason = skipReason? skip entry visit := by
        rw [show o.reason = skipReason? skip entry (retarget (signatureNames s.found) visit) from rfl,
          heq]
      have hfalse : o.target.overloaded = false := by rw [htarget]; rfl
      rw [hfalse]
      refine ⟨?_, by simp, fun _ => ⟨htarget, hreason ▸ reason_ne_generator⟩⟩
      simp only [Bool.false_eq_true, false_iff]
      rintro ⟨body, name, hbody, hblock, hname, hsignature⟩
      exact hnone body name hbody hblock hname (mem_signatureNames_iff.mpr hsignature)

/-- A function with a signature, and one whose name has a signature in a named class. -/
def signatureAndNamedClass : Text :=
  ("function a(x: string): void;\nfunction a(x) \x7b\x7d\nclass C \x7b b(): void; b() \x7b\x7d \x7d\n" ++
    "function b() \x7b\x7d\n").toList

theorem overloaded_signatureAndNamedClass :
    ∃ (doc : Document) (a b : Site),
      Document.parse signatureAndNamedClass .typeScript = .ok doc ∧
        let s : Survey := ⟨doc, Weaver.plain.entry⟩
        let visit (x : Site) := s.visitFunction x.node (exportOf x.node) (reach x.node x.node)
        let o (x : Site) := s.outcome Weaver.plain.skip.isMatch (visit x)
        a ∈ s.statements ∧ b ∈ s.statements ∧
          (∃ body, a.node.child? .body = some body ∧ (o a).target.span = body.span) ∧
          (∃ name, SignatureAtTop s name ∨ SignatureInNameless s name) ∧
          (o b).target = (visit b).target ∧ (o b).reason ≠ some .generator := by
  have hcheck : yields (Document.parse signatureAndNamedClass .typeScript) (fun doc =>
      let s : Survey := ⟨doc, Weaver.plain.entry⟩
      let o (x : Site) := s.outcome Weaver.plain.skip.isMatch
        (s.visitFunction x.node (exportOf x.node) (reach x.node x.node))
      (s.statements[1]?).any fun a => (s.statements[3]?).any fun b =>
        decide (a.node.kind = .functionDeclaration) && (o a).target.overloaded &&
          decide (b.node.kind = .functionDeclaration) && !(o b).target.overloaded) = true := by
    decide +kernel
  obtain ⟨doc, hdoc, h⟩ := exists_of_yields hcheck
  simp only [Option.any_eq_true, Bool.and_eq_true, decide_eq_true_eq, Bool.not_eq_true'] at h
  obtain ⟨a, hsecond, b, hfourth, ⟨⟨ha, hmoved⟩, hb⟩, hkept⟩ := h
  have hamem := List.mem_of_getElem? hsecond
  have hbmem := List.mem_of_getElem? hfourth
  have hafter := overloaded_iff_of_declares Weaver.plain.skip.isMatch Weaver.plain.entry hamem
    (.bare (by simp [ha])) (Or.inl ha)
  have hbehind := overloaded_iff_of_declares Weaver.plain.skip.isMatch Weaver.plain.entry hbmem
    (.bare (by simp [hb])) (Or.inl hb)
  obtain ⟨_, name, _, _, _, hsignature⟩ := hafter.2.2.1.mp hmoved
  exact ⟨doc, a, b, hdoc, hamem, hbmem, hafter.2.2.2.1 hmoved, ⟨name, hsignature⟩,
    hbehind.2.2.2.2 hkept⟩

/-- No statement of the file is a signature or exports one. -/
def hasNoSignature (root : Node) : Bool :=
  root.children.all fun n =>
    decide (n.kind ≠ .functionSignature) &&
      (n.child? .declaration).all fun d => decide (d.kind ≠ .functionSignature)

theorem not_signatureAtTop (h : hasNoSignature s.doc.root = true) (name : Text) :
    ¬ SignatureAtTop s name := by
  rintro ⟨stmt, hstmt, d, hd, hkind, -⟩
  have hmem : stmt.node ∈ s.doc.root.children := by
    have hnodes : (Site.top s.doc.root).children.map Site.node = s.doc.root.children :=
      Site.map_node_children _
    rw [← hnodes]
    exact List.mem_map_of_mem hstmt
  have hstmt := List.all_eq_true.mp h stmt.node hmem
  rw [Bool.and_eq_true, decide_eq_true_eq] at hstmt
  cases hd with
  | bare _ => exact hstmt.1 hkind
  | exported _ hd =>
      rw [← Site.map_node_child?, hd] at hstmt
      simp [hkind] at hstmt

/-- Two functions, and a class without a name that overloads methods of the same names. -/
def namelessClass : Text :=
  ("function run() \x7b\x7d\nfunction* items() \x7b\x7d\nexport default class \x7b\n" ++
    "  run(): void;\n  run() \x7b\x7d\n  items(): void;\n  items() \x7b\x7d\n\x7d\n").toList

/-- The functions have no signatures at the top level, but the edit of one moves to its body and the
other is left alone. -/
theorem overloaded_by_namelessClass :
    ∃ doc, Document.parse namelessClass .typeScript = .ok doc ∧
      (∀ name, ¬ SignatureAtTop ⟨doc, Weaver.plain.entry⟩ name) ∧
      (∃ t ∈ (classify doc Weaver.plain.skip.isMatch Weaver.plain.entry).candidates,
        t.shape = .functionDeclaration ∧ t.name = some "run".toList ∧ t.overloaded = true ∧
          t.span = ⟨15, 17⟩) ∧
      ∃ r ∈ (classify doc Weaver.plain.skip.isMatch Weaver.plain.entry).skipped,
        r.shape = .functionDeclaration ∧ r.identifier = some "items".toList ∧
          r.reason = .generator := by
  have hcheck : yields (Document.parse namelessClass .typeScript) (fun doc =>
      hasNoSignature doc.root &&
        ((classify doc Weaver.plain.skip.isMatch Weaver.plain.entry).candidates.any fun t =>
          decide (t.shape = .functionDeclaration ∧ t.name = some "run".toList ∧
            t.overloaded = true ∧ t.span = ⟨15, 17⟩)) &&
        (classify doc Weaver.plain.skip.isMatch Weaver.plain.entry).skipped.any fun r =>
          decide (r.shape = .functionDeclaration ∧ r.identifier = some "items".toList ∧
            r.reason = .generator)) = true := by
    decide +kernel
  obtain ⟨doc, hdoc, h⟩ := exists_of_yields hcheck
  simp only [Bool.and_eq_true, List.any_eq_true, decide_eq_true_eq] at h
  obtain ⟨⟨hnone, hrun⟩, hitems⟩ := h
  exact ⟨doc, hdoc, not_signatureAtTop hnone, hrun, hitems⟩

end SpanWeave.Survey
