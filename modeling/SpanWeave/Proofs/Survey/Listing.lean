import SpanWeave.Survey
import SpanWeave.Proofs.Syntax.Site

namespace SpanWeave.Survey

open Syntax

/-- How a top-level statement exports what it declares. -/
def exportOf (stmt : Node) : Export :=
  if stmt.kind = .exportStatement then if stmt.hasToken "default" then .default else .named
  else .none

/-- The bytes that stand for a function declared by a statement: a default export is replaced as a
whole. -/
def reach (stmt f : Node) : Span := if exportOf stmt = .default then stmt.span else f.span

/-- What a top-level statement declares: itself, or what it exports. -/
inductive Declares (stmt : Site) : (d : Site) → Prop
  | bare (hkind : stmt.node.kind ≠ .exportStatement) : Declares stmt stmt
  | exported {d : Site} (hkind : stmt.node.kind = .exportStatement)
      (hd : stmt.child? .declaration = some d) : Declares stmt d

/-- The value of a default export that declares nothing. -/
structure ExportsValue (stmt x : Site) : Prop where
  kind : stmt.node.kind = .exportStatement
  isDefault : stmt.node.hasToken "default" = true
  declares : stmt.child? .declaration = none
  value : stmt.child? .value = some x

/-- A variable with a plain name and an initial value. -/
structure Binds (s : Survey) (v : Site) (name : Text) (e : Site) : Prop where
  kind : v.node.kind = .variableDeclarator
  binding : ∃ b, v.node.child? .name = some b ∧ b.kind = .identifier ∧ s.doc.textOf b = name
  value : v.child? .value = some e

/-- A call of the entry point whose last argument is the function `f`. -/
structure CallsOn (s : Survey) (e f : Node) : Prop where
  kind : e.kind = .callExpression
  callee : ∃ c, e.child? .function = some c ∧ c.kind = .identifier ∧ s.doc.textOf c = s.entry
  last : ∃ args, e.child? .arguments = some args ∧ args.significant.getLast? = some f
  isFunction : f.isFunctionExpression = true

/-- The variable `v` is bound to a function, or to a call of the entry point on one. -/
inductive VariableAt (s : Survey) (exported : Export) (v : Site) : Site → Visit → Prop
  | function {name : Text} {e : Site} (hbinds : Binds s v name e)
      (hf : e.node.isFunctionExpression = true) :
      VariableAt s exported v v (s.visitConst name e.node e.node.span exported false)
  | call {name : Text} {e : Site} {f : Node} (hbinds : Binds s v name e)
      (hcalls : CallsOn s e.node f) :
      VariableAt s exported v v (s.visitConst name f e.node.span exported true)

/-- A declaration holds a function or generator, a signature, or constants bound to functions. -/
inductive DeclaredAt (s : Survey) (exported : Export) (whole : Span) (d : Site) :
    Site → Visit → Prop
  | function (hkind : d.node.kind = .functionDeclaration ∨
      d.node.kind = .generatorFunctionDeclaration) :
      DeclaredAt s exported whole d d (s.visitFunction d.node exported whole)
  | signature (hkind : d.node.kind = .functionSignature) :
      DeclaredAt s exported whole d d (s.visitSignature d.node none exported)
  | constant {v x : Site} {a : Visit} (hkind : d.node.kind = .lexicalDeclaration)
      (hconst : d.node.hasToken "const" = true) (hv : v ∈ d.children)
      (hx : VariableAt s exported v x a) : DeclaredAt s exported whole d x a

/-- A function that the top-level statement `stmt` declares or exports by default. -/
inductive AtTop (s : Survey) (stmt : Site) : Site → Visit → Prop
  | declared {d x : Site} {a : Visit} (hd : Declares stmt d)
      (hx : DeclaredAt s (exportOf stmt.node) (reach stmt.node d.node) d x a) : AtTop s stmt x a
  | value {x : Site} (hx : ExportsValue stmt x) (hf : x.node.isFunctionExpression = true) :
      AtTop s stmt x (s.visitFunction x.node .default stmt.node.span)

def bodyOf (c : Site) : Site := (c.child? .body).getD c

/-- The class or object literal that the variable `v` is bound to. -/
inductive VariableHolds (s : Survey) (v : Site) : Site → Container → Prop
  | ofClass {name : Text} {e : Site} (hbinds : Binds s v name e)
      (hkind : e.node.kind = .classExpression) :
      VariableHolds s v (bodyOf e) ⟨some name, (bodyOf e).node, true⟩
  | ofObject {name : Text} {e : Site} (hbinds : Binds s v name e) (hkind : e.node.kind = .object) :
      VariableHolds s v e ⟨some name, e.node, false⟩

/-- A declared class, or the classes and object literals that declared constants are bound to. -/
inductive DeclarationHolds (s : Survey) (d : Site) : Site → Container → Prop
  | ofClass (hkind : d.node.kind = .classDeclaration ∨ d.node.kind = .abstractClassDeclaration) :
      DeclarationHolds s d (bodyOf d) ⟨s.doc.fieldText? d.node .name, (bodyOf d).node, true⟩
  | constant {v b : Site} {c : Container} (hkind : d.node.kind = .lexicalDeclaration)
      (hconst : d.node.hasToken "const" = true) (hv : v ∈ d.children)
      (hb : VariableHolds s v b c) : DeclarationHolds s d b c

/-- The bodies of classes and the object literals at the top level of the statement `stmt`. -/
inductive Holds (s : Survey) (stmt : Site) : Site → Container → Prop
  | declared {d b : Site} {c : Container} (hd : Declares stmt d) (hb : DeclarationHolds s d b c) :
      Holds s stmt b c
  | ofClass {x : Site} (hx : ExportsValue stmt x) (hkind : x.node.kind = .classExpression) :
      Holds s stmt (bodyOf x) ⟨s.doc.fieldText? x.node .name, (bodyOf x).node, true⟩
  | ofObject {x : Site} (hx : ExportsValue stmt x) (hkind : x.node.kind = .object) :
      Holds s stmt x ⟨none, x.node, false⟩

/-- A member directly in the body of a class or in an object literal: a method other than an
accessor or, in a class, a signature. -/
inductive MemberAt (s : Survey) (body : Site) (c : Container) : Site → Visit → Prop
  | method {m : Site} (hm : m ∈ body.children) (hkind : m.node.kind = .methodDefinition)
      (hget : m.node.hasToken "get" = false) (hset : m.node.hasToken "set" = false) :
      MemberAt s body c m (s.visitMethod c m.node)
  | signature {m : Site} (hm : m ∈ body.children) (hkind : m.node.kind = .methodSignature)
      (hclass : c.isClass = true) : MemberAt s body c m (s.visitSignature m.node c.name .none)

/-- The top-level statements. -/
def statements (s : Survey) : List Site := (Site.top s.doc.root).children

section declarators
variable {s : Survey} {exported : Export} {v e : Site} {name : Text}

theorem wrappedFunction?_eq_some_iff {n f : Node} :
    s.wrappedFunction? n = some f ↔ CallsOn s n f := by
  simp only [wrappedFunction?]
  constructor
  · intro h
    split at h
    · rename_i hkind
      split at h
      · rename_i c args hc hargs
        split at h
        · rename_i hcallee
          simp only [Bool.and_eq_true, decide_eq_true_eq] at hcallee
          obtain ⟨hlast, hf⟩ := Option.filter_eq_some_iff.mp h
          exact ⟨hkind, ⟨c, hc, hcallee.1, hcallee.2⟩, ⟨args, hargs, hlast⟩, hf⟩
        · simp at h
      · simp at h
    · simp at h
  · rintro ⟨hkind, ⟨c, hc, hidentifier, hentry⟩, ⟨args, hargs, hlast⟩, hf⟩
    simp [hkind, hc, hargs, hidentifier, hentry, hlast, hf, Option.filter_some]

theorem kind_ne_of_isFunctionExpression {n : Node} (hf : n.isFunctionExpression = true) :
    n.kind ≠ .callExpression ∧ n.kind ≠ .classExpression ∧ n.kind ≠ .object := by
  refine ⟨?_, ?_, ?_⟩
  all_goals
    intro hkind
    simp [Node.isFunctionExpression, hkind] at hf

theorem Binds.unique {e' : Site} {name' : Text} (h : Binds s v name e) (h' : Binds s v name' e') :
    name' = name ∧ e' = e := by
  obtain ⟨b, hb, -, rfl⟩ := h.binding
  obtain ⟨b', hb', -, rfl⟩ := h'.binding
  obtain rfl := Option.some.inj (hb.symm.trans hb')
  exact ⟨rfl, Option.some.inj (h'.value.symm.trans h.value)⟩

theorem variableAt_iff (hbinds : Binds s v name e) {x : Site} {a : Visit} :
    VariableAt s exported v x a ↔ x = v ∧
      ((e.node.isFunctionExpression = true ∧
          a = s.visitConst name e.node e.node.span exported false) ∨
        ∃ f, CallsOn s e.node f ∧ a = s.visitConst name f e.node.span exported true) := by
  constructor
  · intro h
    cases h with
    | function hbinds' hf =>
        obtain ⟨rfl, rfl⟩ := hbinds.unique hbinds'
        exact ⟨rfl, Or.inl ⟨hf, rfl⟩⟩
    | call hbinds' hcalls =>
        obtain ⟨rfl, rfl⟩ := hbinds.unique hbinds'
        exact ⟨rfl, Or.inr ⟨_, hcalls, rfl⟩⟩
  · rintro ⟨rfl, ⟨hf, rfl⟩ | ⟨f, hcalls, rfl⟩⟩
    · exact .function hbinds hf
    · exact .call hbinds hcalls

theorem variableHolds_iff (hbinds : Binds s v name e) {x : Site} {c : Container} :
    VariableHolds s v x c ↔
      (e.node.kind = .classExpression ∧ x = bodyOf e ∧ c = ⟨some name, (bodyOf e).node, true⟩) ∨
        (e.node.kind = .object ∧ x = e ∧ c = ⟨some name, e.node, false⟩) := by
  constructor
  · intro h
    cases h with
    | ofClass hbinds' hkind =>
        obtain ⟨rfl, rfl⟩ := hbinds.unique hbinds'
        exact Or.inl ⟨hkind, rfl, rfl⟩
    | ofObject hbinds' hkind =>
        obtain ⟨rfl, rfl⟩ := hbinds.unique hbinds'
        exact Or.inr ⟨hkind, rfl, rfl⟩
  · rintro (⟨hkind, rfl, rfl⟩ | ⟨hkind, rfl, rfl⟩)
    · exact .ofClass hbinds hkind
    · exact .ofObject hbinds hkind

theorem node_bodyOf (c : Site) : (bodyOf c).node = (c.node.child? .body).getD c.node := by
  rw [bodyOf, ← Site.map_node_child?]
  cases c.child? .body <;> rfl

theorem classContainer_eq (c : Site) (binding : Option Text) :
    s.classContainer c.node binding =
      ⟨binding.or (s.doc.fieldText? c.node .name), (bodyOf c).node, true⟩ := by
  rw [classContainer, node_bodyOf]

theorem reaches_bodyOf {x c : Site} (h : x.Reaches c) : x.Reaches (bodyOf c) := by
  rw [bodyOf]
  cases hbody : c.child? .body with
  | none => exact h
  | some b => exact h.child? hbody

theorem VariableAt.reaches {x : Site} {a : Visit} (h : VariableAt s exported v x a) :
    v.Reaches x := by
  cases h <;> exact .self

theorem VariableHolds.reaches {x : Site} {c : Container} (h : VariableHolds s v x c) :
    v.Reaches x := by
  cases h with
  | ofClass hbinds _ => exact reaches_bodyOf (Site.Reaches.self.child? hbinds.value)
  | ofObject hbinds _ => exact Site.Reaches.self.child? hbinds.value

end declarators

section statements
variable {s : Survey} {exported : Export}

theorem declaredAt_iff {whole : Span} {d x : Site} {a : Visit} :
    DeclaredAt s exported whole d x a ↔
      ((d.node.kind = .functionDeclaration ∨ d.node.kind = .generatorFunctionDeclaration) ∧
          x = d ∧ a = s.visitFunction d.node exported whole) ∨
        (d.node.kind = .functionSignature ∧ x = d ∧ a = s.visitSignature d.node none exported) ∨
          (d.node.kind = .lexicalDeclaration ∧ d.node.hasToken "const" = true ∧
            ∃ v ∈ d.children, VariableAt s exported v x a) := by
  constructor
  · intro h
    cases h with
    | function hkind => exact Or.inl ⟨hkind, rfl, rfl⟩
    | signature hkind => exact Or.inr (Or.inl ⟨hkind, rfl, rfl⟩)
    | constant hkind hconst hv hx => exact Or.inr (Or.inr ⟨hkind, hconst, _, hv, hx⟩)
  · rintro (⟨hkind, rfl, rfl⟩ | ⟨hkind, rfl, rfl⟩ | ⟨hkind, hconst, v, hv, hx⟩)
    · exact .function hkind
    · exact .signature hkind
    · exact .constant hkind hconst hv hx

theorem declarationHolds_iff {d b : Site} {c : Container} :
    DeclarationHolds s d b c ↔
      ((d.node.kind = .classDeclaration ∨ d.node.kind = .abstractClassDeclaration) ∧
          b = bodyOf d ∧ c = s.classContainer d.node none) ∨
        (d.node.kind = .lexicalDeclaration ∧ d.node.hasToken "const" = true ∧
          ∃ v ∈ d.children, VariableHolds s v b c) := by
  rw [classContainer_eq, Option.none_or]
  constructor
  · intro h
    cases h with
    | ofClass hkind => exact Or.inl ⟨hkind, rfl, rfl⟩
    | constant hkind hconst hv hb => exact Or.inr ⟨hkind, hconst, _, hv, hb⟩
  · rintro (⟨hkind, rfl, rfl⟩ | ⟨hkind, hconst, v, hv, hb⟩)
    · exact .ofClass hkind
    · exact .constant hkind hconst hv hb

theorem Declares.reaches {stmt d : Site} (h : Declares stmt d) : stmt.Reaches d := by
  cases h with
  | bare _ => exact .self
  | exported _ hd => exact Site.Reaches.self.child? hd

theorem ExportsValue.reaches {stmt x : Site} (h : ExportsValue stmt x) : stmt.Reaches x :=
  Site.Reaches.self.child? h.value

theorem AtTop.reaches {stmt x : Site} {a : Visit} (h : AtTop s stmt x a) : stmt.Reaches x := by
  cases h with
  | declared hd hx =>
      cases hx with
      | function _ => exact hd.reaches
      | signature _ => exact hd.reaches
      | constant _ _ hv hx => exact (hd.reaches.child hv).trans hx.reaches
  | value hx _ => exact hx.reaches

theorem Holds.reaches {stmt b : Site} {c : Container} (h : Holds s stmt b c) :
    stmt.Reaches b := by
  cases h with
  | declared hd hb =>
      cases hb with
      | ofClass _ => exact reaches_bodyOf hd.reaches
      | constant _ _ hv hb => exact (hd.reaches.child hv).trans hb.reaches
  | ofClass hx _ => exact reaches_bodyOf hx.reaches
  | ofObject hx _ => exact hx.reaches

theorem Holds.body_eq {stmt b : Site} {c : Container} (h : Holds s stmt b c) :
    c.body = b.node := by
  cases h with
  | declared _ hb =>
      cases hb with
      | ofClass _ => rfl
      | constant _ _ _ hb => cases hb <;> rfl
  | ofClass _ _ => rfl
  | ofObject _ _ => rfl

theorem MemberAt.reaches {body m : Site} {c : Container} {a : Visit}
    (h : MemberAt s body c m a) : body.Reaches m := by
  cases h <;> exact .child .self ‹_›

theorem Declares.unique {stmt d d' : Site} (h : Declares stmt d) (h' : Declares stmt d') :
    d' = d := by
  cases h with
  | bare hkind =>
      cases h' with
      | bare => rfl
      | exported hkind' _ => exact absurd hkind' hkind
  | exported hkind hd =>
      cases h' with
      | bare hkind' => exact absurd hkind hkind'
      | exported _ hd' => exact Option.some.inj (hd'.symm.trans hd)

theorem Declares.not_exportsValue {stmt d x : Site} (h : Declares stmt d) :
    ¬ ExportsValue stmt x := by
  intro hx
  cases h with
  | bare hkind => exact hkind hx.kind
  | exported _ hd =>
      rw [hx.declares] at hd
      simp at hd

theorem ExportsValue.unique {stmt x y : Site} (h : ExportsValue stmt x) (h' : ExportsValue stmt y) :
    y = x :=
  Option.some.inj (h'.value.symm.trans h.value)

section
variable {stmt d : Site} (hd : Declares stmt d)
include hd

theorem atTop_iff_of_declares {x : Site} {a : Visit} :
    AtTop s stmt x a ↔
      DeclaredAt s (exportOf stmt.node) (reach stmt.node d.node) d x a := by
  constructor
  · intro h
    cases h with
    | declared hd' hx =>
        obtain rfl := hd.unique hd'
        exact hx
    | value hx _ => exact absurd hx hd.not_exportsValue
  · exact .declared hd

theorem holds_iff_of_declares {b : Site} {c : Container} :
    Holds s stmt b c ↔ DeclarationHolds s d b c := by
  constructor
  · intro h
    cases h with
    | declared hd' hb =>
        obtain rfl := hd.unique hd'
        exact hb
    | ofClass hx _ => exact absurd hx hd.not_exportsValue
    | ofObject hx _ => exact absurd hx hd.not_exportsValue
  · exact .declared hd

end

section
variable {stmt y : Site} (hy : ExportsValue stmt y)
include hy

theorem atTop_iff_of_value {x : Site} {a : Visit} :
    AtTop s stmt x a ↔ y.node.isFunctionExpression = true ∧ x = y ∧
      a = s.visitFunction y.node .default stmt.node.span := by
  constructor
  · intro h
    cases h with
    | declared hd _ => exact absurd hy hd.not_exportsValue
    | value hx hf =>
        obtain rfl := hy.unique hx
        exact ⟨hf, rfl, rfl⟩
  · rintro ⟨hf, rfl, rfl⟩
    exact .value hy hf

theorem holds_iff_of_value {b : Site} {c : Container} :
    Holds s stmt b c ↔
      (y.node.kind = .classExpression ∧ b = bodyOf y ∧ c = s.classContainer y.node none) ∨
        (y.node.kind = .object ∧ b = y ∧ c = ⟨none, y.node, false⟩) := by
  rw [classContainer_eq, Option.none_or]
  constructor
  · intro h
    cases h with
    | declared hd _ => exact absurd hy hd.not_exportsValue
    | ofClass hx hkind =>
        obtain rfl := hy.unique hx
        exact Or.inl ⟨hkind, rfl, rfl⟩
    | ofObject hx hkind =>
        obtain rfl := hy.unique hx
        exact Or.inr ⟨hkind, rfl, rfl⟩
  · rintro (⟨hkind, rfl, rfl⟩ | ⟨hkind, rfl, rfl⟩)
    · exact .ofClass hy hkind
    · exact .ofObject hy hkind

end

end statements

end SpanWeave.Survey
