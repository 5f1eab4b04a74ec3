import SpanWeave.Proofs.Survey.Outcome
import SpanWeave.Proofs.Survey.Listing

/-!
The survey visits each listed node once: the functions of the top level first and then those inside
classes and object literals, in the order of their sites. Its candidates and the functions it leaves
alone are the outcomes of these visits.
-/

namespace SpanWeave.Survey

open Syntax

variable {s : Survey} {exported : Export}

theorem flatMap_filter {α β : Type} {p : α → Bool} {f : α → List β} {l : List α}
    (h : ∀ a ∈ l, p a = false → f a = []) : (l.filter p).flatMap f = l.flatMap f := by
  induction l with
  | nil => rfl
  | cons a l ih =>
      have hrest := ih fun b hb => h b (by simp [hb])
      cases hp : p a with
      | true => rw [List.filter_cons_of_pos hp, List.flatMap_cons, List.flatMap_cons, hrest]
      | false =>
          rw [List.filter_cons_of_neg (by simp [hp]), List.flatMap_cons, h a (by simp) hp, hrest]
          rfl

/-- What comments, keywords and punctuation never contribute can be looked for in all children. -/
theorem flatMap_significant {β : Type} {f : Node → List β} (n : Node)
    (hcomment : ∀ c : Node, c.kind = .comment → f c = [])
    (htoken : ∀ c : Node, c.kind.isNamed = false → f c = []) :
    n.significant.flatMap f = n.children.flatMap f := by
  rw [Node.significant, Node.namedChildren, flatMap_filter, flatMap_filter]
  · exact fun c _ => htoken c
  · intro c _ hc
    exact hcomment c (by simpa using hc)

theorem enumerates_member (body m : Site) (c : Container) (hm : m ∈ body.children) :
    Enumerates (fun x a => x = m ∧ MemberAt s body c x a) (s.visitMember c m.node) := by
  simp only [visitMember]
  split
  · rename_i hkind
    split
    · rename_i haccessor
      apply Enumerates.none
      rintro x a ⟨rfl, hx⟩
      cases hx with
      | method _ _ hget hset => simp [hget, hset] at haccessor
      | signature _ hkind' _ => simp [hkind] at hkind'
    · rename_i haccessor
      simp only [Bool.or_eq_true, not_or, Bool.not_eq_true] at haccessor
      apply Enumerates.one m
      intro x a
      constructor
      · rintro ⟨rfl, hx⟩
        cases hx with
        | method => exact ⟨rfl, rfl⟩
        | signature _ hkind' _ => simp [hkind] at hkind'
      · rintro ⟨rfl, rfl⟩
        exact ⟨rfl, .method hm hkind haccessor.1 haccessor.2⟩
  · rename_i hkind
    split
    · rename_i hclass
      apply Enumerates.one m
      intro x a
      constructor
      · rintro ⟨rfl, hx⟩
        cases hx with
        | method _ hkind' _ _ => simp [hkind] at hkind'
        | signature => exact ⟨rfl, rfl⟩
      · rintro ⟨rfl, rfl⟩
        exact ⟨rfl, .signature hm hkind hclass⟩
    · rename_i hclass
      apply Enumerates.none
      rintro x a ⟨rfl, hx⟩
      cases hx with
      | method _ hkind' _ _ => simp [hkind] at hkind'
      | signature _ _ hclass' => exact hclass hclass'
  · rename_i hmethod hsignature
    apply Enumerates.none
    rintro x a ⟨rfl, hx⟩
    cases hx with
    | method _ hkind _ _ => exact hmethod hkind
    | signature _ hkind _ => exact hsignature hkind

theorem enumerates_members (body : Site) (c : Container) (hbody : c.body = body.node) :
    Enumerates (MemberAt s body c) (s.visitMembers c) := by
  rw [visitMembers, hbody, flatMap_significant]
  · have h := Enumerates.flatMap_children (x := body)
      (fun m hm => enumerates_member (s := s) body m c hm)
      (by rintro m _ x a ⟨rfl, -⟩; exact List.prefix_refl _)
    refine h.congr ?_
    intro x a
    constructor
    · intro hx
      cases hx with
      | method hm hkind hget hset => exact ⟨_, hm, rfl, .method hm hkind hget hset⟩
      | signature hm hkind hclass => exact ⟨_, hm, rfl, .signature hm hkind hclass⟩
    · rintro ⟨m, -, -, hx⟩
      exact hx
  · intro n hn
    simp [visitMember, hn]
  · intro n hn
    simp only [visitMember]
    split <;> simp_all [Kind.isNamed]

theorem visitAll_eq (visit : Node → List Visit × List Container) (ns : List Node) :
    visitAll visit ns =
      (ns.flatMap fun n => (visit n).1, ns.flatMap fun n => (visit n).2) := by
  induction ns with
  | nil => rfl
  | cons n ns ih =>
      have hall : visitAll visit (n :: ns) = both (visit n) (visitAll visit ns) := rfl
      rw [hall, ih]
      rfl

theorem lists_significant {R : Site → Site → Visit → Prop} {H : Site → Site → Container → Prop}
    {visit : Node → List Visit × List Container} (x : Site)
    (hcomment : ∀ c : Node, c.kind = .comment → visit c = ([], []))
    (htoken : ∀ c : Node, c.kind.isNamed = false → visit c = ([], []))
    (hlists : ∀ y, Enumerates (R y) (visit y.node).1 ∧ Enumerates (H y) (visit y.node).2)
    (hvisits : ∀ y z a, R y z a → y.Reaches z)
    (hholds : ∀ y z c, H y z c → y.Reaches z) :
    Enumerates (fun z a => ∃ y ∈ x.children, R y z a) (visitAll visit x.node.significant).1 ∧
      Enumerates (fun z c => ∃ y ∈ x.children, H y z c)
        (visitAll visit x.node.significant).2 := by
  simp only [visitAll_eq]
  constructor
  · rw [flatMap_significant _ (fun c hc => by rw [hcomment c hc]) fun c hc => by rw [htoken c hc]]
    exact Enumerates.flatMap_children (fun y _ => (hlists y).1) fun y _ z a h =>
      (hvisits y z a h).prefix_path
  · rw [flatMap_significant _ (fun c hc => by rw [hcomment c hc]) fun c hc => by rw [htoken c hc]]
    exact Enumerates.flatMap_children (fun y _ => (hlists y).2) fun y _ z c h =>
      (hholds y z c h).prefix_path

section declarators
variable {v e : Site} {name : Text}

theorem lists_value (hbinds : Binds s v name e) :
    Enumerates (VariableAt s exported v) (s.visitValue exported name e.node).1 ∧
      Enumerates (VariableHolds s v) (s.visitValue exported name e.node).2 := by
  simp only [visitValue]
  split
  · rename_i hf
    obtain ⟨hcall, hclass, hobject⟩ := kind_ne_of_isFunctionExpression hf
    refine ⟨Enumerates.one v ?_, Enumerates.none ?_⟩
    · intro x a
      rw [variableAt_iff hbinds]
      constructor
      · rintro ⟨rfl, ⟨-, rfl⟩ | ⟨f, hcalls, -⟩⟩
        · exact ⟨rfl, rfl⟩
        · exact absurd hcalls.kind hcall
      · rintro ⟨rfl, rfl⟩
        exact ⟨rfl, Or.inl ⟨hf, rfl⟩⟩
    · intro x c
      rw [variableHolds_iff hbinds]
      rintro (⟨hkind, -⟩ | ⟨hkind, -⟩)
      · exact hclass hkind
      · exact hobject hkind
  · rename_i hf
    split
    · rename_i f hwrapped
      have hcalls := wrappedFunction?_eq_some_iff.mp hwrapped
      refine ⟨Enumerates.one v ?_, Enumerates.none ?_⟩
      · intro x a
        rw [variableAt_iff hbinds]
        constructor
        · rintro ⟨rfl, ⟨hf', -⟩ | ⟨f', hcalls', rfl⟩⟩
          · exact absurd hf' hf
          · have hwrapped' := wrappedFunction?_eq_some_iff.mpr hcalls'
            obtain rfl := Option.some.inj (hwrapped.symm.trans hwrapped')
            exact ⟨rfl, rfl⟩
        · rintro ⟨rfl, rfl⟩
          exact ⟨rfl, Or.inr ⟨f, hcalls, rfl⟩⟩
      · intro x c
        rw [variableHolds_iff hbinds, hcalls.kind]
        simp
    · rename_i hwrapped
      have hnone (x : Site) (a : Visit) : ¬ VariableAt s exported v x a := by
        rw [variableAt_iff hbinds]
        rintro ⟨-, ⟨hf', -⟩ | ⟨f, hcalls, -⟩⟩
        · exact hf hf'
        · rw [wrappedFunction?_eq_some_iff.mpr hcalls] at hwrapped
          simp at hwrapped
      split
      · rename_i hclass
        refine ⟨Enumerates.none hnone, Enumerates.one (bodyOf e) ?_⟩
        intro x c
        rw [variableHolds_iff hbinds, classContainer_eq, hclass]
        simp
      · rename_i hclass
        split
        · rename_i hobject
          refine ⟨Enumerates.none hnone, Enumerates.one e ?_⟩
          intro x c
          rw [variableHolds_iff hbinds, hobject]
          simp
        · rename_i hobject
          refine ⟨Enumerates.none hnone, Enumerates.none ?_⟩
          intro x c
          rw [variableHolds_iff hbinds]
          rintro (⟨hkind, -⟩ | ⟨hkind, -⟩)
          · exact hclass hkind
          · exact hobject hkind

theorem exists_binds {b value : Node} (hkind : v.node.kind = .variableDeclarator)
    (hname : v.node.child? .name = some b) (hb : b.kind = .identifier)
    (hvalue : v.node.child? .value = some value) :
    ∃ e, Binds s v (s.doc.textOf b) e ∧ e.node = value := by
  rw [← Site.map_node_child?, Option.map_eq_some_iff] at hvalue
  obtain ⟨e, he, rfl⟩ := hvalue
  exact ⟨e, ⟨hkind, ⟨b, hname, hb, rfl⟩, he⟩, rfl⟩

theorem visitDeclarator_of_binds (h : Binds s v name e) :
    s.visitDeclarator exported v.node = s.visitValue exported name e.node := by
  obtain ⟨b, hb, hidentifier, rfl⟩ := h.binding
  apply visitDeclarator_of_value h.kind hb ?_ hidentifier
  rw [← Site.map_node_child?, h.value, Option.map_some]

theorem lists_variable (v : Site) :
    Enumerates (VariableAt s exported v) (s.visitDeclarator exported v.node).1 ∧
      Enumerates (VariableHolds s v) (s.visitDeclarator exported v.node).2 := by
  by_cases hbinds : ∃ name e, Binds s v name e
  · obtain ⟨name, e, hbinds⟩ := hbinds
    rw [visitDeclarator_of_binds hbinds]
    exact lists_value hbinds
  · have hnil : s.visitDeclarator exported v.node = ([], []) := by
      rcases visitDeclarator_cases s exported v.node with hnil | ⟨b, value, hkind, hb, hvalue, hid⟩
      · exact hnil
      · obtain ⟨e, he, -⟩ := exists_binds hkind hb hid hvalue
        exact absurd ⟨_, e, he⟩ hbinds
    rw [hnil]
    refine ⟨Enumerates.none ?_, Enumerates.none ?_⟩
    · intro x a h
      cases h with
      | function h _ => exact hbinds ⟨_, _, h⟩
      | call h _ => exact hbinds ⟨_, _, h⟩
    · intro x c h
      cases h with
      | ofClass h _ => exact hbinds ⟨_, _, h⟩
      | ofObject h _ => exact hbinds ⟨_, _, h⟩

end declarators

theorem visitDeclarator_of_kind_ne {n : Node} (hkind : n.kind ≠ .variableDeclarator) :
    s.visitDeclarator exported n = ([], []) := by
  simp only [visitDeclarator, hkind, ↓reduceIte]

theorem lists_variables (exported : Export) (d : Site) :
    Enumerates (fun x a => ∃ v ∈ d.children, VariableAt s exported v x a)
        (visitAll (s.visitDeclarator exported) d.node.significant).1 ∧
      Enumerates (fun b c => ∃ v ∈ d.children, VariableHolds s v b c)
        (visitAll (s.visitDeclarator exported) d.node.significant).2 := by
  apply lists_significant d
  · intro n hn
    exact visitDeclarator_of_kind_ne (by simp [hn])
  · intro n hn
    apply visitDeclarator_of_kind_ne
    rintro hkind
    simp [hkind, Kind.isNamed] at hn
  · exact lists_variable
  · exact fun _ _ _ h => h.reaches
  · exact fun _ _ _ h => h.reaches

theorem lists_declaration (exported : Export) (whole : Node → Span) (d : Site) :
    Enumerates (DeclaredAt s exported (whole d.node) d)
        (s.visitDeclaration exported whole d.node).1 ∧
      Enumerates (DeclarationHolds s d) (s.visitDeclaration exported whole d.node).2 := by
  simp only [visitDeclaration]
  split
  · rename_i hkind
    refine ⟨Enumerates.one d ?_, Enumerates.none ?_⟩
    · simp [declaredAt_iff, hkind]
    · simp [declarationHolds_iff, hkind]
  · rename_i hkind
    refine ⟨Enumerates.one d ?_, Enumerates.none ?_⟩
    · simp [declaredAt_iff, hkind]
    · simp [declarationHolds_iff, hkind]
  · rename_i hkind
    refine ⟨Enumerates.one d ?_, Enumerates.none ?_⟩
    · simp [declaredAt_iff, hkind]
    · simp [declarationHolds_iff, hkind]
  · rename_i hkind
    split
    · rename_i hconst
      obtain ⟨hvisits, hholds⟩ := lists_variables (s := s) exported d
      refine ⟨hvisits.congr ?_, hholds.congr ?_⟩
      · simp [declaredAt_iff, hkind, hconst]
      · simp [declarationHolds_iff, hkind, hconst]
    · rename_i hconst
      refine ⟨Enumerates.none ?_, Enumerates.none ?_⟩
      · simp [declaredAt_iff, hkind, hconst]
      · simp [declarationHolds_iff, hkind, hconst]
  · rename_i hkind
    refine ⟨Enumerates.none ?_, Enumerates.one (bodyOf d) ?_⟩
    · simp [declaredAt_iff, hkind]
    · simp [declarationHolds_iff, hkind]
  · rename_i hkind
    refine ⟨Enumerates.none ?_, Enumerates.one (bodyOf d) ?_⟩
    · simp [declaredAt_iff, hkind]
    · simp [declarationHolds_iff, hkind]
  · refine ⟨Enumerates.none ?_, Enumerates.none ?_⟩
    · simp_all [declaredAt_iff]
    · simp_all [declarationHolds_iff]

theorem visitStatement_of_declares {stmt d : Site} (hd : Declares stmt d) :
    s.visitStatement stmt.node =
      s.visitDeclaration (exportOf stmt.node) (reach stmt.node) d.node := by
  cases hd with
  | bare hkind =>
      have hreach : reach stmt.node = Node.span := by
        funext f
        simp [reach, exportOf, hkind]
      simp [visitStatement, exportOf, hkind, hreach]
  | exported hkind hd =>
      have hnode : stmt.node.child? .declaration = some d.node := by
        rw [← Site.map_node_child?, hd, Option.map_some]
      have hreach : reach stmt.node = fun f : Node =>
          if stmt.node.hasToken "default" then stmt.node.span else f.span := by
        funext f
        cases hdefault : stmt.node.hasToken "default" <;> simp [reach, exportOf, hkind, hdefault]
      simp [visitStatement, visitExport, hkind, hnode, hreach, exportOf]

theorem visitStatement_of_value {stmt y : Site} (hy : ExportsValue stmt y) :
    s.visitStatement stmt.node =
      if y.node.isFunctionExpression then
        ([s.visitFunction y.node .default stmt.node.span], [])
      else if y.node.kind = .classExpression then ([], [s.classContainer y.node none])
      else if y.node.kind = .object then ([], [⟨none, y.node, false⟩])
      else ([], []) := by
  have hnone : stmt.node.child? .declaration = none := by
    rw [← Site.map_node_child?, hy.declares, Option.map_none]
  have hvalue : stmt.node.child? .value = some y.node := by
    rw [← Site.map_node_child?, hy.value, Option.map_some]
  simp only [visitStatement, visitExport, hy.kind, hy.isDefault, hnone, hvalue, ↓reduceIte]

theorem visitStatement_eq_nil {stmt : Site} (hd : ∀ d, ¬ Declares stmt d)
    (hx : ∀ x, ¬ ExportsValue stmt x) : s.visitStatement stmt.node = ([], []) := by
  have hkind : stmt.node.kind = .exportStatement :=
    Decidable.byContradiction fun hkind => hd stmt (.bare hkind)
  have hnone : stmt.child? .declaration = none := by
    cases hdeclared : stmt.child? .declaration with
    | none => rfl
    | some d => exact absurd (.exported hkind hdeclared) (hd d)
  have hnode : stmt.node.child? .declaration = none := by
    rw [← Site.map_node_child?, hnone, Option.map_none]
  simp only [visitStatement, visitExport, hkind, hnode, ↓reduceIte]
  split
  · rename_i hdefault
    cases hvalue : stmt.child? .value with
    | none =>
        have hvalue : stmt.node.child? .value = none := by
          rw [← Site.map_node_child?, hvalue, Option.map_none]
        rw [hvalue]
    | some x => exact absurd ⟨hkind, hdefault, hnone, hvalue⟩ (hx x)
  · rfl

theorem lists_statement (stmt : Site) :
    Enumerates (AtTop s stmt) (s.visitStatement stmt.node).1 ∧
      Enumerates (Holds s stmt) (s.visitStatement stmt.node).2 := by
  by_cases hd : ∃ d, Declares stmt d
  · obtain ⟨d, hd⟩ := hd
    rw [visitStatement_of_declares hd]
    obtain ⟨hvisits, hholds⟩ := lists_declaration (s := s) (exportOf stmt.node) (reach stmt.node) d
    refine ⟨hvisits.congr ?_, hholds.congr ?_⟩
    · exact fun _ _ => atTop_iff_of_declares hd
    · exact fun _ _ => holds_iff_of_declares hd
  · by_cases hy : ∃ y, ExportsValue stmt y
    · obtain ⟨y, hy⟩ := hy
      rw [visitStatement_of_value hy]
      split
      · rename_i hf
        obtain ⟨-, hclass, hobject⟩ := kind_ne_of_isFunctionExpression hf
        refine ⟨Enumerates.one y ?_, Enumerates.none ?_⟩
        · simp [atTop_iff_of_value hy, hf]
        · simp [holds_iff_of_value hy, hclass, hobject]
      · rename_i hf
        have hnone (x : Site) (a : Visit) : ¬ AtTop s stmt x a := by
          rw [atTop_iff_of_value hy]
          exact fun h => hf h.1
        split
        · rename_i hclass
          refine ⟨Enumerates.none hnone, Enumerates.one (bodyOf y) ?_⟩
          simp [holds_iff_of_value hy, hclass]
        · rename_i hclass
          split
          · rename_i hobject
            refine ⟨Enumerates.none hnone, Enumerates.one y ?_⟩
            simp [holds_iff_of_value hy, hobject]
          · rename_i hobject
            refine ⟨Enumerates.none hnone, Enumerates.none ?_⟩
            simp [holds_iff_of_value hy, hclass, hobject]
    · rw [visitStatement_eq_nil (fun d h => hd ⟨d, h⟩) fun y h => hy ⟨y, h⟩]
      refine ⟨Enumerates.none ?_, Enumerates.none ?_⟩
      · intro x a h
        cases h with
        | declared h _ => exact hd ⟨_, h⟩
        | value h _ => exact hy ⟨_, h⟩
      · intro b c h
        cases h with
        | declared h _ => exact hd ⟨_, h⟩
        | ofClass h _ => exact hy ⟨_, h⟩
        | ofObject h _ => exact hy ⟨_, h⟩

/-- The visit `a` is made at the site `x` for a function of the top level. -/
def TopLevel (s : Survey) (x : Site) (a : Visit) : Prop := ∃ stmt ∈ s.statements, AtTop s stmt x a

/-- The visit `a` is made at the site `x` for a member of a class or an object literal. -/
def Member (s : Survey) (x : Site) (a : Visit) : Prop :=
  ∃ b c, (∃ stmt ∈ s.statements, Holds s stmt b c) ∧ MemberAt s b c x a

theorem lists_file (s : Survey) :
    Enumerates (TopLevel s) (visitAll s.visitStatement s.doc.root.significant).1 ∧
      Enumerates (Member s)
        ((visitAll s.visitStatement s.doc.root.significant).2.flatMap s.visitMembers) := by
  have hskip (n : Node) (hn : n.kind = .comment ∨ n.kind.isNamed = false) :
      s.visitStatement n = ([], []) := by
    apply Classical.byContradiction
    intro hne
    have hkind := kind_of_visitStatement_ne hne
    simp only [List.mem_cons, List.not_mem_nil, or_false] at hkind
    rcases hkind with hkind | hkind | hkind | hkind | hkind | hkind | hkind <;>
      simp [hkind, Kind.isNamed] at hn
  obtain ⟨hvisits, hholds⟩ := lists_significant (R := AtTop s) (H := Holds s) (Site.top s.doc.root)
    (fun n hn => hskip n (Or.inl hn)) (fun n hn => hskip n (Or.inr hn)) lists_statement
    (fun _ _ _ h => h.reaches) fun _ _ _ h => h.reaches
  refine ⟨hvisits, hholds.flatMap ?_ ?_⟩
  · rintro b c ⟨stmt, -, h⟩
    exact enumerates_members b c h.body_eq
  · rintro b c - x a h
    exact h.reaches.prefix_path

theorem mem_found_iff {a : Visit} :
    a ∈ s.found ↔ (∃ x, TopLevel s x a) ∨ ∃ x, Member s x a := by
  obtain ⟨htops, hmembers⟩ := lists_file s
  rw [← htops.mem_iff, ← hmembers.mem_iff, ← List.mem_append]
  rfl

theorem TopLevel.reaches {x : Site} {a : Visit} (h : TopLevel s x a) :
    (Site.top s.doc.root).Reaches x := by
  obtain ⟨stmt, hstmt, hx⟩ := h
  exact (Site.Reaches.self.child hstmt).trans hx.reaches

theorem Member.reaches {x : Site} {a : Visit} (h : Member s x a) :
    (Site.top s.doc.root).Reaches x := by
  obtain ⟨b, c, ⟨stmt, hstmt, hb⟩, hx⟩ := h
  exact ((Site.Reaches.self.child hstmt).trans hb.reaches).trans hx.reaches

theorem Member.kind {x : Site} {a : Visit} (h : Member s x a) :
    x.node.kind = .methodDefinition ∨ x.node.kind = .methodSignature := by
  obtain ⟨b, c, -, hx⟩ := h
  cases hx with
  | method _ hkind _ _ => exact Or.inl hkind
  | signature _ hkind _ => exact Or.inr hkind

theorem TopLevel.kind_ne {x : Site} {a : Visit} (h : TopLevel s x a) :
    x.node.kind ≠ .methodDefinition ∧ x.node.kind ≠ .methodSignature := by
  obtain ⟨stmt, -, hx⟩ := h
  cases hx with
  | declared _ hx =>
      cases hx with
      | function hkind => rcases hkind with hkind | hkind <;> simp [hkind]
      | signature hkind => simp [hkind]
      | constant _ _ _ hx =>
          cases hx with
          | function hbinds _ => simp [hbinds.kind]
          | call hbinds _ => simp [hbinds.kind]
  | value _ hf =>
      constructor
      all_goals
        intro hkind
        simp [Node.isFunctionExpression, hkind] at hf

theorem Outcome.length_filterMap (os : List Outcome) :
    (os.filterMap Outcome.candidate?).length + (os.filterMap Outcome.record?).length =
      os.length := by
  induction os with
  | nil => rfl
  | cons o os ih =>
      obtain ⟨t, reason⟩ := o
      cases reason with
      | none =>
          simp only [List.filterMap_cons, candidate?, record?, Option.map_none, List.length_cons]
          omega
      | some r =>
          simp only [List.filterMap_cons, candidate?, record?, Option.map_some, List.length_cons]
          omega

/-- The outcomes of a file belong one to one to the listed nodes: to those of the top level in the
order of the file, and then to the members of classes and object literals in the order of the
file. -/
theorem outcome_of_each_function (doc : Document) (skip : Text → Bool) (entry : Text) :
    ∃ tops members : List (Site × Visit),
      (∀ x a, (x, a) ∈ tops ↔ TopLevel ⟨doc, entry⟩ x a) ∧
      (∀ x a, (x, a) ∈ members ↔ Member ⟨doc, entry⟩ x a) ∧
      (tops.Pairwise fun u w => u.1.Before w.1) ∧
      (members.Pairwise fun u w => u.1.Before w.1) ∧
      ((tops ++ members).map Prod.fst).Nodup ∧
      (∀ u ∈ tops ++ members, u.1.IsIn doc.root) ∧
      (doc.root.isNested doc.source = true →
        (tops.Pairwise fun u w => u.1.node.span.stop ≤ w.1.node.span.start) ∧
          members.Pairwise fun u w => u.1.node.span.stop ≤ w.1.node.span.start) ∧
      (classify doc skip entry).candidates =
        ((tops ++ members).map fun u => (Survey.mk doc entry).outcome skip u.2).filterMap
          Outcome.candidate? ∧
      (classify doc skip entry).skipped =
        ((tops ++ members).map fun u => (Survey.mk doc entry).outcome skip u.2).filterMap
          Outcome.record? ∧
      (classify doc skip entry).candidates.length + (classify doc skip entry).skipped.length =
        (tops ++ members).length := by
  obtain ⟨⟨tops, htops, hmemTops, hpairTops⟩, members, hmembers, hmemMembers, hpairMembers⟩ :=
    lists_file ⟨doc, entry⟩
  have hin : ∀ u ∈ tops ++ members, u.1.IsIn doc.root := by
    intro u hu
    rcases List.mem_append.mp hu with hu | hu
    · exact ((hmemTops u.1 u.2).mp hu).reaches.isIn
    · exact ((hmemMembers u.1 u.2).mp hu).reaches.isIn
  have hnodup {xs : List (Site × Visit)} (h : xs.Pairwise fun u w => u.1.Before w.1) :
      (xs.map Prod.fst).Nodup := by
    apply List.pairwise_map.mpr
    refine h.imp ?_
    intro u w hbefore heq
    exact Site.not_before_self w.1 (heq ▸ hbefore)
  have hordered {xs : List (Site × Visit)} (h : xs.Pairwise fun u w => u.1.Before w.1)
      (hsub : ∀ u ∈ xs, u ∈ tops ++ members) (hroot : doc.root.isNested doc.source = true) :
      xs.Pairwise fun u w => u.1.node.span.stop ≤ w.1.node.span.start := by
    refine h.imp_of_mem ?_
    intro u w hu hw hbefore
    exact hbefore.stop_le_start hroot (hin u (hsub u hu)) (hin w (hsub w hw))
  have houtcomes : (Survey.mk doc entry).outcomes skip =
      (tops ++ members).map fun u => (Survey.mk doc entry).outcome skip u.2 := by
    have hfound : (Survey.mk doc entry).found = (tops ++ members).map Prod.snd := by
      rw [List.map_append, htops, hmembers]
      rfl
    rw [outcomes, hfound, List.map_map]
    rfl
  refine ⟨tops, members, hmemTops, hmemMembers, hpairTops, hpairMembers, ?_, hin, ?_, ?_, ?_, ?_⟩
  · rw [List.map_append]
    refine List.nodup_append.mpr ⟨hnodup hpairTops, hnodup hpairMembers, ?_⟩
    rintro x hx _ hw rfl
    obtain ⟨u, hu, rfl⟩ := List.mem_map.mp hx
    obtain ⟨w, hw, heq⟩ := List.mem_map.mp hw
    have hne := ((hmemTops u.1 u.2).mp hu).kind_ne
    rw [← heq] at hne
    rcases ((hmemMembers w.1 w.2).mp hw).kind with hkind | hkind
    · exact hne.1 hkind
    · exact hne.2 hkind
  · intro hroot
    exact ⟨hordered hpairTops (fun u hu => List.mem_append_left _ hu) hroot,
      hordered hpairMembers (fun u hu => List.mem_append_right _ hu) hroot⟩
  · rw [candidates_classify, houtcomes]
  · rw [skipped_classify, houtcomes]
  · rw [candidates_classify, skipped_classify, Outcome.length_filterMap, houtcomes, List.length_map]

end SpanWeave.Survey
