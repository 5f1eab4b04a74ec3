import SpanWeave.Survey
import SpanWeave.Proofs.Syntax.Nesting

namespace SpanWeave.Survey

open Syntax

/-- The visit `v` is made at the node `owner`. -/
inductive Found (s : Survey) : (owner : Node) → (v : Visit) → Prop
  /-- A declaration, exported or not. -/
  | declared (f : Node) {exported : Export} (h : exported ≠ .default) :
      Found s f (s.visitFunction f exported f.span)
  /-- A default export, visited for the function it declares or for its value. -/
  | defaultExport {stmt f : Node} {role : Field} (h : stmt.child? role = some f) :
      Found s stmt (s.visitFunction f .default stmt.span)
  | signature (sig : Node) (enclosing : Option Text) (exported : Export) :
      Found s sig (s.visitSignature sig enclosing exported)
  /-- A variable that is bound to a function. -/
  | bound {d value : Node} (name : Text) (exported : Export) (h : d.child? .value = some value) :
      Found s d (s.visitConst name value value.span exported false)
  /-- A variable that is bound to a call of the entry point on a function. -/
  | boundCall {d value f : Node} (name : Text) (exported : Export)
      (h : d.child? .value = some value) (hf : s.wrappedFunction? value = some f) :
      Found s d (s.visitConst name f value.span exported true)
  | method (c : Container) {member : Node} (h : member.kind = .methodDefinition) :
      Found s member (s.visitMethod c member)

theorem visitMethod_span (s : Survey) (c : Container) (m : Node) :
    (s.visitMethod c m).target.span = ((m.child? .body).map Node.span).getD m.span := rfl

theorem visitMethod_text (s : Survey) (c : Container) (m : Node) :
    (s.visitMethod c m).target.text = s.doc.textOf m := rfl

theorem visitMethod_block (s : Survey) (c : Container) (m : Node) :
    (s.visitMethod c m).block = none := rfl

theorem visitMethod_shape (s : Survey) (c : Container) (m : Node) :
    (s.visitMethod c m).target.shape =
      if !c.isClass then Shape.objectMethod
      else if s.memberName? m = some "constructor".toList then Shape.constructorMethod
      else if m.hasToken "static" then Shape.staticMethod
      else Shape.instanceMethod := rfl

theorem visitMethod_wrapped (s : Survey) (c : Container) (m : Node) :
    (s.visitMethod c m).wrapped = (m.child? .body).any s.blockIsWrapped := rfl

theorem isMember_visitMethod (s : Survey) (c : Container) (m : Node) :
    (s.visitMethod c m).target.shape.isMember = true := by
  rw [visitMethod_shape]
  split
  · rfl
  · split
    · rfl
    · split <;> rfl

/-- The nodes from which a contribution is made: the owners of its visits and the bodies of its
containers. -/
def parts (located : List (Node × Visit)) (containers : List Container) : List Node :=
  located.map Prod.fst ++ containers.map Container.body

/-- The nodes have no byte in common. -/
def Scattered (ns : List Node) : Prop := ns.Pairwise fun a b => a.span.Apart b.span

theorem Scattered.append {ns ms : List Node} (hn : Scattered ns) (hm : Scattered ms)
    (h : ∀ a ∈ ns, ∀ b ∈ ms, a.span.Apart b.span) : Scattered (ns ++ ms) :=
  List.pairwise_append.mpr ⟨hn, hm, h⟩

theorem Scattered.perm {ns ms : List Node} (hn : Scattered ns) (h : ns.Perm ms) :
    Scattered ms :=
  (h.pairwise_iff Span.Apart.symm).mp hn

/-- The contribution `p` comes from `n`: each visit is found at an owner, the owners and the
bodies of containers stand below `n`, and if `n` is nested, they lie scattered. -/
def Spread (s : Survey) (n : Node) (p : List Visit × List Container) : Prop :=
  ∃ located : List (Node × Visit),
    located.map Prod.snd = p.1 ∧ (∀ x ∈ located, Found s x.1 x.2) ∧
      (∀ o ∈ parts located p.2, o.Under n) ∧
      (n.isNested s.doc.source = true → Scattered (parts located p.2))

theorem spread_nil (s : Survey) (n : Node) : Spread s n ([], []) :=
  ⟨[], rfl, by simp, by simp [parts], fun _ => List.Pairwise.nil⟩

theorem spread_visit {s : Survey} {n o : Node} {v : Visit} (hv : Found s o v)
    (ho : o.Under n) : Spread s n ([v], []) :=
  ⟨[(o, v)], rfl, by simpa using hv, by simpa [parts] using ho,
    fun _ => List.pairwise_singleton _ _⟩

theorem spread_container {s : Survey} {n : Node} {c : Container} (hc : c.body.Under n) :
    Spread s n ([], [c]) :=
  ⟨[], rfl, by simp, by simpa [parts] using hc, fun _ => List.pairwise_singleton _ _⟩

theorem Spread.mono {s : Survey} {m n : Node} {p : List Visit × List Container}
    (h : Spread s m p) (hm : m.Under n) : Spread s n p := by
  obtain ⟨located, hvisits, hfound, hunder, hscattered⟩ := h
  refine ⟨located, hvisits, hfound, fun o ho => (hunder o ho).trans hm, ?_⟩
  intro hn
  exact hscattered (Node.isNested_of_under hn hm).1

theorem parts_append_perm (located located' : List (Node × Visit))
    (containers containers' : List Container) :
    (parts located containers ++ parts located' containers').Perm
      (parts (located ++ located') (containers ++ containers')) := by
  simp only [parts, List.map_append, List.append_assoc]
  apply List.Perm.append_left
  rw [← List.append_assoc, ← List.append_assoc]
  apply List.Perm.append_right
  exact List.perm_append_comm

theorem exists_located_visitAll {s : Survey} {visit : Node → List Visit × List Container}
    {ns : List Node} (hvisit : ∀ n ∈ ns, Spread s n (visit n)) :
    ∃ located : List (Node × Visit),
      located.map Prod.snd = (visitAll visit ns).1 ∧ (∀ x ∈ located, Found s x.1 x.2) ∧
        (∀ o ∈ parts located (visitAll visit ns).2,
          ∃ n ∈ ns, visit n ≠ ([], []) ∧ o.Under n) ∧
        ((∀ n ∈ ns, n.isNested s.doc.source = true) →
          ns.Pairwise (fun a b => a.span.stop ≤ b.span.start) →
            Scattered (parts located (visitAll visit ns).2)) := by
  induction ns with
  | nil =>
      exact ⟨[], rfl, by simp, by simp [parts, visitAll], fun _ _ => List.Pairwise.nil⟩
  | cons n ns ih =>
      obtain ⟨head, hhead, hfoundHead, hunderHead, hscatHead⟩ := hvisit n (by simp)
      obtain ⟨tail, htail, hfoundTail, hunderTail, hscatTail⟩ :=
        ih fun m hm => hvisit m (by simp [hm])
      have hall : visitAll visit (n :: ns) = both (visit n) (visitAll visit ns) := rfl
      have hperm := parts_append_perm head tail (visit n).2 (visitAll visit ns).2
      have hsplit : parts (head ++ tail) (visitAll visit (n :: ns)).2 =
          parts (head ++ tail) ((visit n).2 ++ (visitAll visit ns).2) := rfl
      refine ⟨head ++ tail, by simp [hall, both, hhead, htail], ?_, ?_, ?_⟩
      · intro x hx
        rcases List.mem_append.mp hx with hx | hx
        · exact hfoundHead x hx
        · exact hfoundTail x hx
      · intro o ho
        rw [hsplit] at ho
        rcases List.mem_append.mp (hperm.mem_iff.mpr ho) with ho | ho
        · refine ⟨n, by simp, ?_, hunderHead o ho⟩
          intro hempty
          have hnone : head = [] := by simpa [hempty] using hhead
          simp [parts, hnone, hempty] at ho
        · obtain ⟨m, hm, hne, hunder⟩ := hunderTail o ho
          exact ⟨m, by simp [hm], hne, hunder⟩
      · intro hnested hpair
        obtain ⟨hordered, hpairTail⟩ := List.pairwise_cons.mp hpair
        have htailNested : ∀ m ∈ ns, m.isNested s.doc.source = true :=
          fun m hm => hnested m (by simp [hm])
        rw [hsplit]
        refine Scattered.perm (Scattered.append (hscatHead (hnested n (by simp)))
          (hscatTail htailNested hpairTail) ?_) hperm
        intro a ha b hb
        obtain ⟨m, hm, -, hbm⟩ := hunderTail b hb
        exact Span.Apart.mono (Or.inl (hordered m hm))
          (Node.isNested_of_under (hnested n (by simp)) (hunderHead a ha)).2
          (Node.isNested_of_under (htailNested m hm) hbm).2

theorem spread_significant {s : Survey} {n : Node} {visit : Node → List Visit × List Container}
    (hvisit : ∀ m ∈ n.significant, Spread s m (visit m)) :
    Spread s n (visitAll visit n.significant) := by
  obtain ⟨located, hvisits, hfound, hunder, hscattered⟩ := exists_located_visitAll hvisit
  refine ⟨located, hvisits, hfound, ?_, ?_⟩
  · intro o ho
    obtain ⟨m, hm, -, hom⟩ := hunder o ho
    exact hom.trans (Node.under_of_mem_significant hm)
  · intro hn
    exact hscattered
      (fun m hm => (Node.isNested_of_mem hn (Node.mem_significant hm)).1)
      (Node.pairwise_significant hn)

theorem spread_class (s : Survey) (c : Node) (binding : Option Text) :
    Spread s c ([], [s.classContainer c binding]) := by
  apply spread_container
  simp only [classContainer]
  cases hbody : c.child? .body with
  | none => exact .root
  | some b => exact Node.under_of_child? hbody

/-- What a variable contributes through its initial value. -/
def visitValue (s : Survey) (exported : Export) (name : Text) (value : Node) :
    List Visit × List Container :=
  if value.isFunctionExpression then ([s.visitConst name value value.span exported false], [])
  else
    match s.wrappedFunction? value with
    | some inner => ([s.visitConst name inner value.span exported true], [])
    | none =>
        if value.kind = .classExpression then ([], [s.classContainer value (some name)])
        else if value.kind = .object then ([], [⟨some name, value, false⟩])
        else ([], [])

theorem visitDeclarator_of_value {s : Survey} {exported : Export} {d binding value : Node}
    (hkind : d.kind = .variableDeclarator) (hname : d.child? .name = some binding)
    (hvalue : d.child? .value = some value) (hbinding : binding.kind = .identifier) :
    s.visitDeclarator exported d = s.visitValue exported (s.doc.textOf binding) value := by
  simp only [visitDeclarator, hkind, hname, hvalue, hbinding, ne_eq, not_true_eq_false, ↓reduceIte]
  rfl

theorem visitDeclarator_cases (s : Survey) (exported : Export) (d : Node) :
    s.visitDeclarator exported d = ([], []) ∨
      ∃ binding value, d.kind = .variableDeclarator ∧ d.child? .name = some binding ∧
        d.child? .value = some value ∧ binding.kind = .identifier := by
  simp only [visitDeclarator]
  split
  · rename_i hkind
    split
    · rename_i binding value hname hvalue
      split
      · exact Or.inl rfl
      · rename_i hbinding
        exact Or.inr ⟨binding, value, hkind, hname, hvalue, Decidable.not_not.mp hbinding⟩
    · exact Or.inl rfl
  · exact Or.inl rfl

theorem visitValue_cases (s : Survey) (exported : Export) (name : Text) (value : Node) :
    (∃ f wrapped,
      s.visitValue exported name value = ([s.visitConst name f value.span exported wrapped], [])) ∨
      (value.kind = .classExpression ∧
        s.visitValue exported name value = ([], [s.classContainer value (some name)])) ∨
      (value.kind = .object ∧
        s.visitValue exported name value = ([], [⟨some name, value, false⟩])) ∨
      s.visitValue exported name value = ([], []) := by
  simp only [visitValue]
  split
  · exact Or.inl ⟨_, _, rfl⟩
  · split
    · exact Or.inl ⟨_, _, rfl⟩
    · split
      · rename_i hkind
        exact Or.inr (Or.inl ⟨hkind, rfl⟩)
      · split
        · rename_i hkind
          exact Or.inr (Or.inr (Or.inl ⟨hkind, rfl⟩))
        · exact Or.inr (Or.inr (Or.inr rfl))

theorem visitValue_of_container {s : Survey} {exported : Export} {name : Text} {value : Node}
    (hkind : value.kind = .classExpression ∨ value.kind = .object) :
    s.visitValue exported name value =
      if value.kind = .classExpression then ([], [s.classContainer value (some name)])
      else ([], [⟨some name, value, false⟩]) := by
  rcases hkind with hkind | hkind <;>
    simp [visitValue, wrappedFunction?, Node.isFunctionExpression, hkind]

theorem visitDeclarator_eq_one {s : Survey} {exported : Export} {d : Node} {v : Visit}
    {vs : List Visit} {cs : List Container}
    (h : s.visitDeclarator exported d = (v :: vs, cs)) :
    s.visitDeclarator exported d = ([v], []) := by
  rcases visitDeclarator_cases s exported d with hnil | ⟨b, value, hkind, hb, hvalue, hbinding⟩
  · simp [hnil] at h
  · rw [visitDeclarator_of_value hkind hb hvalue hbinding] at h ⊢
    rcases visitValue_cases s exported (s.doc.textOf b) value with
      ⟨f, wrapped, heq⟩ | ⟨-, heq⟩ | ⟨-, heq⟩ | heq
    · rw [heq] at h ⊢
      obtain ⟨rfl, -⟩ := List.cons.inj (Prod.mk.inj h).1
      rfl
    · simp [heq] at h
    · simp [heq] at h
    · simp [heq] at h

theorem spread_declarator (s : Survey) (exported : Export) (d : Node) :
    Spread s d (s.visitDeclarator exported d) := by
  simp only [visitDeclarator]
  split
  · split
    · rename_i binding value _ hvalue
      have hunder : value.Under d := Node.under_of_child? hvalue
      split
      · exact spread_nil s d
      · split
        · exact spread_visit (.bound _ exported hvalue) .root
        · split
          · rename_i f hf
            exact spread_visit (.boundCall _ exported hvalue hf) .root
          · split
            · exact (spread_class s value _).mono hunder
            · split
              · exact spread_container hunder
              · exact spread_nil s d
    · exact spread_nil s d
  · exact spread_nil s d

theorem spread_declaration {s : Survey} {exported : Export} {whole : Node → Span} {n d : Node}
    (hd : d.Under n) (hf : Spread s n ([s.visitFunction d exported (whole d)], [])) :
    Spread s n (s.visitDeclaration exported whole d) := by
  simp only [visitDeclaration]
  split
  · exact hf
  · exact hf
  · exact spread_visit (.signature d none exported) hd
  · split
    · exact (spread_significant fun m _ => spread_declarator s exported m).mono hd
    · exact spread_nil s n
  · exact (spread_class s d none).mono hd
  · exact (spread_class s d none).mono hd
  · exact spread_nil s n

theorem spread_export (s : Survey) (stmt : Node) : Spread s stmt (s.visitExport stmt) := by
  simp only [visitExport]
  split
  · rename_i d hd
    have hunder : d.Under stmt := Node.under_of_child? hd
    apply spread_declaration hunder
    by_cases hdefault : stmt.hasToken "default" = true
    · simp only [hdefault, ↓reduceIte]
      exact spread_visit (.defaultExport hd) .root
    · simp only [hdefault, Bool.false_eq_true, ↓reduceIte]
      exact spread_visit (.declared d (by decide)) hunder
  · split
    · split
      · rename_i value hvalue
        have hunder : value.Under stmt := Node.under_of_child? hvalue
        split
        · exact spread_visit (.defaultExport hvalue) .root
        · split
          · exact (spread_class s value none).mono hunder
          · split
            · exact spread_container hunder
            · exact spread_nil s stmt
      · exact spread_nil s stmt
    · exact spread_nil s stmt

theorem spread_statement (s : Survey) (stmt : Node) : Spread s stmt (s.visitStatement stmt) := by
  simp only [visitStatement]
  split
  · exact spread_export s stmt
  · exact spread_declaration .root (spread_visit (.declared stmt (by decide)) .root)

theorem kind_of_visitStatement_ne {s : Survey} {stmt : Node}
    (h : s.visitStatement stmt ≠ ([], [])) :
    stmt.kind ∈ [.exportStatement, .functionDeclaration, .generatorFunctionDeclaration,
      .functionSignature, .lexicalDeclaration, .classDeclaration, .abstractClassDeclaration] := by
  simp only [visitStatement, visitDeclaration] at h
  split at h
  · simp_all
  · split at h <;> simp_all

theorem spread_members (s : Survey) (c : Container) : Spread s c.body (s.visitMembers c, []) := by
  have hspread (m : Node) : Spread s m (s.visitMember c m, []) := by
    simp only [visitMember]
    split
    · rename_i hkind
      split
      · exact spread_nil s m
      · exact spread_visit (.method c hkind) .root
    · split
      · exact spread_visit (.signature m _ _) .root
      · exact spread_nil s m
    · exact spread_nil s m
  have hflat (ns : List Node) : visitAll (fun m => (s.visitMember c m, [])) ns =
      (ns.flatMap (s.visitMember c), []) := by
    induction ns with
    | nil => rfl
    | cons n ns ih =>
        have hall : visitAll (fun m => (s.visitMember c m, [])) (n :: ns) =
          both (s.visitMember c n, []) (visitAll (fun m => (s.visitMember c m, [])) ns) := rfl
        simp [hall, ih, both]
  have h := spread_significant (n := c.body) fun m _ => hspread m
  rw [hflat] at h
  exact h

theorem exists_located_flatMap (s : Survey) (cs : List Container) :
    ∃ located : List (Node × Visit),
      located.map Prod.snd = cs.flatMap s.visitMembers ∧ (∀ x ∈ located, Found s x.1 x.2) ∧
        (∀ o ∈ located.map Prod.fst, ∃ c ∈ cs, o.Under c.body) ∧
        ((∀ c ∈ cs, c.body.isNested s.doc.source = true) →
          Scattered (cs.map Container.body) → Scattered (located.map Prod.fst)) := by
  induction cs with
  | nil => exact ⟨[], rfl, by simp, by simp, fun _ _ => List.Pairwise.nil⟩
  | cons c cs ih =>
      obtain ⟨head, hhead, hfoundHead, hunderHead, hscatHead⟩ := spread_members s c
      obtain ⟨tail, htail, hfoundTail, hunderTail, hscatTail⟩ := ih
      simp only [parts, List.map_nil, List.append_nil] at hunderHead hscatHead
      refine ⟨head ++ tail, by simp [hhead, htail], ?_, ?_, ?_⟩
      · intro x hx
        rcases List.mem_append.mp hx with hx | hx
        · exact hfoundHead x hx
        · exact hfoundTail x hx
      · intro o ho
        rw [List.map_append] at ho
        rcases List.mem_append.mp ho with ho | ho
        · exact ⟨c, by simp, hunderHead o ho⟩
        · obtain ⟨d, hd, hod⟩ := hunderTail o ho
          exact ⟨d, by simp [hd], hod⟩
      · intro hnested hbodies
        obtain ⟨hc, hcs⟩ := List.pairwise_cons.mp hbodies
        have htailNested : ∀ d ∈ cs, d.body.isNested s.doc.source = true :=
          fun d hd => hnested d (by simp [hd])
        rw [List.map_append]
        refine Scattered.append (hscatHead (hnested c (by simp)))
          (hscatTail htailNested hcs) ?_
        intro a ha b hb
        obtain ⟨d, hd, hbd⟩ := hunderTail b hb
        exact (hc d.body (List.mem_map_of_mem hd)).mono
          (Node.isNested_of_under (hnested c (by simp)) (hunderHead a ha)).2
          (Node.isNested_of_under (htailNested d hd) hbd).2

/-- All functions of a file before signatures are considered. -/
def found (s : Survey) : List Visit :=
  let (tops, containers) := visitAll s.visitStatement s.doc.root.significant
  tops ++ containers.flatMap s.visitMembers

theorem visits_eq (s : Survey) : s.visits = s.found.map (retarget (signatureNames s.found)) := rfl

/-- Every visited function of a file has an owner below a top-level statement that contributes
something. In a nested tree the owners lie scattered. -/
theorem exists_located_found (s : Survey) :
    ∃ located : List (Node × Visit),
      located.map Prod.snd = s.found ∧ (∀ x ∈ located, Found s x.1 x.2) ∧
        (∀ o ∈ located.map Prod.fst, ∃ stmt ∈ s.doc.root.significant,
          s.visitStatement stmt ≠ ([], []) ∧ o.Under stmt) ∧
        (s.doc.root.isNested s.doc.source = true → Scattered (located.map Prod.fst)) := by
  let all := visitAll s.visitStatement s.doc.root.significant
  have hspread : ∀ stmt ∈ s.doc.root.significant, Spread s stmt (s.visitStatement stmt) :=
    fun stmt _ => spread_statement s stmt
  obtain ⟨tops, htops, hfoundTops, hunderTops, hscatTops⟩ := exists_located_visitAll hspread
  obtain ⟨members, hmembers, hfoundMembers, hunderMembers, hscatMembers⟩ :=
    exists_located_flatMap s all.2
  have hbody : ∀ c ∈ all.2, c.body ∈ parts tops all.2 :=
    fun c hc => List.mem_append_right _ (List.mem_map_of_mem hc)
  refine ⟨tops ++ members, ?_, ?_, ?_, ?_⟩
  · rw [List.map_append, htops, hmembers]
    rfl
  · intro x hx
    rcases List.mem_append.mp hx with hx | hx
    · exact hfoundTops x hx
    · exact hfoundMembers x hx
  · intro o ho
    rw [List.map_append] at ho
    rcases List.mem_append.mp ho with ho | ho
    · exact hunderTops o (List.mem_append_left _ ho)
    · obtain ⟨c, hc, hoc⟩ := hunderMembers o ho
      obtain ⟨stmt, hstmt, hne, hunder⟩ := hunderTops c.body (hbody c hc)
      exact ⟨stmt, hstmt, hne, hoc.trans hunder⟩
  · intro hroot
    have hnested : ∀ c ∈ all.2, c.body.isNested s.doc.source = true := by
      intro c hc
      obtain ⟨stmt, hstmt, -, hunder⟩ := hunderTops c.body (hbody c hc)
      exact (Node.isNested_of_under hroot
        (hunder.trans (Node.under_of_mem_significant hstmt))).1
    have hscattered := hscatTops
      (fun m hm => (Node.isNested_of_mem hroot (Node.mem_significant hm)).1)
      (Node.pairwise_significant hroot)
    obtain ⟨howners, hbodies, hcross⟩ := List.pairwise_append.mp hscattered
    rw [List.map_append]
    refine Scattered.append howners (hscatMembers hnested hbodies) ?_
    intro a ha b hb
    obtain ⟨c, hc, hbc⟩ := hunderMembers b hb
    exact (hcross a ha c.body (List.mem_map_of_mem hc)).mono (Span.Inside.refl _)
      (Node.isNested_of_under (hnested c hc) hbc).2

end SpanWeave.Survey
