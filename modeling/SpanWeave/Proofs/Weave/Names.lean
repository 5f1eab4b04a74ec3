import SpanWeave.Proofs.Weave.Again
import SpanWeave.Proofs.Weave.Rewoven

namespace SpanWeave

open Syntax

/-- Functions and classes: what they declare is their own name. -/
def Syntax.Node.namesItself (n : Node) : Bool :=
  match n.kind with
  | .functionDeclaration | .generatorFunctionDeclaration | .classDeclaration
  | .abstractClassDeclaration | .functionExpression | .generatorFunction | .arrowFunction
  | .classExpression => true
  | _ => false

theorem Syntax.Node.namesItself_of_isFunctionExpression {n : Node}
    (h : n.isFunctionExpression = true) : n.namesItself = true := by
  simp only [Node.isFunctionExpression] at h
  split at h <;> simp_all [Node.namesItself]

theorem Binding.declaredNames_of_namesItself (d : Document) {n : Node}
    (h : n.namesItself = true) : Binding.declaredNames d n = (d.fieldText? n .name).toList := by
  simp only [Node.namesItself] at h
  split at h
  all_goals simp_all [Binding.declaredNames]

namespace Survey

theorem shape_of_visitDeclarator {s : Survey} {exported : Export} {d : Node} {v : Visit}
    (h : v ∈ (s.visitDeclarator exported d).1) : v.target.shape = .constFunction := by
  rcases visitDeclarator_cases s exported d with hnil | ⟨b, value, hkind, hb, hvalue, hbinding⟩
  · simp [hnil] at h
  · rw [visitDeclarator_of_value hkind hb hvalue hbinding] at h
    rcases visitValue_cases s exported (s.doc.textOf b) value with
      ⟨f, wrapped, heq⟩ | ⟨-, heq⟩ | ⟨-, heq⟩ | heq
    · rw [heq, List.mem_singleton] at h
      rw [h]
      rfl
    · simp [heq] at h
    · simp [heq] at h
    · simp [heq] at h

theorem exists_of_mem_visitAll {visit : Node → List Visit × List Container} {ns : List Node}
    {v : Visit} (h : v ∈ (visitAll visit ns).1) : ∃ n ∈ ns, v ∈ (visit n).1 := by
  induction ns with
  | nil => simp [visitAll] at h
  | cons n ns ih =>
      rcases List.mem_append.mp h with hn | hrest
      · exact ⟨n, by simp, hn⟩
      · obtain ⟨m, hm, hv⟩ := ih hrest
        exact ⟨m, by simp [hm], hv⟩

theorem of_mem_visitDeclaration {s : Survey} {exported : Export} {whole : Node → Span} {d : Node}
    {v : Visit} (h : v ∈ (s.visitDeclaration exported whole d).1)
    (hshape : v.target.shape = .defaultExportedFunctionDeclaration) :
    exported = .default ∧ d.namesItself = true ∧ v = s.visitFunction d exported (whole d) := by
  have hfunction (hself : d.namesItself = true) (hv : v = s.visitFunction d exported (whole d)) :
      exported = .default ∧ d.namesItself = true ∧ v = s.visitFunction d exported (whole d) := by
    refine ⟨?_, hself, hv⟩
    rw [hv] at hshape
    cases exported with
    | none => simp [visitFunction, target] at hshape
    | named => simp [visitFunction, target] at hshape
    | default => rfl
  simp only [visitDeclaration] at h
  split at h
  · rename_i hkind
    exact hfunction (by simp [Node.namesItself, hkind]) (by simpa using h)
  · rename_i hkind
    exact hfunction (by simp [Node.namesItself, hkind]) (by simpa using h)
  · rw [List.mem_singleton] at h
    simp [h, visitSignature, target] at hshape
  · split at h
    · obtain ⟨c, -, hv⟩ := exists_of_mem_visitAll h
      simp [shape_of_visitDeclarator hv] at hshape
    · simp at h
  · simp at h
  · simp at h
  · simp at h

theorem of_mem_visitStatement {s : Survey} {stmt : Node} {v : Visit}
    (h : v ∈ (s.visitStatement stmt).1)
    (hshape : v.target.shape = .defaultExportedFunctionDeclaration) :
    stmt.kind = .exportStatement ∧ stmt.hasToken "default" = true ∧
      ∃ f, stmt.exported? = some f ∧ f.namesItself = true ∧
        v.target.name = s.doc.fieldText? f .name := by
  simp only [visitStatement] at h
  split at h
  · rename_i hkind
    refine ⟨hkind, ?_⟩
    simp only [visitExport] at h
    split at h
    · rename_i d hd
      obtain ⟨hdefault, hself, hv⟩ := of_mem_visitDeclaration h hshape
      refine ⟨?_, d, Node.exported?_of_declaration hd, hself, ?_⟩
      · by_contra hnone
        simp [hnone] at hdefault
      · rw [hv]
        rfl
    · rename_i hd
      split at h
      · rename_i hdefault
        refine ⟨hdefault, ?_⟩
        split at h
        · rename_i value hvalue
          split at h
          · rename_i hfun
            refine ⟨value, Node.exported?_of_value hd hvalue,
              Node.namesItself_of_isFunctionExpression hfun, ?_⟩
            rw [List.mem_singleton.mp h]
            rfl
          · split at h
            · simp at h
            · split at h <;> simp at h
        · simp at h
      · simp at h
  · have hdefault := (of_mem_visitDeclaration h hshape).1
    cases hdefault

end Survey

namespace Rereading

variable {r : Rereading}

section alike

mutual

theorem patternNames_of_alike (n n' : Node) (h : r.alike n n' = true) :
    Binding.patternNames r.before n = Binding.patternNames r.after n' := by
  cases n with
  | mk k f s cs =>
      cases n' with
      | mk k' f' s' cs' =>
          have hkind := alike_kind h
          have htext := alike_textOf h
          simp only [Node.kind] at hkind
          subst hkind
          simp only [alike, Bool.and_eq_true] at h
          obtain ⟨hin, hvalue, htarget⟩ := namesIn_of_alikeAll cs cs' h.2
          simp only [Binding.patternNames]
          split
          · rw [htext]
          · rw [htext]
          · exact hin
          · exact hin
          · exact hin
          · exact hvalue
          · exact htarget
          · exact htarget
          · rfl

theorem namesIn_of_alikeAll (cs cs' : List Node) (h : r.alikeAll cs cs' = true) :
    Binding.patternNamesIn r.before cs = Binding.patternNamesIn r.after cs' ∧
      Binding.valueNames r.before cs = Binding.valueNames r.after cs' ∧
      Binding.targetNames r.before cs = Binding.targetNames r.after cs' := by
  cases cs with
  | nil =>
      cases cs' with
      | nil => exact ⟨rfl, rfl, rfl⟩
      | cons c' cs' => simp [alikeAll] at h
  | cons c cs =>
      cases cs' with
      | nil => simp [alikeAll] at h
      | cons c' cs' =>
          simp only [alikeAll, Bool.and_eq_true] at h
          obtain ⟨hc, hcs⟩ := h
          have hnames := patternNames_of_alike c c' hc
          obtain ⟨hin, hvalue, htarget⟩ := namesIn_of_alikeAll cs cs' hcs
          refine ⟨?_, ?_, ?_⟩
          · rw [Binding.patternNamesIn, Binding.patternNamesIn, hnames, hin]
          · rw [Binding.valueNames, Binding.valueNames, alike_field hc, hnames, hvalue]
          · rw [Binding.targetNames, Binding.targetNames, alike_kind hc, hnames, htarget]

end

theorem declaratorNames_of_name {v v' : Node} (hkind : v.kind = v'.kind)
    (h : Option.Rel (fun c c' => r.alike c c' = true) (v.child? .name) (v'.child? .name)) :
    Binding.declaratorNames r.before v = Binding.declaratorNames r.after v' := by
  rw [Binding.declaratorNames, Binding.declaratorNames, hkind,
    option_flatMap_eq patternNames_of_alike h]

section
variable {n n' : Node} (h : r.alike n n' = true)
include h

theorem firstName_of_alike : Binding.firstName r.before n = Binding.firstName r.after n' := by
  rw [Binding.firstName, Binding.firstName]
  have hsignificant := alike_significant h
  generalize n.significant = cs, n'.significant = cs' at hsignificant
  cases hsignificant with
  | nil => rfl
  | cons hc _ => rw [List.head?_cons, List.head?_cons, Option.map_some, Option.map_some,
      alike_textOf hc]

theorem localName_of_alike : Binding.localName r.before n = Binding.localName r.after n' := by
  have hname := fieldText?_eq (alike_child? h .name)
  have hlocal := fieldText?_eq (alike_child? h .localName)
  simp only [Document.fieldText?] at hname hlocal
  rw [Binding.localName, Binding.localName, Option.map_or, Option.map_or, hname, hlocal]

theorem typeOnly_of_alike : n.typeOnly = n'.typeOnly := by
  rw [Node.typeOnly, Node.typeOnly, alike_hasToken h, alike_hasToken h]

theorem specifierNames_of_alike :
    Binding.specifierNames r.before n = Binding.specifierNames r.after n' := by
  rw [Binding.specifierNames, Binding.specifierNames, alike_kind h, typeOnly_of_alike h,
    localName_of_alike h]

theorem partNames_of_alike : Binding.partNames r.before n = Binding.partNames r.after n' := by
  have hspecifiers : n.significant.flatMap (Binding.specifierNames r.before) =
      n'.significant.flatMap (Binding.specifierNames r.after) :=
    forall₂_flatMap (fun _ _ => specifierNames_of_alike) (alike_significant h)
  rw [Binding.partNames, Binding.partNames, alike_kind h, alike_textOf h, firstName_of_alike h,
    hspecifiers]

theorem clauseNames_of_alike : Binding.clauseNames r.before n = Binding.clauseNames r.after n' := by
  have hparts : n.significant.flatMap (Binding.partNames r.before) =
      n'.significant.flatMap (Binding.partNames r.after) :=
    forall₂_flatMap (fun _ _ => partNames_of_alike) (alike_significant h)
  rw [Binding.clauseNames, Binding.clauseNames, alike_kind h, firstName_of_alike h, hparts]

theorem declaratorNames_of_alike :
    Binding.declaratorNames r.before n = Binding.declaratorNames r.after n' :=
  declaratorNames_of_name (alike_kind h) (alike_child? h .name)

theorem declaredNames_of_alike :
    Binding.declaredNames r.before n = Binding.declaredNames r.after n' := by
  have hclauses : n.significant.flatMap (Binding.clauseNames r.before) =
      n'.significant.flatMap (Binding.clauseNames r.after) :=
    forall₂_flatMap (fun _ _ => clauseNames_of_alike) (alike_significant h)
  have hdeclarators : n.significant.flatMap (Binding.declaratorNames r.before) =
      n'.significant.flatMap (Binding.declaratorNames r.after) :=
    forall₂_flatMap (fun _ _ => declaratorNames_of_alike) (alike_significant h)
  rw [Binding.declaredNames, Binding.declaredNames, alike_kind h, typeOnly_of_alike h,
    firstName_of_alike h, fieldText?_eq (alike_child? h .name), hclauses, hdeclarators]

end

end alike

/-- What becomes of a declaration, or of the value of a default export. -/
inductive Redeclared (r : Rereading) : Node → Node → Prop
  | kept {n n' : Node} (h : r.alike n n' = true) : Redeclared r n n'
  /-- A function whose body is replaced, or a class with its members. -/
  | named {n n' : Node} (hself : n.namesItself = true) (hkind : n.kind = n'.kind)
      (hname : r.before.fieldText? n .name = r.after.fieldText? n' .name) : Redeclared r n n'
  /-- A function that has become a constant. -/
  | traced {n n' : Node} (hself : n.namesItself = true)
      (h : r.isTracedConst (r.before.fieldText? n .name) n' = true) : Redeclared r n n'
  /-- Constants, some with other values. -/
  | constants {n n' : Node} (hkind : n.kind = .lexicalDeclaration)
      (hkind' : n'.kind = .lexicalDeclaration) (hconst : n.hasToken "const" = true)
      (hconst' : n'.hasToken "const" = true)
      (h : Binding.declaredNames r.before n = Binding.declaredNames r.after n') :
      Redeclared r n n'
  | members {n n' : Node} (hkind : n.kind = .object) (hkind' : n'.kind = .object) :
      Redeclared r n n'

section declarations

theorem declaratorReread_name {exported : Export} {d d' : Node}
    (h : r.declaratorReread exported d d' = true) :
    Option.Rel (fun c c' => r.alike c c' = true) (d.child? .name) (d'.child? .name) := by
  simp only [declaratorReread] at h
  split at h
  · split at h
    · exact exchanged_child?_of_ne h (by decide)
    · exact alike_child? h .name
  · exact exchanged_child?_of_ne h (by decide)
  · exact alike_child? h .name

theorem redeclared_of_classReread {c : Container} {n n' : Node} (hself : n.namesItself = true)
    (h : r.classReread c n n' = true) : Redeclared r n n' := by
  have hkind := (classReread_label h).1
  simp only [classReread] at h
  split at h
  · exact .named hself hkind (fieldText?_eq (exchanged_child?_of_ne h (by decide)))
  · exact .named hself hkind (of_decide_eq_true (Bool.and_eq_true_iff.mp h).2)

theorem redeclared_of_functionReread {f f' : Node} {exported : Export} {span : Span}
    (hself : f.namesItself = true)
    (h : r.functionReread (r.first.visitFunction f exported span) f f' = true) :
    Redeclared r f f' := by
  rcases functionReread_cases h with ⟨-, halike⟩ | ⟨-, -, hbody⟩ | ⟨-, -, hconst⟩
  · exact .kept halike
  · exact .named hself (exchanged_kind hbody).1
      (fieldText?_eq (exchanged_child?_of_ne hbody (by decide)))
  · exact .traced hself hconst

theorem redeclared_of_inStep {d d' : Node} {exported : Export}
    (hkind : d.kind = .lexicalDeclaration) (hconst : d.hasToken "const" = true)
    (h : (sameLabel d d' && inStep (r.declaratorReread exported) d.children d'.children) = true) :
    Redeclared r d d' := by
  obtain ⟨hlabel, hstep⟩ := Bool.and_eq_true_iff.mp h
  have hkind' : d'.kind = .lexicalDeclaration := (sameLabel_iff.mp hlabel).1 ▸ hkind
  have hchildren := inStep_iff.mp hstep
  have hconst' : d'.hasToken "const" = true := by
    rw [← hconst]
    refine (forall₂_any ?_ hchildren).symm
    intro c c' hcc
    rw [declaratorReread_kind hcc]
  have hnames : d.significant.flatMap (Binding.declaratorNames r.before) =
      d'.significant.flatMap (Binding.declaratorNames r.after) := by
    refine forall₂_flatMap ?_
      (forall₂_significant (fun _ _ hcc => declaratorReread_kind hcc) hchildren)
    intro v v' hv
    exact declaratorNames_of_name (declaratorReread_kind hv) (declaratorReread_name hv)
  refine .constants hkind hkind' hconst hconst' ?_
  simp only [Binding.declaredNames, hkind, hkind', hnames]

theorem redeclared_of_declarationReread {d d' : Node} {exported : Export} {whole : Node → Span}
    (h : r.declarationReread exported whole d d' = true) : Redeclared r d d' := by
  simp only [declarationReread] at h
  split at h
  · rename_i hkind
    exact redeclared_of_functionReread (by simp [Node.namesItself, hkind]) h
  · rename_i hkind
    exact redeclared_of_functionReread (by simp [Node.namesItself, hkind]) h
  · rename_i hkind
    split at h
    · rename_i hconst
      exact redeclared_of_inStep hkind hconst h
    · exact .kept h
  · rename_i hkind
    exact redeclared_of_classReread (by simp [Node.namesItself, hkind]) h
  · rename_i hkind
    exact redeclared_of_classReread (by simp [Node.namesItself, hkind]) h
  · exact .kept h

end declarations

/-- What becomes of a top-level statement that stays one statement. -/
inductive Restated (r : Rereading) : Node → Node → Prop
  | declaration {stmt stmt' : Node} (hkind : stmt.kind ≠ .exportStatement)
      (hkind' : stmt'.kind ≠ .exportStatement) (h : Redeclared r stmt stmt') : Restated r stmt stmt'
  | exported {stmt stmt' n n' : Node} (hkind : stmt.kind = .exportStatement)
      (hkind' : stmt'.kind = .exportStatement)
      (hdefault : stmt.hasToken "default" = stmt'.hasToken "default")
      (hn : stmt.exported? = some n) (hn' : stmt'.exported? = some n') (h : Redeclared r n n') :
      Restated r stmt stmt'
  /-- An export that neither declares something nor has a value, such as a list of names. -/
  | listed {stmt stmt' : Node} (hkind : stmt.kind = .exportStatement)
      (hkind' : stmt'.kind = .exportStatement) (hn : stmt.exported? = none)
      (hn' : stmt'.exported? = none) (h : r.alike stmt stmt' = true) : Restated r stmt stmt'

section statements

theorem not_token_of_namesItself {n : Node} (h : n.namesItself = true) (text : String) :
    n.kind ≠ .token text := by
  intro hkind
  simp [Node.namesItself, hkind] at h

theorem Redeclared.token_iff {n n' : Node} (h : Redeclared r n n') (text : String) :
    n.kind = .token text ↔ n'.kind = .token text := by
  cases h with
  | kept h => rw [alike_kind h]
  | named _ hkind _ => rw [hkind]
  | traced hself h => simp [not_token_of_namesItself hself text, isTracedConst_kind h]
  | constants hkind hkind' _ _ _ => simp [hkind, hkind']
  | members hkind hkind' => simp [hkind, hkind']

theorem exported?_of_alike {stmt stmt' : Node} (h : r.alike stmt stmt' = true) :
    Option.Rel (fun c c' => r.alike c c' = true) stmt.exported? stmt'.exported? := by
  rw [Node.exported?, Node.exported?]
  rcases option_rel_cases (alike_child? h .declaration) with
    ⟨hd, hd'⟩ | ⟨d, d', hd, hd', halike⟩
  · rw [hd, hd', Option.none_or, Option.none_or]
    exact alike_child? h .value
  · rw [hd, hd', Option.some_or, Option.some_or]
    exact .some halike

theorem restated_of_alike {stmt stmt' : Node} (hkind : stmt.kind = .exportStatement)
    (h : r.alike stmt stmt' = true) : Restated r stmt stmt' := by
  have hkind' : stmt'.kind = .exportStatement := alike_kind h ▸ hkind
  rcases option_rel_cases (exported?_of_alike h) with ⟨hn, hn'⟩ | ⟨n, n', hn, hn', halike⟩
  · exact .listed hkind hkind' hn hn' h
  · exact .exported hkind hkind' (alike_hasToken h "default") hn hn' (.kept halike)

theorem default_of_exchanged {R : Node → Node → Bool} {f : Field} {stmt stmt' n : Node}
    (hn : stmt.child? f = some n) (hR : ∀ n', R n n' = true → Redeclared r n n')
    (h : r.exchanged f R stmt stmt' = true) :
    stmt.hasToken "default" = stmt'.hasToken "default" ∧
      ∃ n', stmt'.child? f = some n' ∧ Redeclared r n n' := by
  constructor
  · refine exchanged_hasToken (exchanged_imp (S := fun c c' =>
      decide (c.kind = .token "default" ↔ c'.kind = .token "default")) h ?_) ?_
    · intro c c' hc hcc
      obtain rfl : n = c := Option.some.inj (hn.symm.trans hc)
      exact decide_eq_true ((hR c' hcc).token_iff "default")
    · exact fun c c' => of_decide_eq_true
  · obtain ⟨c, n', hc, hn', hcc⟩ := exchanged_child? h
    obtain rfl : n = c := Option.some.inj (hn.symm.trans hc)
    exact ⟨n', hn', hR n' hcc⟩

theorem restated_of_declaration {R : Node → Node → Bool} {stmt stmt' d : Node}
    (hkind : stmt.kind = .exportStatement) (hd : stmt.child? .declaration = some d)
    (hR : ∀ d', R d d' = true → Redeclared r d d')
    (h : r.exchanged .declaration R stmt stmt' = true) : Restated r stmt stmt' := by
  obtain ⟨hdefault, d', hd', hdd⟩ := default_of_exchanged hd hR h
  exact .exported hkind ((exchanged_kind h).1 ▸ hkind) hdefault (Node.exported?_of_declaration hd)
    (Node.exported?_of_declaration hd') hdd

theorem restated_of_value {R : Node → Node → Bool} {stmt stmt' value : Node}
    (hkind : stmt.kind = .exportStatement) (hd : stmt.child? .declaration = none)
    (hvalue : stmt.child? .value = some value)
    (hR : ∀ value', R value value' = true → Redeclared r value value')
    (h : r.exchanged .value R stmt stmt' = true) : Restated r stmt stmt' := by
  obtain ⟨hdefault, value', hvalue', hvv⟩ := default_of_exchanged hvalue hR h
  have hd' : stmt'.child? .declaration = none := by
    rcases option_rel_cases (exchanged_child?_of_ne h (g := .declaration) (by decide)) with
      ⟨-, hnone⟩ | ⟨e, -, he, -⟩
    · exact hnone
    · simp [hd] at he
  exact .exported hkind ((exchanged_kind h).1 ▸ hkind) hdefault (Node.exported?_of_value hd hvalue)
    (Node.exported?_of_value hd' hvalue') hvv

theorem restated_of_exportReread {stmt stmt' : Node} (hkind : stmt.kind = .exportStatement)
    (h : r.exportReread stmt stmt' = true) : Restated r stmt stmt' := by
  simp only [exportReread] at h
  split at h
  · rename_i d hd
    exact restated_of_declaration hkind hd (fun _ => redeclared_of_declarationReread) h
  · rename_i hd
    split at h
    · split at h
      · rename_i value hvalue
        split at h
        · rename_i hfun
          have hself := Node.namesItself_of_isFunctionExpression hfun
          exact restated_of_value hkind hd hvalue
            (fun _ => redeclared_of_functionReread hself) h
        · split at h
          · rename_i hclass
            exact restated_of_value hkind hd hvalue
              (fun _ => redeclared_of_classReread (by simp [Node.namesItself, hclass])) h
          · split at h
            · rename_i hobject
              refine restated_of_value hkind hd hvalue ?_ h
              intro value' hmembers
              have hlabel := sameLabel_iff.mp (Bool.and_eq_true_iff.mp hmembers).1
              exact .members hobject (hlabel.1 ▸ hobject)
            · exact restated_of_alike hkind h
      · exact restated_of_alike hkind h
    · exact restated_of_alike hkind h

theorem restated_of_statementReread {stmt stmt' : Node} (h : r.statementReread stmt stmt' = true) :
    Restated r stmt stmt' := by
  simp only [statementReread] at h
  split at h
  · rename_i hkind
    exact restated_of_exportReread hkind h
  · rename_i hkind
    refine .declaration hkind ?_ (redeclared_of_declarationReread h)
    rcases declarationReread_kind h with hsame | ⟨-, hlexical⟩
    · exact hsame ▸ hkind
    · simp [hlexical]

end statements

section names

theorem declaredNames_of_isTracedConst {name : Option Text} {n : Node}
    (h : r.isTracedConst name n = true) :
    n.hasToken "const" = true ∧ Binding.declaredNames r.after n = name.toList := by
  simp only [isTracedConst, Bool.and_eq_true, decide_eq_true_eq] at h
  obtain ⟨⟨hkind, hconst⟩, h⟩ := h
  refine ⟨hconst, ?_⟩
  split at h
  · rename_i v hv
    simp only [Bool.and_eq_true, decide_eq_true_eq, Option.any_eq_true] at h
    obtain ⟨⟨hdeclarator, b, hb, hidentifier, rfl⟩, -⟩ := h
    have hnames : Binding.patternNames r.after b = [r.after.textOf b] := by
      cases b with
      | mk k f s cs =>
          obtain rfl : k = .identifier := hidentifier
          rw [Binding.patternNames]
    simp [Binding.declaredNames, Binding.declaratorNames, hkind, hv, hdeclarator, hb, hnames]
  · simp at h

theorem Redeclared.declaredNames {n n' : Node} (h : Redeclared r n n') :
    Binding.declaredNames r.before n = Binding.declaredNames r.after n' := by
  cases h with
  | kept h => exact declaredNames_of_alike h
  | named hself hkind hname =>
      have hself' : n'.namesItself = true := by
        rwa [Node.namesItself, ← hkind]
      rw [Binding.declaredNames_of_namesItself _ hself,
        Binding.declaredNames_of_namesItself _ hself', hname]
  | traced hself h =>
      rw [Binding.declaredNames_of_namesItself _ hself, (declaredNames_of_isTracedConst h).2]
  | constants _ _ _ _ h => exact h
  | members hkind hkind' => simp [Binding.declaredNames, hkind, hkind']

theorem Restated.statementNames {stmt stmt' : Node} (h : Restated r stmt stmt') :
    Binding.statementNames r.before stmt = Binding.statementNames r.after stmt' := by
  rw [Binding.statementNames, Binding.statementNames]
  cases h with
  | declaration hkind hkind' h => rw [if_neg hkind, if_neg hkind', h.declaredNames]
  | exported hkind hkind' _ hn hn' h =>
      simp only [hkind, hkind', ↓reduceIte, hn, hn', Option.toList_some, List.flatMap_singleton,
        h.declaredNames]
  | listed hkind hkind' hn hn' _ =>
      rw [if_pos hkind, if_pos hkind', hn, hn']
      rfl

theorem of_wholeExport?_eq_some {stmt : Node} {v : Visit} (h : r.wholeExport? stmt = some v) :
    stmt.kind = .exportStatement ∧ stmt.hasToken "default" = true ∧
      ∃ f, stmt.exported? = some f ∧ f.namesItself = true ∧
        v.target.name = r.before.fieldText? f .name := by
  simp only [wholeExport?] at h
  split at h
  · rename_i w hvisit
    split at h
    · rename_i hcond
      obtain rfl := Option.some.inj h
      simp only [Bool.and_eq_true, decide_eq_true_eq] at hcond
      exact Survey.of_mem_visitStatement (s := r.first) (by simp [hvisit]) hcond.1.1
    · simp at h
  · simp at h

theorem of_isDefaultExport {name : Option Text} {n : Node} (h : r.isDefaultExport name n = true) :
    n.kind = .exportStatement ∧ n.hasToken "default" = true ∧
      ∃ value, n.exported? = some value ∧ value.kind = .identifier ∧
        some (r.after.textOf value) = name := by
  simp only [isDefaultExport, Bool.and_eq_true, decide_eq_true_eq, Option.isNone_iff_eq_none,
    Option.any_eq_true] at h
  obtain ⟨⟨⟨hkind, hdefault⟩, hd⟩, value, hvalue, hidentifier, hname⟩ := h
  exact ⟨hkind, hdefault, value, Node.exported?_of_value hd hvalue, hidentifier, hname⟩

theorem statementNames_of_wholeExport? {stmt m m' : Node} {v : Visit}
    (hwhole : r.wholeExport? stmt = some v) (hconst : r.isTracedConst v.target.name m = true)
    (hexport : r.isDefaultExport v.target.name m' = true) :
    Binding.statementNames r.before stmt =
      Binding.statementNames r.after m ++ Binding.statementNames r.after m' := by
  obtain ⟨hkind, -, f, hf, hself, hname⟩ := of_wholeExport?_eq_some hwhole
  obtain ⟨hkind', -, value, hvalue, hidentifier, -⟩ := of_isDefaultExport hexport
  have hm : m.kind ≠ .exportStatement := by simp [isTracedConst_kind hconst]
  have hnone : Binding.declaredNames r.after value = [] := by
    simp [Binding.declaredNames, hidentifier]
  simp only [Binding.statementNames, hkind, hkind', hm, hf, hvalue, ↓reduceIte, Option.toList_some,
    List.flatMap_singleton, hnone, List.append_nil]
  rw [Binding.declaredNames_of_namesItself _ hself, (declaredNames_of_isTracedConst hconst).2,
    hname]

/-- The second file binds what the first one binds, and the entry point once more if it is
imported. -/
theorem count_names {imported : Bool} (h : r.isRewovenWith imported = true) :
    (Binding.names r.after).count r.entry =
      (Binding.names r.before).count r.entry + if imported then 1 else 0 := by
  obtain ⟨front, back, added, hbefore, hafter, hadded⟩ := extends_flatMap
    (fun _ _ _ hstmt => (restated_of_statementReread hstmt).statementNames)
    (fun _ _ _ _ => statementNames_of_wholeExport?) h
  rw [Binding.names, Binding.names, hbefore, hafter]
  split at hadded
  · rename_i himported
    obtain ⟨m, hbrings, rfl⟩ := hadded
    rw [statementNames_of_bringsIn hbrings, if_pos himported]
    simp only [List.count_append, List.count_singleton_self]
    omega
  · rename_i himported
    rw [hadded, if_neg himported, List.nil_append, Nat.add_zero]

end names

end Rereading

end SpanWeave
