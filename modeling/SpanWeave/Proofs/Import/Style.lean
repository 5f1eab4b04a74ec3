import SpanWeave.Proofs.Weave.Conflict

/-!
Which style the statements of a file show. The answer does not depend on the order of the statements.
It is compared with the rule that a file is of the older style when it has no `import` and no
`export` and requires a module or assigns to its exports: the two agree except where a file has such
a statement that is not seen, or has only one that begins as if it were such.
-/

namespace SpanWeave.ImportSite

open Syntax Text

/-- An `import` or an `export`. -/
def isModuleStatement (stmt : Node) : Bool :=
  stmt.kind = .importStatement || stmt.kind = .exportStatement

/-- The statement is taken for one of the older style. -/
def shows (d : Document) (stmt : Node) : Bool :=
  match stmt.kind with
  | .lexicalDeclaration | .variableDeclaration => requires d stmt
  | .expressionStatement =>
      startsWith (d.textOf stmt) "module.exports".toList ||
        startsWith (d.textOf stmt) "exports.".toList
  | _ => false

/-- `module.exports`, a member of `exports`, or a member of one of these. -/
inductive IsExports (d : Document) : Node → Prop
  | whole {n o p : Node} (hn : n.kind = .memberExpression) (hparts : n.significant = [o, p])
      (ho : d.textOf o = "module".toList) (hp : d.textOf p = "exports".toList) : IsExports d n
  | entry {n o : Node} (hn : n.kind = .memberExpression ∨ n.kind = .subscriptExpression)
      (hhead : n.significant.head? = some o) (ho : o.kind = .identifier)
      (htext : d.textOf o = "exports".toList) : IsExports d n
  | inside {n o : Node} (hn : n.kind = .memberExpression ∨ n.kind = .subscriptExpression)
      (hhead : n.significant.head? = some o) (ho : IsExports d o) : IsExports d n

/-- An assignment to the exports, or one whose value is such an assignment. -/
inductive AssignsExports (d : Document) : Node → Prop
  | target {e t : Node}
      (he : e.kind = .assignmentExpression ∨ e.kind = .augmentedAssignmentExpression)
      (hhead : e.significant.head? = some t) (ht : IsExports d t) : AssignsExports d e
  | chained {e v : Node} (he : e.kind = .assignmentExpression)
      (hlast : e.significant.getLast? = some v) (hv : AssignsExports d v) : AssignsExports d e

/-- The statement requires a module, by itself or anywhere in what a variable starts out as, or
assigns to the exports. -/
def UsesOlderStyle (d : Document) (stmt : Node) : Prop :=
  match stmt.kind with
  | .expressionStatement =>
      ∃ e, stmt.significant.head? = some e ∧
        ((Binding.requireSource? d e).isSome = true ∨ AssignsExports d e)
  | .lexicalDeclaration | .variableDeclaration =>
      ∃ v ∈ stmt.significant, ∃ e, v.child? .value = some e ∧
        ((∃ n, n.Under e ∧ (Binding.requireSource? d n).isSome = true) ∨ AssignsExports d e)
  | _ => False

/-- No statement is an `import` or an `export`, and one requires a module or assigns to the
exports. -/
def IsOlderStyle (d : Document) : Prop :=
  (∀ s ∈ d.root.significant, isModuleStatement s = false) ∧
    ∃ s ∈ d.root.significant, UsesOlderStyle d s

/-- The walk over the statements stops at the first `import` or `export`, and what it has seen before
does not matter then. -/
theorem styleOf_eq (d : Document) (stmts : List Node) (required : Bool) :
    styleOf d stmts required =
      if stmts.any isModuleStatement then .esm
      else if required || stmts.any (shows d) then .commonJs else .esm := by
  induction stmts generalizing required with
  | nil => simp [styleOf]
  | cons stmt rest ih =>
      rw [styleOf, List.any_cons, List.any_cons, isModuleStatement, shows]
      split
      · rename_i hkind
        simp [hkind]
      · rename_i hkind
        simp [hkind]
      · rename_i hkind
        simp [ih, hkind, Bool.or_assoc]
      · rename_i hkind
        simp [ih, hkind, Bool.or_assoc]
      · rename_i hkind
        simp [ih, hkind, Bool.or_assoc]
      · rename_i himport hexport _ _ _
        have hmodule : ¬(stmt.kind = .importStatement ∨ stmt.kind = .exportStatement) :=
          not_or.mpr ⟨himport, hexport⟩
        simp [ih, hmodule]

section

variable {d : Document} {path : Text}
  (hpath : ∀ e ∈ ["cjs", "cts", "mjs", "mts"], Path.extension? path ≠ some e.toList)

include hpath

theorem resolveStyle_auto :
    resolveStyle d path .auto = styleOf d d.root.significant false := by
  simp only [List.forall_mem_cons] at hpath
  obtain ⟨hcjs, hcts, hmjs, hmts, -⟩ := hpath
  simp only [resolveStyle, hcjs, hcts, hmjs, hmts, decide_false, Bool.or_false,
    Bool.false_eq_true, ↓reduceIte]

theorem resolveStyle_auto_eq_commonJs_iff :
    resolveStyle d path .auto = .commonJs ↔
      (∀ s ∈ d.root.significant, isModuleStatement s = false) ∧
        ∃ s ∈ d.root.significant, shows d s = true := by
  rw [resolveStyle_auto hpath, styleOf_eq]
  split
  · rename_i hmodule
    obtain ⟨s, hs, hmodule⟩ := List.any_eq_true.mp hmodule
    simp only [reduceCtorEq, false_iff]
    rintro ⟨hnone, -⟩
    simp [hnone s hs] at hmodule
  · rename_i hmodule
    have hnone : ∀ s ∈ d.root.significant, isModuleStatement s = false := by
      simpa using hmodule
    simp only [Bool.false_or, and_iff_right hnone]
    split
    · rename_i hany
      simpa using hany
    · rename_i hany
      simpa using hany

theorem resolveStyle_auto_eq_esm_iff :
    resolveStyle d path .auto = .esm ↔ resolveStyle d path .auto ≠ .commonJs := by
  rw [resolveStyle_auto hpath, styleOf_eq]
  split <;> simp

end

/-- The text of the statement begins as that of an assignment to the exports does. -/
def opensWithExports (d : Document) (stmt : Node) : Bool :=
  startsWith (d.textOf stmt) "module.exports".toList ||
    startsWith (d.textOf stmt) "exports.".toList

/-- The statement is of the older style and not seen: an expression that requires a module or assigns
to the exports under other first words, or a declaration that does one of the two inside its values
while no value of it is itself a call of `require`. -/
inductive Missed (d : Document) (stmt : Node) : Prop
  | expression {e : Node} (hkind : stmt.kind = .expressionStatement)
      (hhead : stmt.significant.head? = some e)
      (huse : (Binding.requireSource? d e).isSome = true ∨ AssignsExports d e)
      (hopens : opensWithExports d stmt = false) : Missed d stmt
  | declaration {v e : Node}
      (hkind : stmt.kind = .lexicalDeclaration ∨ stmt.kind = .variableDeclaration)
      (hv : v ∈ stmt.significant) (he : v.child? .value = some e)
      (huse : (∃ n, n.Under e ∧ (Binding.requireSource? d n).isSome = true) ∨ AssignsExports d e)
      (hvalues : ∀ v ∈ stmt.significant, ∀ e, v.child? .value = some e →
        Binding.requireSource? d e = none) : Missed d stmt

/-- The statement is an expression that begins as an assignment to the exports does, and neither is
one nor requires a module. -/
structure Mistaken (d : Document) (stmt : Node) : Prop where
  kind : stmt.kind = .expressionStatement
  opens : opensWithExports d stmt = true
  unused : ∀ e, stmt.significant.head? = some e →
    Binding.requireSource? d e = none ∧ ¬AssignsExports d e

theorem requires_eq_false_iff {d : Document} {stmt : Node} :
    requires d stmt = false ↔ ∀ v ∈ stmt.significant, ∀ e, v.child? .value = some e →
      Binding.requireSource? d e = none := by
  simp only [requires, List.any_eq_false, Option.any_eq_true, Option.isSome_iff_ne_none, ne_eq,
    not_exists, not_and, not_not]

section

variable {d : Document} {stmt : Node}

theorem shows_of_expression (h : stmt.kind = .expressionStatement) :
    shows d stmt = opensWithExports d stmt := by
  rw [shows, h]
  rfl

theorem shows_of_declaration
    (h : stmt.kind = .lexicalDeclaration ∨ stmt.kind = .variableDeclaration) :
    shows d stmt = requires d stmt := by
  obtain h | h := h <;> rw [shows, h]

theorem usesOlderStyle_of_expression (h : stmt.kind = .expressionStatement) :
    UsesOlderStyle d stmt ↔ ∃ e, stmt.significant.head? = some e ∧
      ((Binding.requireSource? d e).isSome = true ∨ AssignsExports d e) := by
  rw [UsesOlderStyle, h]

theorem usesOlderStyle_of_declaration
    (h : stmt.kind = .lexicalDeclaration ∨ stmt.kind = .variableDeclaration) :
    UsesOlderStyle d stmt ↔ ∃ v ∈ stmt.significant, ∃ e, v.child? .value = some e ∧
      ((∃ n, n.Under e ∧ (Binding.requireSource? d n).isSome = true) ∨ AssignsExports d e) := by
  obtain h | h := h <;> rw [UsesOlderStyle, h]

theorem kind_of_shows (h : shows d stmt = true) : stmt.kind = .expressionStatement ∨
    stmt.kind = .lexicalDeclaration ∨ stmt.kind = .variableDeclaration := by
  rw [shows] at h
  split at h <;> simp_all

theorem kind_of_usesOlderStyle (h : UsesOlderStyle d stmt) : stmt.kind = .expressionStatement ∨
    stmt.kind = .lexicalDeclaration ∨ stmt.kind = .variableDeclaration := by
  rw [UsesOlderStyle] at h
  split at h <;> simp_all

theorem missed_iff : UsesOlderStyle d stmt ∧ shows d stmt = false ↔ Missed d stmt := by
  constructor
  · rintro ⟨huses, hshows⟩
    obtain hkind | hkind := kind_of_usesOlderStyle huses
    · obtain ⟨e, hhead, huse⟩ := (usesOlderStyle_of_expression hkind).mp huses
      rw [shows_of_expression hkind] at hshows
      exact .expression hkind hhead huse hshows
    · obtain ⟨v, hv, e, he, huse⟩ := (usesOlderStyle_of_declaration hkind).mp huses
      rw [shows_of_declaration hkind, requires_eq_false_iff] at hshows
      exact .declaration hkind hv he huse hshows
  · intro h
    cases h with
    | expression hkind hhead huse hopens =>
        exact ⟨(usesOlderStyle_of_expression hkind).mpr ⟨_, hhead, huse⟩,
          (shows_of_expression hkind).trans hopens⟩
    | declaration hkind hv he huse hvalues =>
        exact ⟨(usesOlderStyle_of_declaration hkind).mpr ⟨_, hv, _, he, huse⟩,
          (shows_of_declaration hkind).trans (requires_eq_false_iff.mpr hvalues)⟩

theorem mistaken_iff : shows d stmt = true ∧ ¬UsesOlderStyle d stmt ↔ Mistaken d stmt := by
  constructor
  · rintro ⟨hshows, hunused⟩
    obtain hkind | hkind := kind_of_shows hshows
    · rw [usesOlderStyle_of_expression hkind] at hunused
      refine ⟨hkind, (shows_of_expression hkind).symm.trans hshows, ?_⟩
      intro e hhead
      obtain ⟨hcall, hassigns⟩ := not_or.mp fun huse => hunused ⟨e, hhead, huse⟩
      exact ⟨by simpa using hcall, hassigns⟩
    · -- A declaration that is seen requires a module, so it is never taken wrongly.
      rw [shows_of_declaration hkind] at hshows
      obtain ⟨v, hv, hvalue⟩ := List.any_eq_true.mp hshows
      obtain ⟨e, he, hsource⟩ := (Option.any_eq_true _ _).mp hvalue
      have hhere : ∃ n, n.Under e ∧ (Binding.requireSource? d n).isSome = true :=
        ⟨e, .root, hsource⟩
      exact absurd ((usesOlderStyle_of_declaration hkind).mpr ⟨v, hv, e, he, .inl hhere⟩) hunused
  · rintro ⟨hkind, hopens, hunused⟩
    refine ⟨(shows_of_expression hkind).trans hopens, ?_⟩
    rw [usesOlderStyle_of_expression hkind]
    rintro ⟨e, hhead, hcall | hassigns⟩
    · simp [(hunused e hhead).1] at hcall
    · exact (hunused e hhead).2 hassigns

end

/-- Where the extension of a file says nothing, the older style is chosen exactly if no statement is
an `import` or an `export` and one is taken for the older style; the order of the statements does not
matter. The rule `IsOlderStyle` says otherwise in two cases only: no statement is seen and one is
missed, or no statement is of the older style and one is mistaken for it. -/
theorem style_of_statements {d : Document} {path : Text}
    (hpath : ∀ e ∈ ["cjs", "cts", "mjs", "mts"], Path.extension? path ≠ some e.toList) :
    (resolveStyle d path .auto = .commonJs ↔
      (∀ s ∈ d.root.significant, isModuleStatement s = false) ∧
        ∃ s ∈ d.root.significant, shows d s = true) ∧
      (resolveStyle d path .auto ≠ .commonJs → resolveStyle d path .auto = .esm) ∧
      (∀ root : Node, root.significant.Perm d.root.significant →
        resolveStyle { d with root := root } path .auto = resolveStyle d path .auto) ∧
      (∀ s, (UsesOlderStyle d s ∧ shows d s = false ↔ Missed d s) ∧
        (shows d s = true ∧ ¬UsesOlderStyle d s ↔ Mistaken d s)) ∧
      (IsOlderStyle d ∧ resolveStyle d path .auto = .esm ↔
        (∀ s ∈ d.root.significant, isModuleStatement s = false ∧ shows d s = false) ∧
          ∃ s ∈ d.root.significant, Missed d s) ∧
      (resolveStyle d path .auto = .commonJs ∧ ¬IsOlderStyle d ↔
        (∀ s ∈ d.root.significant, isModuleStatement s = false ∧ ¬UsesOlderStyle d s) ∧
          ∃ s ∈ d.root.significant, Mistaken d s) := by
  have hstyle := @resolveStyle_auto_eq_commonJs_iff d path hpath
  have hesm := @resolveStyle_auto_eq_esm_iff d path hpath
  refine ⟨hstyle, hesm.mpr, ?_, fun s => ⟨missed_iff, mistaken_iff⟩, ?_, ?_⟩
  · intro root hroot
    have hshows : shows { d with root := root } = shows d := rfl
    rw [resolveStyle_auto hpath, resolveStyle_auto hpath, styleOf_eq, styleOf_eq, hshows,
      hroot.any_eq, hroot.any_eq]
  · rw [hesm, ne_eq, hstyle]
    constructor
    · rintro ⟨⟨hmodule, s, hs, huses⟩, hnot⟩
      have hshows : ∀ s ∈ d.root.significant, shows d s = false :=
        fun s hs => Bool.eq_false_iff.mpr fun h => hnot ⟨hmodule, s, hs, h⟩
      exact ⟨fun s hs => ⟨hmodule s hs, hshows s hs⟩, s, hs, missed_iff.mp ⟨huses, hshows s hs⟩⟩
    · rintro ⟨hall, s, hs, hmissed⟩
      refine ⟨⟨fun s hs => (hall s hs).1, s, hs, (missed_iff.mpr hmissed).1⟩, ?_⟩
      rintro ⟨-, t, ht, hshows⟩
      simp [(hall t ht).2] at hshows
  · rw [hstyle]
    constructor
    · rintro ⟨⟨hmodule, s, hs, hshows⟩, hnot⟩
      have hunused : ∀ s ∈ d.root.significant, ¬UsesOlderStyle d s :=
        fun s hs huses => hnot ⟨hmodule, s, hs, huses⟩
      exact ⟨fun s hs => ⟨hmodule s hs, hunused s hs⟩, s, hs,
        mistaken_iff.mp ⟨hshows, hunused s hs⟩⟩
    · rintro ⟨hall, s, hs, hmistaken⟩
      refine ⟨⟨fun s hs => (hall s hs).1, s, hs, (mistaken_iff.mpr hmistaken).1⟩, ?_⟩
      rintro ⟨-, t, ht, huses⟩
      exact (hall t ht).2 huses

def requiringFile : Text := "const fs = require('fs');\nrun();\n".toList

theorem style_of_requiringFile : ∃ d, Document.parse requiringFile .javaScript = .ok d ∧
    resolveStyle d "a.js".toList .auto = .commonJs ∧ IsOlderStyle d := by
  have hcheck : yields (Document.parse requiringFile .javaScript) (fun d =>
      decide (∃ s ∈ d.root.significant, shows d s = true ∧ s.kind ≠ .expressionStatement) &&
        d.root.significant.all fun s => !isModuleStatement s) = true := by
    decide +kernel
  obtain ⟨d, hd, h⟩ := exists_of_yields hcheck
  obtain ⟨hshows, hmodule⟩ := Bool.and_eq_true_iff.mp h
  obtain ⟨s, hs, hshows, hkind⟩ := of_decide_eq_true hshows
  obtain ⟨hstyle, -, -, hstatements, -, hmistaken⟩ :=
    @style_of_statements d "a.js".toList (by decide)
  have hcommon := hstyle.mpr ⟨by simpa using hmodule, s, hs, hshows⟩
  refine ⟨d, hd, hcommon, ?_⟩
  by_contra hnot
  -- A statement would be mistaken, and none be of the older style; but this declaration is seen.
  have huses := ((hmistaken.mp ⟨hcommon, hnot⟩).1 s hs).2
  exact hkind ((hstatements s).2.mp ⟨hshows, huses⟩).kind

/-- A file that requires a module for its effects alone. -/
def setupFile : Text := "require('./setup');\nfunction a() \x7b\x7d\n".toList

theorem esm_of_setupFile : ∃ d, Document.parse setupFile .javaScript = .ok d ∧
    (∀ e ∈ ["cjs", "cts", "mjs", "mts"], Path.extension? "a.js".toList ≠ some e.toList) ∧
      IsOlderStyle d ∧ resolveStyle d "a.js".toList .auto = .esm := by
  have hcheck : yields (Document.parse setupFile .javaScript) (fun d =>
      decide ((∀ s ∈ d.root.significant, isModuleStatement s = false) ∧
        (∃ s ∈ d.root.significant, s.kind = .expressionStatement ∧
          (s.significant.head?.any fun e => (Binding.requireSource? d e).isSome) = true) ∧
        resolveStyle d "a.js".toList .auto = .esm)) = true := by
    decide +kernel
  obtain ⟨d, hd, h⟩ := exists_of_yields hcheck
  obtain ⟨hmodule, ⟨s, hs, hkind, hcall⟩, hstyle⟩ := of_decide_eq_true h
  obtain ⟨e, he, hcall⟩ := (Option.any_eq_true _ _).mp hcall
  refine ⟨d, hd, by decide, ⟨hmodule, s, hs, ?_⟩, hstyle⟩
  rw [UsesOlderStyle, hkind]
  exact ⟨e, he, Or.inl hcall⟩

end SpanWeave.ImportSite
