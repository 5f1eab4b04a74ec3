import SpanWeave.Proofs.Binding
import SpanWeave.Proofs.Weave.Rereading

namespace SpanWeave

open Syntax

namespace Syntax.Node

/-- The only child that is neither a mark nor a comment. -/
def only? (n : Node) : Option Node :=
  match n.significant with
  | [c] => some c
  | _ => none

theorem significant_of_only? {n c : Node} (h : n.only? = some c) : n.significant = [c] := by
  simp only [only?] at h
  split at h
  · rename_i hone
    rw [hone, Option.some.inj h]
  · simp at h

end Syntax.Node

namespace Rereading

variable (r : Rereading)

/-- A list of names in which the entry point is imported under its own name and alone. -/
def listsEntry (part : Node) : Bool :=
  decide (part.kind = .namedImports) &&
    part.only?.any fun spec =>
      decide (spec.kind = .importSpecifier) && !spec.typeOnly && (spec.child? .localName).isNone &&
        (spec.child? .name).any fun n => decide (r.after.textOf n = r.entry)

/-- An object pattern whose only member is the entry point. -/
def unpacksEntry (b : Node) : Bool :=
  decide (b.kind = .objectPattern) &&
    b.only?.any fun p =>
      decide (p.kind = .shorthandPropertyIdentifierPattern ∧ r.after.textOf p = r.entry)

/-- The evident tree of the statement that imports the entry point in either style. -/
def bringsIn (n : Node) : Bool :=
  match n.kind with
  | .importStatement =>
      !n.typeOnly &&
        match n.significant with
        | [clause, source] =>
            decide (clause.kind = .importClause ∧ source.kind = .string) &&
              clause.only?.any r.listsEntry
        | _ => false
  | .lexicalDeclaration =>
      n.hasToken "const" &&
        n.only?.any fun v =>
          decide (v.kind = .variableDeclarator) && (v.child? .name).any r.unpacksEntry
  | _ => false

/-- The top-level statements in order. A default export may have become a constant and the export
of its name, and one statement more brings in the entry point if it is `imported`. -/
def statementsRewoven : (imported : Bool) → List Node → List Node → Bool
  | imported, [], [] => !imported
  | _, _ :: _, [] => false
  | imported, [], m :: ms => imported && r.bringsIn m && statementsRewoven false [] ms
  | imported, n :: ns, m :: ms =>
      (imported && r.bringsIn m && statementsRewoven false (n :: ns) ms) ||
        match r.wholeExport? n, ms with
        | none, ms => r.statementReread n m && statementsRewoven imported ns ms
        | some _, [] => false
        | some v, m' :: ms =>
            r.isTracedConst v.target.name m && r.isDefaultExport v.target.name m' &&
              statementsRewoven imported ns ms

/-- The second file reads as the first one with every wrapped function replaced and, if the entry
point is `imported`, with the statement that does so. -/
def isRewovenWith (imported : Bool) : Bool :=
  r.statementsRewoven imported r.before.root.significant r.after.root.significant

variable {r}

section contributions
variable {α : Type} {V V' : Node → List α}

/-- One list is another with the contribution of the import put in at one place, or the same if
nothing is `imported`. -/
def Extends (r : Rereading) (V' : Node → List α) (imported : Bool) (xs xs' : List α) : Prop :=
  ∃ front back added, xs = front ++ back ∧ xs' = front ++ (added ++ back) ∧
    if imported then ∃ m, r.bringsIn m = true ∧ added = V' m else added = []

theorem extends_false_iff {xs xs' : List α} : Extends r V' false xs xs' ↔ xs' = xs := by
  constructor
  · rintro ⟨front, back, added, rfl, rfl, hadded⟩
    obtain rfl : added = [] := by simpa using hadded
    rfl
  · rintro rfl
    exact ⟨[], xs', [], rfl, rfl, by simp⟩

theorem Extends.append {imported : Bool} {xs xs' : List α} (h : Extends r V' imported xs xs')
    (ys : List α) : Extends r V' imported (ys ++ xs) (ys ++ xs') := by
  obtain ⟨front, back, added, rfl, rfl, hadded⟩ := h
  exact ⟨ys ++ front, back, added, by simp, by simp, hadded⟩

theorem extends_true {m : Node} (hm : r.bringsIn m = true) (xs : List α) :
    Extends r V' true xs (V' m ++ xs) :=
  ⟨[], xs, V' m, rfl, rfl, by simpa using ⟨m, hm, rfl⟩⟩

/-- If each statement contributes what it contributed before, then so does the whole file, but for
the contribution of the import. -/
theorem extends_flatMap
    (hstatement : ∀ n m, r.wholeExport? n = none → r.statementReread n m = true → V n = V' m)
    (hwhole : ∀ n v m m', r.wholeExport? n = some v → r.isTracedConst v.target.name m = true →
      r.isDefaultExport v.target.name m' = true → V n = V' m ++ V' m')
    {imported : Bool} {ns ms : List Node} (h : r.statementsRewoven imported ns ms = true) :
    Extends r V' imported (ns.flatMap V) (ms.flatMap V') := by
  -- behind the import both lists contribute the same
  have himport {imported : Bool} {m : Node} {xs : List α} {ms : List Node}
      (hm : (imported && r.bringsIn m) = true) (hrest : Extends r V' false xs (ms.flatMap V')) :
      Extends r V' imported xs ((m :: ms).flatMap V') := by
    obtain ⟨rfl, hm⟩ := Bool.and_eq_true_iff.mp hm
    rw [List.flatMap_cons, extends_false_iff.mp hrest]
    exact extends_true hm xs
  fun_induction statementsRewoven r imported ns ms with
  | case1 imported =>
      obtain rfl : imported = false := by simpa using h
      exact extends_false_iff.mpr rfl
  | case2 => simp at h
  | case3 imported m ms ih =>
      obtain ⟨hm, hrest⟩ := Bool.and_eq_true_iff.mp h
      exact himport hm (ih hrest)
  | case4 imported n ns m ms ihImport ih =>
      rcases Bool.or_eq_true_iff.mp h with h | h
      · obtain ⟨hm, hrest⟩ := Bool.and_eq_true_iff.mp h
        exact himport hm (ihImport hrest)
      · cases hexport : r.wholeExport? n with
        | none =>
            simp only [hexport] at h ih
            obtain ⟨hstmt, hrest⟩ := Bool.and_eq_true_iff.mp h
            rw [List.flatMap_cons, List.flatMap_cons, hstatement n m hexport hstmt]
            exact (ih hrest).append (V' m)
        | some v =>
            cases ms with
            | nil => simp [hexport] at h
            | cons m' ms =>
                simp only [hexport] at h ih
                obtain ⟨hpair, hrest⟩ := Bool.and_eq_true_iff.mp h
                obtain ⟨hconst, hdefault⟩ := Bool.and_eq_true_iff.mp hpair
                rw [List.flatMap_cons, List.flatMap_cons, List.flatMap_cons,
                  hwhole n v m m' hexport hconst hdefault, ← List.append_assoc]
                exact (ih hrest).append (V' m ++ V' m')

theorem flatMap_eq
    (hstatement : ∀ n m, r.wholeExport? n = none → r.statementReread n m = true → V n = V' m)
    (hwhole : ∀ n v m m', r.wholeExport? n = some v → r.isTracedConst v.target.name m = true →
      r.isDefaultExport v.target.name m' = true → V n = V' m ++ V' m')
    (himport : ∀ m, r.bringsIn m = true → V' m = [])
    {imported : Bool} (h : r.isRewovenWith imported = true) :
    r.after.root.significant.flatMap V' = r.before.root.significant.flatMap V := by
  obtain ⟨front, back, added, hbefore, hafter, hadded⟩ := extends_flatMap hstatement hwhole h
  have hnone : added = [] := by
    split at hadded
    · obtain ⟨m, hm, rfl⟩ := hadded
      exact himport m hm
    · exact hadded
  rw [hbefore, hafter, hnone, List.nil_append]

end contributions

theorem statementNames_of_bringsIn {m : Node} (h : r.bringsIn m = true) :
    Binding.statementNames r.after m = [r.entry] := by
  simp only [bringsIn] at h
  split at h
  · rename_i hkind
    rw [Bool.and_eq_true, Bool.not_eq_true'] at h
    obtain ⟨htype, h⟩ := h
    split at h
    · rename_i clause source hsignificant
      simp only [listsEntry, Bool.and_eq_true, Bool.not_eq_true', decide_eq_true_eq,
        Option.any_eq_true, Option.isNone_iff_eq_none] at h
      obtain ⟨⟨hclause, hsource⟩, part, hpart, hlist, spec, hspec, ⟨⟨hspecifier, hvalue⟩, hlocal⟩,
        name, hname, htext⟩ := h
      simp [Binding.statementNames, Binding.declaredNames, Binding.clauseNames, Binding.partNames,
        Binding.specifierNames, Binding.localName, hkind, htype, hsignificant, hclause, hsource,
        Node.significant_of_only? hpart, hlist, Node.significant_of_only? hspec, hspecifier, hvalue,
        hlocal, hname, htext]
    · simp at h
  · rename_i hkind
    simp only [unpacksEntry, Bool.and_eq_true, decide_eq_true_eq, Option.any_eq_true] at h
    obtain ⟨-, v, hv, hdeclarator, b, hb, hpattern, p, hp, hmember, htext⟩ := h
    have hnames : Binding.patternNames r.after b = [r.entry] := by
      cases b with
      | mk k f s cs =>
          obtain rfl : k = .objectPattern := hpattern
          have hin := Binding.patternNamesIn_children r.after (.mk .objectPattern f s cs)
          rw [Node.significant_of_only? hp, List.flatMap_singleton] at hin
          cases p with
          | mk k' f' s' cs' =>
              obtain rfl : k' = .shorthandPropertyIdentifierPattern := hmember
              rw [Binding.patternNames]
              exact hin.trans (congrArg (fun t => [t]) htext)
    simp [Binding.statementNames, Binding.declaredNames, Binding.declaratorNames, hkind,
      Node.significant_of_only? hv, hdeclarator, hb, hnames]
  · simp at h

end Rereading

end SpanWeave
