import SpanWeave.Binding

namespace SpanWeave

open Syntax

namespace Syntax.Node

/-- What an export statement exports by declaring it or as its value. -/
def exported? (stmt : Node) : Option Node := (stmt.child? .declaration).or (stmt.child? .value)

theorem exported?_of_declaration {stmt d : Node} (h : stmt.child? .declaration = some d) :
    stmt.exported? = some d := by
  rw [exported?, h, Option.some_or]

theorem exported?_of_value {stmt value : Node} (hd : stmt.child? .declaration = none)
    (h : stmt.child? .value = some value) : stmt.exported? = some value := by
  rw [exported?, hd, Option.none_or, h]

/-- An import, or one of its names, that is there for types alone. -/
def typeOnly (n : Node) : Bool := n.hasToken "type" || n.hasToken "typeof"

end Syntax.Node

namespace Binding

mutual

/-- The names that a pattern binds. The keys of its members and default values bind none. -/
def patternNames (d : Document) : Node → List Text
  | .mk k f s cs =>
      match k with
      | .identifier | .shorthandPropertyIdentifierPattern => [d.textOf (.mk k f s cs)]
      | .objectPattern | .arrayPattern | .restPattern => patternNamesIn d cs
      | .pairPattern => valueNames d cs
      | .assignmentPattern | .objectAssignmentPattern => targetNames d cs
      | _ => []

def patternNamesIn (d : Document) : List Node → List Text
  | [] => []
  | c :: cs => patternNames d c ++ patternNamesIn d cs

/-- The names that the value of a member binds. -/
def valueNames (d : Document) : List Node → List Text
  | [] => []
  | c :: cs => if c.field = some .value then patternNames d c else valueNames d cs

/-- The names bound in front of a default value. -/
def targetNames (d : Document) : List Node → List Text
  | [] => []
  | c :: cs =>
      if c.kind.isNamed && c.kind ≠ .comment then patternNames d c else targetNames d cs

end

theorem patternNames_of_not_significant (d : Document) {n : Node}
    (h : n.kind.isNamed = false ∨ n.kind = .comment) : patternNames d n = [] := by
  cases n with
  | mk k f s cs =>
      rcases h with h | h
      · cases k with
        | token text => rfl
        | _ => cases h
      · cases h
        rfl

theorem patternNamesIn_children (d : Document) (n : Node) :
    patternNamesIn d n.children = n.significant.flatMap (patternNames d) := by
  simp only [Node.significant, Node.namedChildren]
  induction n.children with
  | nil => rfl
  | cons c cs ih =>
      rw [patternNamesIn, ih]
      by_cases hnamed : c.kind.isNamed = true
      · by_cases hcomment : c.kind = .comment
        · simp [hcomment, patternNames_of_not_significant d (Or.inr hcomment)]
        · simp [hnamed, hcomment]
      · have hfalse : c.kind.isNamed = false := by simpa using hnamed
        simp [hfalse, patternNames_of_not_significant d (Or.inl hfalse)]

/-- The name that stands first in a node. -/
def firstName (d : Document) (n : Node) : List Text := (n.significant.head?.map d.textOf).toList

/-- The name under which a listed name is known in the file. -/
def localName (d : Document) (spec : Node) : List Text :=
  (((spec.child? .localName).or (spec.child? .name)).map d.textOf).toList

def specifierNames (d : Document) (spec : Node) : List Text :=
  if spec.kind = .importSpecifier && !spec.typeOnly then localName d spec else []

def partNames (d : Document) (part : Node) : List Text :=
  match part.kind with
  | .identifier => [d.textOf part]
  | .namespaceImport => firstName d part
  | .namedImports => part.significant.flatMap (specifierNames d)
  | _ => []

/-- The names that a part of an import statement binds: those of its clause, or the one that a
required module is assigned to. -/
def clauseNames (d : Document) (clause : Node) : List Text :=
  match clause.kind with
  | .importClause => clause.significant.flatMap (partNames d)
  | .importRequireClause => firstName d clause
  | _ => []

def declaratorNames (d : Document) (v : Node) : List Text :=
  if v.kind = .variableDeclarator then (v.child? .name).toList.flatMap (patternNames d) else []

/-- The names that a declaration binds to values, those of imports included. A function or class
that is the value of a default export binds its name as well. -/
def declaredNames (d : Document) (n : Node) : List Text :=
  match n.kind with
  | .importStatement => if n.typeOnly then [] else n.significant.flatMap (clauseNames d)
  | .importAlias => firstName d n
  | .lexicalDeclaration | .variableDeclaration => n.significant.flatMap (declaratorNames d)
  | .functionDeclaration | .generatorFunctionDeclaration | .classDeclaration
  | .abstractClassDeclaration | .functionExpression | .generatorFunction | .arrowFunction
  | .classExpression => (d.fieldText? n .name).toList
  | _ => []

def statementNames (d : Document) (stmt : Node) : List Text :=
  if stmt.kind = .exportStatement then stmt.exported?.toList.flatMap (declaredNames d)
  else declaredNames d stmt

/-- All names that a file binds to values at its top level, in order and as often as they are bound.
What is only declared to exist elsewhere is not among them. -/
def names (d : Document) : List Text := d.root.significant.flatMap (statementNames d)

section search
variable (d : Document)

def searchedSpecifier (spec : Node) : List Text :=
  if spec.kind = .importSpecifier && !spec.hasToken "type" then localName d spec else []

def searchedPart (part : Node) : List Text :=
  match part.kind with
  | .identifier => [d.textOf part]
  | .namedImports => part.significant.flatMap (searchedSpecifier d)
  | _ => []

def searchedProperty (p : Node) : List Text :=
  match p.kind with
  | .shorthandPropertyIdentifierPattern => [d.textOf p]
  | .pairPattern => (d.fieldText? p .value).toList
  | _ => []

def searchedBinding (b : Node) : List Text :=
  match b.kind with
  | .identifier => [d.textOf b]
  | .objectPattern => b.significant.flatMap (searchedProperty d)
  | _ => []

def searchedDeclarator (v : Node) : List Text :=
  if v.kind = .variableDeclarator then (v.child? .name).toList.flatMap (searchedBinding d) else []

def searchedDeclared (n : Node) : List Text :=
  match n.kind with
  | .importStatement =>
      if n.hasToken "type" then []
      else
        (n.significant.find? fun c => c.kind = .importClause).toList.flatMap fun clause =>
          clause.significant.flatMap (searchedPart d)
  | .lexicalDeclaration | .variableDeclaration => n.significant.flatMap (searchedDeclarator d)
  | .functionDeclaration | .generatorFunctionDeclaration | .classDeclaration
  | .abstractClassDeclaration => (d.fieldText? n .name).toList
  | _ => []

def searchedStatement (stmt : Node) : List Text :=
  if stmt.kind = .exportStatement then
    (stmt.child? .declaration).toList.flatMap (searchedDeclared d)
  else searchedDeclared d stmt

/-- The names bound in a form that the search looks at: default imports and listed names,
variables, members of an object pattern that are written alone or renamed, functions and
classes. -/
def searchedNames : List Text := d.root.significant.flatMap (searchedStatement d)

variable {d} {entry : Text}

theorem any_textOf_iff {n? : Option Node} :
    (n?.any fun n => d.textOf n = entry) = true ↔ entry ∈ (n?.map d.textOf).toList := by
  cases n? with
  | none => simp
  | some n =>
      simp only [Option.any_some, decide_eq_true_eq, Option.map_some, Option.toList_some,
        List.mem_singleton]
      exact eq_comm

theorem specifierBinds_iff {spec : Node} :
    specifierBinds d entry spec = true ↔ entry ∈ searchedSpecifier d spec := by
  rw [specifierBinds, searchedSpecifier, Bool.and_eq_true, any_textOf_iff]
  split
  · rename_i h
    simp [h, localName]
  · rename_i h
    simp [h]

theorem partBinds_iff {part : Node} :
    partBinds d entry part = true ↔ entry ∈ searchedPart d part := by
  simp only [partBinds]
  split
  · rename_i hkind
    simp only [searchedPart, hkind, decide_eq_true_eq, List.mem_singleton]
    exact eq_comm
  · rename_i hkind
    simp only [searchedPart, hkind, List.any_eq_true, List.mem_flatMap, specifierBinds_iff]
  · simp [searchedPart]

theorem propertyBinds_iff {p : Node} :
    propertyBinds d entry p = true ↔ entry ∈ searchedProperty d p := by
  simp only [propertyBinds]
  split
  · rename_i hkind
    simp only [searchedProperty, hkind, decide_eq_true_eq, List.mem_singleton]
    exact eq_comm
  · rename_i hkind
    simp only [searchedProperty, hkind]
    exact any_textOf_iff
  · simp [searchedProperty]

theorem declaratorBinds_iff {v : Node} :
    declaratorBinds d entry v = true ↔ entry ∈ searchedDeclarator d v := by
  by_cases hkind : v.kind = .variableDeclarator
  · cases hname : v.child? .name with
    | none => simp [declaratorBinds, searchedDeclarator, hkind, hname]
    | some b =>
        simp only [searchedDeclarator, hkind, hname, ↓reduceIte, Option.toList_some,
          List.flatMap_singleton, searchedBinding]
        split
        · rename_i hb
          simp only [declaratorBinds, hkind, hname, hb, decide_true, Bool.true_and,
            Bool.or_eq_true, decide_eq_true_eq, reduceCtorEq, decide_false, Bool.false_and,
            Bool.false_eq_true, or_false, List.mem_singleton]
          exact eq_comm
        · rename_i hb
          simp [declaratorBinds, hkind, hname, hb, propertyBinds_iff]
        · rename_i hidentifier hpattern
          have hneither : b.kind ≠ .identifier ∧ b.kind ≠ .objectPattern := ⟨hidentifier, hpattern⟩
          simp [declaratorBinds, hkind, hname, hneither]
  · simp [declaratorBinds, searchedDeclarator, hkind]

theorem importBinds_iff {n : Node} (hkind : n.kind = .importStatement) :
    (importBinds d entry n).isSome = true ↔ entry ∈ searchedDeclared d n := by
  simp only [importBinds, searchedDeclared, hkind]
  split
  · simp
  · cases hclause : n.significant.find? fun c => c.kind = .importClause with
    | none => simp
    | some clause =>
        have hany : clause.significant.any (partBinds d entry) = true ↔
            entry ∈ clause.significant.flatMap (searchedPart d) := by
          simp only [List.any_eq_true, List.mem_flatMap, partBinds_iff]
        simp only [Option.toList_some, List.flatMap_singleton, ← hany]
        split
        · rename_i h
          simp [h]
        · rename_i h
          simp [h]

theorem declarationBinds_iff {n : Node} :
    (declarationBinds d entry n).isSome = true ↔
      entry ∈ n.significant.flatMap (searchedDeclarator d) := by
  simp only [declarationBinds, Option.isSome_map, List.find?_isSome, List.mem_flatMap,
    declaratorBinds_iff]

theorem fieldText?_binds_iff {n : Node} :
    (if d.fieldText? n .name = some entry then some (none : Option Text) else none).isSome = true ↔
      entry ∈ (d.fieldText? n .name).toList := by
  rw [Option.mem_toList]
  split
  · rename_i h
    simp [h]
  · rename_i h
    simpa using h

theorem declaredBinds_iff {n : Node} :
    (declaredBinds d entry n).isSome = true ↔ entry ∈ searchedDeclared d n := by
  simp only [declaredBinds]
  split
  · rename_i hkind
    exact importBinds_iff hkind
  · rename_i hkind
    simp only [searchedDeclared, hkind]
    exact declarationBinds_iff
  · rename_i hkind
    simp only [searchedDeclared, hkind]
    exact declarationBinds_iff
  · rename_i hkind
    simp only [searchedDeclared, hkind]
    exact fieldText?_binds_iff
  · rename_i hkind
    simp only [searchedDeclared, hkind]
    exact fieldText?_binds_iff
  · rename_i hkind
    simp only [searchedDeclared, hkind]
    exact fieldText?_binds_iff
  · rename_i hkind
    simp only [searchedDeclared, hkind]
    exact fieldText?_binds_iff
  · simp [searchedDeclared]

theorem statementBinds_iff {stmt : Node} :
    (statementBinds d entry stmt).isSome = true ↔ entry ∈ searchedStatement d stmt := by
  simp only [statementBinds, searchedStatement]
  split
  · cases hd : stmt.child? .declaration with
    | none => simp
    | some n => simp [declaredBinds_iff]
  · exact declaredBinds_iff

/-- The search finds the entry point exactly when it is bound in a form that it looks at. -/
theorem isSome_find?_iff : (find? d entry).isSome = true ↔ entry ∈ searchedNames d := by
  simp only [find?, searchedNames, List.findSome?_isSome_iff, List.mem_flatMap, Option.isSome_map,
    statementBinds_iff]

end search

end Binding

end SpanWeave
