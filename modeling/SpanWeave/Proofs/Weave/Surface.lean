import SpanWeave.Proofs.Weave.EntryPoint

namespace SpanWeave

open Syntax

namespace Surface

variable (d : Document)

/-- The names that a function, constant or class statement declares, overload signatures
included. -/
def declaredNames (n : Node) : List Text :=
  match n.kind with
  | .functionSignature => (d.fieldText? n .name).toList
  | .lexicalDeclaration => if n.hasToken "const" then Binding.declaredNames d n else []
  | .importStatement | .importAlias | .variableDeclaration => []
  | _ => Binding.declaredNames d n

def statementNames (stmt : Node) : List Text :=
  if stmt.kind = .exportStatement then stmt.exported?.toList.flatMap (declaredNames d)
  else declaredNames d stmt

/-- The local name of a default export: that of a function or class, or the name that is its
value. -/
def defaultName? (n : Node) : Option Text :=
  if n.kind = .identifier then some (d.textOf n) else (Binding.declaredNames d n).head?

def statementDefault (stmt : Node) : List (Option Text) :=
  if stmt.kind = .exportStatement && stmt.hasToken "default" then
    [stmt.exported?.bind (defaultName? d)]
  else []

/-- The default exports, each with its local name if it has one. -/
def defaults : List (Option Text) := d.root.significant.flatMap (statementDefault d)

/-- A name in an export list, and what it is exported as. -/
def specifierExport (spec : Node) : List (Text × Text) :=
  if spec.kind = .exportSpecifier && !spec.typeOnly then
    match d.fieldText? spec .name with
    | some name => [(name, (d.fieldText? spec .localName).getD name)]
    | none => []
  else []

def clauseExports (clause : Node) : List (Text × Text) :=
  if clause.kind = .exportClause then clause.significant.flatMap (specifierExport d) else []

/-- The local names that a statement exports under a name, and these names. Names of other modules
that are handed on are none of them. -/
def statementExports (stmt : Node) : List (Text × Text) :=
  if stmt.kind = .exportStatement then
    match stmt.exported? with
    | some n =>
        if stmt.hasToken "default" then []
        else (Binding.declaredNames d n).map fun name => (name, name)
    | none =>
        if stmt.typeOnly || (stmt.child? .source).isSome then []
        else stmt.significant.flatMap (clauseExports d)
  else []

def exports : List (Text × Text) := d.root.significant.flatMap (statementExports d)

/-- How a name of the file is exported. -/
def status (name : Text) : Export :=
  if (exports d).any fun e => e.1 = name && e.2 ≠ "default".toList then .named
  else if some name ∈ defaults d ∨ (name, "default".toList) ∈ exports d then .default
  else .none

/-- What the function, constant and class statements of a file declare, in order, with the way in
which it is exported. -/
def declarations : List (Text × Export) :=
  (d.root.significant.flatMap (statementNames d)).map fun name => (name, status d name)

theorem declaredNames_of_namesItself {n : Node} (h : n.namesItself = true) :
    declaredNames d n = Binding.declaredNames d n := by
  simp only [Node.namesItself] at h
  split at h
  all_goals simp_all [declaredNames]

end Surface

namespace Rereading

variable {r : Rereading}

section declarations

theorem Redeclared.surfaceNames {n n' : Node} (h : Redeclared r n n') :
    Surface.declaredNames r.before n = Surface.declaredNames r.after n' := by
  have hnames := h.declaredNames
  cases h with
  | kept h =>
      rw [Surface.declaredNames, Surface.declaredNames, alike_kind h, alike_hasToken h,
        fieldText?_eq (alike_child? h .name), hnames]
  | named hself hkind _ =>
      have hself' : n'.namesItself = true := by
        rwa [Node.namesItself, ← hkind]
      rw [Surface.declaredNames_of_namesItself _ hself,
        Surface.declaredNames_of_namesItself _ hself', hnames]
  | traced hself h =>
      rw [Surface.declaredNames_of_namesItself _ hself, hnames]
      simp only [Surface.declaredNames, isTracedConst_kind h,
        (declaredNames_of_isTracedConst h).1, ↓reduceIte]
  | constants hkind hkind' hconst hconst' _ =>
      simp only [Surface.declaredNames, hkind, hkind', hconst, hconst', ↓reduceIte, hnames]
  | members hkind hkind' => simp only [Surface.declaredNames, hkind, hkind', hnames]

theorem Redeclared.defaultName? {n n' : Node} (h : Redeclared r n n') :
    Surface.defaultName? r.before n = Surface.defaultName? r.after n' := by
  have hnames := h.declaredNames
  rw [Surface.defaultName?, Surface.defaultName?, hnames]
  cases h with
  | kept h => rw [alike_kind h, alike_textOf h]
  | named hself hkind _ =>
      have hne : n'.kind ≠ .identifier := by
        intro hidentifier
        simp [Node.namesItself, hkind, hidentifier] at hself
      rw [hkind, if_neg hne, if_neg hne]
  | traced hself h =>
      have hne : n.kind ≠ .identifier := by
        intro hidentifier
        simp [Node.namesItself, hidentifier] at hself
      rw [if_neg hne, if_neg (by simp [isTracedConst_kind h])]
  | constants hkind hkind' _ _ _ => simp [hkind, hkind']
  | members hkind hkind' => simp [hkind, hkind']

end declarations

section statements

theorem specifierExport_of_alike {spec spec' : Node} (h : r.alike spec spec' = true) :
    Surface.specifierExport r.before spec = Surface.specifierExport r.after spec' := by
  rw [Surface.specifierExport, Surface.specifierExport, alike_kind h, typeOnly_of_alike h,
    fieldText?_eq (alike_child? h .name), fieldText?_eq (alike_child? h .localName)]

theorem clauseExports_of_alike {clause clause' : Node} (h : r.alike clause clause' = true) :
    Surface.clauseExports r.before clause = Surface.clauseExports r.after clause' := by
  have hspecifiers : clause.significant.flatMap (Surface.specifierExport r.before) =
      clause'.significant.flatMap (Surface.specifierExport r.after) :=
    forall₂_flatMap (fun _ _ => specifierExport_of_alike) (alike_significant h)
  rw [Surface.clauseExports, Surface.clauseExports, alike_kind h, hspecifiers]

theorem Restated.surfaceNames {stmt stmt' : Node} (h : Restated r stmt stmt') :
    Surface.statementNames r.before stmt = Surface.statementNames r.after stmt' := by
  rw [Surface.statementNames, Surface.statementNames]
  cases h with
  | declaration hkind hkind' h => rw [if_neg hkind, if_neg hkind', h.surfaceNames]
  | exported hkind hkind' _ hn hn' h =>
      simp only [hkind, hkind', ↓reduceIte, hn, hn', Option.toList_some, List.flatMap_singleton,
        h.surfaceNames]
  | listed hkind hkind' hn hn' _ =>
      rw [if_pos hkind, if_pos hkind', hn, hn']
      rfl

theorem Restated.statementDefault {stmt stmt' : Node} (h : Restated r stmt stmt') :
    Surface.statementDefault r.before stmt = Surface.statementDefault r.after stmt' := by
  rw [Surface.statementDefault, Surface.statementDefault]
  cases h with
  | declaration hkind hkind' h => simp [hkind, hkind']
  | exported hkind hkind' hdefault hn hn' h =>
      simp only [hkind, hkind', hdefault, hn, hn', Option.bind_some, h.defaultName?]
  | listed _ _ hn hn' h =>
      rw [hn, hn', alike_kind h, alike_hasToken h]
      rfl

theorem Restated.statementExports {stmt stmt' : Node} (h : Restated r stmt stmt') :
    Surface.statementExports r.before stmt = Surface.statementExports r.after stmt' := by
  cases h with
  | declaration hkind hkind' h => simp [Surface.statementExports, hkind, hkind']
  | exported hkind hkind' hdefault hn hn' h =>
      simp only [Surface.statementExports, hkind, hkind', hdefault, hn, hn', h.declaredNames]
  | listed hkind hkind' hn hn' h =>
      have hclauses : stmt.significant.flatMap (Surface.clauseExports r.before) =
          stmt'.significant.flatMap (Surface.clauseExports r.after) :=
        forall₂_flatMap (fun _ _ => clauseExports_of_alike) (alike_significant h)
      have hsource : (stmt.child? .source).isSome = (stmt'.child? .source).isSome := by
        rcases option_rel_cases (alike_child? h .source) with ⟨hs, hs'⟩ | ⟨_, _, hs, hs', -⟩
        · rw [hs, hs']
        · rw [hs, hs', Option.isSome_some, Option.isSome_some]
      simp only [Surface.statementExports, hkind, hkind', hn, hn', typeOnly_of_alike h, hsource,
        hclauses]

theorem surface_of_wholeExport? {stmt m m' : Node} {v : Visit}
    (hwhole : r.wholeExport? stmt = some v) (hconst : r.isTracedConst v.target.name m = true)
    (hexport : r.isDefaultExport v.target.name m' = true) :
    Surface.statementNames r.before stmt =
        Surface.statementNames r.after m ++ Surface.statementNames r.after m' ∧
      Surface.statementDefault r.before stmt =
        Surface.statementDefault r.after m ++ Surface.statementDefault r.after m' ∧
      Surface.statementExports r.before stmt =
        Surface.statementExports r.after m ++ Surface.statementExports r.after m' := by
  obtain ⟨hkind, hdefault, f, hf, hself, hname⟩ := of_wholeExport?_eq_some hwhole
  obtain ⟨hkind', hdefault', value, hvalue, hidentifier, htext⟩ := of_isDefaultExport hexport
  obtain ⟨htoken, hnames⟩ := declaredNames_of_isTracedConst hconst
  have hm : m.kind = .lexicalDeclaration := isTracedConst_kind hconst
  have hfirst := Binding.declaredNames_of_namesItself r.before hself
  have hnone : Surface.declaredNames r.after value = [] := by
    simp [Surface.declaredNames, Binding.declaredNames, hidentifier]
  refine ⟨?_, ?_, ?_⟩
  · simp only [Surface.statementNames, hkind, hkind', hm, hf, hvalue, ↓reduceIte, reduceCtorEq,
      Option.toList_some, List.flatMap_singleton, hnone, List.append_nil]
    rw [Surface.declaredNames_of_namesItself _ hself, hfirst, ← hname]
    simp only [Surface.declaredNames, hm, htoken, ↓reduceIte, hnames]
  · have hne : f.kind ≠ .identifier := by
      intro h
      simp [Node.namesItself, h] at hself
    have hlocal : Surface.defaultName? r.before f = v.target.name := by
      rw [Surface.defaultName?, if_neg hne, hfirst, hname, Option.head?_toList]
    have hlocal' : Surface.defaultName? r.after value = v.target.name := by
      rw [Surface.defaultName?, if_pos hidentifier, htext]
    simp [Surface.statementDefault, hkind, hkind', hm, hdefault, hdefault', hf, hvalue, hlocal,
      hlocal']
  · simp [Surface.statementExports, hkind, hkind', hm, hdefault, hdefault', hf, hvalue]

theorem surface_of_bringsIn {m : Node} (h : r.bringsIn m = true) :
    (Surface.statementNames r.after m = [] ∨ Surface.statementNames r.after m = [r.entry]) ∧
      Surface.statementDefault r.after m = [] ∧ Surface.statementExports r.after m = [] := by
  have hnames := statementNames_of_bringsIn h
  have hkind : m.kind = .importStatement ∨
      m.kind = .lexicalDeclaration ∧ m.hasToken "const" = true := by
    simp only [bringsIn] at h
    split at h
    · rename_i hkind
      exact Or.inl hkind
    · rename_i hkind
      exact Or.inr ⟨hkind, (Bool.and_eq_true_iff.mp h).1⟩
    · simp at h
  rcases hkind with hkind | ⟨hkind, hconst⟩
  · simp [Surface.statementNames, Surface.statementDefault, Surface.statementExports,
      Surface.declaredNames, hkind]
  · rw [Binding.statementNames, if_neg (by simp [hkind])] at hnames
    simp [Surface.statementNames, Surface.statementDefault, Surface.statementExports,
      Surface.declaredNames, hkind, hconst, hnames]

end statements

theorem surface_of_isRewovenWith {imported : Bool} (h : r.isRewovenWith imported = true) :
    Surface.defaults r.after = Surface.defaults r.before ∧
      Surface.exports r.after = Surface.exports r.before ∧
      ∃ front back added,
        r.before.root.significant.flatMap (Surface.statementNames r.before) = front ++ back ∧
        r.after.root.significant.flatMap (Surface.statementNames r.after) =
          front ++ (added ++ back) ∧
        (added = [] ∨ imported = true ∧ added = [r.entry]) := by
  refine ⟨?_, ?_, ?_⟩
  · exact flatMap_eq (fun _ _ _ hstmt => (restated_of_statementReread hstmt).statementDefault)
      (fun _ _ _ _ hwhole hconst hexport => (surface_of_wholeExport? hwhole hconst hexport).2.1)
      (fun _ hm => (surface_of_bringsIn hm).2.1) h
  · exact flatMap_eq (fun _ _ _ hstmt => (restated_of_statementReread hstmt).statementExports)
      (fun _ _ _ _ hwhole hconst hexport => (surface_of_wholeExport? hwhole hconst hexport).2.2)
      (fun _ hm => (surface_of_bringsIn hm).2.2) h
  · obtain ⟨front, back, added, hbefore, hafter, hadded⟩ := extends_flatMap
      (fun _ _ _ hstmt => (restated_of_statementReread hstmt).surfaceNames)
      (fun _ _ _ _ hwhole hconst hexport => (surface_of_wholeExport? hwhole hconst hexport).1) h
    refine ⟨front, back, added, hbefore, hafter, ?_⟩
    split at hadded
    · rename_i himported
      obtain ⟨m, hm, rfl⟩ := hadded
      rcases (surface_of_bringsIn hm).1 with hnil | hentry
      · exact Or.inl hnil
      · exact Or.inr ⟨himported, hentry⟩
    · exact Or.inl hadded

end Rereading

namespace Weaver

/-- Weaving keeps the interface of a module. There are as many default exports as before and of
the same names, names are exported under the same names, and the functions, constants and classes
that are declared are the same in order, each exported in the same way. What may be added is the
constant that holds the entry point. -/
theorem surface_of_woven (w : Weaver) (before after : Document) (path : Text)
    (h : (Rereading.mk before after w.skip.isMatch w.entry).isRewovenWith
      (w.addsImport before path) = true) :
    Surface.defaults after = Surface.defaults before ∧
      Surface.exports after = Surface.exports before ∧
      (∀ name, Surface.status after name = Surface.status before name) ∧
      ∃ front back added, Surface.declarations before = front ++ back ∧
        Surface.declarations after = front ++ (added ++ back) ∧
        (added = [] ∨
          w.addsImport before path = true ∧
            added = [(w.entry, Surface.status before w.entry)]) := by
  obtain ⟨hdefaults, hexports, front, back, added, hbefore, hafter, hadded⟩ :=
    Rereading.surface_of_isRewovenWith h
  have hstatus (name : Text) : Surface.status after name = Surface.status before name := by
    rw [Surface.status, Surface.status, hdefaults, hexports]
  refine ⟨hdefaults, hexports, hstatus, ?_⟩
  let label (name : Text) : Text × Export := (name, Surface.status before name)
  refine ⟨front.map label, back.map label, added.map label, ?_, ?_, ?_⟩
  · rw [Surface.declarations, hbefore, List.map_append]
  · rw [Surface.declarations, funext fun name => congrArg (Prod.mk name) (hstatus name), hafter,
      List.map_append, List.map_append]
  · rcases hadded with rfl | ⟨himported, rfl⟩
    · exact Or.inl rfl
    · exact Or.inr ⟨himported, rfl⟩

def threeExports : Text :=
  "class A \x7b\x7d\nexport function b() \x7b\x7d\nexport default function c() \x7b\x7d\n".toList

theorem surface_of_threeExports :
    ∃ before woven after, Document.parse threeExports .javaScript = .ok before ∧
      plain.weave threeExports "a.js".toList = .ok woven ∧ woven.wrappedCount = 2 ∧
      Document.parse woven.modified .javaScript = .ok after ∧
      Surface.declarations before =
        [("A".toList, .none), ("b".toList, .named), ("c".toList, .default)] ∧
      Surface.defaults after = [some "c".toList] ∧
      Surface.exports after = [("b".toList, "b".toList)] ∧
      ∀ name, Surface.status after name = Surface.status before name := by
  let first : Edit := ⟨18, 33, "const b = traceCall('b', function b() \x7b\x7d);".toList⟩
  let second : Edit :=
    ⟨34, 64, "const c = traceCall('c', function c() \x7b\x7d);\nexport default c;".toList⟩
  let importing : Edit := ⟨0, 0, "import \x7b traceCall \x7d from 'autotel';\n\n".toList⟩
  have hdialect : Dialect.ofPath? "a.js".toList = some .javaScript := by decide
  have horder : Edit.inOrder [first, second, importing] = [importing, first, second] :=
    Edit.inOrder_eq_of_rearranged (by decide +kernel) (by decide)
  obtain ⟨before, woven, after, hbefore, hweave, hafter, -, hwrapped, htest⟩ :=
    exists_woven plain threeExports (fun before _ after =>
      (Rereading.mk before after plain.skip.isMatch plain.entry).isRewovenWith
          (plain.addsImport before "a.js".toList) &&
        decide ((plain.wrappedIn before "a.js".toList).length = 2 ∧
          Surface.declarations before =
            [("A".toList, .none), ("b".toList, .named), ("c".toList, .default)] ∧
          Surface.defaults before = [some "c".toList] ∧
          Surface.exports before = [("b".toList, "b".toList)]))
      hdialect horder (by decide +kernel)
  simp only [Bool.and_eq_true, decide_eq_true_eq] at htest
  obtain ⟨hrewoven, htwo, hdeclarations, hdefault, hnamed⟩ := htest
  obtain ⟨hdefaults, hexports, hstatus, -⟩ :=
    surface_of_woven plain before after "a.js".toList hrewoven
  have hcount : woven.wrappedCount = 2 := by rw [Woven.wrappedCount, hwrapped, htwo]
  exact ⟨before, woven, after, hbefore, hweave, hcount, hafter, hdeclarations,
    hdefaults.trans hdefault, hexports.trans hnamed, hstatus⟩

end Weaver

end SpanWeave
