import SpanWeave.Binding
import SpanWeave.Survey
import SpanWeave.Proofs.Syntax.InStep

/-!
Comments put into a file. A tree is sprinkled when comments without a role are inserted into any
lists of children. Only what is read off the text of a node has to stay: where a survey or the
search for a binding looks, the text of a name, a key or a string, and for a callee or a bound name,
whether it is the word that is looked for.
-/

namespace SpanWeave

open Syntax

/-- A file, the file with comments put in, and the name of the entry point. -/
structure Sprinkling where
  before : Document
  after : Document
  entry : Text

namespace Sprinkling

def first (r : Sprinkling) : Survey := ⟨r.before, r.entry⟩

/-- The survey of the file with comments put in. -/
def second (r : Sprinkling) : Survey := ⟨r.after, r.entry⟩

/-- Functions, signatures and classes, which are known under the text of their names. -/
def bearsName : Kind → Bool
  | .functionDeclaration | .generatorFunctionDeclaration | .functionExpression
  | .generatorFunction | .arrowFunction | .functionSignature | .methodSignature
  | .classDeclaration | .abstractClassDeclaration | .classExpression => true
  | _ => false

theorem bearsName_of_isFunctionExpression {n : Node} (hf : n.isFunctionExpression = true) :
    bearsName n.kind = true := by
  rw [Node.isFunctionExpression] at hf
  cases hkind : n.kind
  case arrowFunction | functionExpression | generatorFunction => rfl
  all_goals simp [hkind] at hf

/-- Accessors are properties, and their names are not asked for. -/
def isAccessor (n : Node) : Bool :=
  n.kind = .methodDefinition && (n.hasToken "get" || n.hasToken "set")

/-- The text of the child `c` of `n` is taken for a name or a key. -/
def isName (n c : Node) : Bool :=
  (c.field = some .name &&
    (bearsName n.kind ||
      (n.kind = .methodDefinition && !isAccessor n && c.kind ≠ .computedPropertyName) ||
      (n.kind = .variableDeclarator && c.kind = .identifier))) ||
    (n.field = some .name && n.kind = .computedPropertyName)

/-- The text of the child `c` of `n` is taken for a string: a module, or an argument of a call. -/
def isString (n c : Node) : Bool :=
  (n.kind = .importStatement && c.field = some .source) ||
    (n.field = some .arguments &&
      (c.kind = .string || (c.kind = .templateString && !c.hasChild .templateSubstitution)))

/-- The text of the child `c` of `n` is taken over. -/
def isTaken (n c : Node) : Bool := isName n c || isString n c

/-- The words that the text of the child `c` of `n` is compared to. -/
def words (entry : Text) (n c : Node) : List Text :=
  match n.kind with
  | .callExpression =>
      if c.field = some .function then
        if c.kind = .identifier then [entry, "require".toList] else ["require".toList]
      else []
  | .importClause => if c.kind = .identifier then [entry] else []
  | .importSpecifier => if c.field = some .name ∨ c.field = some .localName then [entry] else []
  | .objectPattern => if c.kind = .shorthandPropertyIdentifierPattern then [entry] else []
  | .pairPattern => if c.field = some .value then [entry] else []
  | _ => []

/-- Of the children of a node that is looked at, those that are looked at in turn: declarations and
their parts, bodies, members other than fields, and calls that are returned. -/
def leads (n c : Node) : Bool :=
  [.lexicalDeclaration, .variableDeclaration, .importStatement, .importClause, .namedImports,
      .objectPattern].contains n.kind ||
    (n.kind = .returnStatement && c.kind = .callExpression) ||
    [.methodDefinition, .methodSignature, .returnStatement].contains c.kind ||
    [some .declaration, some .value, some .body, some .function, some .arguments].contains c.field ||
    (c.field = some .name && !isAccessor n)

/-- How a node is met: as the file, at a place that is looked at, or elsewhere. -/
inductive Sight where
  | file
  | seen
  | unseen
  deriving DecidableEq

/-- How the child `c` is met when `n` is. -/
def Sight.next (g : Sight) (n c : Node) : Sight :=
  match g with
  | .file => .seen
  | .seen => if leads n c then .seen else .unseen
  | .unseen => .unseen

variable (r : Sprinkling)

/-- Of the text of a child of `n`, all that is read is the same in both files. -/
def readsSame (n c c' : Node) : Bool :=
  (!isTaken n c || decide (r.before.textOf c = r.after.textOf c')) &&
    (words r.entry n c).all fun w => decide (r.before.textOf c = w ↔ r.after.textOf c' = w)

/-- A comment in no role. -/
def isInserted (c : Node) : Bool := decide (c.kind = .comment ∧ c.field = none)

mutual

/-- The second node is the first one with comments put in. -/
def sprinkled (r : Sprinkling) (g : Sight) : Node → Node → Bool
  | .mk k f s cs, .mk k' f' _ cs' => decide (k = k' ∧ f = f') && strewn r g (.mk k f s cs) cs cs'

/-- The second list is the first one, of children of `n`, with comments put in and between. -/
def strewn (r : Sprinkling) (g : Sight) (n : Node) : List Node → List Node → Bool
  | cs, [] => cs.isEmpty
  | [], c' :: cs' => isInserted c' && strewn r g n [] cs'
  | c :: cs, c' :: cs' =>
      ((g ≠ .seen || r.readsSame n c c') && sprinkled r (g.next n c) c c' && strewn r g n cs cs') ||
        (isInserted c' && strewn r g n (c :: cs) cs')

end

/-- The child `c` of `n` stays, with comments put in. -/
structure Stays (g : Sight) (n c c' : Node) : Prop where
  reads : g = .seen → r.readsSame n c c' = true
  sprinkled : r.sprinkled (g.next n c) c c' = true

variable {r : Sprinkling} {g : Sight}

theorem sprinkled_iff {n n' : Node} :
    r.sprinkled g n n' = true ↔
      n.kind = n'.kind ∧ n.field = n'.field ∧ r.strewn g n n.children n'.children = true := by
  cases n with
  | mk k f s cs =>
      cases n' with
      | mk k' f' s' cs' =>
          simp [sprinkled, Node.kind, Node.field, Node.children, and_assoc]

theorem stays_filter_of_strewn {p : Node → Bool} {n : Node} {cs cs' : List Node}
    (hinserted : ∀ c, isInserted c = true → p c = false)
    (hlabel : ∀ c c' : Node, c.kind = c'.kind → c.field = c'.field → p c = p c')
    (h : r.strewn g n cs cs' = true) :
    List.Forall₂ (r.Stays g n) (cs.filter p) (cs'.filter p) := by
  induction cs' generalizing cs with
  | nil =>
      obtain rfl : cs = [] := by simpa [strewn] using h
      exact .nil
  | cons c' cs' ih =>
      have hskip {ds : List Node} (hc : isInserted c' = true) (hds : r.strewn g n ds cs' = true) :
          List.Forall₂ (r.Stays g n) (ds.filter p) ((c' :: cs').filter p) := by
        rw [List.filter_cons_of_neg (by simp [hinserted c' hc])]
        exact ih hds
      cases cs with
      | nil =>
          obtain ⟨hc, hrest⟩ := Bool.and_eq_true_iff.mp (by simpa only [strewn] using h)
          exact hskip hc hrest
      | cons c cs =>
          simp only [strewn, Bool.or_eq_true, Bool.and_eq_true, decide_eq_true_eq] at h
          rcases h with ⟨⟨hreads, hc⟩, hrest⟩ | ⟨hc, hrest⟩
          · have hstays : r.Stays g n c c' := ⟨fun hg => hreads.resolve_left fun hne => hne hg, hc⟩
            obtain ⟨hkind, hfield, -⟩ := sprinkled_iff.mp hc
            have heq := hlabel c c' hkind hfield
            by_cases hp : p c = true
            · rw [List.filter_cons_of_pos hp, List.filter_cons_of_pos (heq ▸ hp)]
              exact .cons hstays (ih hrest)
            · rw [List.filter_cons_of_neg hp, List.filter_cons_of_neg (heq ▸ hp)]
              exact ih hrest
          · exact hskip hc hrest

namespace Stays

variable {n c c' : Node}

theorem kind (h : r.Stays g n c c') : c.kind = c'.kind := (sprinkled_iff.mp h.sprinkled).1

variable (h : r.Stays .seen n c c')
include h

theorem seen (hleads : leads n c = true) : r.sprinkled .seen c c' = true := by
  have hnext : Sight.next .seen n c = .seen := by rw [Sight.next, if_pos hleads]
  exact hnext ▸ h.sprinkled

theorem textOf (htaken : isTaken n c = true) : r.before.textOf c = r.after.textOf c' := by
  have hreads := (Bool.and_eq_true_iff.mp (h.reads rfl)).1
  simpa [htaken] using hreads

theorem textOf_eq_iff {w : Text} (hw : w ∈ words r.entry n c) :
    r.before.textOf c = w ↔ r.after.textOf c' = w := by
  have hreads := List.all_eq_true.mp (Bool.and_eq_true_iff.mp (h.reads rfl)).2 w hw
  exact of_decide_eq_true hreads

end Stays

section
variable {n n' : Node} (h : r.sprinkled g n n' = true)
include h

theorem sprinkled_kind : n.kind = n'.kind := (sprinkled_iff.mp h).1

theorem sprinkled_significant : List.Forall₂ (r.Stays g n) n.significant n'.significant := by
  simp only [Node.significant, Node.namedChildren, List.filter_filter]
  refine stays_filter_of_strewn ?_ ?_ (sprinkled_iff.mp h).2.2
  · intro c hc
    simp [(of_decide_eq_true hc).1]
  · intro c c' hkind _
    rw [hkind]

theorem sprinkled_child? (f : Field) :
    Option.Rel (fun c c' => r.Stays g n c c' ∧ c.field = some f) (n.child? f) (n'.child? f) := by
  have hfilter : List.Forall₂ (r.Stays g n) (n.children.filter fun c => c.field = some f)
      (n'.children.filter fun c => c.field = some f) := by
    refine stays_filter_of_strewn ?_ ?_ (sprinkled_iff.mp h).2.2
    · intro c hc
      simp [(of_decide_eq_true hc).2]
    · intro c c' _ hfield
      rw [hfield]
  have hfirst := forall₂_head? hfilter
  rw [List.head?_filter, List.head?_filter] at hfirst
  rw [Node.child?, Node.child?]
  rcases option_rel_cases hfirst with ⟨hc, hc'⟩ | ⟨c, c', hc, hc', hcc⟩
  · rw [hc, hc']
    exact .none
  · have hfield : c.field = some f := by simpa using List.find?_some hc
    rw [hc, hc']
    exact .some ⟨hcc, hfield⟩

theorem sprinkled_hasChild {k : Kind} (hk : k ≠ .comment) : n.hasChild k = n'.hasChild k := by
  have hfilter : List.Forall₂ (r.Stays g n) (n.children.filter fun c => c.kind = k)
      (n'.children.filter fun c => c.kind = k) := by
    refine stays_filter_of_strewn ?_ ?_ (sprinkled_iff.mp h).2.2
    · intro c hc
      simp [(of_decide_eq_true hc).1, Ne.symm hk]
    · intro c c' hkind _
      rw [hkind]
  have hany (m : Node) :
      m.hasChild k = (m.children.filter fun c => c.kind = k).any fun _ => true := by
    rw [Bool.eq_iff_iff]
    simp [Node.hasChild]
  rw [hany, hany]
  exact forall₂_any (fun _ _ _ => rfl) hfilter

theorem sprinkled_hasToken (text : String) : n.hasToken text = n'.hasToken text :=
  sprinkled_hasChild h (k := .token text) (by simp)

theorem sprinkled_isFunctionExpression : n.isFunctionExpression = n'.isFunctionExpression := by
  rw [Node.isFunctionExpression, Node.isFunctionExpression, sprinkled_kind h]

theorem sprinkled_isGenerator : Survey.isGenerator n = Survey.isGenerator n' := by
  rw [Survey.isGenerator, Survey.isGenerator, sprinkled_kind h, sprinkled_hasToken h]

end

section
variable {n n' : Node} (h : r.sprinkled .seen n n' = true)
include h

theorem sprinkled_name? (hname : bearsName n.kind = true) :
    r.before.fieldText? n .name = r.after.fieldText? n' .name := by
  refine option_map_eq ?_ (sprinkled_child? h .name)
  rintro c c' ⟨hcc, hrole⟩
  exact hcc.textOf (by simp [isTaken, isName, hrole, hname])

theorem sprinkled_wrappedFunction? :
    Option.Rel (fun f f' => ∃ g, r.sprinkled g f f' = true) (r.first.wrappedFunction? n)
      (r.second.wrappedFunction? n') := by
  simp only [Survey.wrappedFunction?]
  rw [← sprinkled_kind h]
  split
  · rename_i hcall
    rcases option_rel_cases (sprinkled_child? h .function) with
      ⟨hf, hf'⟩ | ⟨callee, callee', hf, hf', hcallee, hrole⟩
    · simp only [hf, hf']
      exact .none
    · rcases option_rel_cases (sprinkled_child? h .arguments) with
        ⟨ha, ha'⟩ | ⟨args, args', ha, ha', hargs, -⟩
      · simp only [hf, hf', ha, ha']
        exact .none
      · have hentry : (callee.kind = .identifier ∧ r.first.doc.textOf callee = r.first.entry) ↔
            (callee'.kind = .identifier ∧ r.second.doc.textOf callee' = r.second.entry) := by
          rw [← hcallee.kind]
          refine and_congr_right fun hidentifier => hcallee.textOf_eq_iff ?_
          simp [words, hcall, hrole, hidentifier, first]
        simp only [hf, hf', ha, ha', Bool.and_eq_true, decide_eq_true_eq, hentry]
        split
        · have hlast := option_rel_filter
            (fun _ _ hl => sprinkled_isFunctionExpression (Stays.sprinkled hl))
            (forall₂_getLast? (sprinkled_significant hargs.sprinkled))
          exact option_rel_imp (fun _ _ hl => ⟨_, Stays.sprinkled hl⟩) hlast
        · exact .none
  · exact .none

theorem sprinkled_blockIsWrapped : r.first.blockIsWrapped n = r.second.blockIsWrapped n' := by
  simp only [Survey.blockIsWrapped]
  have hstmts := sprinkled_significant h
  generalize n.significant = stmts, n'.significant = stmts' at hstmts
  cases hstmts with
  | nil => rfl
  | @cons stmt stmt' _ _ hstmt hrest =>
      cases hrest with
      | cons _ _ => rfl
      | nil =>
          simp only [← hstmt.kind]
          by_cases hreturn : stmt.kind = .returnStatement
          · congr 1
            have hcalls := sprinkled_significant (hstmt.seen (by simp [leads, hreturn]))
            rcases option_rel_cases (forall₂_head? hcalls) with
              ⟨hc, hc'⟩ | ⟨call, call', hc, hc', hcc⟩
            · simp only [hc, hc']
            · simp only [hc, hc', ← hcc.kind]
              by_cases hcall : call.kind = .callExpression
              · congr 1
                have hfunctions := sprinkled_child? (hcc.seen (by simp [leads, hreturn, hcall]))
                  .function
                refine option_isSome_eq (option_rel_bind
                  (S := fun f f' => ∃ g, r.sprinkled g f f' = true) ?_ hfunctions)
                rintro f f' ⟨hff, hrole⟩
                exact sprinkled_wrappedFunction? (hff.seen (by simp [leads, hrole]))
              · simp [hcall]
          · simp [hreturn]

end

section
variable {n c c' : Node} (h : r.Stays .seen n c c')
include h

theorem stringValue?_of_isTaken (htaken : isTaken n c = true) :
    r.before.stringValue? c = r.after.stringValue? c' := by
  simp only [Document.stringValue?]
  rw [h.kind, h.textOf htaken, sprinkled_hasChild h.sprinkled (by decide)]

theorem stringValue?_of_arguments (hfield : n.field = some .arguments) :
    r.before.stringValue? c = r.after.stringValue? c' := by
  by_cases htaken : isTaken n c = true
  · exact stringValue?_of_isTaken h htaken
  · simp only [isTaken, isString, hfield, Bool.or_eq_true, decide_true, decide_eq_true_eq,
      Bool.true_and, Bool.and_eq_true, Bool.not_eq_true', not_or, not_and,
      Bool.not_eq_false] at htaken
    obtain ⟨-, -, hstring, htemplate⟩ := htaken
    have hnone (d : Document) (m : Node) (hs : ¬ m.kind = .string)
        (ht : m.kind = .templateString → m.hasChild .templateSubstitution = true) :
        d.stringValue? m = none := by
      simp only [Document.stringValue?]
      split
      · rename_i hkind
        exact absurd hkind hs
      · rename_i hkind
        simp [ht hkind]
      · simp
    rw [hnone _ c hstring htemplate, hnone _ c' (h.kind ▸ hstring)]
    intro hkind
    rw [← sprinkled_hasChild h.sprinkled (by decide)]
    exact htemplate (h.kind.trans hkind)

end

theorem sprinkled_memberName? {m m' : Node} (h : r.sprinkled .seen m m' = true)
    (hkind : m.kind = .methodDefinition)
    (haccessor : isAccessor m = false) :
    r.first.memberName? m = r.second.memberName? m' := by
  refine option_map_eq (R := fun c c' => ∃ n, r.Stays .seen n c c' ∧ isTaken n c = true) ?_
    (option_rel_bind ?_ (sprinkled_child? h .name))
  · rintro c c' ⟨n, hcc, htaken⟩
    simp only [first, second]
    rw [stringValue?_of_isTaken hcc htaken, hcc.textOf htaken]
  · rintro key key' ⟨hkey, hrole⟩
    rw [← hkey.kind]
    split
    · rename_i hcomputed
      have hseen := hkey.seen (by simp [leads, hrole, haccessor])
      refine option_rel_imp ?_ (forall₂_head? (sprinkled_significant hseen))
      intro e e' hee
      exact ⟨key, hee, by simp [isTaken, isName, hcomputed, hrole]⟩
    · rename_i hplain
      exact .some ⟨m, hkey, by simp [isTaken, isName, hkind, hrole, haccessor, hplain]⟩

end Sprinkling

end SpanWeave
