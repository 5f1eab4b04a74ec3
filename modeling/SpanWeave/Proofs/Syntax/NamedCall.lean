import SpanWeave.Proofs.Syntax.Arguments
import SpanWeave.Proofs.Syntax.Word

/-!
A statement that calls a name. No construct of the language but a call has a name and a
parenthesis at its head, unless the name is a keyword of an operand or of a statement.
-/

namespace SpanWeave.Syntax

/-- Words that are no names at the head of a statement. -/
def reservedWords : List String := operandWords ++ "new" :: statementWords

section

variable {d : Cursor} {r : Text} (hd : d.rest = '(' :: r)

include hd

theorem ahead_of_parenthesis : d.ahead = '(' :: r := by
  obtain ⟨_, o, f⟩ := d
  subst hd
  exact Cursor.ahead_cons (by decide)

theorem wordStands_of_parenthesis {v : String} (hv : v.toList.head?.any (· != '(') = true) :
    wordStands v d.ahead = false := by
  simp [wordStands, ahead_of_parenthesis hd, afterLead?_cons_of_head? hv]

theorem keyword_of_parenthesis {v : String} (hv : v.toList.head?.any (· != '(') = true) :
    keyword v d = none :=
  keyword_of_not_wordStands (wordStands_of_parenthesis hd hv)

theorem mark_of_parenthesis {v : String} (hv : v.toList.head?.any (· != '(') = true) :
    mark v d = none :=
  mark_of_not_startsWith (by
    simp [Text.startsWith, ahead_of_parenthesis hd, afterLead?_cons_of_head? hv])

theorem wordLength_of_parenthesis : wordLength d.ahead = 0 := by
  simp [ahead_of_parenthesis hd, wordLength, wordTailLength, show isMark '(' = true by decide]

theorem word_of_parenthesis (k : Kind) (but : List String) : word k but d = none :=
  word_of_wordLength (wordLength_of_parenthesis hd)

theorem stringLiteral_of_parenthesis : stringLiteral d = none := by
  simp [stringLiteral, ahead_of_parenthesis hd]

theorem halted_of_parenthesis (stop : Option Place) : halted stop d = some (false, d) := by
  obtain ⟨_, o, f⟩ := d
  subst hd
  exact halted_cons (by decide) (by decide) stop

theorem destructuring_of_parenthesis (g : Grammar) : destructuring g d = none := by
  have hbrace : mark "\x7b" d = none := mark_of_parenthesis hd (by simp)
  have hbracket : mark "[" d = none := mark_of_parenthesis hd (by simp)
  exact oneOf_eq_none (by
    simp [objectPattern, arrayPattern, node_of_none (seq_eq_none hbrace),
      node_of_none (seq_eq_none hbracket)])

end

section

variable {w r : Text} {o : Nat} {f : Bool} (hw : Spelled w)

/-- A rule reads nothing at a name, or the name alone. -/
def ReadsNameAlone (w r : Text) (o : Nat) (f : Bool) (q : Rule Forest) : Prop :=
  ∀ p, q ⟨w ++ '(' :: r, o, f⟩ = some p → p.2.rest = '(' :: r

theorem ReadsNameAlone.seq_eq_none {q : Rule Forest} {rs : List (Rule Forest)}
    (hq : ReadsNameAlone w r o f q) (hrs : ∀ d, d.rest = '(' :: r → seq rs d = none) :
    seq (q :: rs) ⟨w ++ '(' :: r, o, f⟩ = none := by
  cases h : q ⟨w ++ '(' :: r, o, f⟩ with
  | none => exact Syntax.seq_eq_none h
  | some p => exact seq_cons_eq_none h (hrs _ (hq p h))

theorem ReadsNameAlone.thenFresh {q : Rule Forest} (hq : ReadsNameAlone w r o f q) (fresh : Bool) :
    ReadsNameAlone w r o f (thenFresh fresh q) := by
  intro p hp
  cases h : q ⟨w ++ '(' :: r, o, f⟩ with
  | none => simp [thenFresh_of_none h] at hp
  | some x =>
      rw [thenFresh_of_some (show q _ = some (x.1, x.2) from h)] at hp
      cases hp
      exact hq x h

theorem ReadsNameAlone.role {q : Rule Forest} (hq : ReadsNameAlone w r o f q) {field : Field} :
    ReadsNameAlone w r o f (role field q) := by
  intro p hp
  cases h : q ⟨w ++ '(' :: r, o, f⟩ with
  | none => simp [role_of_none h] at hp
  | some x =>
      rw [role_of_some (show q _ = some (x.1, x.2) from h)] at hp
      cases hp
      exact hq x h

include hw

theorem readsNameAlone_word (k : Kind) (but : List String) :
    ReadsNameAlone w r o f (word k but) := by
  intro p hp
  rw [word_append hw] at hp
  split at hp
  · contradiction
  · cases hp
    rfl

theorem readsNameAlone_keyword {v : String} (hv : v.toList.any isMark = false) :
    ReadsNameAlone w r o f (keyword v) := by
  intro p hp
  rw [keyword_append hw hv] at hp
  split at hp
  · cases hp
    rfl
  · contradiction

theorem keyword_of_ne {v : String} (hv : v.toList.any isMark = false)
    (hne : String.ofList w ≠ v) : keyword v ⟨w ++ '(' :: r, o, f⟩ = none := by
  simp [keyword_append hw hv, hne]

theorem readsNameAlone_firstWord {v : String} (hv : v.toList.any isMark = false)
    (soft : Bool) : ReadsNameAlone w r o f (firstWord soft v) := by
  have hkeyword := (readsNameAlone_keyword (r := r) (o := o) (f := f) hw hv).thenFresh (!soft)
  intro p hp
  cases h : thenFresh (!soft) (keyword v) ⟨w ++ '(' :: r, o, f⟩ with
  | none => simp [firstWord, h] at hp
  | some x =>
      have hx := hkeyword x h
      have hstop : mayStop .expression x.2 = some (false, x.2) :=
        halted_of_parenthesis hx (some .expression)
      simp only [firstWord, bind_apply, h, Option.bind_some] at hp
      cases soft <;> simp [hstop] at hp <;> exact hp ▸ hx

theorem seq_optionally_function {q : Rule Forest} {rs : List (Rule Forest)}
    (hq : ReadsNameAlone w r o f q) (hne : String.ofList w ≠ "function") :
    seq (optionally q :: keyword "function" :: rs) ⟨w ++ '(' :: r, o, f⟩ = none := by
  cases h : q ⟨w ++ '(' :: r, o, f⟩ with
  | none =>
      exact seq_cons_eq_none (optionally_of_none h)
        (seq_eq_none (keyword_of_ne hw (by decide) hne))
  | some p =>
      exact seq_cons_eq_none (optionally_of_some h)
        (seq_eq_none (keyword_of_parenthesis (hq p h) (by simp)))

omit hw in
theorem declarators_of_parenthesis {g : Grammar} {d : Cursor} (hd : d.rest = '(' :: r)
    (but : List String) : declarators g but d = none := by
  have hword : word .identifier but d = none := word_of_parenthesis hd _ _
  have hname : oneOf [destructuring g, word .identifier but] d = none :=
    oneOf_eq_none (by simp [destructuring_of_parenthesis hd, hword])
  have hdeclarator : variableDeclarator g but d = none :=
    node_of_none (oneOf_eq_none (by
      simp [seq_eq_none (role_of_none hword), seq_eq_none (role_of_none hname)]))
  simp [declarators, seq_eq_none hdeclarator]

omit hw in
theorem moduleTail_of_parenthesis {g : Grammar} {d : Cursor} (hd : d.rest = '(' :: r)
    (but : List String) (stop : Option Place) : moduleTail g but stop d = none := by
  have hword : thenFresh stop.isNone (word .identifier but) d = none :=
    thenFresh_of_none (word_of_parenthesis hd _ _)
  exact seq_eq_none (oneOf_eq_none (by
    simp [stringLiteral_of_parenthesis hd, seq_eq_none hword]))

theorem declarationRule_of_name {g : Grammar} (hfree : String.ofList w ∉ reservedWords)
    (hg : ∀ d, d.rest = '(' :: r → g.read (.declaration false) d = none) :
    declarationRule g true ⟨w ++ '(' :: r, o, f⟩ = none := by
  have hahead : Cursor.ahead ⟨w ++ '(' :: r, o, f⟩ = w ++ '(' :: r := ahead_append hw
  have hat : (w ++ '(' :: r).head? ≠ some '@' := head?_append_ne hw (by decide)
  simp only [reservedWords, operandWords, statementWords, List.mem_append, List.mem_cons,
    List.not_mem_nil, or_false, not_or] at hfree
  have hfunction : functionDeclaration g true ⟨w ++ '(' :: r, o, f⟩ = none := by
    have hhead : seq [optionally (firstWord true "async"), keyword "function"]
        ⟨w ++ '(' :: r, o, f⟩ = none :=
      seq_optionally_function hw (readsNameAlone_firstWord hw (by decide) true) hfree.1.1
    simp [functionDeclaration, hhead]
  have hlexical : lexicalDeclaration g true ⟨w ++ '(' :: r, o, f⟩ = none := by
    refine node_of_none (oneOf_eq_none ?_)
    simp only [List.mem_cons, List.not_mem_nil, or_false, forall_eq_or_imp, forall_eq]
    constructor
    · exact seq_eq_none (keyword_of_ne hw (by decide) (by simp [hfree]))
    · exact (readsNameAlone_firstWord hw (by decide) true).seq_eq_none
        fun d hd => seq_eq_none (declarators_of_parenthesis hd _)
  have hmodule : moduleDeclaration g true ⟨w ++ '(' :: r, o, f⟩ = none := by
    exact node_of_none ((readsNameAlone_firstWord hw (by decide) true).seq_eq_none
      fun d hd => seq_eq_none (moduleTail_of_parenthesis hd _ _))
  have hnamespace : namespaceDeclaration g true ⟨w ++ '(' :: r, o, f⟩ = none := by
    exact node_of_none ((readsNameAlone_firstWord hw (by decide) true).seq_eq_none
      fun d hd => seq_eq_none (moduleTail_of_parenthesis hd _ _))
  have htype : typeAliasDeclaration g true ⟨w ++ '(' :: r, o, f⟩ = none := by
    exact node_of_none ((readsNameAlone_firstWord hw (by decide) true).seq_eq_none
      fun d hd => seq_eq_none (role_of_none (thenFresh_of_none (word_of_parenthesis hd _ _))))
  have hambient : ambientDeclaration g true ⟨w ++ '(' :: r, o, f⟩ = none := by
    refine node_of_none ((readsNameAlone_firstWord hw (by decide) true).seq_eq_none
      fun d hd => seq_eq_none (oneOf_eq_none ?_))
    simp [hg d hd, seq_eq_none (keyword_of_parenthesis hd (v := "global") (by simp)),
      seq_eq_none (keyword_of_parenthesis hd (v := "module") (by simp))]
  simp only [declarationRule, bind_apply, ahead_apply, hahead, Option.bind_some, wordAt_append hw,
    beq_iff_eq, hat, hfree, Bool.or_eq_true, false_or, if_false]
  split
  · exact hfunction
  split
  · exact hlexical
  split
  · exact hmodule
  split
  · exact hnamespace
  split
  · exact htype
  split
  · exact hambient
  · rfl

theorem namedHeadAhead_of_name (hfree : String.ofList w ∉ reservedWords) :
    namedHeadAhead ⟨w ++ '(' :: r, o, f⟩ = some (false, ⟨w ++ '(' :: r, o, f⟩) := by
  simp only [reservedWords, operandWords, List.mem_append, List.mem_cons, not_or] at hfree
  refine wouldRead_of_none (oneOf_eq_none ?_)
  simp only [List.mem_cons, List.not_mem_nil, or_false, forall_eq_or_imp, forall_eq]
  refine ⟨?_, ?_, ?_⟩
  · exact seq_optionally_function hw (readsNameAlone_firstWord hw (by decide) true)
      hfree.1.1
  · exact seq_eq_none (keyword_of_ne hw (by decide) hfree.1.2.1)
  · refine (readsNameAlone_firstWord hw (by decide) true).seq_eq_none
      fun d hd => seq_eq_none (oneOf_eq_none ?_)
    simp [stringLiteral_of_parenthesis hd, word_of_parenthesis hd]

theorem exportAhead_of_name :
    exportAhead ⟨w ++ '(' :: r, o, f⟩ = some (false, ⟨w ++ '(' :: r, o, f⟩) := by
  cases h : firstWord true "export" ⟨w ++ '(' :: r, o, f⟩ with
  | none => simp [exportAhead, h]
  | some p =>
      have hd := readsNameAlone_firstWord hw (by decide) true p h
      have hheads : ∀ v ∈ exportedWords, v.toList.head?.any (· != '(') = true := by
        simp [exportedWords]
      have hwords : ∀ v ∈ exportedWords, wordStands v p.2.ahead = false :=
        fun v hv => wordStands_of_parenthesis hd (hheads v hv)
      rw [ahead_of_parenthesis hd] at hwords
      simpa [exportAhead, h, ahead_of_parenthesis hd, assignmentStands] using hwords

theorem behindBracket?_of_name : behindBracket? (w ++ '(' :: r) = none := by
  obtain ⟨a, s, rfl⟩ := List.exists_cons_of_ne_nil hw.ne_nil
  have hbracket : ∀ b, isMark b = true → a ≠ b := by
    rintro b hb rfl
    rw [hw.unmarked a (by simp)] at hb
    contradiction
  simp [behindBracket?, closerOf?, hbracket '(' (by decide), hbracket '[' (by decide),
    hbracket '\x7b' (by decide)]

omit hw in
theorem listArrow_eq_none {g : Grammar} {m : Mode} {c : Cursor} (but : List String)
    (hangle : c.ahead.head? ≠ some '<')
    (hbehind : ∀ s ∈ behindBracket? c.ahead, s = []) : listArrow g m but c = none := by
  have hparameters : parametersAhead c = some (false, c) := by
    cases h : behindBracket? c.ahead <;> simp_all [parametersAhead, arrowStands, Text.startsWith,
      Text.afterLead?]
  have hannotation : annotationBehind c = some (false, c) := by
    cases h : behindBracket? c.ahead <;> simp_all [annotationBehind]
  cases htypes : m.arrowTypes <;>
    simp [listArrow, arrowAhead, hangle, hparameters, hannotation, htypes]

theorem arrowFunction_of_name {g : Grammar} {m : Mode}
    (hbehind : behindBracket? ('(' :: r) = some []) :
    arrowFunction g m ⟨w ++ '(' :: r, o, f⟩ = none := by
  have hbare : bareArrow g m ⟨w ++ '(' :: r, o, f⟩ = none :=
    (readsNameAlone_word hw _ _).role.seq_eq_none fun d hd =>
      seq_eq_none (unlessHalted_of_none (mark_of_parenthesis hd (by simp)) _)
  have hlist (but : List String) : listArrow g m but ⟨w ++ '(' :: r, o, f⟩ = none := by
    apply listArrow_eq_none
    · rw [ahead_append hw]
      exact head?_append_ne hw (by decide)
    · simp [ahead_append hw, behindBracket?_of_name hw]
  have hasync {d : Cursor} (hd : d.rest = '(' :: r) : asyncArrow g m d = none := by
    have hlist : listArrow g m [] d = none := by
      apply listArrow_eq_none <;> simp [ahead_of_parenthesis hd, hbehind]
    have hword : word .identifier ("function" :: operatorWords) d = none :=
      word_of_parenthesis hd _ _
    exact oneOf_eq_none (by
      simp [hlist, seq_eq_none (role_of_none (thenFresh_of_none hword))])
  refine node_of_none (oneOf_eq_none ?_)
  simp only [List.mem_cons, List.not_mem_nil, or_false, forall_eq_or_imp, forall_eq, hbare, hlist,
    true_and]
  cases h : thenFresh false (keyword "async") ⟨w ++ '(' :: r, o, f⟩ with
  | none => simp [h]
  | some p =>
      have hd := (readsNameAlone_keyword hw (by decide)).thenFresh false p h
      simp [h, unlessHalted_of_none (hasync hd)]

theorem name_of_name (hfree : String.ofList w ∉ reservedWords) :
    name (String.ofList w) w.length ⟨w ++ '(' :: r, o, f⟩ =
      some ([.leaf .identifier o (o + Text.byteSize w)],
        ⟨'(' :: r, o + Text.byteSize w, false⟩) := by
  simp only [reservedWords, operandWords, List.mem_append, List.mem_cons, not_or] at hfree
  simp [name, hfree, lexeme_append hw, opensPlace]

theorem functionExpression_of_name {g : Grammar} (hfree : String.ofList w ∉ reservedWords) :
    functionExpression g ⟨w ++ '(' :: r, o, f⟩ = none := by
  simp only [reservedWords, operandWords, List.mem_append, List.mem_cons, not_or] at hfree
  have hasync : ReadsNameAlone w r o f (thenFresh false (keyword "async")) :=
    (readsNameAlone_keyword hw (by decide)).thenFresh false
  simp [functionExpression, seq_optionally_function hw hasync hfree.1.1]

theorem namespaceValue_of_name {g : Grammar} {m : Mode} :
    namespaceValue g m ⟨w ++ '(' :: r, o, f⟩ = none := by
  refine node_of_none ?_
  cases h : thenFresh false (keyword "namespace") ⟨w ++ '(' :: r, o, f⟩ with
  | none => simp [h]
  | some p =>
      have hd := (readsNameAlone_keyword hw (by decide)).thenFresh false p h
      simp [h, halted_of_parenthesis hd, moduleTail_of_parenthesis hd]

theorem atom_of_name {g : Grammar} {m : Mode} (hfree : String.ofList w ∉ reservedWords) :
    atom g m ⟨w ++ '(' :: r, o, f⟩ =
      some ([.leaf .identifier o (o + Text.byteSize w)],
        ⟨'(' :: r, o + Text.byteSize w, false⟩) := by
  have hname := name_of_name (r := r) (o := o) (f := f) hw hfree
  have hfunction := functionExpression_of_name (g := g) (r := r) (o := o) (f := f) hw hfree
  have hnamespace := namespaceValue_of_name (g := g) (m := m) (r := r) (o := o) (f := f) hw
  have hasync : oneOf [
      do
        let broken ← wouldRead (seq [keyword "async", missingSemicolon .expression])
        require (!(broken && m.stop.isSome))
        functionExpression g,
      name (String.ofList w) w.length] ⟨w ++ '(' :: r, o, f⟩ =
      some ([.leaf .identifier o (o + Text.byteSize w)],
        ⟨'(' :: r, o + Text.byteSize w, false⟩) := by
    refine (oneOf_cons_of_none ?_).trans (oneOf_cons hname)
    simp only [bind_apply, wouldRead, Option.bind_some, require_apply]
    split <;> simp [hfunction]
  have hahead : Cursor.ahead ⟨w ++ '(' :: r, o, f⟩ = w ++ '(' :: r := ahead_append hw
  have hlength := wordLength_append (r := r) hw
  have hpos : w.length ≠ 0 := mt List.length_eq_zero_iff.mp hw.ne_nil
  have htake : (w ++ '(' :: r).take w.length = w := List.take_left
  generalize heq : w ++ '(' :: r = s at hname hfunction hnamespace hasync hahead hlength htake ⊢
  obtain _ | ⟨a, t⟩ := s
  · simp at heq
  rw [atom, bind_apply, ahead_apply, Option.bind_some, hahead]
  dsimp only
  rw [hlength, htake]
  obtain ⟨hmark, hdigit⟩ := head_append hw heq
  have hne : ∀ b, isMark b = true → (a == b) = false := by
    intro b hb
    apply beq_eq_false_iff_ne.mpr
    rintro rfl
    rw [hmark] at hb
    contradiction
  simp only [reservedWords, operandWords, List.mem_append, List.mem_cons, not_or] at hfree
  simp only [hne '(' (by decide), hne '[' (by decide), hne '\x7b' (by decide),
    hne '\x22' (by decide), hne '\x27' (by decide), hne '\x60' (by decide), hne '/' (by decide),
    hne '@' (by decide), hne '.' (by decide), hdigit, hpos, Bool.or_self, Bool.false_eq_true,
    if_false]
  simp only [beq_iff_eq, hfree, if_false]
  have hunary : (unaryWords.contains (String.ofList w) || String.ofList w == "using") = false := by
    simp [unaryWords, hfree]
  rw [hunary]
  split
  · exact hasync
  split
  · exact (oneOf_cons_of_none hnamespace).trans (oneOf_cons hname)
  · exact hname

theorem chainRule_of_name {g : Grammar} {m : Mode} (hfree : String.ofList w ∉ reservedWords)
    (hbehind : behindBracket? ('(' :: r) = some []) :
    chainRule g m ⟨w ++ '(' :: r, o, f⟩ =
      withSuffixes g m [.leaf .identifier o (o + Text.byteSize w)]
        ⟨'(' :: r, o + Text.byteSize w, false⟩ := by
  have hatom := atom_of_name (g := g) (m := m) (r := r) (o := o) (f := f) hw hfree
  have harrow : arrowOperand g m ⟨w ++ '(' :: r, o, f⟩ = none := by
    simp [arrowOperand, arrowFunction_of_name hw hbehind]
  have hnew : wordStands "new" (Cursor.ahead ⟨w ++ '(' :: r, o, f⟩) = false := by
    rw [ahead_append hw, wordStands_append (by decide) hw.unmarked, decide_eq_false_iff_not]
    intro heq
    exact hfree (by simp [← heq, reservedWords])
  have hpos : 0 < w.length := List.length_pos_iff.mpr hw.ne_nil
  rw [chainRule, bind_apply, ahead_apply, Option.bind_some, ahead_append hw]
  dsimp only
  rw [wordLength_append hw,
    if_neg (by rw [beq_iff_eq]; exact head?_append_ne hw (by decide)), if_pos (by simp [hpos]),
    oneOf_cons_of_none harrow, oneOf_singleton, primary_of_atom hnew hatom]

end

/-- The node of the call of a name of `size` bytes at the beginning of a text. -/
def namedCall (size : Nat) : Node :=
  .mk .callExpression none ⟨0, size + 15⟩
    [.mk .identifier (some .function) ⟨0, size⟩ [], callNode size]

section

variable {w : Text} (hw : Spelled w) (hfree : String.ofList w ∉ reservedWords) (markup : Bool)
  (n : Nat)

include hw hfree

theorem derive_chain_of_name :
    derive markup (n + 6) (.chain .outer) (.ofText (w ++ callTail)) =
      some ([namedCall (Text.byteSize w)], ⟨[], Text.byteSize w + 15, false⟩) := by
  have hbehind : behindBracket? callTail = some [] := by decide
  have hsuffix : suffix ⟨markup, derive markup (n + 5)⟩ .outer
      [.leaf .identifier 0 (Text.byteSize w)] ⟨callTail, Text.byteSize w, false⟩ =
      some ([namedCall (Text.byteSize w)], ⟨[], Text.byteSize w + 15, false⟩) := by
    have harguments : callArguments ⟨markup, derive markup (n + 5)⟩
        ⟨callTail, Text.byteSize w, false⟩ =
        some ([callNode (Text.byteSize w)], ⟨[], Text.byteSize w + 15, false⟩) :=
      callArguments_of_callTail (t := [])
    refine oneOf_cons ?_
    simp [callSuffix, node, oneOf_cons harguments]
    rfl
  have hcallee : withSuffixes ⟨markup, derive markup (n + 5)⟩ .outer
      [.leaf .identifier 0 (Text.byteSize w)] ⟨callTail, Text.byteSize w, false⟩ =
      some ([namedCall (Text.byteSize w)], ⟨[], Text.byteSize w + 15, false⟩) := by
    have hahead : suffixAhead ⟨callTail, Text.byteSize w, false⟩ =
        some (true, ⟨callTail, Text.byteSize w, false⟩) := by
      simp [suffixAhead, callTail, Cursor.ahead_cons (show opensGap '(' = false by decide)]
    have hhalted : halted Mode.outer.stop ⟨callTail, Text.byteSize w, false⟩ =
        some (false, ⟨callTail, Text.byteSize w, false⟩) := halted_of_parenthesis rfl _
    simp [withSuffixes, suffixes, hahead, hhalted, hsuffix,
      suffixes_of_closesExpression (show closesExpression [] = true from rfl)]
  have hchain := chainRule_of_name (g := ⟨markup, derive markup (n + 5)⟩) (m := .outer) (o := 0)
    (f := true) hw hfree hbehind
  rw [Nat.zero_add] at hchain
  exact hchain.trans hcallee

omit hw hfree in
theorem derive_declaration_of_parenthesis {d : Cursor} {r : Text} (hd : d.rest = '(' :: r) :
    derive markup n (.declaration false) d = none := by
  have hword : wordAt ('(' :: r) = [] := by
    rw [wordAt, ← ahead_of_parenthesis hd, wordLength_of_parenthesis hd, List.take_zero]
  cases n with
  | zero => rfl
  | succ n =>
      change declarationRule ⟨markup, derive markup n⟩ false d = none
      simp [declarationRule, ahead_of_parenthesis hd, hword]

theorem wordStatement_of_name :
    wordStatement ⟨markup, derive markup n⟩ (String.ofList w) (.ofText (w ++ callTail)) = none := by
  have hdeclaration : derive markup n (.declaration true) (.ofText (w ++ callTail)) = none := by
    cases n with
    | zero => rfl
    | succ n =>
        exact declarationRule_of_name (g := ⟨markup, derive markup n⟩) hw hfree
          fun d hd => derive_declaration_of_parenthesis markup n hd
  simp only [reservedWords, operandWords, statementWords, List.mem_append, List.mem_cons, not_or,
    List.not_mem_nil] at hfree
  simp [wordStatement, hfree, hdeclaration]

theorem derive_expressions_of_name :
    derive markup (n + 10) (.expressions .outer) (.ofText (w ++ callTail)) =
      some ([namedCall (Text.byteSize w)], ⟨[], Text.byteSize w + 15, false⟩) := by
  refine derive_expressions_of_expression (by simp) rfl
    (derive_expression_of_chain ?_ rfl (derive_chain_of_name hw hfree markup n))
  have hsigns : "!~+-#<".toList.all isMark = true := by decide
  have hhead : ∀ a ∈ "!~+-#<".toList, (w ++ callTail).head? ≠ some a :=
    fun a ha => head?_append_ne hw (List.all_eq_true.mp hsigns a ha)
  simp only [reservedWords, operandWords, List.mem_append, List.mem_cons, not_or] at hfree
  have hunary : (unaryWords.contains (String.ofList w) || String.ofList w == "using") = false := by
    simp [unaryWords, hfree]
  have hwordAt : wordAt (w ++ callTail) = w := wordAt_append hw
  rw [Cursor.ofText, ahead_append hw, operandIsChain, hwordAt, hunary]
  cases hcases : (w ++ callTail).head? with
  | none => simp
  | some a =>
      have hne : a ∉ "!~+-#<".toList := fun ha => hhead a ha hcases
      simp at hne
      simp [hne]

theorem expressionStatement_of_name :
    expressionStatement ⟨markup, derive markup (n + 10)⟩ (.ofText (w ++ callTail)) =
      some ([.mk .expressionStatement none ⟨0, Text.byteSize w + 15⟩
          [namedCall (Text.byteSize w)]], ⟨[], Text.byteSize w + 15, true⟩) := by
  have hword : wordAt (Cursor.ahead (.ofText (w ++ callTail))) = w := by
    rw [Cursor.ofText, ahead_append hw]
    exact wordAt_append hw
  have hstatement : String.ofList w ∉ statementWords := fun h => hfree (by simp [reservedWords, h])
  have hdeclared : listDeclared (.ofText (w ++ callTail)) =
      some (false, .ofText (w ++ callTail)) :=
    wouldRead_of_none ((readsNameAlone_keyword hw (by decide)).seq_eq_none
      fun d hd => seq_eq_none (mark_of_parenthesis hd (by simp)))
  have hstop : semicolon .expression ⟨[], Text.byteSize w + 15, false⟩ =
      some ([], ⟨[], Text.byteSize w + 15, true⟩) := oneOf_cons (missingSemicolon_nil _)
  have hnode := node_of_some (k := .expressionStatement) (seq_cons
    (derive_expressions_of_name hw hfree markup n)
    (seq_cons hstop (seq_nil _)))
  simp only [expressionStatement, bind_apply, ahead_apply, Option.bind_some, hword, require_apply,
    List.contains_eq_mem, hstatement, decide_false, Bool.not_false, if_true, hdeclared]
  exact hnode

/-- The statement that calls a name, as the whole of a text. -/
theorem derive_statement_of_name :
    derive markup (n + 11) .statement (.ofText (w ++ callTail)) =
      some ([.mk .expressionStatement none ⟨0, Text.byteSize w + 15⟩
          [namedCall (Text.byteSize w)]], ⟨[], Text.byteSize w + 15, true⟩) := by
  have hlabeled : labeledStatement ⟨markup, derive markup (n + 10)⟩ (.ofText (w ++ callTail)) =
      none :=
    node_of_none ((readsNameAlone_word hw _ _).seq_eq_none
      fun d hd => seq_eq_none (mark_of_parenthesis hd (by simp)))
  have hexpression := expressionStatement_of_name hw hfree markup n
  have hwordAt : wordAt (w ++ callTail) = w := wordAt_append hw
  have hempty : (String.ofList w == "") = false := by
    simp [String.ofList_eq_empty_iff, hw.ne_nil]
  change statementRule ⟨markup, derive markup (n + 10)⟩ (.ofText (w ++ callTail)) = _
  rw [statementRule, bind_apply, ahead_apply, Option.bind_some, Cursor.ofText, ahead_append hw]
  have hsemicolon : (w ++ callTail).head? ≠ some ';' := head?_append_ne hw (by decide)
  have hbrace : (w ++ callTail).head? ≠ some '\x7b' := head?_append_ne hw (by decide)
  have hat : (w ++ callTail).head? ≠ some '@' := head?_append_ne hw (by decide)
  have hexport : exportAhead ⟨w ++ callTail, 0, true⟩ =
      some (false, ⟨w ++ callTail, 0, true⟩) := exportAhead_of_name hw
  have hnamed : namedHeadAhead ⟨w ++ callTail, 0, true⟩ =
      some (false, ⟨w ++ callTail, 0, true⟩) := namedHeadAhead_of_name hw hfree
  simp only [hwordAt, hempty, Bool.false_eq_true, if_false, bind_apply, hexport, hnamed,
    Option.bind_some]
  exact (oneOf_cons_of_none hlabeled).trans
    ((oneOf_cons_of_none (wordStatement_of_name hw hfree markup (n + 10))).trans
      (oneOf_cons hexpression))

omit n in
theorem parse?_of_name :
    parse? markup (w ++ callTail) =
      some (.mk .program none ⟨0, Text.byteSize w + 15⟩
        [.mk .expressionStatement none ⟨0, Text.byteSize w + 15⟩
          [namedCall (Text.byteSize w)]]) := by
  have hbang : hashBangLine (.ofText (w ++ callTail)) = none := by
    have hhash : (w ++ callTail).head? ≠ some '#' := head?_append_ne hw (by decide)
    have hstarts : Text.startsWith (w ++ callTail) "#!".toList = false := by
      cases hs : w ++ callTail with
      | nil => rfl
      | cons a s =>
          have hne : '#' ≠ a := fun heq => hhash (by rw [hs, heq]; rfl)
          simp [Text.startsWith, Text.afterLead?, hne]
    rw [hashBangLine, bind_apply, ahead_apply, Option.bind_some, Cursor.ofText, ahead_append hw,
      bind_apply, require_apply, hstarts]
    rfl
  have hvisible : (callTail.all fun c => c.toNat != 0) = true := by decide
  have hnull : ((w ++ callTail).any fun c => c.toNat == 0) = false := by
    have hzero : ∀ a : Char, a.toNat = 0 → isMark a = true := by
      intro a ha
      simp [isMark, ha]
    simp only [List.any_append, Bool.or_eq_false_iff, List.any_eq_false, beq_iff_eq]
    constructor
    · intro a ha hzero'
      exact absurd (hw.unmarked a ha) (by simp [hzero a hzero'])
    · exact fun a ha => by simpa using List.all_eq_true.mp hvisible a ha
  obtain ⟨n, hn⟩ : ∃ n, depthPerCharacter * ((w ++ callTail).length + 1) = n + 11 :=
    ⟨depthPerCharacter * ((w ++ callTail).length + 1) - 11, by
      simp [depthPerCharacter, callTail]; omega⟩
  have hstatement := derive_statement_of_name hw hfree markup n
  have hend : derive markup (n + 11) .statement ⟨[], Text.byteSize w + 15, true⟩ = none :=
    derive_statement_of_closesBlock rfl _
  have hmany := many_once hstatement (by simp [Cursor.ofText]) hend
  have hcomments : comments ⟨[], Text.byteSize w + 15, true⟩ =
    some ([], ⟨[], Text.byteSize w + 15, true⟩) := rfl
  have hseq := seq_cons (optionally_of_none hbang) (seq_cons hmany (seq_cons hcomments (seq_nil _)))
  simp only [parse?, hnull, hn, programRule, bind_apply, hseq, Option.bind_some, get_apply]
  rw [Text.byteSize_append]
  rfl

end

end SpanWeave.Syntax
