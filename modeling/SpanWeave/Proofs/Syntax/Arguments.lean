import SpanWeave.Proofs.Syntax.Operand

namespace SpanWeave.Syntax

/-- A text that ends a block, or the end of a source. -/
def closesBlock : Text → Bool
  | [] => true
  | a :: _ => a == '\x7d'

theorem closesBlock_cases {s : Text} (h : closesBlock s = true) :
    s = [] ∨ ∃ t, s = '\x7d' :: t := by
  cases s with
  | nil => exact .inl rfl
  | cons a s => exact .inr ⟨s, by rw [beq_iff_eq.mp h]⟩

theorem wordLength_of_closesBlock {s : Text} (h : closesBlock s = true) : wordLength s = 0 := by
  obtain rfl | ⟨t, rfl⟩ := closesBlock_cases h
  · rfl
  · simp [wordLength, wordTailLength, show isMark '\x7d' = true by decide]

section

variable {g : Grammar} {m : Mode} {c : Cursor}

theorem constructorAhead_of_not_wordStands (h : wordStands "new" c.ahead = false) :
    constructorAhead m c = some (false, c) := by
  have hnew : thenFresh false (keyword "new") c = none :=
    thenFresh_of_none (keyword_of_not_wordStands h)
  simp [constructorAhead, hnew]

theorem primary_of_atom {ns : Forest} {d : Cursor} (h : wordStands "new" c.ahead = false)
    (hatom : atom g m c = some (ns, d)) : primary g m c = withSuffixes g m ns d := by
  simp [primary, constructorAhead_of_not_wordStands h, hatom]

theorem primary_eq_none (h : wordStands "new" c.ahead = false) (hatom : atom g m c = none) :
    primary g m c = none := by
  simp [primary, constructorAhead_of_not_wordStands h, hatom]

theorem expressionStatement_eq_none (h : g.read (.expressions .outer) c = none) :
    expressionStatement g c = none := by
  have hnode : node .expressionStatement
      (seq [g.read (.expressions .outer), semicolon .expression]) c = none :=
    node_of_none (seq_eq_none h)
  simp only [expressionStatement, bind_apply, ahead_apply, Option.bind_some, require_apply]
  split
  · cases hdeclared : (seq [keyword "let", mark "["] c).isSome <;>
      simp [listDeclared, wouldRead, hnode]
  · rfl

theorem chainRule_of_closesBlock (h : closesBlock c.ahead = true) : chainRule g m c = none := by
  have hlength := wordLength_of_closesBlock h
  have hnew : wordStands "new" c.ahead = false := by
    obtain hs | ⟨t, hs⟩ := closesBlock_cases h <;> simp [hs, wordStands, Text.afterLead?]
  obtain hs | ⟨t, hs⟩ := closesBlock_cases h <;> rw [hs] at hlength <;>
    simp [chainRule, hs, hlength, primary_eq_none hnew, atom]

end

section

variable {markup : Bool} {m : Mode} {c : Cursor}

theorem derive_expressions_of_closesBlock (h : closesBlock c.ahead = true) (n : Nat) :
    derive markup n (.expressions m) c = none := by
  have hword : wordAt c.ahead = [] := by simp [wordAt, wordLength_of_closesBlock h]
  have hchain (n : Nat) : derive markup n (.chain m) c = none := by
    cases n with
    | zero => rfl
    | succ n => exact chainRule_of_closesBlock h
  have hoperand : operandIsChain markup c.ahead = true := by
    obtain hs | ⟨t, hs⟩ := closesBlock_cases h <;> rw [hs] at hword ⊢ <;>
      simp [operandIsChain, hword, unaryWords]
  -- Four goals lie between an expression and its chain; above them there is no rule left.
  rcases n with _ | _ | _ | _ | n
  · rfl
  · rfl
  · rfl
  · rfl
  · exact derive_expressions_of_expression_eq_none
      (derive_expression_of_chain_eq_none hoperand (hchain n))

theorem derive_statement_of_closesBlock (h : closesBlock c.ahead = true) (n : Nat) :
    derive markup n .statement c = none := by
  cases n with
  | zero => rfl
  | succ n =>
      have hexpressions : derive markup n (.expressions .outer) c = none :=
        derive_expressions_of_closesBlock h n
      have hstatement : expressionStatement ⟨markup, derive markup n⟩ c = none :=
        expressionStatement_eq_none hexpressions
      have hword : wordAt c.ahead = [] := by simp [wordAt, wordLength_of_closesBlock h]
      change statementRule ⟨markup, derive markup n⟩ c = none
      obtain hs | ⟨t, hs⟩ := closesBlock_cases h <;> rw [hs] at hword <;>
        simp [statementRule, hs, hword, hstatement]

end

/-- `{}`, in parentheses that close behind it. -/
def blockText : Text := [' ', '\x7b', '\x7d', ')']

/-- `() => {}`, in parentheses that close behind it. -/
def functionText : Text := [' ', '(', ')', ' ', '=', '>'] ++ blockText

/-- `('x', () => {})`, as it stands behind a name. -/
def callTail : Text := ['(', '\x27', 'x', '\x27', ','] ++ functionText

/-- The node of `{}` as the body of a function. -/
def emptyBlock (role : Option Field) (o : Nat) : Node :=
  .mk .statementBlock role ⟨o, o + 2⟩
    [.leaf (.token "\x7b") o (o + 1), .leaf (.token "\x7d") (o + 1) (o + 2)]

/-- The node of `()` as the parameters of a function. -/
def emptyParameters (role : Option Field) (o : Nat) : Node :=
  .mk .formalParameters role ⟨o, o + 2⟩
    [.leaf (.token "(") o (o + 1), .leaf (.token ")") (o + 1) (o + 2)]

/-- The node of `() => {}`. -/
def emptyFunction (o : Nat) : Node :=
  .mk .arrowFunction none ⟨o, o + 8⟩
    [emptyParameters (some .parameters) o, .leaf (.token "=>") (o + 3) (o + 5),
      emptyBlock (some .body) (o + 6)]

/-- The node of `('x', () => {})` as the arguments of a call. -/
def callNode (o : Nat) : Node :=
  .mk .arguments (some .arguments) ⟨o, o + 15⟩
    [.leaf (.token "(") o (o + 1), .leaf .string (o + 1) (o + 4),
      .leaf (.token ",") (o + 4) (o + 5), emptyFunction (o + 6),
      .leaf (.token ")") (o + 14) (o + 15)]

section

variable {markup : Bool} {m : Mode} {t : Text} {o n : Nat} {f : Bool} {c : Cursor}

theorem derive_block_of_blockText :
    derive markup (n + 1) (.block .expression) ⟨blockText ++ t, o, f⟩ =
      some ([emptyBlock none (o + 1)], ⟨')' :: t, o + 3, false⟩) := by
  have hopen : mark "\x7b" ⟨'\x7b' :: '\x7d' :: ')' :: t, o + 1, f⟩ =
      some ([.leaf (.token "\x7b") (o + 1) (o + 2)], ⟨'\x7d' :: ')' :: t, o + 2, true⟩) :=
    mark_of_toList (by simp) (by decide) (by decide) (by simp [opensPlace])
  have hclose : mark "\x7d" ⟨'\x7d' :: ')' :: t, o + 2, true⟩ =
      some ([.leaf (.token "\x7d") (o + 2) (o + 3)], ⟨')' :: t, o + 3, false⟩) :=
    mark_of_toList (by simp) (by decide) (by decide) (by simp [opensPlace])
  have hmany : many (derive markup n .statement) ⟨'\x7d' :: ')' :: t, o + 2, true⟩ =
      some ([], ⟨'\x7d' :: ')' :: t, o + 2, true⟩) :=
    many_of_none (derive_statement_of_closesBlock
      (by rw [Cursor.ahead_cons (by decide)]; rfl) n)
  have hend : optionally (missingSemicolon .expression) ⟨')' :: t, o + 3, false⟩ =
      some ([], ⟨')' :: t, o + 3, false⟩) :=
    optionally_of_none (missingSemicolon_cons (by decide) (by decide) _)
  change blockRule ⟨markup, derive markup n⟩ .expression _ = _
  exact node_of_some (seq_cons (mark_space.trans hopen)
    (seq_cons hmany (seq_cons hclose (seq_cons hend (seq_nil _)))))

theorem arrowBody_of_blockText :
    arrowBody ⟨markup, derive markup (n + 1)⟩ m ⟨blockText ++ t, o, f⟩ =
      some ([emptyBlock (some .body) (o + 1)], ⟨')' :: t, o + 3, false⟩) := by
  have hahead : Cursor.ahead ⟨blockText ++ t, o, f⟩ = '\x7b' :: '\x7d' :: ')' :: t :=
    Cursor.ahead_space.trans (Cursor.ahead_cons (by decide))
  have hbehind : behindBracket? ('\x7b' :: '\x7d' :: ')' :: t) = some (')' :: t) := by
    simp [behindBracket?, closerOf?, afterClose?, Cursor.ofText,
      Cursor.ahead_cons (show opensGap ')' = false by decide)]
  simp [arrowBody, role, hahead, Text.startsWith, Text.afterLead?, targetAhead, hbehind,
    assignmentStands, oneOf_cons derive_block_of_blockText]
  rfl

theorem derive_parameters_of_functionText :
    derive markup (n + 1) .parameters ⟨functionText ++ t, o, f⟩ =
      some ([emptyParameters none (o + 1)],
        ⟨' ' :: '=' :: '>' :: (blockText ++ t), o + 3, true⟩) := by
  have hopen {s : Text} : mark "(" ⟨'(' :: s, o + 1, f⟩ =
      some ([.leaf (.token "(") (o + 1) (o + 2)], ⟨s, o + 2, true⟩) :=
    mark_of_toList (by simp) (by decide) (by decide) (by simp [opensPlace])
  have hclose {s : Text} : mark ")" ⟨')' :: s, o + 2, true⟩ =
      some ([.leaf (.token ")") (o + 2) (o + 3)], ⟨s, o + 3, false⟩) :=
    mark_of_toList (by simp) (by decide) (by decide) (by simp [opensPlace])
  change formalParameters ⟨markup, derive markup n⟩ _ = _
  exact node_of_some (oneOf_cons
    (seq_cons (mark_space.trans hopen) (seq_cons (thenFresh_of_some hclose) (seq_nil _))))

theorem ahead_functionText : Cursor.ahead ⟨functionText ++ t, o, f⟩ =
    '(' :: ')' :: ' ' :: '=' :: '>' :: (blockText ++ t) :=
  Cursor.ahead_space.trans (Cursor.ahead_cons (by decide))

theorem behindBracket?_functionText (hc : c = ⟨functionText ++ t, o, f⟩) :
    behindBracket? c.ahead = some ('=' :: '>' :: (blockText ++ t)) := by
  rw [hc, ahead_functionText]
  simp [behindBracket?, closerOf?, afterClose?, Cursor.ofText,
    Cursor.ahead_cons (show opensGap '=' = false by decide)]

theorem listArrow_of_functionText (hc : c = ⟨functionText ++ t, o, f⟩) (but : List String) :
    listArrow ⟨markup, derive markup (n + 1)⟩ m but c =
      some ((emptyFunction (o + 1)).children, ⟨')' :: t, o + 9, false⟩) := by
  have hahead : c.ahead = '(' :: ')' :: ' ' :: '=' :: '>' :: (blockText ++ t) :=
    hc ▸ ahead_functionText
  have harrowAhead : arrowAhead m c = some (true, c) := by
    have hparameters : parametersAhead c = some (true, c) := by
      simp [parametersAhead, behindBracket?_functionText hc, arrowStands, Text.startsWith,
        Text.afterLead?]
    simp [arrowAhead, hahead, hparameters]
  have htypes : optionally (typeParameters ⟨markup, derive markup (n + 1)⟩ but) c =
      some ([], c) := by
    refine optionally_of_none (node_of_none (seq_eq_none (mark_of_not_startsWith ?_)))
    simp [hahead, Text.startsWith, Text.afterLead?]
  have hparameters : thenFresh true (role .parameters (derive markup (n + 1) .parameters)) c =
      some ([emptyParameters (some .parameters) (o + 1)],
        ⟨' ' :: '=' :: '>' :: (blockText ++ t), o + 3, true⟩) :=
    thenFresh_of_some (role_of_some (hc ▸ derive_parameters_of_functionText))
  have harrow : mark "=>" ⟨'=' :: '>' :: (blockText ++ t), o + 4, true⟩ =
      some ([.leaf (.token "=>") (o + 4) (o + 6)], ⟨blockText ++ t, o + 6, true⟩) := by
    rw [mark_of_afterLead? (by decide) (by simp [Text.afterLead?]; rfl)]
    simp [opensPlace, utf8Size_of_lt]
  simp only [listArrow, bind_apply, harrowAhead, Option.bind_some, require_apply, if_true]
  exact seq_cons htypes (seq_cons hparameters
    (seq_cons (oneOf_cons (mark_space.trans harrow)) (seq_cons arrowBody_of_blockText (seq_nil _))))

theorem arrowFunction_of_functionText (hc : c = ⟨functionText ++ t, o, f⟩) :
    arrowFunction ⟨markup, derive markup (n + 1)⟩ m c =
      some ([emptyFunction (o + 1)], ⟨')' :: t, o + 9, false⟩) := by
  have hbare : bareArrow ⟨markup, derive markup (n + 1)⟩ m c = none := by
    refine seq_eq_none (role_of_none (word_of_wordLength ?_))
    rw [hc, ahead_functionText]
    simp [wordLength, wordTailLength, show isMark '(' = true by decide]
  exact node_of_some
    ((oneOf_cons_of_none hbare).trans (oneOf_cons (listArrow_of_functionText hc _)))

theorem derive_chain_of_functionText (hc : c = ⟨functionText ++ t, o, f⟩) :
    derive markup (n + 2) (.chain m) c =
      some ([emptyFunction (o + 1)], ⟨')' :: t, o + 9, false⟩) := by
  have harrow : arrowOperand ⟨markup, derive markup (n + 1)⟩ m c =
      some ([emptyFunction (o + 1)], ⟨')' :: t, o + 9, false⟩) := by
    have hclosed : (((emptyFunction (o + 1)).child? .body).any fun b =>
        decide (b.kind = .statementBlock)) = true := rfl
    have hsuffixes : withSuffixes ⟨markup, derive markup (n + 1)⟩ m [emptyFunction (o + 1)]
        ⟨')' :: t, o + 9, false⟩ = some ([emptyFunction (o + 1)], ⟨')' :: t, o + 9, false⟩) :=
      suffixes_of_closesExpression rfl _ _
    simp [arrowOperand, arrowFunction_of_functionText hc, hclosed, hsuffixes]
  have hahead : c.ahead = '(' :: ')' :: ' ' :: '=' :: '>' :: (blockText ++ t) :=
    hc ▸ ahead_functionText
  change chainRule ⟨markup, derive markup (n + 1)⟩ m c = _
  simp [chainRule, hahead, oneOf_cons harrow]

theorem derive_expression_of_functionText :
    derive markup (n + 5) (.expression .inner) ⟨functionText ++ t, o, f⟩ =
      some ([emptyFunction (o + 1)], ⟨')' :: t, o + 9, false⟩) := by
  refine derive_expression_of_chain ?_ rfl (derive_chain_of_functionText rfl)
  rw [ahead_functionText]
  simp [operandIsChain, wordAt, wordLength, wordTailLength, show isMark '(' = true by decide,
    unaryWords]

theorem derive_expression_of_string :
    derive markup (n + 4) (.expression .inner) ⟨'\x27' :: 'x' :: '\x27' :: ',' :: t, o, f⟩ =
      some ([.leaf .string o (o + 3)], ⟨',' :: t, o + 3, false⟩) := by
  have hgap : opensGap '\x27' = false := by decide
  have hmark : isMark '\x27' = true := by decide
  have hahead : Cursor.ahead ⟨'\x27' :: 'x' :: '\x27' :: ',' :: t, o, f⟩ =
    '\x27' :: 'x' :: '\x27' :: ',' :: t := Cursor.ahead_cons hgap
  have hstring : stringLiteral ⟨'\x27' :: 'x' :: '\x27' :: ',' :: t, o, f⟩ =
      some ([.leaf .string o (o + 3)], ⟨',' :: t, o + 3, false⟩) := by
    simp [stringLiteral, hahead, stringTailLength?, lexeme, Cursor.trivia_cons hgap,
      Cursor.advance, opensPlace, utf8Size_of_lt]
  have hatom : atom ⟨markup, derive markup n⟩ .inner ⟨'\x27' :: 'x' :: '\x27' :: ',' :: t, o, f⟩ =
      some ([.leaf .string o (o + 3)], ⟨',' :: t, o + 3, false⟩) := by
    simp [atom, hahead, hstring]
  have hprimary : primary ⟨markup, derive markup n⟩ .inner
      ⟨'\x27' :: 'x' :: '\x27' :: ',' :: t, o, f⟩ =
      some ([.leaf .string o (o + 3)], ⟨',' :: t, o + 3, false⟩) := by
    rw [primary_of_atom (by simp [hahead, wordStands, Text.afterLead?]) hatom]
    exact suffixes_of_closesExpression rfl _ _
  refine derive_expression_of_chain ?_ rfl ?_
  · simp [operandIsChain, hahead, wordAt, wordLength, wordTailLength, hmark, unaryWords]
  · change chainRule ⟨markup, derive markup n⟩ .inner _ = _
    simp [chainRule, hahead, wordLength, wordTailLength, hmark, hprimary]

theorem callArguments_of_callTail :
    callArguments ⟨markup, derive markup (n + 5)⟩ ⟨callTail ++ t, o, f⟩ =
      some ([callNode o], ⟨t, o + 15, false⟩) := by
  obtain ⟨argument, hargument⟩ : ∃ r, r = spreadOr ⟨markup, derive markup (n + 5)⟩ := ⟨_, rfl⟩
  have hspread {c : Cursor} (h : Text.startsWith c.ahead "...".toList = false) :
      argument c = derive markup (n + 5) (.expression .inner) c := by
    rw [hargument, spreadOr, oneOf_cons_of_none, oneOf_singleton]
    exact node_of_none (seq_eq_none (mark_of_not_startsWith h))
  have hopen {s : Text} : mark "(" ⟨'(' :: s, o, f⟩ =
      some ([.leaf (.token "(") o (o + 1)], ⟨s, o + 1, true⟩) :=
    mark_of_toList (by simp) (by decide) (by decide) (by simp [opensPlace])
  have hfirst {s : Text} : optionally argument ⟨'\x27' :: 'x' :: '\x27' :: ',' :: s, o + 1, true⟩ =
      some ([.leaf .string (o + 1) (o + 4)], ⟨',' :: s, o + 4, false⟩) := by
    refine optionally_of_some ((hspread ?_).trans derive_expression_of_string)
    simp [Cursor.ahead_cons (show opensGap '\x27' = false by decide), Text.startsWith,
      Text.afterLead?]
  have hcomma {s : Text} : mark "," ⟨',' :: s, o + 4, false⟩ =
      some ([.leaf (.token ",") (o + 4) (o + 5)], ⟨s, o + 5, true⟩) :=
    mark_of_toList (by simp) (by decide) (by decide) (by simp [opensPlace])
  have hsecond : optionally argument ⟨functionText ++ t, o + 5, true⟩ =
      some ([emptyFunction (o + 6)], ⟨')' :: t, o + 14, false⟩) := by
    refine optionally_of_some ((hspread ?_).trans derive_expression_of_functionText)
    rw [ahead_functionText]
    simp [Text.startsWith, Text.afterLead?]
  have hend : seq [mark ",", optionally argument] ⟨')' :: t, o + 14, false⟩ = none := by
    refine seq_eq_none (mark_of_not_startsWith ?_)
    simp [Cursor.ahead_cons (show opensGap ')' = false by decide), Text.startsWith,
      Text.afterLead?]
  have hclose : mark ")" ⟨')' :: t, o + 14, false⟩ =
      some ([.leaf (.token ")") (o + 14) (o + 15)], ⟨t, o + 15, false⟩) :=
    mark_of_toList (by simp) (by decide) (by decide) (by simp [opensPlace])
  have hlist := seq_cons hcomma (seq_cons hsecond (seq_nil _))
  have hitems := seq_cons hfirst (seq_cons (many_once hlist (by simp) hend) (seq_nil _))
  subst hargument
  exact role_of_some (node_of_some (seq_cons hopen (seq_cons hitems (seq_cons hclose (seq_nil _)))))

end

end SpanWeave.Syntax
