import SpanWeave.Proofs.Syntax.Reading

namespace SpanWeave.Syntax

/-- The text begins with a comma or a closing parenthesis, or it is empty. -/
def closesExpression : Text → Bool
  | [] => true
  | a :: _ => a == ',' || a == ')'

/-- What can stand behind an operand in a longer expression begins with none of these. -/
def begins (lead : Text) : Bool := lead.head?.any fun a => a != ',' && a != ')'

theorem afterLead?_of_closesExpression {s lead : Text} (h : closesExpression s = true)
    (hlead : begins lead = true) : Text.afterLead? lead s = none := by
  cases s with
  | nil =>
      cases lead with
      | nil => simp [begins] at hlead
      | cons b lead => rfl
  | cons a s =>
      refine afterLead?_cons_of_head? ?_
      simp only [closesExpression, Bool.or_eq_true, beq_iff_eq] at h
      cases lead with
      | nil => simp [begins] at hlead
      | cons b lead => rcases h with rfl | rfl <;> simp_all [begins]

section

variable {g : Grammar} {m : Mode} {s : Text} {o : Nat} {f : Bool} {left : Forest}

@[simp] theorem ahead_of_closesExpression (h : closesExpression s = true) :
    Cursor.ahead ⟨s, o, f⟩ = s := by
  cases s with
  | nil => rfl
  | cons a s =>
      simp only [closesExpression, Bool.or_eq_true, beq_iff_eq] at h
      rcases h with rfl | rfl <;> exact Cursor.ahead_cons (by decide)

theorem mark_of_closesExpression (h : closesExpression s = true) {sign : String}
    (hsign : begins sign.toList = true) : mark sign ⟨s, o, f⟩ = none := by
  simp [mark, h, Text.startsWith, afterLead?_of_closesExpression h hsign]

theorem markUnless_of_closesExpression (h : closesExpression s = true) {sign : String}
    (hsign : begins sign.toList = true) (bad : String) :
    markUnless sign bad ⟨s, o, f⟩ = none := by
  simp [markUnless, h, afterLead?_of_closesExpression h hsign]

theorem wordStands_of_closesExpression (h : closesExpression s = true) {w : String}
    (hw : begins w.toList = true) : wordStands w s = false := by
  simp [wordStands, afterLead?_of_closesExpression h hw]

theorem keyword_of_closesExpression (h : closesExpression s = true) {w : String}
    (hw : begins w.toList = true) : keyword w ⟨s, o, f⟩ = none := by
  simp [keyword, h, wordStands_of_closesExpression h hw]

theorem assignmentTail_of_closesExpression (h : closesExpression s = true) :
    assignmentTail g m left ⟨s, o, f⟩ = some (left, ⟨s, o, f⟩) := by
  have hassign : markUnless "=" "=>" ⟨s, o, f⟩ = none :=
    markUnless_of_closesExpression h (by simp [begins]) _
  have haugmented : oneOf (augmentedSigns.map mark) ⟨s, o, f⟩ = none := by
    have hsigns : ∀ sign ∈ augmentedSigns, mark sign ⟨s, o, f⟩ = none := fun sign hsign =>
      mark_of_closesExpression h ((show ∀ sign ∈ augmentedSigns, begins sign.toList = true by
        simp [augmentedSigns, begins]) sign hsign)
    exact oneOf_eq_none (by simpa using hsigns)
  rw [assignmentTail, oneOf_cons_of_none]
  · exact oneOf_cons rfl
  refine unlessHalted_of_none (oneOf_eq_none ?_) _
  simp only [List.mem_cons, List.not_mem_nil, or_false, forall_eq_or_imp, forall_eq]
  constructor
  · exact node_of_none (bind_require_of_none (by simp [seq_eq_none hassign]) _)
  · exact node_of_none (bind_require_of_none (by simp [seq_eq_none haugmented]) _)

theorem operatorAt?_of_closesExpression (h : closesExpression s = true) : operatorAt? s = none := by
  have hin : wordStands "in" s = false := wordStands_of_closesExpression h (by simp [begins])
  have hinstance : wordStands "instanceof" s = false :=
    wordStands_of_closesExpression h (by simp [begins])
  unfold operatorAt?
  split <;> simp_all [closesExpression]

theorem typedTail_of_closesExpression (h : closesExpression s = true) :
    typedTail g m left ⟨s, o, f⟩ = none := by
  have has : keyword "as" ⟨s, o, f⟩ = none := keyword_of_closesExpression h (by simp [begins])
  have hsatisfies : keyword "satisfies" ⟨s, o, f⟩ = none :=
    keyword_of_closesExpression h (by simp [begins])
  simp [typedTail, oneOf, node, seq_eq_none has, seq_eq_none hsatisfies]

theorem binaryTail_of_closesExpression (h : closesExpression s = true) (level fuel : Nat) :
    binaryTail g m level fuel left ⟨s, o, f⟩ = some (left, ⟨s, o, f⟩) := by
  cases fuel with
  | zero => rfl
  | succ fuel =>
      obtain ⟨b, hb⟩ := exists_halted m.stop ⟨s, o, f⟩
      cases b
      · simp only [binaryTail, bind_apply, hb, Option.bind_some, Bool.false_eq_true, if_false,
          ahead_apply, ahead_of_closesExpression h, operatorAt?_of_closesExpression h]
        split
        · simp [typedTail_of_closesExpression h]
        · rfl
      · simp [binaryTail, hb]

theorem choiceAhead_of_closesExpression (h : closesExpression s = true) :
    choiceAhead ⟨s, o, f⟩ = some (false, ⟨s, o, f⟩) := by
  have hahead : Cursor.ahead ⟨s, o, f⟩ = s := ahead_of_closesExpression h
  have hchoice : choiceAhead.choiceStands s = false := by
    unfold choiceAhead.choiceStands
    split <;> simp_all [closesExpression]
  rw [Cursor.ahead] at hahead
  simp [choiceAhead, hahead, hchoice]

theorem suffixes_of_closesExpression (h : closesExpression s = true)
    (step : Forest → Rule Forest) (fuel : Nat) :
    suffixes m step fuel left ⟨s, o, f⟩ = some (left, ⟨s, o, f⟩) := by
  have hnone : (s.head?.any fun c => "(.[!\x60?<+-".toList.contains c) = false := by
    cases s with
    | nil => rfl
    | cons a s =>
        simp only [closesExpression, Bool.or_eq_true, beq_iff_eq] at h
        rcases h with rfl | rfl <;> rfl
  cases fuel with
  | zero => rfl
  | succ fuel =>
      obtain ⟨b, hb⟩ := exists_halted m.stop ⟨s, o, f⟩
      simp only [suffixes, suffixAhead, bind_apply, ahead_apply, ahead_of_closesExpression h,
        Option.bind_some, pure_apply, hnone, hb]
      simp

end

/-- The operand ahead begins with neither a sign nor a word in front of an operand. -/
def operandIsChain (markup : Bool) (s : Text) : Bool :=
  !(s.head?.any fun a => "!~+-".toList.contains a) && s.head? != some '#' &&
    (markup || s.head? != some '<') &&
    !(unaryWords.contains (String.ofList (wordAt s)) || String.ofList (wordAt s) == "using")

section

variable {markup : Bool} {n : Nat} {m : Mode} {c : Cursor} {s : Text} {o : Nat} {f : Bool}
  {left : Forest}

theorem operandRule_of_operandIsChain {g : Grammar} (h : operandIsChain g.markup c.ahead = true) :
    operandRule g m c = (g.read (.chain m) c).bind fun p => assignmentTail g m p.1 p.2 := by
  simp only [operandIsChain, Bool.and_eq_true, Bool.not_eq_true', Bool.or_eq_false_iff, bne_iff_ne,
    ne_eq, Bool.or_eq_true] at h
  obtain ⟨⟨⟨hsign, hhash⟩, hangle⟩, hunary, husing⟩ := h
  have hassertion : (c.ahead.head? == some '<' && !g.markup) = false := by
    cases hmarkup : g.markup <;> simp_all
  simp only [operandRule, bind_apply, ahead_apply, Option.bind_some, hsign, hassertion,
    hunary, husing, beq_eq_false_iff_ne.mpr hhash, Bool.false_eq_true, if_false]

/-- A chain that nothing continues is the whole expression. -/
theorem derive_expression_of_chain (hs : operandIsChain markup c.ahead = true)
    (hclose : closesExpression s = true)
    (h : derive markup n (.chain m) c = some (left, ⟨s, o, f⟩)) :
    derive markup (n + 3) (.expression m) c = some (left, ⟨s, o, f⟩) := by
  have hoperand : derive markup (n + 1) (.operand m) c = some (left, ⟨s, o, f⟩) := by
    change operandRule ⟨markup, derive markup n⟩ m c = _
    simp [operandRule_of_operandIsChain (g := ⟨markup, derive markup n⟩) hs, h,
      assignmentTail_of_closesExpression hclose]
  have hbinary : derive markup (n + 2) (.binary 0 m) c = some (left, ⟨s, o, f⟩) := by
    change binaryRule ⟨markup, derive markup (n + 1)⟩ 0 m c = _
    simp [binaryRule, hoperand, binaryTail_of_closesExpression hclose]
  change expressionRule ⟨markup, derive markup (n + 2)⟩ m c = _
  obtain ⟨b, hb⟩ := exists_halted m.stop ⟨s, o, f⟩
  simp [expressionRule, hbinary, choiceAhead_of_closesExpression hclose, hb]

theorem derive_expression_of_chain_eq_none (hs : operandIsChain markup c.ahead = true)
    (h : derive markup n (.chain m) c = none) : derive markup (n + 3) (.expression m) c = none := by
  have hoperand : derive markup (n + 1) (.operand m) c = none := by
    change operandRule ⟨markup, derive markup n⟩ m c = _
    simp [operandRule_of_operandIsChain (g := ⟨markup, derive markup n⟩) hs, h]
  have hbinary : derive markup (n + 2) (.binary 0 m) c = none := by
    change binaryRule ⟨markup, derive markup (n + 1)⟩ 0 m c = _
    simp [binaryRule, hoperand]
  change expressionRule ⟨markup, derive markup (n + 2)⟩ m c = _
  simp [expressionRule, hbinary]

theorem derive_expressions_of_expression (hcomma : s.head? ≠ some ',')
    (hclose : closesExpression s = true)
    (h : derive markup n (.expression m) c = some (left, ⟨s, o, f⟩)) :
    derive markup (n + 1) (.expressions m) c = some (left, ⟨s, o, f⟩) := by
  have hstarts : Text.startsWith s [','] = false := by
    cases s with
    | nil => rfl
    | cons a s =>
        have hne : ',' ≠ a := fun heq => hcomma (heq ▸ rfl)
        simp [Text.startsWith, Text.afterLead?, hne]
  change expressionsRule ⟨markup, derive markup n⟩ m c = _
  obtain ⟨b, hb⟩ := exists_halted m.stop ⟨s, o, f⟩
  simp [expressionsRule, h, hclose, hstarts, hb]

theorem derive_expressions_of_expression_eq_none (h : derive markup n (.expression m) c = none) :
    derive markup (n + 1) (.expressions m) c = none := by
  change expressionsRule ⟨markup, derive markup n⟩ m c = _
  simp [expressionsRule, h]

end

end SpanWeave.Syntax
