import SpanWeave.Proofs.Weave.Restoration

namespace SpanWeave

open Syntax Text

namespace Syntax.Node

/-- Quoted strings, those of attributes included, and templates. -/
def isLiteral (n : Node) : Bool := n.kind = .string || n.kind = .templateString

mutual

def literals : Node → List Node
  | mk k f s cs => (if (mk k f s cs).isLiteral then [mk k f s cs] else []) ++ literalsIn cs

def literalsIn : List Node → List Node
  | [] => []
  | c :: cs => literals c ++ literalsIn cs

end

mutual

theorem under_of_mem_literals {c : Node} (n : Node) (h : c ∈ n.literals) :
    c.Under n ∧ c.isLiteral = true := by
  cases n with
  | mk k f s cs =>
      rw [literals, List.mem_append] at h
      rcases h with h | h
      · split at h
        · rename_i hliteral
          obtain rfl := List.mem_singleton.mp h
          exact ⟨.root, hliteral⟩
        · simp at h
      · obtain ⟨m, hm, hunder, hliteral⟩ := exists_under_of_mem_literalsIn cs h
        exact ⟨.child hm hunder, hliteral⟩

theorem exists_under_of_mem_literalsIn {c : Node} (ns : List Node) (h : c ∈ literalsIn ns) :
    ∃ n ∈ ns, c.Under n ∧ c.isLiteral = true := by
  cases ns with
  | nil => simp [literalsIn] at h
  | cons n ns =>
      rw [literalsIn, List.mem_append] at h
      rcases h with h | h
      · exact ⟨n, by simp, under_of_mem_literals n h⟩
      · obtain ⟨m, hm, hunder⟩ := exists_under_of_mem_literalsIn ns h
        exact ⟨m, by simp [hm], hunder⟩

end

end Syntax.Node

/-- A literal ends with its quotation mark, and a template is one in back quotes. -/
def Document.isQuoted (d : Document) (n : Node) : Bool :=
  match n.kind with
  | .string => (d.textOf n).getLast?.any fun c => c = '\x22' || c = '\x27'
  | .templateString => (d.textOf n).getLast? = some '\x60'
  | _ => true

theorem Document.exists_getLast?_of_isQuoted {d : Document} {n : Node} (h : d.isQuoted n = true)
    (hliteral : n.isLiteral = true) :
    ∃ q, (d.textOf n).getLast? = some q ∧ isBlank q = false ∧
      (n.kind = .templateString → q = '\x60') := by
  simp only [Node.isLiteral, Bool.or_eq_true, decide_eq_true_eq] at hliteral
  rcases hliteral with hkind | hkind
  · simp only [isQuoted, hkind, Option.any_eq_true, Bool.or_eq_true, decide_eq_true_eq] at h
    obtain ⟨q, hlast, hq⟩ := h
    refine ⟨q, hlast, ?_, ?_⟩
    · rcases hq with rfl | rfl <;> decide
    · intro htemplate
      rw [hkind] at htemplate
      cases htemplate
  · simp only [isQuoted, hkind, decide_eq_true_eq] at h
    exact ⟨'\x60', h, by decide, fun _ => rfl⟩

namespace Wrapper

theorem not_blank_takeWhile {lit b : Text} {q : Char} (hlast : lit.getLast? = some q)
    (hq : isBlank q = false) (hline : '\n' ∉ lit) :
    blank ((lit ++ b).takeWhile (· != '\n')) = false := by
  have hall : ∀ c ∈ lit, (c != '\n') = true := by
    intro c hc
    simp only [bne_iff_ne, ne_eq]
    rintro rfl
    exact hline hc
  rw [List.takeWhile_append_of_pos hall]
  refine Bool.eq_false_iff.mpr ?_
  intro hblank
  have hmem : q ∈ lit ++ b.takeWhile (· != '\n') :=
    List.mem_append_left _ (List.mem_of_getLast? hlast)
  have h := List.all_eq_true.mp hblank q hmem
  rw [hq] at h
  cases h

/-- A literal as it was, and as it stands in a text that is moved to the right. It begins and ends
as before; with a line break it is longer than before, and otherwise the same. -/
structure Moved (lit lit' : Text) : Prop where
  ink_eq : ink lit' = ink lit
  head?_eq : lit'.head? = lit.head?
  getLast?_eq : lit'.getLast? = lit.getLast?
  same : '\n' ∉ lit → lit' = lit
  longer : '\n' ∈ lit → lit.length < lit'.length

namespace Moved

variable {lit lit' : Text} (h : Moved lit lit')
include h

theorem eq_iff : lit' = lit ↔ '\n' ∉ lit := by
  constructor
  · intro heq hmem
    have hlength := h.longer hmem
    rw [heq] at hlength
    exact Nat.lt_irrefl _ hlength
  · exact h.same

theorem cons {c : Char} (hc : c ≠ '\n') : Moved (c :: lit) (c :: lit') where
  ink_eq := by
    have hcons (s : Text) : ink (c :: s) = ink [c] ++ ink s := ink_append [c] s
    rw [hcons lit', hcons lit, h.ink_eq]
  head?_eq := rfl
  getLast?_eq := by rw [List.getLast?_cons, List.getLast?_cons, h.getLast?_eq]
  same := by
    intro hline
    rw [h.same fun hmem => hline (List.mem_cons_of_mem c hmem)]
  longer := by
    intro hmem
    rcases List.mem_cons.mp hmem with heq | hmem
    · exact absurd heq.symm hc
    · have := h.longer hmem
      simp only [List.length_cons]
      omega

theorem newline (gap : Text) (hgap : blank gap = true) (hne : lit ≠ [])
    (hline : '\n' ∉ lit → gap ≠ []) : Moved ('\n' :: lit) ('\n' :: (gap ++ lit')) where
  ink_eq := by
    have hcons (s : Text) : ink ('\n' :: s) = ink s := rfl
    rw [hcons, hcons, ink_append, ink_of_blank hgap, h.ink_eq, List.nil_append]
  head?_eq := rfl
  getLast?_eq := by
    obtain ⟨q, hq⟩ : ∃ q, lit.getLast? = some q := ⟨_, List.getLast?_eq_some_getLast hne⟩
    simp [List.getLast?_cons, List.getLast?_append, h.getLast?_eq, hq]
  same := fun hmem => absurd (by simp) hmem
  longer := by
    intro _
    simp only [List.length_cons, List.length_append]
    by_cases hmem : '\n' ∈ lit
    · have := h.longer hmem
      omega
    · have hpos : 0 < gap.length := List.length_pos_iff.mpr (hline hmem)
      rw [h.same hmem]
      omega

end Moved

theorem exists_reindent_literal {step : Text} (hstep : step ≠ []) (hblank : blank step = true)
    {lit : Text} {q : Char} (hlast : lit.getLast? = some q) (hq : isBlank q = false) (b : Text) :
    ∃ lit', reindent (lit ++ b) step = lit' ++ reindent b step ∧ Moved lit lit' := by
  induction lit with
  | nil => simp at hlast
  | cons c lit ih =>
      cases lit with
      | nil =>
          obtain rfl : c = q := by simpa using hlast
          have hc : c ≠ '\n' := by
            rintro rfl
            exact absurd hq (by decide)
          have hnil : Moved [] [] := ⟨rfl, rfl, rfl, fun _ => rfl, fun hmem => by simp at hmem⟩
          refine ⟨[c], ?_, hnil.cons hc⟩
          rw [List.cons_append, reindent_cons hc]
          rfl
      | cons d lit =>
          have hlast' : (d :: lit).getLast? = some q := by rwa [List.getLast?_cons_cons] at hlast
          obtain ⟨lit', heq, hmoved⟩ := ih hlast'
          by_cases hc : c = '\n'
          · subst hc
            refine ⟨_, ?_, hmoved.newline
              (if blank ((d :: lit ++ b).takeWhile (· != '\n')) then [] else step) ?_
              (List.cons_ne_nil d lit) ?_⟩
            · rw [List.cons_append, reindent_newline, heq]
              simp
            · split
              · rfl
              · exact hblank
            · intro hline
              rw [not_blank_takeWhile hlast' hq hline]
              exact hstep
          · refine ⟨c :: lit', ?_, hmoved.cons hc⟩
            rw [List.cons_append, reindent_cons hc, heq, List.cons_append]

/-- A literal in the body of a method, or of an implementation of signatures, is kept exactly when
the body holds a template or the literal stands in one line. -/
theorem exists_emitted_literal {t : Target} (hhead : t.keepsHead = true) {a lit b : Text}
    (hbody : t.body = a ++ (lit ++ b)) {q : Char} (hlast : lit.getLast? = some q)
    (hq : isBlank q = false) :
    ∃ a' lit' b', emitted t = a' ++ (lit' ++ b') ∧ ink a' = ink a ∧ ink lit' = ink lit ∧
      ink b' = ink b ∧ lit'.head? = lit.head? ∧ lit'.getLast? = lit.getLast? ∧
      (lit' = lit ↔ '\x60' ∈ t.body ∨ '\n' ∉ lit) := by
  by_cases htemplate : '\x60' ∈ t.body
  · refine ⟨a, lit, b, ?_, rfl, rfl, rfl, rfl, rfl, by simp [htemplate]⟩
    rw [← hbody]
    simp [emitted, Target.kept, hhead, htemplate]
  · have hemitted : emitted t = reindent t.body (indentStep t.body t.indent) := by
      simp [emitted, hhead, htemplate]
    have hblank := blank_indentStep t.body t.indent
    have hstep := indentStep_ne_nil t.body t.indent
    obtain ⟨a', ha, hinkA, -⟩ := exists_reindent_append hblank a (lit ++ b)
    obtain ⟨lit', hlit, hmoved⟩ := exists_reindent_literal hstep hblank hlast hq b
    refine ⟨a', lit', reindent b (indentStep t.body t.indent), ?_, hinkA, hmoved.ink_eq,
      ink_reindent hblank b, hmoved.head?_eq, hmoved.getLast?_eq, ?_⟩
    · rw [hemitted, ← hlit, ← ha, ← hbody]
    · simpa [htemplate] using hmoved.eq_iff

end Wrapper

namespace Weaver

/-- In the replacement of a body, every literal of the body is found at its place among the other
characters. It is the same, character for character, exactly when it stands in one line or a
template stands somewhere in the body; so a template is always the same. -/
theorem literals_of_woven {w : Weaver} {source path : Text} {dialect : Dialect} {doc : Document}
    {woven : Woven} (hdialect : Dialect.ofPath? path = some dialect)
    (hparse : Document.parse source dialect = .ok doc)
    (hroot : doc.root.isNested doc.source = true)
    (hbodies : doc.root.everywhere Node.hasMethodBody = true)
    (hquoted : doc.root.everywhere doc.isQuoted = true)
    (hweave : w.weave source path = .ok woven) :
    ∀ x ∈ woven.wrapped, x.target.keepsHead = true → ∀ c ∈ doc.root.literals,
      c.span.Inside x.target.span →
        ∃ a literal b,
          x.replacement = Wrapper.lead x.target x.spanName w.entry doc.lineEnding ++
            (a ++ (literal ++ b)) ++ Wrapper.trail x.target doc.lineEnding ∧
          ink a = ink (slice source x.target.span.start c.span.start) ∧
          ink literal = ink (doc.textOf c) ∧
          ink b = ink (slice source c.span.stop x.target.span.stop) ∧
          literal.head? = (doc.textOf c).head? ∧ literal.getLast? = (doc.textOf c).getLast? ∧
          (literal = doc.textOf c ↔ '\x60' ∈ x.target.body ∨ '\n' ∉ doc.textOf c) ∧
          (c.kind = .templateString → literal = doc.textOf c) := by
  intro x hx hhead c hc hinside
  rw [weave_eq_weaveDocument hdialect hparse] at hweave
  obtain ⟨hunder, hliteral⟩ := Node.under_of_mem_literals _ hc
  have hsource := (Document.of_parse_eq_ok hparse).1
  have hdefault : x.target.shape = .defaultExportedFunctionDeclaration →
      x.target.overloaded = true := by
    intro hshape
    simpa [Target.keepsHead, hshape, Shape.isMember] using hhead
  have hbody : slice source x.target.span.start x.target.span.stop = x.target.body := by
    have hkept := slice_kept_of_mem_wrapped hroot hweave hbodies hx hdefault
    rwa [hsource, Target.kept, if_pos hhead] at hkept
  -- the literal and the two parts of the body around it
  have hfits : x.target.span.Fits source := by
    obtain ⟨v, hv, -, htarget⟩ := exists_visit_of_mem_wrapped hroot hweave hx
    rw [← hsource, ← htarget]
    exact Survey.fits_of_mem_visits (s := ⟨doc, w.entry⟩) hroot hv
  have hfitsC : c.span.Fits source :=
    hsource ▸ Node.fits_of_isNested (Node.isNested_of_under hroot hunder).1
  have hsplit : x.target.body = slice source x.target.span.start c.span.start ++
      (doc.textOf c ++ slice source c.span.stop x.target.span.stop) := by
    rw [← hbody, Document.textOf, hsource, slice_append_slice hfitsC.boundary_start
      hfitsC.boundary_stop hfits.boundary_stop hfitsC.start_le_stop hinside.2, slice_append_slice
      hfits.boundary_start hfitsC.boundary_start hfits.boundary_stop hinside.1
      (Nat.le_trans hfitsC.start_le_stop hinside.2)]
  obtain ⟨q, hlast, hq, htemplate⟩ :=
    Document.exists_getLast?_of_isQuoted (Node.of_everywhere hquoted hunder) hliteral
  obtain ⟨a, literal, b, hemitted, ha, hink, hb, hfirst, hend, hiff⟩ :=
    Wrapper.exists_emitted_literal hhead hsplit hlast hq
  refine ⟨a, literal, b, ?_, ha, hink, hb, hfirst, hend, hiff, ?_⟩
  · rw [replacement_of_mem_wrapped hroot hweave hx hdefault, hemitted]
  · intro hkind
    have hmem : '\x60' ∈ doc.textOf c := htemplate hkind ▸ List.mem_of_getLast? hlast
    refine hiff.mpr (Or.inl ?_)
    rw [hsplit]
    exact List.mem_append_right _ (List.mem_append_left _ hmem)

/-- A method that returns a template with a string over two lines behind it. -/
def besideTemplate : Text := "class A \x7bm() \x7breturn \x60x\x60 + 'a\\\nb'\x7d\x7d".toList

theorem literals_of_besideTemplate :
    ∃ doc woven, Document.parse besideTemplate .typeScript = .ok doc ∧
      plain.weave besideTemplate "a.ts".toList = .ok woven ∧
      ∃ x ∈ woven.wrapped, x.target.keepsHead = true ∧
        ∃ c ∈ doc.root.literals, '\n' ∈ doc.textOf c ∧
          ∃ a b, x.replacement =
            Wrapper.lead x.target x.spanName plain.entry doc.lineEnding ++
              (a ++ (doc.textOf c ++ b)) ++ Wrapper.trail x.target doc.lineEnding := by
  let wrapping : Edit := ⟨13, 34,
    "\x7b\n  return traceCall('A.m', () => \x7breturn \x60x\x60 + 'a\\\nb'\x7d)();\n\x7d".toList⟩
  let importing : Edit := ⟨0, 0, "import \x7b traceCall \x7d from 'autotel';\n\n".toList⟩
  have hdialect : Dialect.ofPath? "a.ts".toList = some .typeScript := by decide
  have horder : Edit.inOrder [wrapping, importing] = [importing, wrapping] :=
    Edit.inOrder_pair (by decide)
  obtain ⟨doc, woven, -, hdoc, hweave, -, -, hwrapped, htest⟩ :=
    exists_woven plain besideTemplate (fun doc _ _ =>
      doc.root.isNested doc.source && doc.root.everywhere Node.hasMethodBody &&
        doc.root.everywhere doc.isQuoted &&
        (plain.wrappedIn doc "a.ts".toList).any fun x =>
          x.target.keepsHead && doc.root.literals.any fun c =>
            decide (x.target.span.start ≤ c.span.start ∧ c.span.stop ≤ x.target.span.stop ∧
              '\n' ∈ doc.textOf c ∧ '\x60' ∈ x.target.body))
      hdialect horder (by decide +kernel)
  simp only [Bool.and_eq_true, List.any_eq_true, decide_eq_true_eq] at htest
  obtain ⟨⟨⟨hroot, hbodies⟩, hquoted⟩, x, hx, hhead, c, hc, hstart, hstop, hline, htemplate⟩ :=
    htest
  rw [← hwrapped] at hx
  obtain ⟨a, literal, b, heq, -, -, -, -, -, hiff, -⟩ := literals_of_woven hdialect hdoc hroot
    hbodies hquoted hweave x hx hhead c hc ⟨hstart, hstop⟩
  rw [hiff.mpr (Or.inl htemplate)] at heq
  exact ⟨doc, woven, hdoc, hweave, x, hx, hhead, c, hc, hline, a, b, heq⟩

/-- A method that returns a string over two lines. -/
def brokenString : Text := "class A \x7bm() \x7breturn 'a\\\nb'\x7d\x7d".toList

theorem literal_of_brokenString_lost :
    ∃ doc woven, Document.parse brokenString .typeScript = .ok doc ∧
      plain.weave brokenString "a.ts".toList = .ok woven ∧
      ∃ x ∈ woven.wrapped, x.target.keepsHead = true ∧
        ∃ c ∈ doc.root.literals, c.span.Inside x.target.span ∧
          doc.textOf c = "'a\\\nb'".toList ∧ ¬ doc.textOf c <:+: x.replacement := by
  let wrapping : Edit := ⟨13, 28,
    "\x7b\n  return traceCall('A.m', () => \x7breturn 'a\\\n  b'\x7d)();\n\x7d".toList⟩
  let importing : Edit := ⟨0, 0, "import \x7b traceCall \x7d from 'autotel';\n\n".toList⟩
  have hdialect : Dialect.ofPath? "a.ts".toList = some .typeScript := by decide
  have horder : Edit.inOrder [wrapping, importing] = [importing, wrapping] :=
    Edit.inOrder_pair (by decide)
  obtain ⟨doc, woven, -, hdoc, hweave, -, -, hwrapped, htest⟩ :=
    exists_woven plain brokenString (fun doc _ _ =>
      (plain.wrappedIn doc "a.ts".toList).any fun x =>
        x.target.keepsHead && doc.root.literals.any fun c =>
          decide (x.target.span.start ≤ c.span.start ∧ c.span.stop ≤ x.target.span.stop ∧
            doc.textOf c = "'a\\\nb'".toList ∧ ¬ doc.textOf c <:+: x.replacement))
      hdialect horder (by decide +kernel)
  simp only [Bool.and_eq_true, List.any_eq_true, decide_eq_true_eq] at htest
  obtain ⟨x, hx, hhead, c, hc, hstart, hstop, htext, hlost⟩ := htest
  exact ⟨doc, woven, hdoc, hweave, x, hwrapped ▸ hx, hhead, c, hc, ⟨hstart, hstop⟩, htext, hlost⟩

end Weaver

end SpanWeave
