import Mathlib.Data.List.Chain
import SpanWeave.Proofs.Weave.Closing

namespace SpanWeave

open Syntax Text

/-- White space aside, the offset is the start of the source or stands behind a line break or a
semicolon. -/
def Separated (source : Text) (offset : Nat) : Prop :=
  ∃ before spaces after, source = before ++ (spaces ++ after) ∧
    byteSize before + byteSize spaces = offset ∧ spaces.all Syntax.isSpace = true ∧
    (before = [] ∨ before.getLast? = some '\n' ∨ before.getLast? = some ';')

theorem separated_lineStart {d : Document} {offset : Nat}
    (h : onBoundary d.source offset = true) : Separated d.source (d.lineStart offset) := by
  obtain ⟨a, b, c, hsource, hstart, -, hend⟩ := Document.lineStart_spec h
  refine ⟨a, [], b ++ c, hsource, by simpa using hstart, rfl, ?_⟩
  rcases hend with rfl | ⟨a', rfl⟩
  · exact Or.inl rfl
  · exact Or.inr (Or.inl (by simp))

theorem separated_of_newline {source a gap rest : Text} (hsource : source = a ++ (gap ++ rest))
    (hspaces : gap.all Syntax.isSpace = true) (hnewline : '\n' ∈ gap) :
    Separated source (byteSize a + byteSize gap) := by
  obtain ⟨g, h, rfl⟩ := List.append_of_mem hnewline
  refine ⟨a ++ (g ++ ['\n']), h, rest, by simp [hsource], ?_, ?_, Or.inr (Or.inl ?_)⟩
  · simp [byteSize_append, Nat.add_assoc]
  · simp only [List.all_append, List.all_cons, Bool.and_eq_true] at hspaces
    exact hspaces.2.2
  · simp

namespace ImportSite

/-- Only white space stands between two top-level nodes, and a directive or an interpreter line in
front of another node ends in a semicolon or is followed by a line break. -/
def follows (d : Document) (a b : Node) : Bool :=
  let gap := slice d.source a.span.stop b.span.start
  gap.all Syntax.isSpace &&
    (!isPreamble d a || decide (a.kind = .comment) || gap.contains '\n' ||
      decide ((d.textOf a).getLast? = some ';'))

/-- The top-level nodes of a file follow one another, and only white space stands in front of the
first. -/
def isSpaced (d : Document) : Bool :=
  (d.root.namedChildren.head?.all fun n =>
      (slice d.source 0 n.span.start).all Syntax.isSpace) &&
    decide (d.root.namedChildren.IsChain fun a b => follows d a b = true)

theorem lineOf_eq_of_not_mem {d : Document} {a gap rest : Text}
    (hsource : d.source = a ++ (gap ++ rest)) (hnewline : '\n' ∉ gap) :
    d.lineOf (byteSize a + byteSize gap) = d.lineOf (byteSize a) := by
  have hfirst : onBoundary d.source (byteSize a) = true := by
    rw [hsource]
    exact onBoundary_append _ _
  have hsecond : onBoundary d.source (byteSize a + byteSize gap) = true := by
    rw [hsource, ← List.append_assoc, ← byteSize_append]
    exact onBoundary_append _ _
  have htake : takeBytes d.source (byteSize a + byteSize gap) = a ++ gap := by
    rw [hsource, ← List.append_assoc, ← byteSize_append, takeBytes_append]
  have htake' : takeBytes d.source (byteSize a) = a := by
    rw [hsource, takeBytes_append]
  simp only [Document.lineOf, Document.clamp_of_onBoundary hfirst,
    Document.clamp_of_onBoundary hsecond, htake, htake', List.count_append,
    List.count_eq_zero_of_not_mem hnewline]

theorem separated_of_follows {d : Document} {prev n : Node} (hprev : prev.span.Fits d.source)
    (hn : n.span.Fits d.source) (hle : prev.span.stop ≤ n.span.start)
    (hpreamble : isPreamble d prev = true) (hattached : isAttached d prev n = false)
    (h : follows d prev n = true) : Separated d.source n.span.start := by
  obtain ⟨a, gap, rest, hsource, hstop, hstart⟩ :=
    exists_parts hprev.boundary_stop hn.boundary_start hle
  have hgap : slice d.source prev.span.stop n.span.start = gap := by
    rw [hsource, ← hstop, ← hstart, slice_parts]
  simp only [follows, hgap, hpreamble, Bool.not_true, Bool.false_or, Bool.and_eq_true,
    Bool.or_eq_true, decide_eq_true_eq, List.contains_eq_mem] at h
  obtain ⟨hspaces, (hcomment | hnewline) | hsemicolon⟩ := h
  · -- a comment in the same line would be attached
    have hnewline : '\n' ∈ gap := by
      by_contra hnone
      have hline := lineOf_eq_of_not_mem hsource hnone
      rw [hstart, hstop] at hline
      simp [isAttached, hcomment, hline] at hattached
    rw [← hstart]
    exact separated_of_newline hsource hspaces hnewline
  · rw [← hstart]
    exact separated_of_newline hsource hspaces hnewline
  · refine ⟨a, gap, rest, hsource, hstart, hspaces, Or.inr (Or.inr ?_)⟩
    obtain ⟨b, t, c, hsource', hb, ht⟩ :=
      exists_parts hprev.boundary_start hprev.boundary_stop hprev.start_le_stop
    have htext : d.textOf prev = t := by
      rw [Document.textOf, ← hb, ← ht, hsource', slice_parts]
    have hsplit : a = b ++ t := by
      have hleft : takeBytes d.source prev.span.stop = a := by
        rw [hsource, ← hstop, takeBytes_append]
      have hright : takeBytes d.source prev.span.stop = b ++ t := by
        rw [hsource', ← ht, ← List.append_assoc, ← byteSize_append, takeBytes_append]
      rw [← hleft, hright]
    rw [hsplit, List.getLast?_append, ← htext, hsemicolon]
    rfl

/-- In a nested tree whose nodes follow one another, the place of the import is separated, or what
is put there begins with a line break. -/
theorem separated_insertion {d : Document} (hroot : d.root.isNested d.source = true)
    (hspaced : isSpaced d = true) (stmt : Text) :
    Separated d.source (insertion d stmt).start ∨
      ∃ rest, (insertion d stmt).text = d.lineEnding ++ rest := by
  obtain ⟨rest, hnodes, hdrop⟩ := namedChildren_eq d
  obtain ⟨hfirst, hchain⟩ := Bool.and_eq_true_iff.mp hspaced
  have hchain := of_decide_eq_true hchain
  have hordered : d.root.namedChildren.Pairwise fun a b => a.span.stop ≤ b.span.start :=
    (Node.pairwise_children hroot).filter _
  have hfits (m : Node) (hm : m ∈ d.root.namedChildren) : m.span.Fits d.source :=
    Node.fits_of_isNested (Node.isNested_of_mem hroot (Node.mem_namedChildren hm)).1
  let preamble := d.root.namedChildren.takeWhile (isPreamble d)
  cases rest with
  | nil =>
      simp only [insertion, hdrop, Edit.insert]
      split
      · rename_i hsite
        refine Or.inl ⟨[], [], d.source, rfl, ?_, rfl, Or.inl rfl⟩
        rw [hsite]
        rfl
      · exact Or.inr ⟨stmt ++ d.lineEnding, by rw [List.append_assoc]⟩
  | cons first others =>
      refine Or.inl ?_
      obtain ⟨run, earlier, hlist, hstop⟩ := anchor_spec d first preamble.reverse
      let found := anchor d first preamble.reverse
      have hstart : (insertion d stmt).start = offsetBefore d found := by
        simp only [insertion, hdrop]
        rfl
      have hreverse : preamble ++ [first] = earlier.reverse ++ found :: run.reverse := by
        have h := congrArg List.reverse hlist
        simpa [found] using h
      have hsplit : d.root.namedChildren = earlier.reverse ++ found :: (run.reverse ++ others) :=
        calc
          d.root.namedChildren = (preamble ++ [first]) ++ others := by
            rw [List.append_assoc]
            exact hnodes
          _ = earlier.reverse ++ found :: (run.reverse ++ others) := by
            rw [hreverse, List.append_assoc, List.cons_append]
      have hfound := hfits found (by simp [hsplit])
      rw [hstart]
      simp only [offsetBefore]
      split
      · exact separated_lineStart hfound.boundary_start
      · cases earlier with
        | nil =>
            obtain ⟨a, b, hsource, hsize⟩ := onBoundary_iff.mp hfound.boundary_start
            have hspaces : (slice d.source 0 found.span.start).all Syntax.isSpace = true := by
              simpa [hsplit] using hfirst
            rw [slice, dropBytes_zero, Nat.sub_zero, ← hsize, hsource, takeBytes_append] at hspaces
            exact ⟨[], a, b, hsource, by simpa using hsize, hspaces, Or.inl rfl⟩
        | cons prev earlier =>
            have hprev : prev ∈ preamble.reverse := by
              cases run with
              | nil =>
                  have htail := (List.cons.inj hlist).2
                  rw [htail]
                  simp
              | cons x run =>
                  have htail := (List.cons.inj hlist).2
                  rw [htail]
                  simp
            have hpreamble : isPreamble d prev = true :=
              List.all_eq_true.mp List.all_takeWhile prev (List.mem_reverse.mp hprev)
            rw [List.reverse_cons, List.append_assoc, List.singleton_append] at hsplit
            have hmem : prev ∈ d.root.namedChildren := by simp [hsplit]
            rw [hsplit] at hchain hordered
            have hfollows := (List.isChain_append_cons_cons.mp hchain).2.1
            have hle : prev.span.stop ≤ found.span.start :=
              (List.pairwise_cons.mp (List.pairwise_append.mp hordered).2.1).1 found (by simp)
            exact separated_of_follows (hfits prev hmem) hfound hle hpreamble
              (hstop prev rfl) hfollows

end ImportSite

namespace Weaver

theorem inOrder_edits_eq_cons {w : Weaver} {doc : Document} {path : Text}
    (hroot : doc.root.isNested doc.source = true)
    (hnonempty : ∀ x ∈ w.wrappedIn doc path, x.target.span.start < x.target.span.stop) {e : Edit}
    (he : w.importEdit? doc path = some e) :
    ∃ others, Edit.inOrder (w.edits doc path (w.wrappedIn doc path)) = e :: others := by
  have hmem : e ∈ Edit.inOrder (w.edits doc path (w.wrappedIn doc path)) :=
    Edit.mem_inOrder.mpr (List.mem_append_right _ (Option.mem_toList.mpr he))
  have hsorted := Edit.pairwise_inOrder (w.edits doc path (w.wrappedIn doc path))
  obtain ⟨x, others, hcons⟩ := List.exists_cons_of_ne_nil (List.ne_nil_of_mem hmem)
  refine ⟨others, ?_⟩
  have hx : x ∈ w.edits doc path (w.wrappedIn doc path) :=
    Edit.mem_inOrder.mp (by simp [hcons])
  rw [hcons] at hmem hsorted ⊢
  rcases List.mem_cons.mp hmem with rfl | hlater
  · rfl
  · have hbefore := Edit.before_iff.mp ((List.pairwise_cons.mp hsorted).1 e hlater)
    obtain ⟨hstop, stmt, rfl⟩ := exists_of_importEdit?_eq_some he
    rcases List.mem_append.mp hx with hx | hx
    · obtain ⟨y, hy, rfl⟩ := List.mem_map.mp hx
      obtain ⟨v, hv, -, htarget⟩ := exists_visit_of_mem_wrappedIn hy
      have hle := (insertion_start_le_of_mem_visits hroot stmt hv).1
      have hlt := hnonempty y hy
      rw [htarget] at hle
      simp only [Wrapped.edit] at hbefore
      omega
    · rw [Option.mem_toList.mp hx] at he
      rw [Option.some.inj he]

theorem import_separated {w : Weaver} {doc : Document} {path : Text} {woven : Woven}
    (hroot : doc.root.isNested doc.source = true) (hspaced : ImportSite.isSpaced doc = true)
    (hwoven : w.weaveDocument doc path = .ok woven) (hwrapped : woven.wrapped ≠ [])
    (hnonempty : ∀ x ∈ woven.wrapped, x.target.span.start < x.target.span.stop) {e : Edit}
    (he : w.importEdit? doc path = some e) :
    (∃ rest, woven.modified = takeBytes doc.source e.start ++ (e.text ++ rest)) ∧
      (Separated doc.source e.start ∨ ∃ rest, e.text = doc.lineEnding ++ rest) := by
  obtain ⟨hsame, hout⟩ := applyAll_changes hroot hwoven
  rw [map_fst_changes hwrapped] at hout
  rw [hsame] at hout hnonempty
  obtain ⟨-, hmodified⟩ := Edit.applyAll_eq_ok_iff.mp hout
  constructor
  · obtain ⟨others, hcons⟩ := inOrder_edits_eq_cons hroot hnonempty he
    refine ⟨Edit.spliced doc.source e.stop others, ?_⟩
    rw [hmodified, hcons, Edit.spliced, slice, dropBytes_zero, Nat.sub_zero, List.append_assoc]
  · obtain ⟨-, stmt, rfl⟩ := exists_of_importEdit?_eq_some he
    exact ImportSite.separated_insertion hroot hspaced stmt

/-- How what is put in stands to the source. Nothing but white space, a line break or a semicolon
is in front of the import, or the import begins with a line break; and the parenthesis that
closes the call on a function is taken in by a comment of the function exactly when that is a
line comment at the end of the kept part. -/
theorem insertions_of_woven {w : Weaver} {source path : Text} {dialect : Dialect} {doc : Document}
    {woven : Woven} (hdialect : Dialect.ofPath? path = some dialect)
    (hparse : Document.parse source dialect = .ok doc)
    (hroot : doc.root.isNested source = true)
    (hspaced : ImportSite.isSpaced doc = true)
    (hcomments : doc.root.everywhere doc.readsComment = true)
    (hbodies : doc.root.everywhere Node.hasMethodBody = true)
    (hwoven : w.weave source path = .ok woven)
    (hnonempty : ∀ x ∈ woven.wrapped, x.target.span.start < x.target.span.stop) :
    (∀ e, woven.wrapped ≠ [] → w.importEdit? doc path = some e →
      (∃ rest, woven.modified = takeBytes source e.start ++ (e.text ++ rest)) ∧
        (Separated source e.start ∨ ∃ rest, e.text = doc.lineEnding ++ rest)) ∧
      ∀ x ∈ woven.wrapped, ∃ (before after : Text) (part : Span),
        woven.modified = before ++ (Wrapper.lead x.target x.spanName w.entry doc.lineEnding ++
          (Wrapper.emitted x.target ++ ')' :: after)) ∧
        part.Fits source ∧ part.Inside x.target.span ∧
        slice source part.start part.stop = x.target.kept ∧
        ∀ c : Node, c.Under doc.root → c.kind = .comment → c.span.Inside part →
          ∃ a comment q, Wrapper.emitted x.target = a ++ (comment ++ q) ∧
            ink a = ink (slice source part.start c.span.start) ∧
            ink comment = ink (doc.textOf c) ∧
            ink q = ink (slice source c.span.stop part.stop) ∧
            (ReadsOn (comment ++ q) (')' :: after) ↔
              doc.isLineComment c = true ∧ c.span.stop = part.stop) := by
  obtain ⟨rfl, -⟩ := Document.of_parse_eq_ok hparse
  rw [weave_eq_weaveDocument hdialect hparse] at hwoven
  refine ⟨?_, ?_⟩
  · intro e hwrapped he
    exact import_separated hroot hspaced hwoven hwrapped hnonempty he
  · intro x hx
    exact closing_in_comment_iff hroot hwoven hcomments hbodies hx

/-- A directive without a semicolon, with a comment in its line, in front of a function. -/
def directiveAndFunction : Text := "'a' // b\nfunction f() \x7b\x7d\n".toList

theorem insertions_of_directiveAndFunction :
    ∃ doc woven e, Document.parse directiveAndFunction .javaScript = .ok doc ∧
      plain.weave directiveAndFunction "a.js".toList = .ok woven ∧ woven.wrapped.length = 1 ∧
      plain.importEdit? doc "a.js".toList = some e ∧
      (∃ rest, woven.modified = takeBytes directiveAndFunction e.start ++ (e.text ++ rest)) ∧
      (Separated directiveAndFunction e.start ∨ ∃ rest, e.text = doc.lineEnding ++ rest) ∧
      ∀ x ∈ woven.wrapped, ∃ before after, woven.modified =
        before ++ (Wrapper.lead x.target x.spanName plain.entry doc.lineEnding ++
          (Wrapper.emitted x.target ++ ')' :: after)) := by
  have hcheck : yields (Document.parse directiveAndFunction .javaScript) (fun doc =>
      ((doc.root.isNested directiveAndFunction && ImportSite.isSpaced doc) &&
        (doc.root.everywhere doc.readsComment && doc.root.everywhere Node.hasMethodBody)) &&
        (decide ((plain.wrappedIn doc "a.js".toList).length = 1 ∧
          ∀ x ∈ plain.wrappedIn doc "a.js".toList, x.target.span.start < x.target.span.stop) &&
          (plain.importEdit? doc "a.js".toList).isSome)) = true := by
    decide +kernel
  obtain ⟨doc, hdoc, h⟩ := exists_of_yields hcheck
  simp only [Bool.and_eq_true, decide_eq_true_eq] at h
  obtain ⟨⟨⟨hroot, hspaced⟩, hcomments, hbodies⟩, ⟨hlength, hnonempty⟩, himport⟩ := h
  obtain ⟨e, he⟩ := Option.isSome_iff_exists.mp himport
  have hdialect : Dialect.ofPath? "a.js".toList = some .javaScript := by decide
  have hne : plain.wrappedIn doc "a.js".toList ≠ [] := by
    intro hnil
    rw [hnil] at hlength
    exact absurd hlength (by decide)
  have hsource := (Document.of_parse_eq_ok hdoc).1
  obtain ⟨woven, hwoven, hsame, -⟩ :=
    exists_weave_of_applyAll hdialect hdoc hne (hsource ▸ applyAll_edits (hsource ▸ hroot) hne)
  obtain ⟨hfront, hclose⟩ := insertions_of_woven hdialect hdoc hroot hspaced hcomments hbodies
    hwoven (hsame ▸ hnonempty)
  obtain ⟨hrest, hseparated⟩ := hfront e (hsame ▸ hne) he
  refine ⟨doc, woven, e, hdoc, hwoven, by rw [hsame, hlength], he, hrest, hseparated, ?_⟩
  intro x hx
  obtain ⟨before, after, -, hmodified, -⟩ := hclose x hx
  exact ⟨before, after, hmodified⟩

/-- A function with a comment at the end of its line. -/
def commentedFunction : Text := "function a() \x7b\x7d // t\nx\n".toList

def commentedImport : Text := "import \x7b traceCall \x7d from 'autotel';\n\n".toList

/-- The comment belongs to the function, so it stands inside the call. -/
def commentedConstant : Text := "const a = traceCall('a', function a() \x7b\x7d // t);".toList

theorem woven_commentedFunction_unparsable :
    ∃ woven, plain.weave commentedFunction "input.ts".toList = .ok woven ∧
      woven.modified = commentedImport ++ commentedConstant ++ "\nx\n".toList ∧
      Document.parse woven.modified .typeScript = .error .unparsable := by
  let edits : List Edit := [⟨0, 20, commentedConstant⟩, ⟨0, 0, commentedImport⟩]
  let out : Text := commentedImport ++ commentedConstant ++ "\nx\n".toList
  have hcheck : yields (Document.parse commentedFunction .typeScript) (fun doc =>
      decide (plain.wrappedIn doc "input.ts".toList ≠ [] ∧
        plain.edits doc "input.ts".toList (plain.wrappedIn doc "input.ts".toList) = edits)) =
      true := by
    decide +kernel
  have hnone : parse? Dialect.typeScript.hasMarkup out = none := by
    have h : (parse? Dialect.typeScript.hasMarkup out).isNone = true := by decide +kernel
    exact Option.isNone_iff_eq_none.mp h
  obtain ⟨doc, hdoc, h⟩ := exists_of_yields hcheck
  obtain ⟨hne, hedits⟩ := of_decide_eq_true h
  have hdialect : Dialect.ofPath? "input.ts".toList = some .typeScript := by decide
  have hout : Edit.applyAll commentedFunction edits = .ok out := by
    have horder : Edit.inOrder edits =
        [⟨0, 0, commentedImport⟩, ⟨0, 20, commentedConstant⟩] :=
      Edit.inOrder_pair (by decide)
    rw [Edit.applyAll, horder]
    rfl
  obtain ⟨woven, hwoven, -, hmodified⟩ :=
    exists_weave_of_applyAll hdialect hdoc hne (hedits ▸ hout)
  refine ⟨woven, hwoven, hmodified, ?_⟩
  rw [hmodified, Document.parse, hnone]

end Weaver

end SpanWeave
