import Mathlib.Data.List.Infix
import SpanWeave.SpanName

namespace SpanWeave.SpanName

open Text

/-- The tokens of a template: how each is written and what is put in for it. -/
inductive Token where
  | name
  | file

namespace Token

def text : Token → Text
  | name => nameToken
  | file => fileToken

def value (identifier stem : Text) : Token → Text
  | name => identifier
  | file => stem

def other : Token → Token
  | name => file
  | file => name

theorem eq_or_eq_other (t u : Token) : u = t ∨ u = t.other := by
  cases t <;> cases u <;> simp [other]

theorem length_text (t : Token) : t.text.length = 6 := by
  cases t <;> rfl

theorem text_eq_cons (t : Token) : ∃ word, t.text = '\x7b' :: word ∧ '\x7b' ∉ word := by
  cases t
  · exact ⟨_, rfl, by decide⟩
  · exact ⟨_, rfl, by decide⟩

theorem text_injective : Function.Injective text := by
  rintro (_ | _) (_ | _) h
  · rfl
  · exact absurd h (by decide)
  · exact absurd h (by decide)
  · rfl

theorem eq_of_text_append {t u : Token} {a b : Text} (h : t.text ++ a = u.text ++ b) :
    t = u ∧ a = b := by
  obtain ⟨htext, hrest⟩ := List.append_inj h (by rw [length_text, length_text])
  exact ⟨text_injective htext, hrest⟩

end Token

/-- No token begins a text. -/
def StartsFree (s : Text) : Prop := ∀ t : Token, ¬ t.text <+: s

/-- No token stands in a text. -/
def Free (s : Text) : Prop := ∀ t : Token, ¬ t.text <:+: s

theorem free_iff {s : Text} : Free s ↔ ¬ nameToken <:+: s ∧ ¬ fileToken <:+: s := by
  constructor
  · intro h
    exact ⟨h .name, h .file⟩
  · rintro ⟨hname, hfile⟩ t
    cases t
    · exact hname
    · exact hfile

instance : DecidablePred Free := fun _ => decidable_of_iff _ free_iff.symm

theorem startsWith_iff {s lead : Text} : startsWith s lead = true ↔ lead <+: s := by
  rw [startsWith, Option.isSome_iff_exists]
  exact exists_congr fun rest => afterLead?_eq_some_iff.trans eq_comm

theorem startsFree_of_ne {c : Char} (hc : c ≠ '\x7b') (s : Text) : StartsFree (c :: s) := by
  rintro t ⟨rest, heq⟩
  obtain ⟨word, hword, -⟩ := t.text_eq_cons
  rw [hword] at heq
  exact hc (List.cons.inj heq).1.symm

theorem free_nil : Free [] := by
  intro t hmem
  have hlength := t.length_text
  rw [List.infix_nil.mp hmem] at hlength
  cases hlength

theorem free_cons_iff {c : Char} {s : Text} : Free (c :: s) ↔ StartsFree (c :: s) ∧ Free s := by
  simp only [Free, StartsFree, List.infix_cons_iff, not_or, forall_and]

/-- A text is read token by token, and character by character where no token begins. -/
theorem token_induction {P : Text → Prop} (nil : P [])
    (token : ∀ (t : Token) s, P s → P (t.text ++ s))
    (char : ∀ c s, StartsFree (c :: s) → P s → P (c :: s)) (s : Text) : P s := by
  -- a token is passed as a whole, so the induction is on the length
  induction hn : s.length using Nat.strong_induction_on generalizing s with
  | _ n ih =>
      cases s with
      | nil => exact nil
      | cons c s =>
          by_cases hfree : StartsFree (c :: s)
          · exact char c s hfree (ih s.length (by simp [← hn]) s rfl)
          · simp only [StartsFree, not_forall, not_not] at hfree
            obtain ⟨t, rest, heq⟩ := hfree
            rw [← heq] at hn ⊢
            refine token t rest (ih rest.length ?_ rest rfl)
            rw [← hn, List.length_append, t.length_text]
            omega

theorem eq_nil_of_text_append {t u : Token} {piece a s : Text} (hpiece : Free piece)
    (h : piece ++ (u.text ++ a) = t.text ++ s) : piece = [] := by
  by_contra hne
  obtain ⟨c, piece', rfl⟩ := List.exists_cons_of_ne_nil hne
  rcases List.append_eq_append_iff.mp h with ⟨m, ht, hrest⟩ | ⟨m, hm, -⟩
  · -- the rest `m` of the token begins with the brace of the next one
    obtain ⟨word, hword, hbrace⟩ := t.text_eq_cons
    obtain ⟨word', hword', -⟩ := u.text_eq_cons
    cases m with
    | nil =>
        rw [List.append_nil] at ht
        exact hpiece t ⟨[], [], by rw [ht, List.nil_append, List.append_nil]⟩
    | cons b m =>
        rw [hword', List.cons_append] at hrest
        rw [hword] at ht
        obtain ⟨rfl, -⟩ := List.cons.inj hrest
        apply hbrace
        rw [(List.cons.inj ht).2]
        simp
  · exact hpiece t ⟨[], m, by rw [hm, List.nil_append]⟩

section fill

variable {identifier stem : Text}

theorem fill_skip (skipped s : Text) :
    fill identifier stem skipped.length (skipped ++ s) = fill identifier stem 0 s := by
  induction skipped with
  | nil => rfl
  | cons c skipped ih => simpa [fill] using ih

theorem fill_token (t : Token) (s : Text) :
    fill identifier stem 0 (t.text ++ s) = t.value identifier stem ++ fill identifier stem 0 s := by
  obtain ⟨word, hword, -⟩ := t.text_eq_cons
  have hskip : fill identifier stem 5 (word ++ s) = fill identifier stem 0 s := by
    have hlength : word.length = 5 := by simpa [hword] using t.length_text
    rw [← hlength, fill_skip]
  have hstarts : startsWith ('\x7b' :: (word ++ s)) t.text = true :=
    startsWith_iff.mpr ⟨s, by rw [hword, List.cons_append]⟩
  rw [hword, List.cons_append, fill]
  cases t with
  | name =>
      change startsWith _ nameToken = true at hstarts
      rw [if_pos hstarts, hskip, Token.value]
  | file =>
      change startsWith _ fileToken = true at hstarts
      have hname : ¬ startsWith ('\x7b' :: (word ++ s)) nameToken = true := by
        rw [startsWith_iff]
        rintro ⟨rest, heq⟩
        have h : Token.name.text ++ rest = Token.file.text ++ s := by
          rw [hword, List.cons_append]
          exact heq
        cases (Token.eq_of_text_append h).1
      rw [if_neg hname, if_pos hstarts, hskip, Token.value]

theorem fill_cons {c : Char} {s : Text} (h : StartsFree (c :: s)) :
    fill identifier stem 0 (c :: s) = c :: fill identifier stem 0 s := by
  have hname : ¬ startsWith (c :: s) nameToken = true := mt startsWith_iff.mp (h .name)
  have hfile : ¬ startsWith (c :: s) fileToken = true := mt startsWith_iff.mp (h .file)
  rw [fill, if_neg hname, if_neg hfile]

variable (identifier stem)

theorem fill_append_of_notMem {a : Text} (ha : '\x7b' ∉ a) (s : Text) :
    fill identifier stem 0 (a ++ s) = a ++ fill identifier stem 0 s := by
  induction a with
  | nil => rfl
  | cons c a ih =>
      have hc : c ≠ '\x7b' := fun hc => ha (by simp [hc])
      have hrest : '\x7b' ∉ a := fun hmem => ha (List.mem_cons_of_mem c hmem)
      rw [List.cons_append, fill_cons (startsFree_of_ne hc _), ih hrest, List.cons_append]

end fill

/-- A template divided at tokens: the piece in front of the first one, and each token with the
piece behind it. -/
structure Division where
  first : Text
  rest : List (Token × Text)

namespace Division

/-- The template that is divided. -/
def text (d : Division) : Text := d.first ++ d.rest.flatMap fun (t, piece) => t.text ++ piece

/-- The pieces with values in place of the tokens. -/
def filled (d : Division) (identifier stem : Text) : Text :=
  d.first ++ d.rest.flatMap fun (t, piece) => t.value identifier stem ++ piece

/-- The division of a template whose pieces hold no token. -/
structure Divides (d : Division) (template : Text) : Prop where
  text_eq : d.text = template
  free_first : Free d.first
  free_rest : ∀ p ∈ d.rest, Free p.2

def cons (c : Char) (d : Division) : Division := ⟨c :: d.first, d.rest⟩

def behind (t : Token) (d : Division) : Division := ⟨[], (t, d.first) :: d.rest⟩

variable {d : Division} {s : Text}

theorem text_behind (t : Token) (d : Division) : (d.behind t).text = t.text ++ d.text := by
  simp [behind, text]

theorem divides_nil_iff : d.Divides [] ↔ d = ⟨[], []⟩ := by
  constructor
  · rintro ⟨htext, -, -⟩
    obtain ⟨first, rest⟩ := d
    obtain ⟨rfl, hrest⟩ := List.append_eq_nil_iff.mp htext
    cases rest with
    | nil => rfl
    | cons p rest =>
        have hlength := p.1.length_text
        simp_all
  · rintro rfl
    exact ⟨rfl, free_nil, by simp⟩

theorem divides_cons_iff {c : Char} (h : StartsFree (c :: s)) :
    d.Divides (c :: s) ↔ ∃ e : Division, e.Divides s ∧ d = e.cons c := by
  constructor
  · rintro ⟨htext, hfirst, hrest⟩
    obtain ⟨first, rest⟩ := d
    cases first with
    | nil =>
        cases rest with
        | nil => cases htext
        | cons p rest =>
            refine absurd ?_ (h p.1)
            rw [← htext]
            simp [text]
    | cons b first =>
        obtain ⟨rfl, htail⟩ := List.cons.inj htext
        exact ⟨⟨first, rest⟩, ⟨htail, (free_cons_iff.mp hfirst).2, hrest⟩, rfl⟩
  · rintro ⟨e, ⟨rfl, hfirst, hrest⟩, rfl⟩
    refine ⟨rfl, free_cons_iff.mpr ⟨?_, hfirst⟩, hrest⟩
    intro t hprefix
    apply h t
    exact hprefix.trans (List.prefix_append (c :: e.first) _)

theorem divides_token_iff (t : Token) :
    d.Divides (t.text ++ s) ↔ ∃ e : Division, e.Divides s ∧ d = e.behind t := by
  constructor
  · rintro ⟨htext, hfirst, hrest⟩
    obtain ⟨first, rest⟩ := d
    cases rest with
    | nil =>
        refine absurd ?_ (hfirst t)
        rw [text, List.flatMap_nil, List.append_nil] at htext
        exact ⟨[], s, by simpa using htext.symm⟩
    | cons p rest =>
        obtain ⟨u, piece⟩ := p
        have hfree : Free piece := hrest (u, piece) (by simp)
        have htail : ∀ q ∈ rest, Free q.2 := fun q hq => hrest q (List.mem_cons_of_mem _ hq)
        simp only [text, List.flatMap_cons, List.append_assoc] at htext
        obtain rfl := eq_nil_of_text_append hfirst htext
        rw [List.nil_append] at htext
        obtain ⟨rfl, rfl⟩ := Token.eq_of_text_append htext
        exact ⟨⟨piece, rest⟩, ⟨rfl, hfree, htail⟩, rfl⟩
  · rintro ⟨e, ⟨rfl, hfirst, hrest⟩, rfl⟩
    refine ⟨text_behind t e, free_nil, ?_⟩
    intro p hp
    rcases List.mem_cons.mp hp with rfl | hp
    · exact hfirst
    · exact hrest p hp

theorem existsUnique_divides (template : Text) : ∃! d : Division, d.Divides template := by
  induction template using token_induction with
  | nil =>
      simp only [divides_nil_iff]
      exact existsUnique_eq
  | token t s ih =>
      obtain ⟨d, hd, hunique⟩ := ih
      refine ⟨d.behind t, (divides_token_iff t).mpr ⟨d, hd, rfl⟩, ?_⟩
      intro e he
      obtain ⟨e', he', rfl⟩ := (divides_token_iff t).mp he
      rw [hunique e' he']
  | char c s hfree ih =>
      obtain ⟨d, hd, hunique⟩ := ih
      refine ⟨d.cons c, (divides_cons_iff hfree).mpr ⟨d, hd, rfl⟩, ?_⟩
      intro e he
      obtain ⟨e', he', rfl⟩ := (divides_cons_iff hfree).mp he
      rw [hunique e' he']

theorem Divides.fill_eq {template : Text} (h : d.Divides template) (identifier stem : Text) :
    fill identifier stem 0 template = d.filled identifier stem := by
  induction template using token_induction generalizing d with
  | nil =>
      rw [divides_nil_iff.mp h]
      rfl
  | token t s ih =>
      obtain ⟨e, he, rfl⟩ := (divides_token_iff t).mp h
      rw [fill_token, ih he]
      simp [filled, behind]
  | char c s hfree ih =>
      obtain ⟨e, he, rfl⟩ := (divides_cons_iff hfree).mp h
      rw [fill_cons hfree, ih he]
      rfl

end Division

/-- One round of a scan that looks at a brace for the token `early` before it looks for the other:
what it writes up to there and for the token or the brace, and what is left. There is no round when
no brace is left. -/
def round? (early : Token) (value : Token → Text) (s : Text) : Option (Text × Text) :=
  let before := s.takeWhile (· != '\x7b')
  match s.dropWhile (· != '\x7b') with
  | [] => none
  | brace :: behind =>
      match afterLead? early.text (brace :: behind) with
      | some rest => some (before ++ value early, rest)
      | none =>
          match afterLead? early.other.text (brace :: behind) with
          | some rest => some (before ++ value early.other, rest)
          | none => some (before ++ [brace], behind)

/-- What a scan has written when no brace is left. There is nothing if that takes more than
`rounds` rounds. -/
def scan? (early : Token) (value : Token → Text) : (rounds : Nat) → Text → Option Text
  | 0, s => if (round? early value s).isNone then some s else none
  | rounds + 1, s =>
      match round? early value s with
      | none => some s
      | some (written, rest) => (scan? early value rounds rest).map (written ++ ·)

section scan

variable {early : Token} {identifier stem s : Text}

theorem notMem_takeWhile_ne (c : Char) (s : Text) : c ∉ s.takeWhile (· != c) := by
  intro hmem
  simpa using List.all_eq_true.mp List.all_takeWhile c hmem

theorem round?_cases (early : Token) (value : Token → Text) (s : Text) :
    (round? early value s = none ∧ '\x7b' ∉ s) ∨
      ∃ before, '\x7b' ∉ before ∧
        ((∃ t rest, s = before ++ (t.text ++ rest) ∧
          round? early value s = some (before ++ value t, rest)) ∨
        ∃ rest, s = before ++ '\x7b' :: rest ∧ StartsFree ('\x7b' :: rest) ∧
          round? early value s = some (before ++ ['\x7b'], rest)) := by
  have hbefore : '\x7b' ∉ s.takeWhile (· != '\x7b') := notMem_takeWhile_ne _ s
  have hparts := List.takeWhile_append_dropWhile (p := (· != '\x7b')) (l := s)
  rw [round?]
  cases hbehind : s.dropWhile (· != '\x7b') with
  | nil =>
      rw [hbehind, List.append_nil] at hparts
      exact .inl ⟨rfl, hparts ▸ hbefore⟩
  | cons brace behind =>
      obtain rfl : brace = '\x7b' := by
        have hhead := List.head?_dropWhile_not (· != '\x7b') s
        simpa [hbehind] using hhead
      rw [hbehind] at hparts
      refine .inr ⟨_, hbefore, ?_⟩
      cases hearly : afterLead? early.text ('\x7b' :: behind) with
      | some rest =>
          refine .inl ⟨early, rest, ?_, by simp [hearly]⟩
          rw [← afterLead?_eq_some_iff.mp hearly, hparts]
      | none =>
          cases hother : afterLead? early.other.text ('\x7b' :: behind) with
          | some rest =>
              refine .inl ⟨early.other, rest, ?_, by simp [hearly, hother]⟩
              rw [← afterLead?_eq_some_iff.mp hother, hparts]
          | none =>
              refine .inr ⟨behind, hparts.symm, ?_, by simp [hearly, hother]⟩
              rintro t ⟨rest, heq⟩
              have hsome := afterLead?_eq_some_iff.mpr heq.symm
              rcases early.eq_or_eq_other t with rfl | rfl
              · simp [hearly] at hsome
              · simp [hother] at hsome

theorem fill_of_round?_eq_none (h : round? early (Token.value identifier stem) s = none) :
    fill identifier stem 0 s = s := by
  rcases round?_cases early (Token.value identifier stem) s with ⟨-, hbrace⟩ | ⟨before, -, hround⟩
  · simpa [fill] using fill_append_of_notMem identifier stem hbrace []
  · rcases hround with ⟨t, rest, -, hsome⟩ | ⟨rest, -, -, hsome⟩ <;> simp [h] at hsome

theorem of_round?_eq_some {written rest : Text}
    (h : round? early (Token.value identifier stem) s = some (written, rest)) :
    fill identifier stem 0 s = written ++ fill identifier stem 0 rest ∧
      rest.count '\x7b' < s.count '\x7b' := by
  rcases round?_cases early (Token.value identifier stem) s with
    ⟨hnone, -⟩ | ⟨before, hbefore, ⟨t, rest', rfl, hsome⟩ | ⟨rest', rfl, hfree, hsome⟩⟩
  · simp [h] at hnone
  · obtain ⟨rfl, rfl⟩ := Prod.mk.inj (Option.some.inj (h.symm.trans hsome))
    constructor
    · rw [fill_append_of_notMem identifier stem hbefore, fill_token, List.append_assoc]
    · obtain ⟨word, hword, -⟩ := t.text_eq_cons
      simp only [hword, List.count_append, List.cons_append, List.count_cons_self]
      omega
  · obtain ⟨rfl, rfl⟩ := Prod.mk.inj (Option.some.inj (h.symm.trans hsome))
    constructor
    · rw [fill_append_of_notMem identifier stem hbefore, fill_cons hfree, List.append_assoc]
      rfl
    · simp only [List.count_append, List.count_cons_self]
      omega

/-- A scan ends, and with the filled template, in as many rounds as there are braces. -/
theorem scan?_eq {rounds : Nat} (h : s.count '\x7b' ≤ rounds) :
    scan? early (Token.value identifier stem) rounds s = some (fill identifier stem 0 s) := by
  -- each round leaves fewer braces, so the bound on them goes down with the rounds
  induction rounds generalizing s with
  | zero =>
      cases hround : round? early (Token.value identifier stem) s with
      | none => simp [scan?, hround, fill_of_round?_eq_none hround]
      | some w =>
          obtain ⟨written, rest⟩ := w
          have hless := (of_round?_eq_some hround).2
          omega
  | succ rounds ih =>
      cases hround : round? early (Token.value identifier stem) s with
      | none => simp [scan?, hround, fill_of_round?_eq_none hround]
      | some w =>
          obtain ⟨written, rest⟩ := w
          obtain ⟨heq, hless⟩ := of_round?_eq_some hround
          simp [scan?, hround, ih (s := rest) (by omega), heq]

end scan

/-- A template divides in one way into pieces without tokens and the tokens between them. Whatever
the identifier and the file are, the name of the span is made of the pieces and of the values of
the tokens, and a scan for either token first ends with that name. -/
theorem resolve_of_divides (template : Text) :
    ∃ d : Division, d.Divides template ∧ (∀ e : Division, e.Divides template → e = d) ∧
      ∀ identifier path,
        resolve identifier path (some template) =
          d.filled identifier ((Path.stem? path).getD []) ∧
        ∀ early : Token,
          scan? early (Token.value identifier ((Path.stem? path).getD []))
            (template.count '\x7b') template = some (resolve identifier path (some template)) := by
  obtain ⟨d, hd, hunique⟩ := Division.existsUnique_divides template
  refine ⟨d, hd, hunique, ?_⟩
  intro identifier path
  constructor
  · exact hd.fill_eq identifier _
  · intro early
    exact scan?_eq (Nat.le_refl _)

/-- A template with braces that begin no token, in front of, inside and behind its tokens. -/
def bracedTemplate : Text := "\x7b\x7bname\x7d\x7bnam\x7bfile\x7d\x7d\x7b".toList

theorem resolve_of_divides_bracedTemplate :
    resolve "\x7bfile\x7d".toList "src/\x7bname\x7d.x.ts".toList (some bracedTemplate) =
      "\x7b\x7bfile\x7d\x7bnam\x7bname\x7d.x\x7d\x7b".toList := by
  obtain ⟨d, -, hunique, hname⟩ := resolve_of_divides bracedTemplate
  let parts : Division := ⟨['\x7b'], [(.name, "\x7bnam".toList), (.file, "\x7d\x7b".toList)]⟩
  have hparts : parts.Divides bracedTemplate := ⟨by decide, by decide, by decide⟩
  rw [(hname _ _).1, ← hunique parts hparts]
  decide

end SpanWeave.SpanName
