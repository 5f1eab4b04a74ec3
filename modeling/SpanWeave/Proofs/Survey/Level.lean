import SpanWeave.Proofs.Survey.Outcome
import SpanWeave.Proofs.Survey.Sprinkling

namespace SpanWeave

open Syntax

/-- The function apart from where it stands and from the texts taken from it. -/
def Target.bare (t : Target) : Target :=
  { t with params := [], body := [], text := [], span := ⟨0, 0⟩, line := 0, indent := [] }

/-- The outcome apart from where the function stands and from the texts taken from it. -/
def Survey.Outcome.bare (o : Survey.Outcome) : Survey.Outcome := { o with target := o.target.bare }

/-- The record apart from where the function stands. -/
def SkipRecord.bare (r : SkipRecord) : SkipRecord := { r with line := 0 }

namespace Sprinkling

/-- Visits that agree but for where the function stands and the texts taken from it. -/
structure Level (v v' : Visit) : Prop where
  target : v.target.bare = v'.target.bare
  wrapped : v.wrapped = v'.wrapped
  block : v.block.map Prod.snd = v'.block.map Prod.snd

theorem Level.same {v v' : Visit} (h : Level v v') : Survey.Same v v' where
  shape := show v.target.bare.shape = v'.target.bare.shape by rw [h.target]
  name := show v.target.bare.name = v'.target.bare.name by rw [h.target]
  enclosing := show v.target.bare.enclosing = v'.target.bare.enclosing by rw [h.target]
  isGenerator := show v.target.bare.isGenerator = v'.target.bare.isGenerator by rw [h.target]
  overloaded := show v.target.bare.overloaded = v'.target.bare.overloaded by rw [h.target]
  wrapped := h.wrapped
  block := h.block

theorem bare_retarget (names : List Text) (v : Visit) :
    (Survey.retarget names v).target.bare =
      { v.target.bare with overloaded := (Survey.retarget names v).target.overloaded } := by
  rcases Survey.retarget_cases names v with heq | ⟨span, wrapped, -, heq⟩
  · rw [heq]
    rfl
  · rw [heq]
    rfl

theorem Level.bare_retarget_eq {v v' : Visit} (h : Level v v') (names : List Text) :
    (Survey.retarget names v).target.bare = (Survey.retarget names v').target.bare := by
  rw [bare_retarget, bare_retarget, h.target, (h.same.retarget names).overloaded]

variable {r : Sprinkling} {g : Sight}

section visits
variable {n n' : Node} (h : r.sprinkled g n n' = true)
include h

theorem bare_target (shape : Shape) (name : Option Text) (exported : Export) (span span' : Span) :
    (r.first.target shape name exported n span).bare =
      (r.second.target shape name exported n' span').bare := by
  simp only [Survey.target, Target.bare, sprinkled_hasToken h, sprinkled_isGenerator h]

theorem level_visitConst (name : Text) (exported : Export) (span span' : Span) (wrapped : Bool) :
    Level (r.first.visitConst name n span exported wrapped)
      (r.second.visitConst name n' span' exported wrapped) :=
  ⟨bare_target h _ _ _ _ _, rfl, rfl⟩

theorem level_visitSignature
    (hname : r.before.fieldText? n .name = r.after.fieldText? n' .name)
    (enclosing : Option Text) (exported : Export) :
    Level (r.first.visitSignature n enclosing exported)
      (r.second.visitSignature n' enclosing exported) := by
  refine ⟨?_, rfl, rfl⟩
  have htext : r.first.doc.fieldText? n .name = r.second.doc.fieldText? n' .name := hname
  simp only [Survey.visitSignature, Survey.target, Target.bare, htext, sprinkled_hasToken h]

omit h in
theorem level_visitFunction (h : r.sprinkled .seen n n' = true)
    (hname : r.before.fieldText? n .name = r.after.fieldText? n' .name) (exported : Export) (span span' : Span) :
    Level (r.first.visitFunction n exported span) (r.second.visitFunction n' exported span') where
  target := by
    have htext : r.first.doc.fieldText? n .name = r.second.doc.fieldText? n' .name := hname
    simp only [Survey.visitFunction, htext]
    exact bare_target h _ _ _ _ _
  wrapped := rfl
  block := by
    simp only [Survey.visitFunction, Option.map_map]
    have hblock := option_rel_filter (p := fun b => decide (b.kind = .statementBlock))
      (q := fun b => decide (b.kind = .statementBlock))
      (fun b b' hbb => by rw [(And.left hbb).kind]) (sprinkled_child? h .body)
    exact option_map_eq (fun b b' hbb => sprinkled_blockIsWrapped (hbb.1.seen (by simp [leads, hbb.2]))) hblock

end visits

section members

theorem level_visitMethod {c c' : Container} {m m' : Node} (h : r.sprinkled .seen m m' = true)
    (hname : r.first.memberName? m = r.second.memberName? m')
    (hcontainer : c.name = c'.name ∧ c.isClass = c'.isClass) :
    Level (r.first.visitMethod c m) (r.second.visitMethod c' m') := by
  refine ⟨?_, ?_, rfl⟩
  · simp only [Survey.visitMethod, Survey.target, Target.bare, hcontainer, hname,
      sprinkled_hasToken h]
  · refine option_any_eq ?_ (sprinkled_child? h .body)
    intro b b' hbb
    exact sprinkled_blockIsWrapped (hbb.1.seen (by simp [leads, hbb.2]))

/-- A container is known under the same name, and its body has comments put in. -/
structure KeptContainer (r : Sprinkling) (c c' : Container) : Prop where
  name : c.name = c'.name
  isClass : c.isClass = c'.isClass
  body : r.sprinkled .seen c.body c'.body = true

variable {c c' : Container} (hc : KeptContainer r c c') {m m' : Node}
  (h : r.Stays .seen c.body m m')
include hc h

theorem level_visitMember :
    List.Forall₂ Level (r.first.visitMember c m) (r.second.visitMember c' m') := by
  simp only [Survey.visitMember, ← h.kind, ← sprinkled_hasToken h.sprinkled, ← hc.isClass,
    ← hc.name]
  split
  · rename_i hkind
    have hseen := h.seen (by simp [leads, hkind])
    split
    · exact .nil
    · rename_i haccessor
      have hname := sprinkled_memberName? hseen hkind (by simp [isAccessor, haccessor])
      exact .cons (level_visitMethod hseen hname ⟨hc.name, hc.isClass⟩) .nil
  · rename_i hkind
    have hseen := h.seen (by simp [leads, hkind])
    split
    · exact .cons (level_visitSignature hseen (sprinkled_name? hseen (by rw [hkind]; rfl)) _ _) .nil
    · exact .nil
  · exact .nil

omit h in
theorem level_visitMembers :
    List.Forall₂ Level (r.first.visitMembers c) (r.second.visitMembers c') :=
  List.rel_flatMap (sprinkled_significant hc.body) fun _ _ hm => level_visitMember hc hm

end members

section statements

theorem kept_classContainer {n n' : Node} (h : r.sprinkled .seen n n' = true)
    (hname : bearsName n.kind = true) (binding : Option Text) :
    KeptContainer r (r.first.classContainer n binding) (r.second.classContainer n' binding) := by
  have htext : r.first.doc.fieldText? n .name = r.second.doc.fieldText? n' .name :=
    sprinkled_name? h hname
  refine ⟨by simp only [Survey.classContainer, htext], rfl, ?_⟩
  simp only [Survey.classContainer]
  rcases option_rel_cases (sprinkled_child? h .body) with ⟨hb, hb'⟩ | ⟨b, b', hb, hb', hbb, hrole⟩
  · rw [hb, hb']
    exact h
  · rw [hb, hb']
    exact hbb.seen (by simp [leads, hrole])

theorem related_visitValue {n n' : Node} (h : r.sprinkled .seen n n' = true) (exported : Export)
    (name : Text) :
    Survey.Related Level (KeptContainer r) (r.first.visitValue exported name n)
      (r.second.visitValue exported name n') := by
  simp only [Survey.visitValue, ← sprinkled_isFunctionExpression h, ← sprinkled_kind h]
  split
  · exact Survey.related_visit (level_visitConst h _ _ _ _ _)
  · rcases option_rel_cases (sprinkled_wrappedFunction? h) with
      ⟨hf, hf'⟩ | ⟨f, f', hf, hf', g, hff⟩
    · simp only [hf, hf']
      split
      · rename_i hkind
        exact Survey.related_container (kept_classContainer h (by rw [hkind]; rfl) _)
      · split
        · exact Survey.related_container ⟨rfl, rfl, h⟩
        · exact Survey.related_nil
    · simp only [hf, hf']
      exact Survey.related_visit (level_visitConst hff _ _ _ _ _)

theorem related_visitDeclarator {n n' : Node} (h : r.sprinkled .seen n n' = true) (exported : Export) :
    Survey.Related Level (KeptContainer r) (r.first.visitDeclarator exported n)
      (r.second.visitDeclarator exported n') := by
  by_cases hkind : n.kind = .variableDeclarator
  · have hkind' : n'.kind = .variableDeclarator := sprinkled_kind h ▸ hkind
    rcases option_rel_cases (sprinkled_child? h .name) with
      ⟨hb, hb'⟩ | ⟨b, b', hb, hb', hbb, hrole⟩
    · simpa [Survey.visitDeclarator, hkind, hkind', hb, hb'] using Survey.related_nil
    · rcases option_rel_cases (sprinkled_child? h .value) with
        ⟨hv, hv'⟩ | ⟨v, v', hv, hv', hvv, hvalue⟩
      · simpa [Survey.visitDeclarator, hkind, hkind', hb, hb', hv, hv'] using Survey.related_nil
      · by_cases hbinding : b.kind = .identifier
        · rw [Survey.visitDeclarator_of_value hkind hb hv hbinding,
            Survey.visitDeclarator_of_value hkind' hb' hv' (hbb.kind ▸ hbinding)]
          have htext : r.first.doc.textOf b = r.second.doc.textOf b' :=
            hbb.textOf (by simp [isTaken, isName, hkind, hrole, hbinding])
          rw [htext]
          exact related_visitValue (hvv.seen (by simp [leads, hvalue])) exported _
        · have hbinding' : ¬ b'.kind = .identifier := hbb.kind ▸ hbinding
          simpa [Survey.visitDeclarator, hkind, hkind', hb, hb', hv, hv', hbinding, hbinding']
            using Survey.related_nil
  · have hkind' : ¬ n'.kind = .variableDeclarator := sprinkled_kind h ▸ hkind
    simpa [Survey.visitDeclarator, hkind, hkind'] using Survey.related_nil

theorem related_visitDeclaration {n n' : Node} (h : r.sprinkled .seen n n' = true) (exported : Export)
    (whole whole' : Node → Span) :
    Survey.Related Level (KeptContainer r) (r.first.visitDeclaration exported whole n)
      (r.second.visitDeclaration exported whole' n') := by
  simp only [Survey.visitDeclaration, ← sprinkled_kind h, ← sprinkled_hasToken h]
  split
  all_goals rename_i hkind
  · exact Survey.related_visit (level_visitFunction h (sprinkled_name? h (by rw [hkind]; rfl)) _ _ _)
  · exact Survey.related_visit (level_visitFunction h (sprinkled_name? h (by rw [hkind]; rfl)) _ _ _)
  · exact Survey.related_visit (level_visitSignature h (sprinkled_name? h (by rw [hkind]; rfl)) _ _)
  · split
    · refine Survey.related_visitAll ?_ (sprinkled_significant h)
      intro m m' hm
      exact related_visitDeclarator (hm.seen (by simp [leads, hkind])) exported
    · exact Survey.related_nil
  · exact Survey.related_container (kept_classContainer h (by rw [hkind]; rfl) _)
  · exact Survey.related_container (kept_classContainer h (by rw [hkind]; rfl) _)
  · exact Survey.related_nil

theorem related_visitExport {n n' : Node} (h : r.sprinkled .seen n n' = true) :
    Survey.Related Level (KeptContainer r) (r.first.visitExport n) (r.second.visitExport n') := by
  simp only [Survey.visitExport, ← sprinkled_hasToken h]
  rcases option_rel_cases (sprinkled_child? h .declaration) with
    ⟨hd, hd'⟩ | ⟨d, d', hd, hd', hdd, hrole⟩
  · simp only [hd, hd']
    split
    · rcases option_rel_cases (sprinkled_child? h .value) with
        ⟨hv, hv'⟩ | ⟨v, v', hv, hv', hvv, hrole⟩
      · simp only [hv, hv']
        exact Survey.related_nil
      · have hseen := hvv.seen (by simp [leads, hrole])
        simp only [hv, hv', ← sprinkled_isFunctionExpression hseen, ← sprinkled_kind hseen]
        split
        · rename_i hf
          exact Survey.related_visit (level_visitFunction hseen
            (sprinkled_name? hseen (bearsName_of_isFunctionExpression hf)) _ _ _)
        · split
          · rename_i hkind
            exact Survey.related_container
              (kept_classContainer hseen (by rw [hkind]; rfl) _)
          · split
            · exact Survey.related_container ⟨rfl, rfl, hseen⟩
            · exact Survey.related_nil
    · exact Survey.related_nil
  · simp only [hd, hd']
    exact related_visitDeclaration (hdd.seen (by simp [leads, hrole])) _ _ _

theorem related_visitStatement {n n' : Node} (h : r.sprinkled .seen n n' = true) :
    Survey.Related Level (KeptContainer r) (r.first.visitStatement n) (r.second.visitStatement n') := by
  simp only [Survey.visitStatement, ← sprinkled_kind h]
  split
  · exact related_visitExport h
  · exact related_visitDeclaration h _ _ _

end statements

section outcomes
variable (h : r.sprinkled .file r.before.root r.after.root = true)
include h

theorem level_found : List.Forall₂ Level r.first.found r.second.found := by
  obtain ⟨htops, hcontainers⟩ := Survey.related_visitAll
    (fun n n' hn => related_visitStatement (Stays.sprinkled hn)) (sprinkled_significant h)
  exact List.rel_append htops (List.rel_flatMap hcontainers fun _ _ hc => level_visitMembers hc)

theorem signatureNames_found :
    Survey.signatureNames r.first.found = Survey.signatureNames r.second.found := by
  rw [Survey.signatureNames_eq, Survey.signatureNames_eq]
  have hfound := level_found h
  generalize r.first.found = vs, r.second.found = vs' at hfound
  induction hfound with
  | nil => rfl
  | cons hv _ ih =>
      have hname := hv.same.signatureName?
      rw [List.filterMap_cons, List.filterMap_cons, hname, ih]

theorem bare_outcomes (skip : Text → Bool) :
    (r.first.outcomes skip).map Survey.Outcome.bare =
      (r.second.outcomes skip).map Survey.Outcome.bare := by
  simp only [Survey.outcomes, List.map_map]
  rw [← List.forall₂_eq_eq_eq, List.forall₂_map_left_iff, List.forall₂_map_right_iff]
  refine (level_found h).imp ?_
  intro v v' hv
  simp only [Function.comp_apply, Survey.outcome, Survey.Outcome.bare, signatureNames_found h,
    hv.bare_retarget_eq, (hv.same.retarget _).skipReason?]
  rfl

end outcomes

end Sprinkling

end SpanWeave
