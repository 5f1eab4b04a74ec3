import SpanWeave.Proofs.Survey.Level
import SpanWeave.Proofs.Weave.Rereading

namespace SpanWeave.Rereading

open Syntax

theorem inStep_iff {R : Node → Node → Bool} {cs cs' : List Node} :
    inStep R cs cs' = true ↔ List.Forall₂ (fun c c' => R c c' = true) cs cs' := by
  induction cs generalizing cs' with
  | nil => cases cs' <;> simp [inStep]
  | cons c cs ih => cases cs' <;> simp [inStep, ih]

variable {r : Rereading}

theorem alikeAll_eq_inStep (cs cs' : List Node) : r.alikeAll cs cs' = inStep r.alike cs cs' := by
  induction cs generalizing cs' with
  | nil => cases cs' <;> simp [alikeAll, inStep]
  | cons c cs ih => cases cs' <;> simp [alikeAll, inStep, ih]

theorem alike_iff {n n' : Node} :
    r.alike n n' = true ↔
      n.kind = n'.kind ∧ n.field = n'.field ∧ r.before.textOf n = r.after.textOf n' ∧
        List.Forall₂ (fun c c' => r.alike c c' = true) n.children n'.children := by
  rw [← inStep_iff, ← alikeAll_eq_inStep]
  cases n with
  | mk k f s cs =>
      cases n' with
      | mk k' f' s' cs' =>
          simp [alike, Node.kind, Node.field, Node.children, and_assoc]

theorem forall₂_significant {R : Node → Node → Prop} {n n' : Node}
    (hkind : ∀ c c', R c c' → c.kind = c'.kind) (h : List.Forall₂ R n.children n'.children) :
    List.Forall₂ R n.significant n'.significant := by
  refine forall₂_filter ?_ (forall₂_filter ?_ h)
  · intro c c' hcc
    rw [hkind c c' hcc]
  · intro c c' hcc
    rw [hkind c c' hcc]

section
variable {n n' : Node} (h : r.alike n n' = true)
include h

theorem alike_kind : n.kind = n'.kind := (alike_iff.mp h).1

theorem alike_field : n.field = n'.field := (alike_iff.mp h).2.1

theorem alike_textOf : r.before.textOf n = r.after.textOf n' := (alike_iff.mp h).2.2.1

theorem alike_children :
    List.Forall₂ (fun c c' => r.alike c c' = true) n.children n'.children :=
  (alike_iff.mp h).2.2.2

theorem alike_significant :
    List.Forall₂ (fun c c' => r.alike c c' = true) n.significant n'.significant :=
  forall₂_significant (fun _ _ => alike_kind) (alike_children h)

theorem alike_child? (f : Field) :
    Option.Rel (fun c c' => r.alike c c' = true) (n.child? f) (n'.child? f) := by
  refine forall₂_find? ?_ (alike_children h)
  intro c c' hcc
  rw [alike_field hcc]

theorem alike_hasChild (k : Kind) : n.hasChild k = n'.hasChild k := by
  refine forall₂_any ?_ (alike_children h)
  intro c c' hcc
  rw [alike_kind hcc]

theorem alike_hasToken (text : String) : n.hasToken text = n'.hasToken text :=
  alike_hasChild h (.token text)

theorem alike_isFunctionExpression : n.isFunctionExpression = n'.isFunctionExpression := by
  rw [Node.isFunctionExpression, Node.isFunctionExpression, alike_kind h]

theorem alike_stringValue? : r.before.stringValue? n = r.after.stringValue? n' := by
  simp only [Document.stringValue?]
  rw [alike_kind h, alike_textOf h, alike_hasChild h]

end

section
variable {n n' : Node}

theorem fieldText?_eq {f : Field}
    (h : Option.Rel (fun c c' => r.alike c c' = true) (n.child? f) (n'.child? f)) :
    r.before.fieldText? n f = r.after.fieldText? n' f :=
  option_map_eq (fun _ _ => alike_textOf) h

theorem memberName?_eq
    (h : Option.Rel (fun c c' => r.alike c c' = true) (n.child? .name) (n'.child? .name)) :
    r.first.memberName? n = r.second.memberName? n' := by
  refine option_map_eq (R := fun c c' => r.alike c c' = true) ?_ (option_rel_bind ?_ h)
  · intro c c' hcc
    simp only [first, second]
    rw [alike_stringValue? hcc, alike_textOf hcc]
  · intro key key' hkey
    rw [alike_kind hkey]
    split
    · exact forall₂_head? (alike_significant hkey)
    · exact .some hkey

end

/-- The same two files, of which the second may have comments put in. -/
def sprinkling (r : Rereading) : Sprinkling := ⟨r.before, r.after, r.entry⟩

mutual

theorem sprinkled_of_alike (g : Sprinkling.Sight) (n n' : Node) (h : r.alike n n' = true) :
    r.sprinkling.sprinkled g n n' = true := by
  cases n with
  | mk k f s cs =>
      cases n' with
      | mk k' f' s' cs' =>
          simp only [alike, Bool.and_eq_true, decide_eq_true_eq] at h
          simp only [Sprinkling.sprinkled, Bool.and_eq_true, decide_eq_true_eq]
          exact ⟨⟨h.1.1, h.1.2.1⟩, strewn_of_alikeAll g _ cs cs' h.2⟩

theorem strewn_of_alikeAll (g : Sprinkling.Sight) (n : Node) (cs cs' : List Node)
    (h : r.alikeAll cs cs' = true) : r.sprinkling.strewn g n cs cs' = true := by
  cases cs with
  | nil =>
      cases cs' with
      | nil => rfl
      | cons c' cs' => simp [alikeAll] at h
  | cons c cs =>
      cases cs' with
      | nil => simp [alikeAll] at h
      | cons c' cs' =>
          simp only [alikeAll, Bool.and_eq_true] at h
          obtain ⟨hc, hcs⟩ := h
          have htext : r.sprinkling.before.textOf c = r.sprinkling.after.textOf c' :=
            alike_textOf hc
          have hreads : r.sprinkling.readsSame n c c' = true := by
            simp [Sprinkling.readsSame, htext]
          simp only [Sprinkling.strewn, Bool.or_eq_true, Bool.and_eq_true]
          exact Or.inl ⟨⟨Or.inr hreads, sprinkled_of_alike _ c c' hc⟩,
            strewn_of_alikeAll g n cs cs' hcs⟩

end

/-- Children in step with one of them exchanged: all keep their roles, and all but those in role
`f` read as before. -/
theorem forall₂_of_swapped {f : Field} {R : Node → Node → Bool} {cs cs' : List Node}
    (h : r.swapped f R cs cs' = true) :
    List.Forall₂ (fun c c' => c.field = c'.field ∧
      (r.alike c c' = true ∨ c.field = some f ∧ R c c' = true)) cs cs' := by
  induction cs generalizing cs' with
  | nil => simp [swapped] at h
  | cons c cs ih =>
      cases cs' with
      | nil => simp [swapped] at h
      | cons c' cs' =>
          simp only [swapped] at h
          split at h
          · rename_i hf
            simp only [Bool.and_eq_true, decide_eq_true_eq] at h
            obtain ⟨⟨hf', hR⟩, hrest⟩ := h
            refine .cons ⟨by rw [hf, hf'], Or.inr ⟨hf, hR⟩⟩ ((inStep_iff.mp hrest).imp ?_)
            intro a b hab
            exact ⟨alike_field hab, Or.inl hab⟩
          · obtain ⟨hc, hrest⟩ := Bool.and_eq_true_iff.mp h
            exact .cons ⟨alike_field hc, Or.inl hc⟩ (ih hrest)

theorem exists_find?_of_swapped {f : Field} {R : Node → Node → Bool} {cs cs' : List Node}
    (h : r.swapped f R cs cs' = true) :
    ∃ c c', cs.find? (fun c => c.field = some f) = some c ∧
      cs'.find? (fun c => c.field = some f) = some c' ∧ R c c' = true := by
  induction cs generalizing cs' with
  | nil => simp [swapped] at h
  | cons c cs ih =>
      cases cs' with
      | nil => simp [swapped] at h
      | cons c' cs' =>
          simp only [swapped] at h
          split at h
          · rename_i hf
            simp only [Bool.and_eq_true, decide_eq_true_eq] at h
            exact ⟨c, c', by simp [hf], by simp [h.1.1], h.1.2⟩
          · rename_i hf
            obtain ⟨hc, hrest⟩ := Bool.and_eq_true_iff.mp h
            have hf' : ¬ c'.field = some f := alike_field hc ▸ hf
            obtain ⟨d, d', hd, hd', hR⟩ := ih hrest
            exact ⟨d, d', by simpa [hf] using hd, by simpa [hf'] using hd', hR⟩

theorem swapped_imp {f : Field} {R S : Node → Node → Bool} {cs cs' : List Node}
    (h : r.swapped f R cs cs' = true)
    (hRS : ∀ c c', cs.find? (fun c => c.field = some f) = some c → R c c' = true →
      S c c' = true) : r.swapped f S cs cs' = true := by
  induction cs generalizing cs' with
  | nil => simp [swapped] at h
  | cons c cs ih =>
      cases cs' with
      | nil => simp [swapped] at h
      | cons c' cs' =>
          simp only [swapped] at h ⊢
          split at h
          · rename_i hf
            simp only [Bool.and_eq_true, decide_eq_true_eq] at h
            simp only [hf, h, ↓reduceIte, decide_true, Bool.true_and, Bool.and_true]
            exact hRS c c' (by simp [hf]) h.1.2
          · rename_i hf
            obtain ⟨hc, hrest⟩ := Bool.and_eq_true_iff.mp h
            simp only [hf, hc, ↓reduceIte, Bool.true_and]
            exact ih hrest fun d d' hd => hRS d d' (by simpa [hf] using hd)

theorem exchanged_imp {f : Field} {R S : Node → Node → Bool} {n n' : Node}
    (h : r.exchanged f R n n' = true)
    (hRS : ∀ c c', n.child? f = some c → R c c' = true → S c c' = true) :
    r.exchanged f S n n' = true := by
  obtain ⟨hlabel, hswapped⟩ := Bool.and_eq_true_iff.mp h
  exact Bool.and_eq_true_iff.mpr ⟨hlabel, swapped_imp hswapped hRS⟩

section
variable {f : Field} {R : Node → Node → Bool} {n n' : Node} (h : r.exchanged f R n n' = true)
include h

theorem exchanged_kind : n.kind = n'.kind ∧ n.field = n'.field := by
  simp only [exchanged, sameLabel, Bool.and_eq_true, decide_eq_true_eq] at h
  exact h.1

theorem exchanged_swapped : r.swapped f R n.children n'.children = true :=
  (Bool.and_eq_true_iff.mp h).2

theorem exchanged_child? :
    ∃ c c', n.child? f = some c ∧ n'.child? f = some c' ∧ R c c' = true :=
  exists_find?_of_swapped (exchanged_swapped h)

theorem exchanged_child?_of_ne {g : Field} (hg : g ≠ f) :
    Option.Rel (fun c c' => r.alike c c' = true) (n.child? g) (n'.child? g) := by
  have hfind := forall₂_find? (p := fun c => decide (c.field = some g))
    (q := fun c => decide (c.field = some g)) (fun c c' hcc => by rw [hcc.1])
    (forall₂_of_swapped (exchanged_swapped h))
  rcases option_rel_cases hfind with ⟨hc, hc'⟩ | ⟨c, c', hc, hc', -, hcc⟩
  · rw [Node.child?, Node.child?, hc, hc']
    exact .none
  · rw [Node.child?, Node.child?, hc, hc']
    have hrole : c.field = some g := by simpa using List.find?_some hc
    rcases hcc with hcc | ⟨hf, -⟩
    · exact .some hcc
    · rw [hrole] at hf
      exact absurd (Option.some.inj hf) hg

theorem exchanged_hasToken {text : String}
    (hR : ∀ c c', R c c' = true → (c.kind = .token text ↔ c'.kind = .token text)) :
    n.hasToken text = n'.hasToken text := by
  refine forall₂_any ?_ (forall₂_of_swapped (exchanged_swapped h))
  rintro c c' ⟨-, hcc | ⟨-, hcc⟩⟩
  · rw [alike_kind hcc]
  · exact decide_eq_decide.mpr (hR c c' hcc)

theorem hasToken_of_exchanged {text : String} (hR : ∀ c c', R c c' = true → c'.kind ≠ .token text)
    (htoken : n'.hasToken text = true) : n.hasToken text = true := by
  have hstep := forall₂_of_swapped (exchanged_swapped h)
  simp only [Node.hasToken] at htoken ⊢
  generalize n.children = cs, n'.children = cs' at hstep htoken
  induction hstep with
  | nil => simp at htoken
  | cons hcc _ ih =>
      rw [List.any_cons, Bool.or_eq_true] at htoken ⊢
      rcases htoken with htoken | htoken
      · have hkind := of_decide_eq_true htoken
        rcases hcc.2 with hcc | ⟨-, hcc⟩
        · exact Or.inl (decide_eq_true (alike_kind hcc ▸ hkind))
        · exact absurd hkind (hR _ _ hcc)
      · exact Or.inr (ih htoken)

end

end SpanWeave.Rereading
