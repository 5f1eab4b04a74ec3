import Mathlib.Data.List.Forall2

namespace SpanWeave

section lists
variable {α β : Type} {R : α → β → Prop} {p : α → Bool} {q : β → Bool} {l : List α} {l' : List β}

theorem forall₂_find? (hpq : ∀ a b, R a b → p a = q b) (h : List.Forall₂ R l l') :
    Option.Rel R (l.find? p) (l'.find? q) := by
  induction h with
  | nil => exact .none
  | @cons a b l l' hab _ ih =>
      have heq := hpq a b hab
      by_cases hp : p a = true
      · rw [List.find?_cons_of_pos hp, List.find?_cons_of_pos (heq ▸ hp)]
        exact .some hab
      · rw [List.find?_cons_of_neg hp, List.find?_cons_of_neg (heq ▸ hp)]
        exact ih

theorem forall₂_any (hpq : ∀ a b, R a b → p a = q b) (h : List.Forall₂ R l l') :
    l.any p = l'.any q := by
  induction h with
  | nil => rfl
  | cons hab _ ih => rw [List.any_cons, List.any_cons, hpq _ _ hab, ih]

theorem forall₂_filter (hpq : ∀ a b, R a b → p a = q b) (h : List.Forall₂ R l l') :
    List.Forall₂ R (l.filter p) (l'.filter q) := by
  refine List.rel_filter ?_ h
  intro a b hab
  simp only [hpq a b hab]

theorem forall₂_head? (h : List.Forall₂ R l l') : Option.Rel R l.head? l'.head? := by
  cases h with
  | nil => exact .none
  | cons hab _ => exact .some hab

theorem forall₂_getLast? (h : List.Forall₂ R l l') : Option.Rel R l.getLast? l'.getLast? := by
  induction h with
  | nil => exact .none
  | @cons a b l l' hab hrest ih =>
      cases hrest with
      | nil => exact .some hab
      | cons _ _ =>
          rw [List.getLast?_cons_cons, List.getLast?_cons_cons]
          exact ih

theorem forall₂_flatMap {γ : Type} {f : α → List γ} {g : β → List γ}
    (hfg : ∀ a b, R a b → f a = g b) (h : List.Forall₂ R l l') : l.flatMap f = l'.flatMap g := by
  induction h with
  | nil => rfl
  | cons hab _ ih => rw [List.flatMap_cons, List.flatMap_cons, hfg _ _ hab, ih]

end lists

section options
variable {α β γ : Type} {R : α → β → Prop} {o : Option α} {o' : Option β}

theorem option_rel_cases (h : Option.Rel R o o') :
    (o = none ∧ o' = none) ∨ ∃ a b, o = some a ∧ o' = some b ∧ R a b := by
  cases h with
  | none => exact Or.inl ⟨rfl, rfl⟩
  | some hab => exact Or.inr ⟨_, _, rfl, rfl, hab⟩

theorem option_map_eq {f : α → γ} {g : β → γ} (hfg : ∀ a b, R a b → f a = g b)
    (h : Option.Rel R o o') : o.map f = o'.map g := by
  cases h with
  | none => rfl
  | some hab => rw [Option.map_some, Option.map_some, hfg _ _ hab]

theorem option_bind_eq {f : α → Option γ} {g : β → Option γ} (hfg : ∀ a b, R a b → f a = g b)
    (h : Option.Rel R o o') : o.bind f = o'.bind g := by
  cases h with
  | none => rfl
  | some hab => exact hfg _ _ hab

theorem option_any_eq {p : α → Bool} {q : β → Bool} (hpq : ∀ a b, R a b → p a = q b)
    (h : Option.Rel R o o') : o.any p = o'.any q := by
  cases h with
  | none => rfl
  | some hab => exact hpq _ _ hab

theorem option_isSome_eq (h : Option.Rel R o o') : o.isSome = o'.isSome := by
  cases h <;> rfl

theorem option_rel_imp {S : α → β → Prop} (hRS : ∀ a b, R a b → S a b) (h : Option.Rel R o o') :
    Option.Rel S o o' := by
  cases h with
  | none => exact .none
  | some hab => exact .some (hRS _ _ hab)

theorem option_rel_or {p : Option α} {p' : Option β} (h : Option.Rel R o o')
    (hp : Option.Rel R p p') : Option.Rel R (o.or p) (o'.or p') := by
  cases h with
  | none => exact hp
  | some hab => exact .some hab

theorem option_rel_bind {γ δ : Type} {S : γ → δ → Prop} {f : α → Option γ} {g : β → Option δ}
    (hfg : ∀ a b, R a b → Option.Rel S (f a) (g b)) (h : Option.Rel R o o') :
    Option.Rel S (o.bind f) (o'.bind g) := by
  cases h with
  | none => exact .none
  | some hab => exact hfg _ _ hab

theorem option_rel_filter {p : α → Bool} {q : β → Bool} (hpq : ∀ a b, R a b → p a = q b)
    (h : Option.Rel R o o') : Option.Rel R (o.filter p) (o'.filter q) := by
  cases h with
  | none => exact .none
  | some hab =>
      rw [Option.filter_some, Option.filter_some, hpq _ _ hab]
      split
      · exact .some hab
      · exact .none

theorem option_flatMap_eq {f : α → List γ} {g : β → List γ} (hfg : ∀ a b, R a b → f a = g b)
    (h : Option.Rel R o o') : o.toList.flatMap f = o'.toList.flatMap g := by
  cases h with
  | none => rfl
  | some hab => simp only [Option.toList_some, List.flatMap_singleton, hfg _ _ hab]

end options

end SpanWeave
