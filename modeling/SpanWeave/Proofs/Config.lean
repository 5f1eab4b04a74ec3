import SpanWeave.Config

namespace SpanWeave

open Text

/-- A character that may stand in the name of an entry point. -/
def isNameCharacter (c : Char) : Bool := isAlphanumeric c || c = '_' || c = '$'

theorem isNameCharacter_of_mem {name : Text} (h : isIdentifier name = true) {c : Char}
    (hc : c ∈ name) : isNameCharacter c = true := by
  cases name with
  | nil => simp [isIdentifier] at h
  | cons a name =>
      obtain ⟨hfirst, hrest⟩ := Bool.and_eq_true_iff.mp h
      rcases List.mem_cons.mp hc with rfl | hc
      · simp only [isNameCharacter, isAlphanumeric, Bool.or_eq_true] at hfirst ⊢
        exact hfirst.imp_left (Or.imp_left .inl)
      · exact List.all_eq_true.mp hrest c hc

namespace Config

theorem validate_eq_ok_iff {c : Config} :
    c.validate = .ok () ↔
      isIdentifier c.instrumentation.function = true ∧
        isModulePath c.instrumentation.module = true := by
  simp only [validate]
  split
  · simp_all
  split <;> simp_all

end Config

end SpanWeave
