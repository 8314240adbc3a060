import Scaffold.Name

/-! # Names that are made up are valid

A text is turned into a name only if the outcome is one, and the fallback is one too.
-/

namespace Scaffold.Name

variable {raw name : String}

theorem isValid_iff : isValid name = true ↔ validate name = .ok () := by
  unfold isValid
  cases validate name <;> simp [Except.isOk, Except.toBool]

theorem validate_of_sanitize? (made : sanitize? raw = some name) : validate name = .ok () := by
  simp only [sanitize?] at made
  split at made
  · rename_i valid
    exact isValid_iff.mp (Option.some.inj made ▸ valid)
  · cases made

theorem validate_fallback : validate fallback = .ok () := isValid_iff.mp (by decide +kernel)

/-- Whatever the candidates, a name is suggested that is valid. -/
theorem validate_suggest (candidates : List String) (directory : Path) :
    validate (suggest candidates directory) = .ok () := by
  unfold suggest
  cases found : (candidates ++ directory.fileName?.toList).findSome? sanitize? with
  | none => exact validate_fallback
  | some name =>
    obtain ⟨_, _, made⟩ := List.exists_of_findSome?_eq_some found
    exact validate_of_sanitize? made

end Scaffold.Name
