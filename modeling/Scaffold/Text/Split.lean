/-! # Cutting a text at a separator -/

namespace Scaffold.Text

/-- The pieces of a text between the occurrences of a separator. There is one piece more than there are
separators, and pieces may be empty. -/
def split (separator : Char) : List Char → List (List Char)
  | [] => [[]]
  | c :: rest =>
    if c = separator then [] :: split separator rest
    else
      match split separator rest with
      | [] => [[c]]
      | piece :: pieces => (c :: piece) :: pieces

/-- The pieces put together again with the separator between them. -/
def glue (separator : Char) : List (List Char) → List Char
  | [] => []
  | [piece] => piece
  | piece :: next :: rest => piece ++ separator :: glue separator (next :: rest)

theorem split_ne_nil (separator : Char) (text : List Char) : split separator text ≠ [] := by
  cases text with
  | nil => simp [split]
  | cons c rest =>
    by_cases same : c = separator
    · simp [split, same]
    · simp only [split, same, ↓reduceIte]
      split <;> simp

/-- Cutting loses nothing. -/
theorem glue_split (separator : Char) (text : List Char) :
    glue separator (split separator text) = text := by
  induction text with
  | nil => rfl
  | cons c rest ih =>
    cases pieces : split separator rest with
    | nil => exact absurd pieces (split_ne_nil separator rest)
    | cons piece others =>
      rw [pieces] at ih
      by_cases same : c = separator
      · simp [split, same, pieces, glue, ih]
      · cases others with
        | nil =>
          simp only [glue] at ih
          simp [split, same, pieces, glue, ih]
        | cons next others =>
          simp only [glue] at ih
          simp [split, same, pieces, glue, ih]

end Scaffold.Text
