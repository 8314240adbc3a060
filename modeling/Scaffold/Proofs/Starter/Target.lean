import Scaffold.Proofs.Data.Traverse
import Scaffold.Proofs.Files.Tree
import Scaffold.Starter.Overlay

/-! # Where entries go

The path of an entry is taken by its names, of which those that lead to the subdirectory are left out. The place of an
entry is the destination followed by the names that remain, as a path and as a route alike. A path that leads up or
starts at the root has no names, and no place.
-/

namespace Scaffold.Overlay

open Archive (Obstacle)

/-! ## Names -/

section

variable {path : Path} {names : List String}

theorem names?_eq_some : names? path = some names ↔ path.components.filter (· ≠ .here) = names.map .name := by
  have named : ∀ component name, PathComponent.name? component = some name ↔ component = .name name := by
    intro component name
    cases component <;> simp [PathComponent.name?]
  rw [names?, mapM_eq_some]
  generalize path.components.filter (· ≠ .here) = route
  induction route generalizing names with
  | nil => cases names <;> simp
  | cons component rest ih => cases names <;> simp [named, ih]

/-- Only a path that escapes has no names. -/
theorem names?_eq_none : names? path = none ↔ path.Escapes := by
  have unnamed : names? path = none ↔ ∃ component ∈ path.components.filter (· ≠ .here), component.name? = none := by
    rw [names?]
    induction path.components.filter (· ≠ .here) with
    | nil => simp
    | cons component rest ih =>
      cases read : component.name? with
      | none => simp [List.mapM_cons, read]
      | some name => cases others : rest.mapM PathComponent.name? <;> simp_all [List.mapM_cons]
  rw [unnamed]
  constructor
  · rintro ⟨component, member, read⟩
    obtain ⟨within, other⟩ := List.mem_filter.mp member
    cases component with
    | root => exact .inr within
    | here => simp at other
    | up => exact .inl within
    | name text => cases read
  · rintro (within | within)
    · exact ⟨.up, List.mem_filter.mpr ⟨within, by simp⟩, rfl⟩
    · exact ⟨.root, List.mem_filter.mpr ⟨within, by simp⟩, rfl⟩

theorem plainName_of_names? (read : names? path = some names) : ∀ name ∈ names, PlainName name := by
  intro name member
  have among : PathComponent.name name ∈ path.components.filter (· ≠ .here) := by
    rw [names?_eq_some.mp read]
    exact List.mem_map_of_mem member
  exact Path.plainName_of_mem_components (List.mem_filter.mp among).1

end

variable {overlay : Overlay} {path target parent : Path} {names rest : List String}

/-! ## Targets -/

theorem below?_eq_some : overlay.below? names = some rest ↔ rest ≠ [] ∧ names = overlay.subDirectory ++ rest := by
  unfold below?
  constructor
  · intro taken
    split at taken
    · rename_i begins
      obtain ⟨others, rfl⟩ := List.isPrefixOf_iff_prefix.mp begins
      dsimp only at taken
      rw [List.drop_left] at taken
      split at taken
      · cases taken
      · rename_i some
        cases taken
        exact ⟨by simpa using some, rfl⟩
    · cases taken
  · rintro ⟨some, rfl⟩
    rw [if_pos (List.isPrefixOf_iff_prefix.mpr (List.prefix_append ..))]
    simp [some]

/-- An entry goes to the place of the names that remain below the subdirectory, if any do. -/
theorem target?_eq_some :
    overlay.target? path = .ok (some target) ↔
      ∃ rest, rest ≠ [] ∧ names? path = some (overlay.subDirectory ++ rest) ∧ overlay.placeOf rest = target := by
  unfold target?
  cases read : names? path with
  | none => simp
  | some names =>
    simp only [Except.ok.injEq, Option.map_eq_some_iff, below?_eq_some, Option.some.injEq]
    constructor
    · rintro ⟨rest, ⟨some, rfl⟩, rfl⟩
      exact ⟨rest, some, rfl, rfl⟩
    · rintro ⟨rest, some, rfl, rfl⟩
      exact ⟨rest, ⟨some, rfl⟩, rfl⟩

theorem target?_eq_error {obstacle : Obstacle} :
    overlay.target? path = .error obstacle ↔ path.Escapes ∧ obstacle = .unsafePath path := by
  rw [← names?_eq_none, target?]
  cases names? path <;> simp [@eq_comm _ obstacle]

/-! ## Places -/

theorem resolve_placeOf (tree : FileTree) (plain : ∀ name ∈ names, PlainName name) :
    tree.resolve (overlay.placeOf names) = tree.resolve overlay.destination ++ names.map .name :=
  FileTree.resolve_append_names (Path.components_join_names overlay.destination plain)

/-- Entries that go to one place have one target. -/
theorem target?_inj {tree : FileTree} {other place : Path} (aimed : overlay.target? path = .ok (some target))
    (placed : overlay.target? other = .ok (some place)) :
    tree.resolve place = tree.resolve target ↔ place = target := by
  obtain ⟨names, _, read, rfl⟩ := target?_eq_some.mp aimed
  obtain ⟨others, _, told, rfl⟩ := target?_eq_some.mp placed
  have plain : ∀ name ∈ names, PlainName name := fun name member =>
    plainName_of_names? read name (List.mem_append_right _ member)
  have plains : ∀ name ∈ others, PlainName name := fun name member =>
    plainName_of_names? told name (List.mem_append_right _ member)
  refine ⟨fun same => ?_, fun same => by rw [same]⟩
  rw [resolve_placeOf tree plain, resolve_placeOf tree plains, Route.append_names_inj] at same
  rw [same]

variable (rooted : overlay.destination.isAbsolute = true)
include rooted

/-- The place of some names has the components of the destination and these names. -/
theorem components_placeOf (plain : ∀ name ∈ names, PlainName name) :
    (overlay.placeOf names).isAbsolute = true ∧
      (overlay.placeOf names).components = overlay.destination.components ++ names.map .name := by
  have components : (overlay.placeOf names).components = _ := Path.components_join_names overlay.destination plain
  exact ⟨Path.isAbsolute_of_append rooted components, components⟩

/-- The directory of a target is the target's parent also as a route. -/
theorem parent?_resolve_target (tree : FileTree) (aimed : overlay.target? path = .ok (some target))
    (climbed : target.parent? = some parent) : (tree.resolve target).parent? = some (tree.resolve parent) := by
  obtain ⟨names, some, read, rfl⟩ := target?_eq_some.mp aimed
  have plain : ∀ name ∈ names, PlainName name := fun name member =>
    plainName_of_names? read name (List.mem_append_right _ member)
  have components := (components_placeOf rooted plain).2
  rw [FileTree.resolve_append_names components,
    FileTree.resolve_append_names (Path.components_parent_append_names some components climbed)]
  rcases names.eq_nil_or_concat with rfl | ⟨opening, last, rfl⟩
  · exact absurd rfl some
  · rw [List.concat_eq_append, List.map_append, List.dropLast_concat, ← List.append_assoc]
    exact Route.parent?_concat_name _ last

end Scaffold.Overlay
