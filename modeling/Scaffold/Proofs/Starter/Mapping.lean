import Scaffold.Proofs.Session.Apply
import Scaffold.Proofs.Starter.Target
import Scaffold.Starter.Download

/-! # Which paths have a target, and which

A path of a project has a target exactly if the names in it go on from those of the subdirectory, and the target is the
destination with the names that remain. So a target tells the names of its path, and paths that are only spelled in
different ways have the same one.
-/

namespace Scaffold

namespace Path

variable {path other : Path}

/-- The names in a path, in order. -/
def names (path : Path) : List String := path.components.filterMap PathComponent.name?

/-- The pieces of a path between slashes that are neither empty nor a `.`. -/
def pieces (path : Path) : List (List Char) :=
  (Text.split '/' path.text.toList).filter fun piece => piece ≠ [] ∧ piece ≠ ['.']

/-- Two spellings of one path: they differ only in `.` pieces and repeated slashes. -/
def SpelledAlike (path other : Path) : Prop := path.isAbsolute = other.isAbsolute ∧ path.pieces = other.pieces

instance (path other : Path) : Decidable (path.SpelledAlike other) := inferInstanceAs (Decidable (_ ∧ _))

private theorem filterMap_meaningful (pieces : List (List Char)) :
    (pieces.filter fun piece => piece ≠ [] ∧ piece ≠ ['.']).filterMap PathComponent.ofPiece? =
      pieces.filterMap PathComponent.ofPiece? := by
  rw [List.filterMap_filter]
  congr 1
  funext piece
  by_cases empty : piece = [] ∨ piece = ['.']
  · rw [ofPiece?_eq_none.mpr empty, ite_self]
  · exact if_pos (by simpa [not_or] using empty)

private theorem filter_ofText (text : List Char) : (Route.ofText text).filter (· ≠ .here) = Route.ofText text := by
  rw [List.filter_eq_self]
  intro component member
  rcases Route.up_or_name_of_mem_ofText member with rfl | ⟨_, rfl⟩ <;> simp

/-- But for current directories, the components of a path are told by its pieces and by whether it starts at the root. -/
theorem components_filter (path : Path) :
    path.components.filter (· ≠ .here) =
      (if path.isAbsolute then [.root] else []) ++ path.pieces.filterMap PathComponent.ofPiece? := by
  rw [pieces, filterMap_meaningful]
  cases absolute : path.isAbsolute with
  | true =>
    obtain ⟨rest, text⟩ := isAbsolute_iff.mp absolute
    rw [components_of_absolute text, text, Text.split, if_pos rfl]
    exact congrArg (PathComponent.root :: ·) (filter_ofText rest)
  | false =>
    rcases components_of_relative absolute with same | same
    · rw [same, filter_ofText]
      rfl
    · rw [same, List.filter_cons_of_neg (by decide), filter_ofText]
      rfl

theorem SpelledAlike.components_filter (alike : path.SpelledAlike other) :
    path.components.filter (· ≠ .here) = other.components.filter (· ≠ .here) := by
  rw [Path.components_filter, Path.components_filter, alike.1, alike.2]

end Path

namespace Overlay

variable {overlay : Overlay} {path other target place : Path} {names : List String}

theorem names_of_names? (read : names? path = some names) : path.names = names := by
  have kept : path.names = (path.components.filter (· ≠ .here)).filterMap PathComponent.name? := by
    rw [List.filterMap_filter, Path.names]
    congr 1
    funext component
    cases component <;> rfl
  rw [kept, names?_eq_some.mp read, List.filterMap_map]
  exact List.filterMap_some ..

theorem names?_of_inside (inside : ¬ path.Escapes) : names? path = some path.names := by
  obtain ⟨names, read⟩ := Option.ne_none_iff_exists'.mp (mt names?_eq_none.mp inside)
  rw [read, names_of_names? read]

/-- What a path is mapped to does not depend on how it is spelled. -/
theorem target?_of_spelledAlike (alike : path.SpelledAlike other) :
    (overlay.target? path).toOption = (overlay.target? other).toOption := by
  have same : names? path = names? other := by rw [names?, names?, alike.components_filter]
  unfold target?
  rw [same]
  cases names? other <;> rfl

/-- Paths with one target have the same names. -/
theorem names_eq_of_same (aimed : overlay.target? path = .ok (some target))
    (placed : overlay.target? other = .ok (some place)) (same : target.same place = true) : path.names = other.names := by
  obtain ⟨rest, _, read, rfl⟩ := target?_eq_some.mp aimed
  obtain ⟨others, _, told, rfl⟩ := target?_eq_some.mp placed
  have plain : ∀ {path : Path} {rest : List String}, names? path = some (overlay.subDirectory ++ rest) →
      (overlay.placeOf rest).components = overlay.destination.components ++ rest.map .name := fun read =>
    Path.components_join_names overlay.destination fun name member =>
      plainName_of_names? read name (List.mem_append_right _ member)
  rw [Path.same, beq_iff_eq, plain read, plain told, Route.append_names_inj] at same
  rw [names_of_names? read, names_of_names? told, same]

end Overlay

namespace Devfile.StarterProject

variable {starter : StarterProject} {names : List String}

/-- The names that lead to the part of a project that is taken; none lead to all of it. -/
def innerNames (starter : StarterProject) : List String := (starter.subDir?.map fun text => Path.names ⟨text⟩).getD []

theorem subDirectory_eq_ok (accepted : starter.subDirectory = .ok names) : names = starter.innerNames := by
  unfold subDirectory at accepted
  unfold innerNames
  cases told : starter.subDir? with
  | none =>
    rw [told] at accepted
    exact (Except.ok.inj accepted).symm
  | some text =>
    simp only [told] at accepted
    cases read : Overlay.names? ⟨text⟩ with
    | none =>
      rw [read] at accepted
      cases accepted
    | some found =>
      rw [read] at accepted
      rw [← Except.ok.inj accepted]
      exact (Overlay.names_of_names? read).symm

/-- With a subdirectory that is accepted, just the paths that lead up or start at the root are refused. Any other path
goes to the destination followed by the names that remain below the subdirectory, if any do, and else nowhere. So the
spelling of a path does not matter, and paths with different names never share a target. -/
theorem target?_maps (accepted : starter.subDirectory = .ok names) (destination : Path) :
    let overlay : Overlay := ⟨destination, names⟩
    (∀ path, (∃ obstacle, overlay.target? path = .error obstacle) ↔ .up ∈ path.components ∨ .root ∈ path.components) ∧
    (∀ path, ¬ path.Escapes →
      (∀ target, overlay.target? path = .ok (some target) ↔ ∃ rest, rest ≠ [] ∧ path.names = starter.innerNames ++ rest ∧
        target = destination.join ⟨"/".intercalate rest⟩) ∧
      (overlay.target? path = .ok none ↔ ¬ ∃ rest, rest ≠ [] ∧ path.names = starter.innerNames ++ rest)) ∧
    (∀ path other, path.SpelledAlike other → (overlay.target? path).toOption = (overlay.target? other).toOption) ∧
    (∀ path other target place, overlay.target? path = .ok (some target) → overlay.target? other = .ok (some place) →
      target.same place = true → path.names = other.names) := by
  obtain rfl := subDirectory_eq_ok accepted
  intro overlay
  refine ⟨fun path => ?_, fun path inside => ?_, fun _ _ => Overlay.target?_of_spelledAlike,
    fun _ _ _ _ => Overlay.names_eq_of_same⟩
  · simp only [Overlay.target?_eq_error, exists_and_left, exists_eq, and_true]
    exact Iff.rfl
  · have read := Overlay.names?_of_inside inside
    have aimed : ∀ target, overlay.target? path = .ok (some target) ↔ ∃ rest, rest ≠ [] ∧
        path.names = starter.innerNames ++ rest ∧ target = destination.join ⟨"/".intercalate rest⟩ := by
      intro target
      rw [Overlay.target?_eq_some, read]
      simp only [Option.some.injEq, @eq_comm _ target]
      exact Iff.rfl
    refine ⟨aimed, ?_⟩
    -- A path that does not escape is mapped to a target or to none.
    have mapped : overlay.target? path = .ok ((overlay.below? path.names).map overlay.placeOf) := by
      rw [Overlay.target?, read]
    rw [mapped, Except.ok.injEq, Option.map_eq_none_iff, Option.eq_none_iff_forall_ne_some]
    simp only [ne_eq, Overlay.below?_eq_some, not_exists]
    exact Iff.rfl

/-- A starter project of which one part is taken. -/
def partialStarter : StarterProject := { name := "s", subDir? := some ".//app/./src/" }

theorem target?_maps_partial :
    partialStarter.subDirectory = .ok ["app", "src"] ∧
      Overlay.target? ⟨⟨"/work"⟩, ["app", "src"]⟩ ⟨"./app//src/main/./a.go"⟩ = .ok (some ⟨"/work/main/a.go"⟩) ∧
      Overlay.target? ⟨⟨"/work"⟩, ["app", "src"]⟩ ⟨"app/./src/"⟩ = .ok none ∧
      ∃ obstacle, Overlay.target? ⟨⟨"/work"⟩, ["app", "src"]⟩ ⟨"app/src/../a.go"⟩ = .error obstacle := by
  have accepted : partialStarter.subDirectory = .ok ["app", "src"] := by decide +kernel
  obtain ⟨refused, mapped, _⟩ := target?_maps accepted ⟨"/work"⟩
  refine ⟨accepted, ?_, ?_, (refused _).mpr (.inl (by decide +kernel))⟩
  · exact ((mapped _ (by decide +kernel)).1 _).mpr ⟨["main", "a.go"], by decide, by decide +kernel, by decide +kernel⟩
  · have names : (⟨"app/./src/"⟩ : Path).names = partialStarter.innerNames := by decide +kernel
    refine (mapped _ (by decide +kernel)).2.mpr ?_
    rw [names]
    rintro ⟨rest, some, same⟩
    exact some (List.append_right_eq_self.mp same.symm)

end Devfile.StarterProject

end Scaffold
