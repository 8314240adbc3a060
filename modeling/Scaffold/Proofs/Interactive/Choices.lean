import Mathlib.Data.List.FinRange
import Mathlib.Data.Sigma.Basic
import Scaffold.Backend.Interactive
import Scaffold.Proofs.Data.OrderedMap

/-! # What the menus offer

A stack is reached by its language and by its place among the stacks of that language. The languages are those of the
stacks, each once, and the stacks of a language are those at the positions that have it, each once. So the choices that
the menus leave, a language and a stack of it, are one for each position of an index, also where stacks have the same
name or the same language, or none.
-/

namespace Scaffold.Interactive

variable {listed : List Stack} {language : String}

/-! ## Languages -/

theorem mem_languages : language ∈ languages listed ↔ ∃ stack ∈ listed, languageOf stack = language := by
  rw [languages, OrderedMap.mem_keys_iff, OrderedMap.get?, OrderedMap.find?_eq_lookup, OrderedMap.lookup_ofList]
  simp [List.lookup_eq_none_iff, @eq_comm _ language]

theorem languages_nodup (listed : List Stack) : (languages listed).Nodup := by
  have increasing := OrderedMap.increasing_ofList (listed.map fun stack => (languageOf stack, ()))
  exact (List.pairwise_map.mpr increasing).imp Std.ne_of_lt

theorem languages_ne_nil (listing : listed ≠ []) : languages listed ≠ [] := by
  obtain ⟨stack, member⟩ := List.exists_mem_of_ne_nil listed listing
  exact List.ne_nil_of_mem (mem_languages.mpr ⟨stack, member, rfl⟩)

/-! ## Stacks of a language -/

/-- The positions of the stacks of a language in the order of their menu. -/
def positionsOf (language : String) (listed : List Stack) : List (Fin listed.length) :=
  ((List.finRange listed.length).filter fun position => languageOf (listed.get position) = language).mergeSort
    fun a b => !((listed.get b).name < (listed.get a).name)

/-- The menu of a language offers what is at its positions. -/
theorem stacksOf_eq (language : String) (listed : List Stack) :
    stacksOf language listed = (positionsOf language listed).map listed.get := by
  have filtered : (listed.filter fun stack => languageOf stack = language) =
      ((List.finRange listed.length).filter fun position => languageOf (listed.get position) = language).map listed.get := by
    conv_lhs => rw [← List.map_get_finRange listed, List.filter_map]
    rfl
  rw [stacksOf, filtered, positionsOf]
  refine (List.map_mergeSort ?_).symm
  exact fun _ _ _ _ => rfl

theorem mem_positionsOf {position : Fin listed.length} :
    position ∈ positionsOf language listed ↔ languageOf (listed.get position) = language := by
  simp [positionsOf, List.mem_mergeSort]

theorem positionsOf_nodup (language : String) (listed : List Stack) : (positionsOf language listed).Nodup :=
  (List.mergeSort_perm _ _).nodup_iff.mpr ((List.nodup_finRange _).filter _)

theorem stacksOf_ne_nil (member : language ∈ languages listed) : stacksOf language listed ≠ [] := by
  obtain ⟨stack, among, rfl⟩ := mem_languages.mp member
  obtain ⟨position, rfl⟩ := List.mem_iff_get.mp among
  rw [stacksOf_eq, Ne, List.map_eq_nil_iff]
  exact List.ne_nil_of_mem (mem_positionsOf.mpr rfl)

/-! ## Choices -/

/-- What the menus of an index leave to choose: a language, and a stack of it. -/
structure Pick (listed : List Stack) where
  language : Fin (languages listed).length
  stack : Fin (stacksOf ((languages listed).get language) listed).length

namespace Pick

/-- The position of the stack that is chosen. -/
def position (pick : Pick listed) : Fin listed.length :=
  (positionsOf ((languages listed).get pick.language) listed).get
    (pick.stack.cast (by rw [stacksOf_eq, List.length_map]))

/-- What is at the position is what the menu offers. -/
theorem get_position (pick : Pick listed) :
    listed.get pick.position = (stacksOf ((languages listed).get pick.language) listed).get pick.stack := by
  simp [position, stacksOf_eq]

theorem languageOf_position (pick : Pick listed) :
    languageOf (listed.get pick.position) = (languages listed).get pick.language :=
  mem_positionsOf.mp (List.get_mem _ _)

/-- Each position of an index is chosen in exactly one way. -/
theorem position_bijective (listed : List Stack) : Function.Bijective fun pick : Pick listed => pick.position := by
  constructor
  · rintro ⟨language, stack⟩ ⟨otherLanguage, otherStack⟩ same
    have spoken := congrArg (fun position => languageOf (listed.get position)) same
    rw [languageOf_position, languageOf_position] at spoken
    obtain rfl : language = otherLanguage := (languages_nodup listed).injective_get spoken
    have place := (positionsOf_nodup _ listed).injective_get same
    rw [Pick.mk.injEq]
    exact ⟨rfl, heq_of_eq (Fin.cast_injective _ place)⟩
  · intro position
    obtain ⟨language, spoken⟩ := List.mem_iff_get.mp (mem_languages.mpr ⟨_, List.get_mem listed position, rfl⟩)
    obtain ⟨place, found⟩ := List.mem_iff_get.mp (mem_positionsOf.mpr spoken.symm)
    exact ⟨⟨language, place.cast (by rw [stacksOf_eq, List.length_map])⟩, found⟩

end Pick

/-- What all menus leave to choose: a registry, and a language and a stack of its index. -/
structure Selection (registries : List Registry) (index : Fin registries.length → List Stack) where
  registry : Fin registries.length
  pick : Pick (index registry)

namespace Selection

variable {registries : List Registry} {index : Fin registries.length → List Stack}

/-- The registry that is chosen, and the position of the stack in its index. -/
def target (selection : Selection registries index) : (registry : Fin registries.length) × Fin (index registry).length :=
  ⟨selection.registry, selection.pick.position⟩

/-- The answers to the menus. The registry is asked for only if there are several. -/
def answers (selection : Selection registries index) : List Nat :=
  (if registries.length = 1 then [] else [selection.registry.val]) ++
    [selection.pick.language.val, selection.pick.stack.val]

/-- Each position in each index is chosen in exactly one way. -/
theorem target_bijective (registries : List Registry) (index : Fin registries.length → List Stack) :
    Function.Bijective fun selection : Selection registries index => selection.target := by
  constructor
  · rintro ⟨registry, pick⟩ ⟨otherRegistry, otherPick⟩ same
    dsimp only [target] at same
    rw [Sigma.mk.injEq] at same
    obtain ⟨rfl, same⟩ := same
    obtain rfl : pick = otherPick := (Pick.position_bijective _).injective (eq_of_heq same)
    rfl
  · rintro ⟨registry, position⟩
    obtain ⟨pick, rfl⟩ := (Pick.position_bijective _).surjective position
    exact ⟨⟨registry, pick⟩, rfl⟩

/-- What is chosen is told by the answers. -/
theorem answers_injective (registries : List Registry) (index : Fin registries.length → List Stack) :
    Function.Injective fun selection : Selection registries index => selection.answers := by
  rintro ⟨registry, language, stack⟩ ⟨otherRegistry, otherLanguage, otherStack⟩ same
  dsimp only [answers] at same
  obtain rfl : registry = otherRegistry := by
    by_cases alone : registries.length = 1
    · exact Fin.ext (by omega)
    · rw [if_neg alone, if_neg alone] at same
      exact Fin.ext (List.cons.inj same).1
  obtain ⟨spoken, picked⟩ := List.cons.inj (List.append_cancel_left same)
  obtain rfl : language = otherLanguage := Fin.ext spoken
  obtain rfl : stack = otherStack := Fin.ext (List.cons.inj picked).1
  rfl

end Selection

end Scaffold.Interactive
