/-! # Reading lists item by item

A list is read if each of its items is. What is read corresponds to the list item by item, so that facts about a
reading are facts about its items.
-/

namespace Scaffold

variable {α β γ : Type} {read : α → Option β} {items : List α} {values : List β}

theorem mapM_eq_some : items.mapM read = some values ↔ items.map read = values.map some := by
  induction items generalizing values with
  | nil => cases values <;> simp
  | cons item rest ih =>
    rw [List.mapM_cons, List.map_cons]
    cases head : read item with
    | none => cases values <;> simp
    | some value =>
      cases tail : rest.mapM read with
      | none =>
        have unread : ∀ others : List β, rest.map read ≠ others.map some := fun others same => by
          rw [ih.mpr same] at tail
          cases tail
        cases values with
        | nil => simp
        | cons first others => simp [unread]
      | some others =>
        have same := ih.mp tail
        cases values <;> simp [same, List.map_inj_right]

theorem exists_of_mem_mapM (all : items.mapM read = some values) {value : β} (member : value ∈ values) :
    ∃ item ∈ items, read item = some value := by
  have listed : some value ∈ items.map read := by
    rw [mapM_eq_some.mp all]
    exact List.mem_map_of_mem member
  exact List.mem_map.mp listed

/-! ## Bindings -/

section

variable {κ : Type} [BEq κ] {bindings : List (κ × α)} {named : List (κ × β)} {key : κ}

theorem lookup_map (change : α → β) (bindings : List (κ × α)) (key : κ) :
    (bindings.map fun (name, value) => (name, change value)).lookup key = (bindings.lookup key).map change := by
  induction bindings with
  | nil => rfl
  | cons binding rest ih =>
    rw [List.map_cons, List.lookup_cons, List.lookup_cons, ih]
    split <;> rfl

theorem lookup_filter [LawfulBEq κ] {keep : κ → Bool} (bindings : List (κ × α)) (kept : keep key = true) :
    (bindings.filter fun binding => keep binding.1).lookup key = bindings.lookup key := by
  induction bindings with
  | nil => rfl
  | cons binding rest ih =>
    rw [List.lookup_cons]
    cases stays : keep binding.1 with
    | true => rw [List.filter_cons_of_pos (by simp [stays]), List.lookup_cons, ih]
    | false =>
      have other : (key == binding.1) = false := beq_eq_false_iff_ne.mpr fun same => by simp [← same, kept] at stays
      rw [List.filter_cons_of_neg (by simp [stays]), ih, other]

/-- What is found among the values is read from what is found among the bindings, and nothing else is found. -/
theorem lookup_of_mapM (all : (bindings.mapM fun binding => (read binding.2).map fun value => (binding.1, value)) = some named)
    (key : κ) : (bindings.lookup key).map read = (named.lookup key).map some := by
  rw [mapM_eq_some] at all
  induction bindings generalizing named with
  | nil =>
    cases named with
    | nil => rfl
    | cons _ _ => cases all
  | cons binding rest ih =>
    cases named with
    | nil => cases all
    | cons value rest =>
      obtain ⟨first, others⟩ := List.cons_eq_cons.mp all
      obtain ⟨_, told, rfl⟩ := Option.map_eq_some_iff.mp first
      rw [List.lookup_cons, List.lookup_cons]
      split
      · rw [Option.map_some, Option.map_some, told]
      · exact ih others

end

/-- What is told of each value that is read is told of the values as of the items they were read from. -/
theorem map_eq_of_mapM_eq_ok {ε : Type} {read : α → Except ε β} {told : α → γ} {tell : β → γ}
    (all : items.mapM read = .ok values) (same : ∀ item value, read item = .ok value → tell value = told item) :
    values.map tell = items.map told := by
  induction items generalizing values with
  | nil =>
    cases all
    rfl
  | cons item rest ih =>
    rw [List.mapM_cons] at all
    cases head : read item with
    | error _ =>
      rw [head] at all
      cases all
    | ok value =>
      cases tail : rest.mapM read with
      | error _ =>
        rw [head, tail] at all
        cases all
      | ok others =>
        rw [head, tail] at all
        cases all
        rw [List.map_cons, List.map_cons, same item value head, ih tail]

/-- A list whose items can all be read is read. -/
theorem mapM_eq_ok {ε : Type} {read : α → Except ε β} {told : α → β} (each : ∀ item ∈ items, read item = .ok (told item)) :
    items.mapM read = .ok (items.map told) := by
  induction items with
  | nil => rfl
  | cons item rest ih =>
    rw [List.mapM_cons, each item List.mem_cons_self, ih fun other member => each other (List.mem_cons_of_mem _ member)]
    rfl

/-- A list that cannot be read fails as one of its items does. -/
theorem exists_of_mapM_eq_error {ε : Type} {read : α → Except ε β} {error : ε} (failed : items.mapM read = .error error) :
    ∃ item ∈ items, read item = .error error := by
  induction items with
  | nil => cases failed
  | cons item rest ih =>
    rw [List.mapM_cons] at failed
    cases head : read item with
    | error told =>
      rw [head] at failed
      cases failed
      exact ⟨item, List.mem_cons_self, head⟩
    | ok value =>
      cases tail : rest.mapM read with
      | error told =>
        rw [head, tail] at failed
        cases failed
        obtain ⟨other, member, same⟩ := ih tail
        exact ⟨other, List.mem_cons_of_mem _ member, same⟩
      | ok values =>
        rw [head, tail] at failed
        cases failed

/-- A list with an item that cannot be read is not read. -/
theorem mapM_eq_error_of_mem {ε : Type} {read : α → Except ε β} {error : ε} {item : α} (member : item ∈ items)
    (failed : read item = .error error) : ∃ told, items.mapM read = .error told := by
  induction items with
  | nil => cases member
  | cons first rest ih =>
    rw [List.mapM_cons]
    cases head : read first with
    | error told => exact ⟨told, rfl⟩
    | ok value =>
      rcases List.mem_cons.mp member with rfl | member
      · rw [failed] at head
        cases head
      · obtain ⟨told, tail⟩ := ih member
        rw [tail]
        exact ⟨told, rfl⟩

end Scaffold
