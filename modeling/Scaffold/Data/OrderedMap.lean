/-! # Finite maps with ordered keys

A map is the list of its bindings. Insertion keeps the keys in increasing order, so that listing a map
shows them that way.
-/

namespace Scaffold

/-- Bindings of keys to values. -/
structure OrderedMap (κ α : Type) where
  entries : List (κ × α)
  deriving Repr, DecidableEq

namespace OrderedMap

variable {κ α : Type}

/-- No bindings. -/
def empty : OrderedMap κ α := ⟨[]⟩

instance : Inhabited (OrderedMap κ α) := ⟨empty⟩

/-- The value of the first binding of a key. -/
def find? [DecidableEq κ] (key : κ) : List (κ × α) → Option α
  | [] => none
  | (k, value) :: rest => if k = key then some value else find? key rest

/-- The value bound to a key. -/
def get? [DecidableEq κ] (map : OrderedMap κ α) (key : κ) : Option α := find? key map.entries

/-- Whether a key is bound. -/
def contains [DecidableEq κ] (map : OrderedMap κ α) (key : κ) : Bool := (map.get? key).isSome

/-- Put a binding in front of the first greater key, in place of an equal one. -/
def place [DecidableEq κ] [LT κ] [DecidableLT κ] (key : κ) (value : α) :
    List (κ × α) → List (κ × α)
  | [] => [(key, value)]
  | (k, v) :: rest =>
    if k = key then (key, value) :: rest
    else if key < k then (key, value) :: (k, v) :: rest
    else (k, v) :: place key value rest

/-- Bind a key, replacing any earlier binding. -/
def insert [DecidableEq κ] [LT κ] [DecidableLT κ] (map : OrderedMap κ α) (key : κ) (value : α) :
    OrderedMap κ α := ⟨place key value map.entries⟩

/-- Bind a key unless it is bound already. -/
def insertNew [DecidableEq κ] [LT κ] [DecidableLT κ] (map : OrderedMap κ α) (key : κ) (value : α) :
    OrderedMap κ α := if map.contains key then map else map.insert key value

/-- Remove the bindings of a key. -/
def erase [DecidableEq κ] (map : OrderedMap κ α) (key : κ) : OrderedMap κ α :=
  ⟨map.entries.filter fun entry => entry.1 ≠ key⟩

/-- The map that binds each key of a list, a later binding replacing an earlier one. -/
def ofList [DecidableEq κ] [LT κ] [DecidableLT κ] (bindings : List (κ × α)) : OrderedMap κ α :=
  bindings.foldl (fun map entry => map.insert entry.1 entry.2) empty

/-- The keys in order. -/
def keys (map : OrderedMap κ α) : List κ := map.entries.map Prod.fst

/-- Whether nothing is bound. -/
def isEmpty (map : OrderedMap κ α) : Bool := map.entries.isEmpty

theorem find?_place [DecidableEq κ] [LT κ] [DecidableLT κ] (key : κ) (value : α)
    (entries : List (κ × α)) (other : κ) :
    find? other (place key value entries) = if key = other then some value else find? other entries := by
  induction entries with
  | nil => simp [place, find?]
  | cons entry rest ih =>
    obtain ⟨k, v⟩ := entry
    by_cases same : k = key
    · subst same
      by_cases found : k = other <;> simp [place, find?, found]
    · by_cases less : key < k
      · simp [place, find?, same, less]
      · by_cases found : k = other
        · subst found
          simp [place, find?, same, less, Ne.symm same]
        · simp [place, find?, same, less, found, ih]

/-- A binding is found again, and the other keys keep theirs. -/
theorem get?_insert [DecidableEq κ] [LT κ] [DecidableLT κ] (map : OrderedMap κ α) (key : κ) (value : α)
    (other : κ) : (map.insert key value).get? other = if key = other then some value else map.get? other :=
  find?_place key value map.entries other

theorem find?_filter_ne [DecidableEq κ] (key : κ) (entries : List (κ × α)) (other : κ) :
    find? other (entries.filter fun entry => entry.1 ≠ key) =
      if key = other then none else find? other entries := by
  induction entries with
  | nil => simp [find?]
  | cons entry rest ih =>
    obtain ⟨k, v⟩ := entry
    by_cases same : k = key
    · subst same
      by_cases found : k = other
      · simpa [find?, found] using ih
      · simpa [find?, found] using ih
    · by_cases found : k = other
      · subst found
        simp [find?, same, Ne.symm same]
      · simpa [find?, same, found] using ih

/-- A removed key is unbound, and the other keys keep their bindings. -/
theorem get?_erase [DecidableEq κ] (map : OrderedMap κ α) (key other : κ) :
    (map.erase key).get? other = if key = other then none else map.get? other :=
  find?_filter_ne key map.entries other

end OrderedMap

end Scaffold
