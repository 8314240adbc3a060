import Scaffold.Proofs.Data.Traverse
import Scaffold.Yaml.Value.Tree

/-! # What a value tells of its tree

A tree that stands for a string is a scalar with that text, and one that stands for a sequence or a mapping has its
items or its fields, each standing for its part. Only a tree that stands for null may be missing. Values can be compared,
so that what a document says can be checked by reading it.
-/

namespace Scaffold.Yaml

namespace Value

variable {tag? : Option String} {isPlain : Bool} {content : String} {value : Value} {tree : Tree}

/-! ## Equal values -/

mutual

/-- Whether two values are equal, in the order of their entries too. -/
def equal : Value → Value → Bool
  | null, null => true
  | bool left, bool right => left = right
  | int left, int right => left = right
  | float left, float right => left = right
  | string left, string right => left = right
  | sequence left, sequence right => equalItems left right
  | mapping left, mapping right => equalEntries left right
  | _, _ => false

/-- Whether two lists are equal item by item. -/
def equalItems : List Value → List Value → Bool
  | [], [] => true
  | left :: restLeft, right :: restRight => equal left right && equalItems restLeft restRight
  | _, _ => false

/-- Whether two lists are equal entry by entry. -/
def equalEntries : List (Value × Value) → List (Value × Value) → Bool
  | [], [] => true
  | left :: restLeft, right :: restRight =>
    equal left.1 right.1 && equal left.2 right.2 && equalEntries restLeft restRight
  | _, _ => false

end

mutual

theorem equal_iff : ∀ left right : Value, equal left right = true ↔ left = right
  | null, right => by cases right <;> simp [equal]
  | bool _, right => by cases right <;> simp [equal]
  | int _, right => by cases right <;> simp [equal]
  | float _, right => by cases right <;> simp [equal]
  | string _, right => by cases right <;> simp [equal]
  | sequence items, right => by cases right <;> simp [equal, equalItems_iff items]
  | mapping entries, right => by cases right <;> simp [equal, equalEntries_iff entries]

theorem equalItems_iff : ∀ left right : List Value, equalItems left right = true ↔ left = right
  | [], right => by cases right <;> simp [equalItems]
  | item :: rest, right => by cases right <;> simp [equalItems, equal_iff item, equalItems_iff rest]

theorem equalEntries_iff : ∀ left right : List (Value × Value), equalEntries left right = true ↔ left = right
  | [], right => by cases right <;> simp [equalEntries]
  | entry :: rest, right => by
    cases right <;>
      simp [equalEntries, equal_iff entry.1, equal_iff entry.2, equalEntries_iff rest, Prod.ext_iff]

end

instance : DecidableEq Value := fun left right => decidable_of_iff (equal left right = true) (equal_iff left right)

/-! ## Scalars -/

/-- A value that a scalar of some text may stand for: no collection, and no other string. -/
def Suits (content : String) : Value → Prop
  | string text => text = content
  | sequence _ | mapping _ => False
  | null | bool _ | int _ | float _ => True

private theorem intOr?_suits {otherwise : Option Value} (suits : ∀ value, otherwise = some value → value.Suits content)
    {text : List Char} (read : intOr? text otherwise = some value) : value.Suits content := by
  unfold intOr? at read
  split at read
  · split at read
    · cases read
      trivial
    · split at read
      · cases read
      · exact suits value read
  · exact suits value read

private theorem ofPlain?_suits (read : ofPlain? content = some value) : value.Suits content := by
  unfold ofPlain? at read
  split at read
  · cases read
    trivial
  · split at read
    · cases read
      trivial
    · refine intOr?_suits (fun other found => ?_) read
      split at found
      · cases found
        rfl
      · split at found <;> cases found
        · trivial
        · rfl

theorem ofScalar?_suits (read : ofScalar? tag? isPlain content = some value) : value.Suits content := by
  unfold ofScalar? at read
  split at read
  · split at read
    · exact ofPlain?_suits read
    · cases read
      rfl
  · split at read
    · cases read
    · split at read
      · obtain ⟨_, _, rfl⟩ := Option.map_eq_some_iff.mp read
        trivial
      · split at read
        · exact intOr?_suits (fun _ impossible => by cases impossible) read
        · split at read
          · obtain ⟨_, _, rfl⟩ := Option.map_eq_some_iff.mp read
            trivial
          · split at read
            · split at read <;> cases read
              trivial
            · cases read
              rfl

theorem ofItems?_eq (items : List Tree) : ofItems? items = items.mapM ofTree? := by
  induction items with
  | nil => rfl
  | cons item rest ih => rw [ofItems?, ih, List.mapM_cons]

/-- Under the tag that says null, only a null is read. -/
theorem ofScalar?_nullTag :
    ofScalar? (some Tree.nullTag) isPlain content = if Tree.isNullText content then some null else none := by
  have global : isLocalTag (some Tree.nullTag) = false := by decide
  have noBool : Tree.nullTag ≠ coreTag "bool" := by decide
  have noInt : Tree.nullTag ≠ coreTag "int" := by decide
  have noFloat : Tree.nullTag ≠ coreTag "float" := by decide
  have isNull : Tree.nullTag = coreTag "null" := by decide
  generalize Tree.nullTag = tag at *
  rw [ofScalar?]
  simp only [global, noBool, noInt, noFloat, ← isNull, Bool.false_eq_true, ↓reduceIte]

end Value

namespace Tree

variable {tree : Tree} {value : Value}

theorem text?_of_string {text : String} (read : Value.ofTree? tree = some (.string text)) : tree.text? = some text := by
  cases tree with
  | scalar tag? isPlain content =>
    rw [Value.ofTree?] at read
    have same : text = content := Value.ofScalar?_suits read
    rw [same]
    rfl
  | sequence tag? items => simp [Value.ofTree?] at read
  | mapping tag? entries => simp [Value.ofTree?] at read
  | excess => simp [Value.ofTree?] at read

theorem items?_of_sequence {values : List Value} (read : Value.ofTree? tree = some (.sequence values)) :
    ∃ items, tree.items? = some items ∧ items.mapM Value.ofTree? = some values := by
  cases tree with
  | scalar tag? isPlain content =>
    rw [Value.ofTree?] at read
    exact (Value.ofScalar?_suits read).elim
  | sequence tag? items =>
    rw [Value.ofTree?, Value.ofItems?_eq] at read
    split at read
    · cases read
    · obtain ⟨found, all, same⟩ := Option.map_eq_some_iff.mp read
      injection same with same
      exact ⟨items, rfl, same ▸ all⟩
  | mapping tag? entries => simp [Value.ofTree?] at read
  | excess => simp [Value.ofTree?] at read

theorem entries_of_mapping {entries : List (Value × Value)} (read : Value.ofTree? tree = some (.mapping entries)) :
    ∃ tag? trees, tree = .mapping tag? trees ∧ Value.ofEntries? trees = some entries ∧ Value.distinctKeys entries = true := by
  cases tree with
  | scalar tag? isPlain content =>
    rw [Value.ofTree?] at read
    exact (Value.ofScalar?_suits read).elim
  | sequence tag? items => simp [Value.ofTree?] at read
  | mapping tag? trees =>
    rw [Value.ofTree?] at read
    split at read
    · cases read
    · obtain ⟨found, all, same⟩ := Option.map_eq_some_iff.mp read
      injection same with same
      subst same
      obtain ⟨all, distinct⟩ := Option.filter_eq_some_iff.mp all
      exact ⟨tag?, trees, rfl, all, distinct⟩
  | excess => simp [Value.ofTree?] at read

/-- Only a null is taken for a missing value. -/
theorem isMissing?_of_ne_null (read : Value.ofTree? tree = some value) (real : value ≠ .null) :
    tree.isMissing? = some false := by
  cases tree with
  | scalar tag? isPlain content =>
    cases isPlain with
    | false => cases tag? <;> rfl
    | true =>
      rw [Value.ofTree?] at read
      cases tag? with
      | none =>
        simp only [Value.ofScalar?, ↓reduceIte, Value.ofPlain?] at read
        split at read
        · exact absurd (Option.some.inj read).symm real
        · rename_i told
          simpa [isMissing?] using told
      | some tag =>
        rw [isMissing?]
        split
        · rename_i same
          subst same
          rw [Value.ofScalar?_nullTag] at read
          split at read
          · exact absurd (Option.some.inj read).symm real
          · cases read
        · rfl
  | _ => rfl

end Tree

end Scaffold.Yaml
