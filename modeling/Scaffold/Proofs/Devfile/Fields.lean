import Scaffold.Devfile.Decode
import Scaffold.Devfile.Encode
import Scaffold.Proofs.Yaml.Value

/-! # The fields of a record

A tree that stands for a record has its fields in the same order, each standing for the value of its name. So what is
looked up among the values is found among the trees, whatever decodes the value of a field decodes its tree, and the
extras are again the fields that are not known.
-/

namespace Scaffold

open Yaml

namespace Yaml.Tree

variable {α : Type} {trees : List (String × Tree)} {fields mine extras : Extras} {known : List String} {name : String}
  {tree : Tree} {decode : Tree → Option α} {encode : α → Value}

/-- The value of a field. -/
def fieldValue? (field : String × Tree) : Option (String × Value) :=
  (Value.ofTree? field.2).map fun value => (field.1, value)

/-- Some trees stand for the fields of a record. -/
def Tells (trees : List (String × Tree)) (fields : Extras) : Prop := trees.mapM fieldValue? = some fields

theorem tells_cons {field : String × Tree} :
    Tells (field :: trees) fields ↔
      ∃ value rest, Value.ofTree? field.2 = some value ∧ Tells trees rest ∧ fields = (field.1, value) :: rest := by
  simp only [Tells, List.mapM_cons, fieldValue?, Option.bind_eq_bind, Option.bind_eq_some_iff, Option.map_eq_some_iff,
    Option.pure_def, Option.some.injEq]
  constructor
  · rintro ⟨_, ⟨value, read, rfl⟩, rest, told, rfl⟩
    exact ⟨value, rest, read, told, rfl⟩
  · rintro ⟨value, rest, read, told, rfl⟩
    exact ⟨_, ⟨value, read, rfl⟩, rest, told, rfl⟩

theorem tells_nil : Tells [] fields ↔ fields = [] := by simp [Tells, eq_comm]

theorem Tells.names (tells : Tells trees fields) : trees.map Prod.fst = fields.map Prod.fst := by
  induction trees generalizing fields with
  | nil =>
    rw [tells_nil.mp tells]
    rfl
  | cons field rest ih =>
    obtain ⟨_, _, _, told, rfl⟩ := tells_cons.mp tells
    rw [List.map_cons, List.map_cons, ih told]

/-- What is found among the values is found among the trees, and nothing else is. -/
theorem Tells.lookup (tells : Tells trees fields) (name : String) :
    (trees.lookup name).map Value.ofTree? = (fields.lookup name).map some := lookup_of_mapM tells name

theorem Tells.lookup_eq_some {value : Value} (tells : Tells trees fields) (found : fields.lookup name = some value) :
    ∃ tree, trees.lookup name = some tree ∧ Value.ofTree? tree = some value := by
  have same := tells.lookup name
  rw [found] at same
  simpa [Option.map_eq_some_iff] using same

theorem Tells.lookup_eq_none (tells : Tells trees fields) (missing : fields.lookup name = none) :
    trees.lookup name = none := by
  have same := tells.lookup name
  rw [missing] at same
  exact Option.map_eq_none_iff.mp same

theorem Tells.filter (tells : Tells trees fields) (keep : String → Bool) :
    Tells (trees.filter fun field => keep field.1) (fields.filter fun field => keep field.1) := by
  induction trees generalizing fields with
  | nil =>
    rw [tells_nil.mp tells]
    exact tells_nil.mpr rfl
  | cons field rest ih =>
    obtain ⟨value, others, read, told, rfl⟩ := tells_cons.mp tells
    cases kept : keep field.1 with
    | false => simpa [kept] using ih told
    | true => simpa [kept] using tells_cons.mpr ⟨value, _, read, ih told, rfl⟩

theorem Tells.mapM {parts : List (String × α)} (tells : Tells trees (parts.map fun (name, part) => (name, encode part)))
    (decodes : ∀ part tree, Value.ofTree? tree = some (encode part) → decode tree = some part) :
    (trees.mapM fun (name, tree) => (decode tree).map fun part => (name, part)) = some parts := by
  induction trees generalizing parts with
  | nil =>
    rw [List.map_eq_nil_iff.mp (tells_nil.mp tells)]
    rfl
  | cons field rest ih =>
    obtain ⟨value, others, read, told, same⟩ := tells_cons.mp tells
    cases parts with
    | nil => cases same
    | cons part parts =>
      obtain ⟨first, rfl⟩ := List.cons_eq_cons.mp same
      obtain ⟨named, rfl⟩ := Prod.mk.inj first
      simp [List.mapM_cons, decodes part.2 field.2 read, ih told, ← named]

/-! ## Records -/

private theorem tells_of_entries {entries : List (Tree × Tree)}
    (read : Value.ofEntries? entries = some (fields.map fun (name, value) => (.string name, value))) :
    ∃ trees, (entries.mapM fun (key, value) => key.text?.map fun text => (text, value)) = some trees ∧
      Tells trees fields := by
  induction entries generalizing fields with
  | nil =>
    rw [Value.ofEntries?] at read
    exact ⟨[], rfl, tells_nil.mpr (List.map_eq_nil_iff.mp (Option.some.inj read).symm)⟩
  | cons entry rest ih =>
    obtain ⟨key, tree⟩ := entry
    simp only [Value.ofEntries?, Option.bind_eq_bind, Option.bind_eq_some_iff, Option.pure_def, Option.some.injEq]
      at read
    obtain ⟨keyValue, keyRead, value, valueRead, others, restRead, same⟩ := read
    cases fields with
    | nil => cases same
    | cons field fields =>
      rw [List.map_cons, List.cons_eq_cons] at same
      obtain ⟨first, rfl⟩ := same
      obtain ⟨rfl, rfl⟩ := Prod.mk.inj first
      obtain ⟨trees, all, told⟩ := ih restRead
      refine ⟨(field.1, tree) :: trees, ?_, tells_cons.mpr ⟨field.2, fields, valueRead, told, rfl⟩⟩
      simp [List.mapM_cons, text?_of_string keyRead, all]

private theorem nodup_of_distinctKeys
    (distinct : Value.distinctKeys (fields.map fun (name, value) => (Value.string name, value)) = true) :
    (fields.map Prod.fst).Nodup := by
  induction fields with
  | nil => exact List.nodup_nil
  | cons field rest ih =>
    rw [List.map_cons, Value.distinctKeys, Bool.and_eq_true, Bool.not_eq_true'] at distinct
    refine List.nodup_cons.mpr ⟨fun member => ?_, ih distinct.2⟩
    obtain ⟨other, among, same⟩ := List.mem_map.mp member
    have unequal := List.any_eq_false.mp distinct.1 (.string other.1, other.2) (List.mem_map.mpr ⟨other, among, rfl⟩)
    exact unequal (by simp [Value.same, same])

/-- A tree that stands for a record has its fields, and each of them once. -/
theorem fields_of_record (read : Value.ofTree? tree = some (Devfile.record fields)) :
    ∃ trees, tree.fields? = some trees ∧ (trees.map Prod.fst).Nodup ∧ Tells trees fields := by
  obtain ⟨tag?, entries, rfl, all, distinct⟩ := entries_of_mapping read
  obtain ⟨trees, named, tells⟩ := tells_of_entries all
  exact ⟨trees, named, tells.names ▸ nodup_of_distinctKeys distinct, tells⟩

/-! ## Known fields and extras -/

/-- No field of an extra part has one of some names. -/
def Avoids (known : List String) (extras : Extras) : Prop := ∀ field ∈ extras, field.1 ∉ known

/-- All fields have one of some names. -/
def Within (known : List String) (mine : Extras) : Prop := ∀ field ∈ mine, field.1 ∈ known

@[simp] theorem avoids_nil : Avoids known [] := fun _ impossible => absurd impossible List.not_mem_nil

@[simp] theorem within_nil : Within known [] := fun _ impossible => absurd impossible List.not_mem_nil

@[simp] theorem within_cons {field : String × Value} :
    Within known (field :: mine) ↔ field.1 ∈ known ∧ Within known mine := List.forall_mem_cons

@[simp] theorem within_append {others : Extras} : Within known (mine ++ others) ↔ Within known mine ∧ Within known others :=
  List.forall_mem_append

@[simp] theorem within_field? {part? : Option α} (member : name ∈ known) :
    Within known (Devfile.field? name encode part?) := by
  cases part? <;> simp [Devfile.field?, member]

@[simp] theorem within_fieldList {parts : List α} (member : name ∈ known) :
    Within known (Devfile.fieldList name encode parts) := by
  unfold Devfile.fieldList
  split <;> simp [member]

@[simp] theorem lookup_field? (key : String) (encode : α → Value) (part? : Option α) :
    (Devfile.field? key encode part?).lookup name = if name = key then part?.map encode else none := by
  by_cases same : name = key
  · subst same
    cases part? <;> simp [Devfile.field?]
  · have different : (name == key) = false := beq_eq_false_iff_ne.mpr same
    cases part? <;> simp [Devfile.field?, List.lookup_cons, same, different]

@[simp] theorem lookup_fieldList (key : String) (encode : α → Value) (parts : List α) :
    (Devfile.fieldList key encode parts).lookup name =
      if name = key ∧ parts ≠ [] then some (.sequence (parts.map encode)) else none := by
  by_cases same : name = key
  · subst same
    cases parts <;> simp [Devfile.fieldList]
  · have different : (name == key) = false := beq_eq_false_iff_ne.mpr same
    cases parts <;> simp [Devfile.fieldList, List.lookup_cons, same, different]

/-- A known field is not found among the extras. -/
theorem Avoids.lookup_append (avoids : Avoids known extras) (mine : Extras) (member : name ∈ known) :
    (mine ++ extras).lookup name = mine.lookup name := by
  have missing : extras.lookup name = none :=
    List.lookup_eq_none_iff.mpr fun field found => bne_iff_ne.mpr fun same => avoids field found (same ▸ member)
  rw [List.lookup_append, missing, Option.or_none]

/-- The extras are the fields that are not known. -/
theorem Within.filter_append (within : Within known mine) (avoids : Avoids known extras) :
    (mine ++ extras).filter (fun field => !known.contains field.1) = extras := by
  have dropped : mine.filter (fun field => !known.contains field.1) = [] :=
    List.filter_eq_nil_iff.mpr fun field member => by simpa using within field member
  have stays : extras.filter (fun field => !known.contains field.1) = extras :=
    List.filter_eq_self.mpr fun field member => by simpa using avoids field member
  rw [List.filter_append, dropped, stays, List.nil_append]

/-! ## What fields are read as -/

/-- The extras that are read avoid the names of the fields. -/
theorem avoids_of_extras? (read : extras? trees known = some extras) : Avoids known extras := by
  intro field member
  obtain ⟨source, among, told⟩ := exists_of_mem_mapM read member
  obtain ⟨_, _, rfl⟩ := Option.map_eq_some_iff.mp told
  simpa using (List.mem_filter.mp among).2

theorem exists_of_defaulted? {default part : α} (read : defaulted? trees name default decode = some part) :
    part = default ∨ ∃ tree, decode tree = some part := by
  rw [defaulted?] at read
  split at read
  · exact .inr ⟨_, read⟩
  · exact .inl (Option.some.inj read).symm

/-- A field that may be missing is left out or null, or its value is read. -/
theorem fieldOption?_cases {part? : Option α} (read : fieldOption? trees name decode = some part?) :
    part? = none ∧ (∀ tree ∈ trees.lookup name, tree.isMissing? = some true) ∨
      ∃ tree part, part? = some part ∧ trees.lookup name = some tree ∧ decode tree = some part := by
  unfold fieldOption? defaulted? at read
  split at read
  · rename_i tree present
    simp only [optional?, Option.bind_eq_bind, Option.bind_eq_some_iff] at read
    obtain ⟨missing, told, read⟩ := read
    cases missing with
    | true =>
      cases read
      refine .inl ⟨rfl, fun other member => ?_⟩
      obtain rfl : tree = other := Option.some.inj (present.symm.trans member)
      exact told
    | false =>
      obtain ⟨part, decoded, rfl⟩ := Option.map_eq_some_iff.mp read
      exact .inr ⟨tree, part, rfl, present, decoded⟩
  · rename_i absent
    cases read
    exact .inl ⟨rfl, by simp [absent]⟩

theorem exists_of_fieldOption? {part : α} (read : fieldOption? trees name decode = some (some part)) :
    ∃ tree, decode tree = some part := by
  rcases fieldOption?_cases read with ⟨impossible, _⟩ | ⟨tree, other, same, _, decoded⟩
  · cases impossible
  · exact ⟨tree, same ▸ decoded⟩

/-- Every item of a list that is read, or of the empty one that stands for it, is read. -/
theorem exists_of_mem_list? {items : List α} (read : defaulted? trees name [] (list? decode) = some items) {part : α}
    (member : part ∈ items) : ∃ tree, decode tree = some part := by
  rcases exists_of_defaulted? read with rfl | ⟨tree, listed⟩
  · cases member
  · obtain ⟨_, _, all⟩ := Option.bind_eq_some_iff.mp listed
    obtain ⟨item, _, told⟩ := exists_of_mem_mapM all member
    exact ⟨item, told⟩

/-! ## Decoding what was encoded -/

/-- Some trees stand for the fields of a record, of which some are known and the others are its extras. -/
structure Parts (trees : List (String × Tree)) (known : List String) (mine extras : Extras) : Prop where
  tells : Tells trees (mine ++ extras)
  within : Within known mine
  avoids : Avoids known extras

theorem parts_of_record (within : Within known mine) (avoids : Avoids known extras)
    (read : Value.ofTree? tree = some (Devfile.record (mine ++ extras))) :
    ∃ trees, tree.record? = some trees ∧ Parts trees known mine extras := by
  obtain ⟨trees, named, nodup, tells⟩ := fields_of_record read
  exact ⟨trees, Option.filter_eq_some_iff.mpr ⟨named, by simpa using nodup⟩, tells, within, avoids⟩

theorem Parts.lookup (parts : Parts trees known mine extras) (member : name ∈ known) :
    (mine ++ extras).lookup name = mine.lookup name := parts.avoids.lookup_append mine member

theorem Parts.extras? (parts : Parts trees known mine extras) : extras? trees known = some extras := by
  have kept := parts.tells.filter fun name => !known.contains name
  rw [parts.within.filter_append parts.avoids] at kept
  exact kept

theorem Parts.required? {value : Value} {part : α} (parts : Parts trees known mine extras) (member : name ∈ known)
    (found : mine.lookup name = some value)
    (decodes : ∀ tree, Value.ofTree? tree = some value → decode tree = some part) :
    required? trees name decode = some part := by
  obtain ⟨tree, present, read⟩ := parts.tells.lookup_eq_some ((parts.lookup member).trans found)
  rw [Tree.required?, present]
  exact decodes tree read

theorem Parts.defaulted? {value? : Option Value} {default part : α} (parts : Parts trees known mine extras)
    (member : name ∈ known) (found : mine.lookup name = value?) (missing : value? = none → part = default)
    (decodes : ∀ value tree, value? = some value → Value.ofTree? tree = some value → decode tree = some part) :
    defaulted? trees name default decode = some part := by
  have among := (parts.lookup member).trans found
  cases value? with
  | none => rw [Tree.defaulted?, parts.tells.lookup_eq_none among, missing rfl]
  | some value =>
    obtain ⟨tree, present, read⟩ := parts.tells.lookup_eq_some among
    rw [Tree.defaulted?, present]
    exact decodes value tree rfl read

/-- An optional field is decoded to what was encoded, as long as this is not written as null. -/
theorem Parts.fieldOption? {part? : Option α} (parts : Parts trees known mine extras) (member : name ∈ known)
    (found : mine.lookup name = part?.map encode) (real : ∀ part, encode part ≠ .null)
    (decodes : ∀ part tree, part? = some part → Value.ofTree? tree = some (encode part) → decode tree = some part) :
    fieldOption? trees name decode = some part? := by
  refine parts.defaulted? member found (fun missing => Option.map_eq_none_iff.mp missing) fun value tree encoded read => ?_
  obtain ⟨part, rfl, rfl⟩ := Option.map_eq_some_iff.mp encoded
  simp [optional?, isMissing?_of_ne_null read (real part), decodes part tree rfl read]

theorem Parts.fieldText? {text? : Option String} (parts : Parts trees known mine extras) (member : name ∈ known)
    (found : mine.lookup name = text?.map .string) : Tree.fieldOption? trees name Tree.text? = some text? :=
  parts.fieldOption? member found (fun _ impossible => by cases impossible) fun _ _ _ read => text?_of_string read

theorem list?_of_sequence {parts : List α} (read : Value.ofTree? tree = some (.sequence (parts.map encode)))
    (decodes : ∀ part ∈ parts, ∀ tree, Value.ofTree? tree = some (encode part) → decode tree = some part) :
    list? decode tree = some parts := by
  obtain ⟨items, listed, all⟩ := items?_of_sequence read
  rw [list?, listed]
  change items.mapM decode = some parts
  clear read listed
  induction parts generalizing items with
  | nil =>
    rw [mapM_eq_some] at all ⊢
    simpa using all
  | cons part rest ih =>
    cases items with
    | nil => simp at all
    | cons item items =>
      simp only [List.mapM_cons, List.map_cons, Option.bind_eq_bind, Option.bind_eq_some_iff, Option.pure_def,
        Option.some.injEq, List.cons.injEq] at all
      obtain ⟨_, first, _, others, rfl, rfl⟩ := all
      have below := ih (fun part member => decodes part (List.mem_cons_of_mem _ member)) items others
      simp [List.mapM_cons, decodes part List.mem_cons_self item first, below]

/-- A field with a sequence is decoded to its parts, none of them if it was left out. -/
theorem Parts.list? {items : List α} (parts : Parts trees known mine extras) (member : name ∈ known)
    (found : mine.lookup name = if items = [] then none else some (.sequence (items.map encode)))
    (decodes : ∀ part ∈ items, ∀ tree, Value.ofTree? tree = some (encode part) → decode tree = some part) :
    Tree.defaulted? trees name [] (Tree.list? decode) = some items := by
  refine parts.defaulted? member found (fun missing => ?_) fun value tree encoded read => ?_
  · split at missing
    · assumption
    · cases missing
  · split at encoded
    · cases encoded
    · exact list?_of_sequence ((Option.some.inj encoded) ▸ read) decodes

end Yaml.Tree

end Scaffold
