import Mathlib.Data.List.Forall2
import Scaffold.Proofs.Manifest.Rereading

/-! # What a rewritten manifest keeps

What is written for a devfile is compared with the document it was read from. A scalar is kept as it is spelled, a list
item by item, and a record field by field: each known field in its own way, and all others as they are, in their order.
Only what is checked out of a repository keeps nothing but its known fields.
-/

namespace Scaffold

open Yaml

/-! ## Ways to keep -/

namespace Kept

/-- What part of a document is kept as which value. -/
abbrev Relation := Tree → Value → Prop

/-- How a field is kept that may be missing in the document or in what is written. -/
abbrev FieldRelation := Option Tree → Option Value → Prop

/-- A scalar is kept as it is spelled. -/
def scalar : Relation := fun tree value => ∃ content, tree.text? = some content ∧ value = .string content

/-- A field that is there is kept. -/
def required (part : Relation) : FieldRelation := fun tree? value? =>
  ∃ tree value, tree? = some tree ∧ value? = some value ∧ part tree value

/-- A field that is there is kept unless it is null; none is added. -/
def nullable (part : Relation) : FieldRelation
  | some tree, some value => part tree value
  | some tree, none => tree.isMissing? = some true
  | none, value? => value? = none

/-- A field that is not there is kept as if it were blank. -/
def defaulted (part : Relation) : FieldRelation := fun tree? value? =>
  ∃ value, value? = some value ∧ part (tree?.getD .blank) value

/-- The items of a field are kept in their order, or left out if there are none. -/
def listed (part : Relation) : FieldRelation := fun tree? value? =>
  ∃ items values, (tree?.getD .blank).items? = some items ∧ List.Forall₂ part items values ∧
    value? = if values = [] then none else some (.sequence values)

/-- A field is written anew. -/
def replaced (content : String) : FieldRelation := fun _ value? => value? = some (.string content)

/-- The fields that are not among those with some names. -/
def others {α : Type} (known : List (String × FieldRelation)) (fields : List (String × α)) : List (String × α) :=
  fields.filter fun field => !(known.map Prod.fst).contains field.1

/-- The known fields of a record are kept in their ways and all others with their values, in their order. -/
def record (known : List (String × FieldRelation)) : Relation := fun tree value =>
  ∃ trees entries, tree.fields? = some trees ∧ value = Devfile.record entries ∧
    (∀ field ∈ known, field.2 (trees.lookup field.1) (entries.lookup field.1)) ∧
    Tree.Tells (others known trees) (others known entries)

/-- The known fields of a record are kept in their ways, and no others. -/
def closed (known : List (String × FieldRelation)) : Relation := fun tree value =>
  ∃ trees entries, tree.fields? = some trees ∧ value = Devfile.record entries ∧
    (∀ field ∈ known, field.2 (trees.lookup field.1) (entries.lookup field.1)) ∧ others known entries = []

/-- Of the fields of a mapping the last of each name is kept, and no others. -/
def dictionary (part : Relation) : Relation := fun tree value =>
  ∃ trees entries, tree.fields? = some trees ∧ value = Devfile.record entries ∧
    ∀ name, Option.Rel part (trees.reverse.lookup name) (entries.lookup name)

/-! ## Devfiles -/

/-- What is checked out. -/
def checkout : Relation := closed [("remote", nullable scalar), ("revision", nullable scalar)]

/-- A repository. -/
def git : Relation := record [("remotes", defaulted (dictionary scalar)), ("checkoutFrom", nullable checkout)]

/-- An archive. -/
def zip : Relation := record [("location", required scalar)]

/-- A starter project. -/
def starter : Relation :=
  record [("name", required scalar), ("description", nullable scalar), ("subDir", nullable scalar), ("zip", nullable zip),
    ("git", nullable git)]

/-- A command. -/
def command : Relation := record [("id", required scalar)]

/-- Metadata under another name. -/
def metadata (name : String) : Relation :=
  record [("name", replaced name), ("language", nullable scalar), ("projectType", nullable scalar)]

/-- A devfile under another name. -/
def devfile (name : String) : Relation :=
  record [("schemaVersion", required scalar), ("metadata", defaulted (metadata name)), ("commands", listed command),
    ("starterProjects", listed starter)]

end Kept

/-! ## Reading and writing -/

namespace Kept

variable {α : Type} {trees : List (String × Tree)} {known : List (String × FieldRelation)} {mine extras : Extras}
  {part : Relation} {tree : Tree} {name : String} {decode : Tree → Option α} {encode : α → Value}

theorem scalar_of_read {content : String} (read : tree.text? = some content) : scalar tree (.string content) :=
  ⟨content, read, rfl⟩

theorem required_of_read {value : α} (keeps : ∀ tree value, decode tree = some value → part tree (encode value))
    (read : Tree.required? trees name decode = some value) :
    required part (trees.lookup name) (some (encode value)) := by
  obtain ⟨tree, found, told⟩ := Option.bind_eq_some_iff.mp read
  exact ⟨tree, _, found, rfl, keeps tree value told⟩

theorem nullable_of_read {value? : Option α} (keeps : ∀ tree value, decode tree = some value → part tree (encode value))
    (read : Tree.fieldOption? trees name decode = some value?) :
    nullable part (trees.lookup name) (value?.map encode) := by
  rcases Tree.fieldOption?_cases read with ⟨rfl, missing⟩ | ⟨tree, value, rfl, present, decoded⟩
  · cases found : trees.lookup name with
    | none => rfl
    | some tree => exact missing tree found
  · rw [present]
    exact keeps tree value decoded

theorem defaulted_of_read {default value : α} (keeps : ∀ tree value, decode tree = some value → part tree (encode value))
    (blank : decode .blank = some default) (read : Tree.defaulted? trees name default decode = some value) :
    defaulted part (trees.lookup name) (some (encode value)) := by
  refine ⟨_, rfl, keeps _ _ ?_⟩
  unfold Tree.defaulted? at read
  split at read
  · rename_i tree found
    rwa [found]
  · rename_i missing
    rwa [missing, Option.getD_none, blank]

theorem forall₂_of_mapM {items : List Tree} {values : List α}
    (keeps : ∀ tree value, decode tree = some value → part tree (encode value))
    (read : items.mapM decode = some values) : List.Forall₂ part items (values.map encode) := by
  rw [mapM_eq_some] at read
  induction items generalizing values with
  | nil =>
    cases values with
    | nil => exact .nil
    | cons _ _ => cases read
  | cons item rest ih =>
    cases values with
    | nil => cases read
    | cons value values =>
      obtain ⟨first, read⟩ := List.cons_eq_cons.mp read
      exact .cons (keeps item value first) (ih read)

theorem listed_of_read {values : List α} (keeps : ∀ tree value, decode tree = some value → part tree (encode value))
    (read : Tree.defaulted? trees name [] (Tree.list? decode) = some values) :
    listed part (trees.lookup name) (if values = [] then none else some (.sequence (values.map encode))) := by
  have blank : Tree.list? decode .blank = some [] := rfl
  obtain ⟨items, told, all⟩ : ∃ items, ((trees.lookup name).getD .blank).items? = some items ∧
      items.mapM decode = some values := by
    unfold Tree.defaulted? at read
    split at read
    · rename_i tree found
      obtain ⟨items, told, all⟩ := Option.bind_eq_some_iff.mp read
      exact ⟨items, found ▸ told, all⟩
    · rename_i missing
      cases read
      exact ⟨[], by rw [missing]; rfl, rfl⟩
  refine ⟨items, values.map encode, told, forall₂_of_mapM keeps all, ?_⟩
  cases values <;> simp

/-- A record is kept if each known field is. -/
theorem record_of_read (fields : tree.record? = some trees) (within : Tree.Within (known.map Prod.fst) mine)
    (read : Tree.extras? trees (known.map Prod.fst) = some extras)
    (each : ∀ field ∈ known, field.2 (trees.lookup field.1) (mine.lookup field.1)) :
    record known tree (Devfile.record (mine ++ extras)) := by
  have avoids := Tree.avoids_of_extras? read
  refine ⟨trees, mine ++ extras, (Option.filter_eq_some_iff.mp fields).1, rfl, fun field member => ?_, ?_⟩
  · rw [avoids.lookup_append mine (List.mem_map_of_mem member)]
    exact each field member
  · rw [others, others, within.filter_append avoids]
    exact read

end Kept

namespace Devfile

open Kept

variable {tree : Tree}

theorem Metadata.kept {metadata : Metadata} (read : ofTree? tree = some metadata) (name : String) :
    Kept.metadata name tree { metadata with name? := some name }.toValue := by
  simp only [ofTree?, Option.bind_eq_bind, Option.bind_eq_some_iff, Option.pure_def, Option.some.injEq] at read
  obtain ⟨trees, fields, _, _, language?, language, projectType?, projectType, extras, others, rfl⟩ := read
  have language : nullable scalar (trees.lookup "language") (language?.map .string) :=
    nullable_of_read (fun _ _ => scalar_of_read) language
  have projectType : nullable scalar (trees.lookup "projectType") (projectType?.map .string) :=
    nullable_of_read (fun _ _ => scalar_of_read) projectType
  refine record_of_read fields (by simp) others ?_
  simp only [List.forall_mem_cons]
  refine ⟨?_, ?_, ?_, List.forall_mem_nil _⟩
  · simp [replaced, List.lookup_append]
  · simpa [List.lookup_append] using language
  · simpa [List.lookup_append] using projectType

theorem Command.kept {command : Command} (read : ofTree? tree = some command) : Kept.command tree command.toValue := by
  simp only [ofTree?, Option.bind_eq_bind, Option.bind_eq_some_iff, Option.pure_def, Option.some.injEq] at read
  obtain ⟨trees, fields, id, named, extras, others, rfl⟩ := read
  have named : required scalar (trees.lookup "id") (some (.string id)) := required_of_read (fun _ _ => scalar_of_read) named
  change Kept.record _ tree (Devfile.record ([("id", .string id)] ++ extras))
  refine record_of_read fields (by simp) others ?_
  simp only [List.forall_mem_cons]
  exact ⟨named, List.forall_mem_nil _⟩

theorem ZipSource.kept {source : ZipSource} (read : ofTree? tree = some source) : Kept.zip tree source.toValue := by
  simp only [ofTree?, Option.bind_eq_bind, Option.bind_eq_some_iff, Option.pure_def, Option.some.injEq] at read
  obtain ⟨trees, fields, location, located, extras, others, rfl⟩ := read
  have located : required scalar (trees.lookup "location") (some (.string location)) :=
    required_of_read (fun _ _ => scalar_of_read) located
  change Kept.record _ tree (Devfile.record ([("location", .string location)] ++ extras))
  refine record_of_read fields (by simp) others ?_
  simp only [List.forall_mem_cons]
  exact ⟨located, List.forall_mem_nil _⟩

/-- Of what is checked out only the known fields are kept. -/
theorem Checkout.kept {checkout : Checkout} (read : ofTree? tree = some checkout) :
    Kept.checkout tree checkout.toValue := by
  simp only [ofTree?, Option.bind_eq_bind, Option.bind_eq_some_iff, Option.pure_def] at read
  obtain ⟨trees, fields, read⟩ := read
  split at read
  · cases read
  simp only [Option.bind_eq_some_iff, Option.some.injEq] at read
  obtain ⟨remote?, remote, revision?, revision, rfl⟩ := read
  have remote := nullable_of_read (fun _ _ => scalar_of_read) remote
  have revision := nullable_of_read (fun _ _ => scalar_of_read) revision
  rw [lookup_filter trees (by decide)] at remote revision
  refine ⟨trees, _, fields, rfl, ?_, ?_⟩
  · simp only [List.forall_mem_cons]
    refine ⟨?_, ?_, List.forall_mem_nil _⟩
    · simpa [List.lookup_append] using remote
    · simpa [List.lookup_append] using revision
  · have within : Tree.Within ["remote", "revision"]
        (field? "remote" Value.string remote? ++ field? "revision" Value.string revision?) := by simp
    exact List.filter_eq_nil_iff.mpr fun field member => by simpa [or_iff_not_imp_left] using within field member

/-- Of the remotes with the same name the last is kept. -/
theorem remotes_kept {remotes : OrderedMap String String} (read : remotesOfTree? tree = some remotes) :
    dictionary scalar tree (Devfile.record (remotes.entries.map fun (name, url) => (name, .string url))) := by
  simp only [remotesOfTree?, Option.bind_eq_bind, Option.bind_eq_some_iff, Option.pure_def, Option.some.injEq] at read
  obtain ⟨trees, fields, bindings, all, rfl⟩ := read
  refine ⟨trees, _, fields, rfl, fun name => ?_⟩
  have backwards : trees.reverse.mapM (fun field => field.2.text?.map fun text => (field.1, text)) =
      some bindings.reverse := by
    rw [mapM_eq_some] at all ⊢
    rw [List.map_reverse, List.map_reverse, ← all]
  have found := lookup_of_mapM backwards name
  rw [lookup_map, OrderedMap.lookup_ofList]
  cases told : trees.reverse.lookup name with
  | none =>
    rw [told, Option.map_none] at found
    rw [Option.map_eq_none_iff.mp found.symm]
    exact .none
  | some tree =>
    rw [told, Option.map_some] at found
    obtain ⟨text, same, read⟩ := Option.map_eq_some_iff.mp found.symm
    rw [same]
    exact .some (scalar_of_read read.symm)

theorem GitSource.kept {source : GitSource} (read : ofTree? tree = some source) : Kept.git tree source.toValue := by
  simp only [ofTree?, Option.bind_eq_bind, Option.bind_eq_some_iff, Option.pure_def, Option.some.injEq] at read
  obtain ⟨trees, fields, remotes, named, checkout?, checkout, extras, others, rfl⟩ := read
  have named := defaulted_of_read (fun _ _ => remotes_kept) rfl named
  have checkout : nullable Kept.checkout (trees.lookup "checkoutFrom") (checkout?.map Checkout.toValue) :=
    nullable_of_read (fun _ _ => Checkout.kept) checkout
  refine record_of_read fields (by simp) others ?_
  simp only [List.forall_mem_cons]
  refine ⟨named, ?_, List.forall_mem_nil _⟩
  simpa [List.lookup_cons] using checkout

theorem StarterProject.kept {starter : StarterProject} (read : ofTree? tree = some starter) :
    Kept.starter tree starter.toValue := by
  simp only [ofTree?, Option.bind_eq_bind, Option.bind_eq_some_iff, Option.pure_def, Option.some.injEq] at read
  obtain ⟨trees, fields, name, named, description?, description, subDir?, subDir, zip?, zip, git?, git, extras, others,
    rfl⟩ := read
  have named : required scalar (trees.lookup "name") (some (.string name)) :=
    required_of_read (fun _ _ => scalar_of_read) named
  have description : nullable scalar (trees.lookup "description") (description?.map .string) :=
    nullable_of_read (fun _ _ => scalar_of_read) description
  have subDir : nullable scalar (trees.lookup "subDir") (subDir?.map .string) :=
    nullable_of_read (fun _ _ => scalar_of_read) subDir
  have zip : nullable Kept.zip (trees.lookup "zip") (zip?.map ZipSource.toValue) :=
    nullable_of_read (fun _ _ => ZipSource.kept) zip
  have git : nullable Kept.git (trees.lookup "git") (git?.map GitSource.toValue) :=
    nullable_of_read (fun _ _ => GitSource.kept) git
  refine record_of_read fields (by simp) others ?_
  simp only [List.forall_mem_cons]
  refine ⟨named, ?_, ?_, ?_, ?_, List.forall_mem_nil _⟩
  · simpa [List.lookup_append, List.lookup_cons] using description
  · simpa [List.lookup_append, List.lookup_cons] using subDir
  · simpa [List.lookup_append, List.lookup_cons] using zip
  · simpa [List.lookup_append, List.lookup_cons] using git

/-- A devfile that is written under another name keeps the document that it was read from. -/
theorem kept {devfile : Devfile} (read : ofTree? tree = some devfile) (name : String) :
    Kept.devfile name tree (devfile.withName name).toValue := by
  simp only [ofTree?, Option.bind_eq_bind, Option.bind_eq_some_iff, Option.pure_def, Option.some.injEq] at read
  obtain ⟨trees, fields, version, versioned, metadata, told, commands, commanded, starters, started, extras, others,
    rfl⟩ := read
  have versioned : required scalar (trees.lookup "schemaVersion") (some (.string version)) :=
    required_of_read (fun _ _ => scalar_of_read) versioned
  have told := defaulted_of_read (fun _ _ read => Metadata.kept read name) rfl told
  have commanded : listed Kept.command (trees.lookup "commands")
      (if commands = [] then none else some (.sequence (commands.map Command.toValue))) :=
    listed_of_read (fun _ _ => Command.kept) commanded
  have started : listed Kept.starter (trees.lookup "starterProjects")
      (if starters = [] then none else some (.sequence (starters.map StarterProject.toValue))) :=
    listed_of_read (fun _ _ => StarterProject.kept) started
  refine record_of_read fields (by simp) others ?_
  simp only [List.forall_mem_cons]
  refine ⟨versioned, told, ?_, ?_, List.forall_mem_nil _⟩
  · simpa [withName, List.lookup_append, List.lookup_cons] using commanded
  · simpa [withName, List.lookup_append, List.lookup_cons] using started

end Devfile

/-! ## Manifests -/

/-- The tree of the document in some bytes. -/
def Yaml.Tree.ofContents? (contents : ByteArray) : Option Tree :=
  (Text.fromUtf8? contents).bind fun text => Tree.ofText? text.toList

namespace Manifest

variable {contents : ByteArray} {origin : String} {path : Path} {manifest : Manifest}

/-- What is written for a manifest under another name keeps the document that the manifest was read from, whatever this
holds besides what a run has to know: only what is checked out of a repository loses its other fields. -/
theorem withName_keeps (read : ofContents contents origin path = .ok manifest) (name : String)
    (back : (manifest.withName name).devfile.toValue.ReadsBack) :
    ∃ tree written value, Tree.ofContents? contents = some tree ∧
      Tree.ofContents? (manifest.withName name).contents = some written ∧ Value.ofTree? written = some value ∧
      Kept.devfile name tree value := by
  obtain ⟨parsed, _, _⟩ := ofContents_eq_ok.mp read
  obtain ⟨text, told, parsed⟩ := Option.bind_eq_some_iff.mp parsed
  obtain ⟨tree, document, decoded⟩ := Option.bind_eq_some_iff.mp parsed
  obtain ⟨written, again, stands⟩ := Option.bind_eq_some_iff.mp back
  refine ⟨tree, written, _, ?_, ?_, stands, Devfile.kept decoded name⟩
  · rw [Tree.ofContents?, told, Option.bind_some, document]
  · rw [Tree.ofContents?, Manifest.contents, Text.fromUtf8?_toUTF8, Option.bind_some]
    exact again

/-- Of a devfile with entries in all of its parts that no run has to know, these are kept. -/
theorem withName_keeps_extra :
    ∃ manifest, ofContents namelessText.toUTF8 "test" ⟨"/app/devfile.yaml"⟩ = .ok manifest ∧
      (manifest.withName "shop").devfile.toValue.ReadsBack ∧
      ∃ tree written value, Tree.ofContents? namelessText.toUTF8 = some tree ∧
        Tree.ofContents? (manifest.withName "shop").contents = some written ∧ Value.ofTree? written = some value ∧
        Kept.devfile "shop" tree value := by
  have read := ofContents_namelessText "test" ⟨"/app/devfile.yaml"⟩
  exact ⟨_, read, nameless_readsBack_shop, withName_keeps read "shop" nameless_readsBack_shop⟩

/-- A devfile whose starter project tells how deep its history is to be taken. -/
def shallowText : String :=
  "schemaVersion: 2.0.0\nstarterProjects:\n- name: s\n  git:\n    remotes:\n      o: u\n    checkoutFrom:\n      depth: 1\n"

/-- Of this devfile, under a name, what is checked out is no longer told how deep. -/
theorem shallowText_loses_depth :
    (Tree.ofContents? shallowText.toUTF8).bind Value.ofTree? =
        some (Devfile.record
          [("schemaVersion", .string "2.0.0"),
            ("starterProjects", .sequence
              [Devfile.record
                [("name", .string "s"),
                  ("git", Devfile.record
                    [("remotes", Devfile.record [("o", .string "u")]),
                      ("checkoutFrom", Devfile.record [("depth", .int 1)])])]])]) ∧
      ∃ manifest, ofContents shallowText.toUTF8 "test" ⟨"/app/devfile.yaml"⟩ = .ok manifest ∧
        (manifest.withName "shop").devfile.toValue.ReadsBack ∧
        (manifest.withName "shop").devfile.toValue =
          Devfile.record
            [("schemaVersion", .string "2.0.0"), ("metadata", Devfile.record [("name", .string "shop")]),
              ("starterProjects", .sequence
                [Devfile.record
                  [("name", .string "s"),
                    ("git", Devfile.record
                      [("remotes", Devfile.record [("o", .string "u")]), ("checkoutFrom", Devfile.record [])])]])] :=
  ⟨by decide +kernel, by decide +kernel⟩

end Manifest

end Scaffold
