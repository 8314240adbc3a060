import Scaffold.Proofs.Data.OrderedMap
import Scaffold.Proofs.Devfile.Fields

/-! # Devfiles are read as they are written

What is read as a devfile keeps its extras apart from its known fields, and its remotes in the order of their names.
A devfile for which this holds is read back from every tree that stands for the value it is written as.
-/

namespace Scaffold.Devfile

open Yaml Tree

/-! ## Extras apart -/

/-- Metadata whose extras are none of its fields. -/
def Metadata.Apart (metadata : Metadata) : Prop := Avoids ["name", "language", "projectType"] metadata.extras

/-- A command whose body does not tell its name again. -/
def Command.Apart (command : Command) : Prop := Avoids ["id"] command.body

/-- A repository whose extras are none of its fields and whose remotes are ordered by name. -/
structure GitSource.Apart (source : GitSource) : Prop where
  extras : Avoids ["remotes", "checkoutFrom"] source.extras
  remotes : OrderedMap.Increasing source.remotes.entries

/-- An archive whose extras are none of its fields. -/
def ZipSource.Apart (source : ZipSource) : Prop := Avoids ["location"] source.extras

/-- A starter project whose extras are none of its fields. -/
structure StarterProject.Apart (starter : StarterProject) : Prop where
  extras : Avoids ["name", "description", "subDir", "zip", "git"] starter.extras
  zip : ∀ source, starter.zip? = some source → source.Apart
  git : ∀ source, starter.git? = some source → source.Apart

/-- A devfile no part of which has a known field among its extras. -/
structure Apart (devfile : Devfile) : Prop where
  extras : Avoids ["schemaVersion", "metadata", "commands", "starterProjects"] devfile.extras
  metadata : devfile.metadata.Apart
  commands : ∀ command ∈ devfile.commands, command.Apart
  starters : ∀ starter ∈ devfile.starterProjects, starter.Apart

theorem Apart.withName {devfile : Devfile} (apart : devfile.Apart) (name : String) : (devfile.withName name).Apart where
  extras := apart.extras
  metadata := apart.metadata
  commands := apart.commands
  starters := apart.starters

/-! ## What is read -/

section

variable {tree : Tree}

theorem Metadata.apart_of_ofTree? {metadata : Metadata} (read : ofTree? tree = some metadata) : metadata.Apart := by
  simp only [ofTree?, Option.bind_eq_bind, Option.bind_eq_some_iff, Option.pure_def, Option.some.injEq] at read
  obtain ⟨_, _, _, _, _, _, _, _, _, extras, rfl⟩ := read
  exact avoids_of_extras? extras

theorem Command.apart_of_ofTree? {command : Command} (read : ofTree? tree = some command) : command.Apart := by
  simp only [ofTree?, Option.bind_eq_bind, Option.bind_eq_some_iff, Option.pure_def, Option.some.injEq] at read
  obtain ⟨_, _, _, _, _, extras, rfl⟩ := read
  exact avoids_of_extras? extras

theorem remotes_increasing {remotes : OrderedMap String String} (read : remotesOfTree? tree = some remotes) :
    OrderedMap.Increasing remotes.entries := by
  simp only [remotesOfTree?, Option.bind_eq_bind, Option.bind_eq_some_iff, Option.pure_def, Option.some.injEq] at read
  obtain ⟨_, _, bindings, _, rfl⟩ := read
  exact OrderedMap.increasing_ofList bindings

theorem GitSource.apart_of_ofTree? {source : GitSource} (read : ofTree? tree = some source) : source.Apart := by
  simp only [ofTree?, Option.bind_eq_bind, Option.bind_eq_some_iff, Option.pure_def, Option.some.injEq] at read
  obtain ⟨_, _, remotes, named, _, _, _, extras, rfl⟩ := read
  refine ⟨avoids_of_extras? extras, ?_⟩
  rcases exists_of_defaulted? named with rfl | ⟨_, told⟩
  · exact List.Pairwise.nil
  · exact remotes_increasing told

theorem ZipSource.apart_of_ofTree? {source : ZipSource} (read : ofTree? tree = some source) : source.Apart := by
  simp only [ofTree?, Option.bind_eq_bind, Option.bind_eq_some_iff, Option.pure_def, Option.some.injEq] at read
  obtain ⟨_, _, _, _, _, extras, rfl⟩ := read
  exact avoids_of_extras? extras

theorem StarterProject.apart_of_ofTree? {starter : StarterProject} (read : ofTree? tree = some starter) :
    starter.Apart := by
  simp only [ofTree?, Option.bind_eq_bind, Option.bind_eq_some_iff, Option.pure_def, Option.some.injEq] at read
  obtain ⟨_, _, _, _, _, _, _, _, _, zip, _, git, _, extras, rfl⟩ := read
  refine ⟨avoids_of_extras? extras, fun source same => ?_, fun source same => ?_⟩
  · obtain ⟨_, told⟩ := exists_of_fieldOption? (zip.trans (congrArg some same))
    exact ZipSource.apart_of_ofTree? told
  · obtain ⟨_, told⟩ := exists_of_fieldOption? (git.trans (congrArg some same))
    exact GitSource.apart_of_ofTree? told

/-- Every devfile that is read keeps its extras apart. -/
theorem apart_of_ofTree? {devfile : Devfile} (read : ofTree? tree = some devfile) : devfile.Apart := by
  simp only [ofTree?, Option.bind_eq_bind, Option.bind_eq_some_iff, Option.pure_def, Option.some.injEq] at read
  obtain ⟨_, _, _, _, _, metadata, _, commands, _, starters, _, extras, rfl⟩ := read
  refine ⟨avoids_of_extras? extras, ?_, fun command member => ?_, fun starter member => ?_⟩
  · rcases exists_of_defaulted? metadata with rfl | ⟨_, told⟩
    · exact avoids_nil
    · exact Metadata.apart_of_ofTree? told
  · obtain ⟨_, told⟩ := exists_of_mem_list? commands member
    exact Command.apart_of_ofTree? told
  · obtain ⟨_, told⟩ := exists_of_mem_list? starters member
    exact StarterProject.apart_of_ofTree? told

/-! ## What is written is read -/

theorem Metadata.ofTree?_toValue {metadata : Metadata} (apart : metadata.Apart)
    (read : Value.ofTree? tree = some metadata.toValue) : ofTree? tree = some metadata := by
  obtain ⟨trees, record, parts⟩ := parts_of_record (by simp) apart read
  have name : fieldOption? trees "name" text? = some metadata.name? :=
    parts.fieldText? (by simp) (by simp [List.lookup_append])
  have language : fieldOption? trees "language" text? = some metadata.language? :=
    parts.fieldText? (by simp) (by simp [List.lookup_append])
  have projectType : fieldOption? trees "projectType" text? = some metadata.projectType? :=
    parts.fieldText? (by simp) (by simp [List.lookup_append])
  simp [ofTree?, record, name, language, projectType, parts.extras?]

theorem Command.ofTree?_toValue {command : Command} (apart : command.Apart)
    (read : Value.ofTree? tree = some command.toValue) : ofTree? tree = some command := by
  obtain ⟨trees, record, parts⟩ := parts_of_record (by simp : Within _ [("id", .string command.id)]) apart read
  have id : required? trees "id" text? = some command.id :=
    parts.required? (by simp) (by simp) fun _ read => text?_of_string read
  simp [ofTree?, record, id, parts.extras?]

theorem ZipSource.ofTree?_toValue {source : ZipSource} (apart : source.Apart)
    (read : Value.ofTree? tree = some source.toValue) : ofTree? tree = some source := by
  obtain ⟨trees, record, parts⟩ := parts_of_record (by simp : Within _ [("location", .string source.location)]) apart read
  have location : required? trees "location" text? = some source.location :=
    parts.required? (by simp) (by simp) fun _ read => text?_of_string read
  simp [ofTree?, record, location, parts.extras?]

/-- What is checked out has no extras, and other fields would be passed over. -/
theorem Checkout.ofTree?_toValue {checkout : Checkout} (read : Value.ofTree? tree = some checkout.toValue) :
    ofTree? tree = some checkout := by
  obtain ⟨trees, named, nodup, tells⟩ := fields_of_record read
  have within : Within ["remote", "revision"]
      (field? "remote" .string checkout.remote? ++ field? "revision" .string checkout.revision?) := by simp
  have stays := List.filter_eq_self.mpr fun field member => List.contains_iff_mem.mpr (within field member)
  have kept := tells.filter ["remote", "revision"].contains
  have once := nodup.sublist
    ((List.filter_sublist (p := fun field => ["remote", "revision"].contains field.1)).map Prod.fst)
  rw [stays] at kept
  rw [ofTree?, named, Option.bind_eq_bind, Option.bind_some]
  generalize trees.filter (fun field => ["remote", "revision"].contains field.1) = chosen at kept once
  have parts : Parts chosen ["remote", "revision"] _ [] := ⟨by rwa [List.append_nil], within, avoids_nil⟩
  have remote : fieldOption? chosen "remote" text? = some checkout.remote? :=
    parts.fieldText? (by simp) (by simp [List.lookup_append])
  have revision : fieldOption? chosen "revision" text? = some checkout.revision? :=
    parts.fieldText? (by simp) (by simp [List.lookup_append])
  simp [once, remote, revision]

theorem remotesOfTree?_record {remotes : OrderedMap String String} (increasing : OrderedMap.Increasing remotes.entries)
    (read : Value.ofTree? tree = some (record (remotes.entries.map fun (name, url) => (name, .string url)))) :
    remotesOfTree? tree = some remotes := by
  obtain ⟨trees, named, _, tells⟩ := fields_of_record read
  have all := tells.mapM fun _ _ read => text?_of_string read
  rw [remotesOfTree?, named]
  simp [all, OrderedMap.ofList_entries increasing]

theorem GitSource.ofTree?_toValue {source : GitSource} (apart : source.Apart)
    (read : Value.ofTree? tree = some source.toValue) : ofTree? tree = some source := by
  obtain ⟨trees, fields, parts⟩ := parts_of_record (by simp) apart.extras read
  have remotes : defaulted? trees "remotes" OrderedMap.empty remotesOfTree? = some source.remotes :=
    parts.defaulted? (by simp) rfl (fun impossible => by cases impossible) fun value tree encoded read =>
      remotesOfTree?_record apart.remotes (Option.some.inj encoded ▸ read)
  have checkout : fieldOption? trees "checkoutFrom" Checkout.ofTree? = some source.checkout? :=
    parts.fieldOption? (by simp) (by simp [List.lookup_cons]) (fun _ impossible => by cases impossible)
      fun _ _ _ read => Checkout.ofTree?_toValue read
  simp [ofTree?, fields, remotes, checkout, parts.extras?]

theorem StarterProject.ofTree?_toValue {starter : StarterProject} (apart : starter.Apart)
    (read : Value.ofTree? tree = some starter.toValue) : ofTree? tree = some starter := by
  obtain ⟨trees, fields, parts⟩ := parts_of_record (by simp) apart.extras read
  have name : required? trees "name" text? = some starter.name :=
    parts.required? (by simp) rfl fun _ read => text?_of_string read
  have description : fieldOption? trees "description" text? = some starter.description? :=
    parts.fieldText? (by simp) (by simp [List.lookup_append, List.lookup_cons])
  have subDir : fieldOption? trees "subDir" text? = some starter.subDir? :=
    parts.fieldText? (by simp) (by simp [List.lookup_append, List.lookup_cons])
  have zip : fieldOption? trees "zip" ZipSource.ofTree? = some starter.zip? :=
    parts.fieldOption? (by simp) (by simp [List.lookup_append, List.lookup_cons]) (fun _ impossible => by cases impossible)
      fun source _ same read => ZipSource.ofTree?_toValue (apart.zip source same) read
  have git : fieldOption? trees "git" GitSource.ofTree? = some starter.git? :=
    parts.fieldOption? (by simp) (by simp [List.lookup_append, List.lookup_cons]) (fun _ impossible => by cases impossible)
      fun source _ same read => GitSource.ofTree?_toValue (apart.git source same) read
  simp [ofTree?, fields, name, description, subDir, zip, git, parts.extras?]

/-- A devfile whose extras are apart is read from every tree that stands for it. -/
theorem ofTree?_toValue {devfile : Devfile} (apart : devfile.Apart) (read : Value.ofTree? tree = some devfile.toValue) :
    ofTree? tree = some devfile := by
  obtain ⟨trees, fields, parts⟩ := parts_of_record (by simp) apart.extras read
  have version : required? trees "schemaVersion" text? = some devfile.schemaVersion :=
    parts.required? (by simp) rfl fun _ read => text?_of_string read
  have metadata : defaulted? trees "metadata" {} Metadata.ofTree? = some devfile.metadata :=
    parts.defaulted? (by simp) rfl (fun impossible => by cases impossible) fun value tree encoded read =>
      Metadata.ofTree?_toValue apart.metadata (Option.some.inj encoded ▸ read)
  have commands : defaulted? trees "commands" [] (list? Command.ofTree?) = some devfile.commands :=
    parts.list? (by simp) (by simp [List.lookup_append, List.lookup_cons]) fun command member _ read =>
      Command.ofTree?_toValue (apart.commands command member) read
  have starters : defaulted? trees "starterProjects" [] (list? StarterProject.ofTree?) = some devfile.starterProjects :=
    parts.list? (by simp) (by simp [List.lookup_append, List.lookup_cons]) fun starter member _ read =>
      StarterProject.ofTree?_toValue (apart.starters starter member) read
  simp [ofTree?, fields, version, metadata, commands, starters, parts.extras?]

end

end Scaffold.Devfile
