import Scaffold.Proofs.Manifest

/-! # Manifests are read as they were written

What some bytes were read as is written anew and read again, now or under another name, and stays what it was: only the
name of the component differs. Writing it once more gives the same bytes, so that one round settles a manifest.
-/

namespace Scaffold.Manifest

variable {contents : ByteArray} {origin : String} {path : Path} {manifest : Manifest}

/-- The bytes of a sound devfile are read as this devfile, wherever they come from and wherever they are kept. -/
theorem ofContents_text {devfile : Devfile} (apart : devfile.Apart) (sound : devfile.defect? = none)
    (back : devfile.toValue.ReadsBack) (origin : String) (path : Path) :
    ofContents devfile.text.toUTF8 origin path = .ok ⟨path, devfile⟩ :=
  ofContents_eq_ok.mpr ⟨Devfile.ofContents?_text apart back, sound, rfl⟩

/-- A manifest that was read is read again from what is written for it, and under another name it differs in the name
alone: giving it the old name gives back the old devfile. What is read again is written as the same bytes. -/
theorem ofContents_contents (read : ofContents contents origin path = .ok manifest) (name : String)
    (back : manifest.devfile.toValue.ReadsBack) (renamedBack : (manifest.devfile.withName name).toValue.ReadsBack)
    (again : String) (place : Path) :
    (∃ same, ofContents manifest.contents again place = .ok same ∧ same.devfile = manifest.devfile ∧
      same.contents = manifest.contents) ∧
    ∃ renamed, ofContents (manifest.withName name).contents again place = .ok renamed ∧
      renamed.devfile.metadata.name? = some name ∧
      { renamed.devfile with metadata := { renamed.devfile.metadata with name? := manifest.devfile.metadata.name? } } =
        manifest.devfile ∧
      (∀ kind, renamed.devfile.commandsOfGroup kind = manifest.devfile.commandsOfGroup kind) ∧
      renamed.devfile.hasDeployCommand = manifest.devfile.hasDeployCommand ∧
      renamed.devfile.componentType = manifest.devfile.componentType ∧
      (∀ starter, renamed.devfile.starterProject? starter = manifest.devfile.starterProject? starter) ∧
      renamed.contents = (manifest.withName name).contents := by
  obtain ⟨parsed, sound, _⟩ := ofContents_eq_ok.mp read
  have apart := Devfile.apart_of_ofContents? parsed
  refine ⟨⟨_, ofContents_text apart sound back again place, rfl, rfl⟩, ?_⟩
  exact ⟨_, ofContents_text (apart.withName name) sound renamedBack again place, rfl, rfl, fun _ => rfl, rfl, rfl,
    fun _ => rfl, rfl⟩

/-- A devfile of a component that has no name yet, with a command that deploys it, a starter project, and entries that no
run has to know in all of its parts. -/
def namelessText : String :=
  "schemaVersion: 2.0.0\nmetadata:\n  language: go\n  y: 1\ncommands:\n- id: c\n  apply:\n    group:\n      kind: deploy\n" ++
    "starterProjects:\n- name: s\n  zip:\n    location: u\n    z: 1\n  y: 1\nx: [1]\n"

/-- What the text says. -/
def nameless : Devfile where
  schemaVersion := "2.0.0"
  metadata := { language? := some "go", extras := [("y", .int 1)] }
  commands := [⟨"c", [("apply", Devfile.record [("group", Devfile.record [("kind", .string "deploy")])])]⟩]
  starterProjects :=
    [{ name := "s", zip? := some { location := "u", extras := [("z", .int 1)] }, extras := [("y", .int 1)] }]
  extras := [("x", .sequence [.int 1])]

theorem nameless_apart : nameless.Apart where
  extras := by simp [nameless, Yaml.Tree.Avoids]
  metadata := by simp [nameless, Devfile.Metadata.Apart, Yaml.Tree.Avoids]
  commands := by simp [nameless, Devfile.Command.Apart, Yaml.Tree.Avoids]
  starters := by
    simp only [nameless, List.forall_mem_singleton]
    exact ⟨by simp [Yaml.Tree.Avoids], by simp [Devfile.ZipSource.Apart, Yaml.Tree.Avoids], by simp⟩

theorem ofContents_namelessText (origin : String) (path : Path) :
    ofContents namelessText.toUTF8 origin path = .ok ⟨path, nameless⟩ := by
  have stands : (Yaml.Tree.ofText? namelessText.toList).bind Yaml.Value.ofTree? = some nameless.toValue := by
    decide +kernel
  have sound : nameless.defect? = none := by decide
  exact ofContents_eq_ok.mpr ⟨Devfile.ofContents?_of_stands nameless_apart stands, sound, rfl⟩

theorem nameless_readsBack : nameless.toValue.ReadsBack := by decide +kernel

theorem nameless_readsBack_shop : (nameless.withName "shop").toValue.ReadsBack := by decide +kernel

/-- Under its name the component is still of its type, is deployed and has its starter project. -/
theorem ofContents_contents_nameless :
    ∃ manifest, ofContents namelessText.toUTF8 "test" ⟨"/app/devfile.yaml"⟩ = .ok manifest ∧
      manifest.devfile.toValue.ReadsBack ∧ (manifest.devfile.withName "shop").toValue.ReadsBack ∧
      ∃ renamed, ofContents (manifest.withName "shop").contents "again" ⟨"/app/devfile.yaml"⟩ = .ok renamed ∧
        renamed.devfile.metadata.name? = some "shop" ∧ renamed.devfile.componentType = "go" ∧
        renamed.devfile.hasDeployCommand = true ∧ (renamed.devfile.starterProject? "s").isSome = true := by
  have read := ofContents_namelessText "test" ⟨"/app/devfile.yaml"⟩
  obtain ⟨_, renamed, again, named, _, _, deploys, typed, starts, _⟩ :=
    ofContents_contents read "shop" nameless_readsBack nameless_readsBack_shop "again" ⟨"/app/devfile.yaml"⟩
  refine ⟨_, read, nameless_readsBack, nameless_readsBack_shop, renamed, again, named, ?_, ?_, ?_⟩
  · exact typed.trans (by decide)
  · exact deploys.trans (by decide)
  · rw [starts "s"]
    decide

end Scaffold.Manifest
