import Scaffold.Manifest
import Scaffold.Proofs.Devfile.RoundTrip
import Scaffold.Proofs.Session.Files

/-! # Staging, reading and saving manifests

Each of these makes one call, and a manifest it returns is what some bytes are read as. Such a manifest is read again
from the bytes that are written for it, under whatever name, as long as its text says what was to be written.
-/

namespace Scaffold

/-- The text written for a value is read as a tree that stands for it. -/
def Yaml.Value.ReadsBack (value : Value) : Prop :=
  (Tree.ofText? value.document.toList).bind Value.ofTree? = some value

instance (value : Yaml.Value) : Decidable value.ReadsBack := inferInstanceAs (Decidable (_ = _))

theorem Text.fromUtf8?_toUTF8 (text : String) : fromUtf8? text.toUTF8 = some text := by
  have valid : text.toUTF8.IsValidUTF8 := text.isValidUTF8
  rw [fromUtf8?, String.fromUTF8?, dif_pos valid]
  rfl

namespace Devfile

variable {devfile : Devfile}

theorem apart_of_ofContents? {contents : ByteArray} (read : ofContents? contents = some devfile) : devfile.Apart := by
  simp only [ofContents?, Option.bind_eq_bind, Option.bind_eq_some_iff] at read
  obtain ⟨_, _, _, _, decoded⟩ := read
  exact apart_of_ofTree? decoded

/-- A text that stands for what is written for a devfile is read as that devfile. -/
theorem ofContents?_of_stands {text : String} (apart : devfile.Apart)
    (stands : (Yaml.Tree.ofText? text.toList).bind Yaml.Value.ofTree? = some devfile.toValue) :
    ofContents? text.toUTF8 = some devfile := by
  obtain ⟨tree, parsed, stands⟩ := Option.bind_eq_some_iff.mp stands
  simp only [ofContents?, Text.fromUtf8?_toUTF8, Option.bind_eq_bind, Option.bind_some, parsed]
  exact ofTree?_toValue apart stands

/-- What is written for a devfile is read as that devfile. -/
theorem ofContents?_text (apart : devfile.Apart) (back : devfile.toValue.ReadsBack) :
    ofContents? devfile.text.toUTF8 = some devfile :=
  ofContents?_of_stands apart back

example : Yaml.Value.ReadsBack (Devfile.toValue { schemaVersion := "2.2.0", metadata := { name? := some "shop" } }) := by
  decide +kernel

end Devfile

namespace Manifest

variable {contents : ByteArray} {origin : String} {path directory : Path} {manifest : Manifest}

theorem ofContents_eq_ok :
    ofContents contents origin path = .ok manifest ↔
      Devfile.ofContents? contents = some manifest.devfile ∧ manifest.devfile.defect? = none ∧ manifest.path = path := by
  unfold ofContents
  cases read : Devfile.ofContents? contents with
  | none => simp
  | some devfile =>
    rw [Option.some.injEq]
    constructor
    · intro accepted
      cases found : devfile.defect? with
      | some defect => simp [found] at accepted
      | none =>
        simp only [found, Except.ok.injEq] at accepted
        subst accepted
        exact ⟨rfl, found, rfl⟩
    · rintro ⟨rfl, sound, rfl⟩
      simp [sound]

/-- Bytes are refused as an invalid manifest of their origin, whatever is wrong with them. -/
theorem ofContents_eq_error {cause : Cause} (refused : ofContents contents origin path = .error cause) :
    ∃ reason, cause = .manifestInvalid origin reason := by
  unfold ofContents at refused
  split at refused
  · exact ⟨_, (Except.error.inj refused).symm⟩
  · split at refused
    · exact ⟨_, (Except.error.inj refused).symm⟩
    · cases refused

/-- What some bytes are read as can be found out by reading them. -/
instance decidableExistsRead {accepts : Manifest → Prop} [DecidablePred accepts] :
    Decidable (∃ manifest, ofContents contents origin path = .ok manifest ∧ accepts manifest) :=
  match read : ofContents contents origin path with
  | .ok manifest => decidable_of_iff (accepts manifest) (by simp)
  | .error _ => isFalse (by simp)

/-- A manifest that some bytes were read as. -/
def Accepted (manifest : Manifest) : Prop := ∃ contents origin, ofContents contents origin manifest.path = .ok manifest

theorem accepted_of_ofContents (read : ofContents contents origin path = .ok manifest) :
    manifest.Accepted ∧ manifest.path = path := by
  have place := (ofContents_eq_ok.mp read).2.2
  exact ⟨⟨contents, origin, place ▸ read⟩, place⟩

/-- A manifest under another name is read from the bytes that are written for it. -/
theorem Accepted.ofContents_withName (accepted : manifest.Accepted) {name : String}
    (back : (manifest.withName name).devfile.toValue.ReadsBack) :
    ofContents (manifest.withName name).contents origin manifest.path = .ok (manifest.withName name) := by
  obtain ⟨_, _, read⟩ := accepted
  obtain ⟨parsed, sound, _⟩ := ofContents_eq_ok.mp read
  have apart : (manifest.withName name).devfile.Apart := (Devfile.apart_of_ofContents? parsed).withName name
  exact ofContents_eq_ok.mpr ⟨Devfile.ofContents?_text apart back, sound, rfl⟩

section

variable {σ : Type} [Storage σ] {session after : Session σ} {cause : Cause}

/-- Staging refuses bytes that are no manifest, and else comes out as the call that writes them. -/
theorem stage_cases {outcome : Except Cause Manifest}
    (ran : (stage directory contents origin).apply session = (outcome, after)) :
    (∃ cause, ofContents contents origin (manifestPath directory) = .error cause ∧ outcome = .error cause ∧
        after = session) ∨
      ∃ manifest answer, ofContents contents origin (manifestPath directory) = .ok manifest ∧
        (Run.write (manifestPath directory) contents).apply session = (answer, after) ∧
        outcome =
          match answer with
          | .ok () => .ok manifest
          | .error error => .error (.io "write devfile" (manifestPath directory) error.message) := by
  rcases Run.bind_cases ran with ⟨cause, rfl, refused⟩ | ⟨manifest, _, first, ran⟩
  · obtain ⟨told, rfl⟩ := Prod.mk.inj refused
    exact .inl ⟨cause, told, rfl, rfl⟩
  · obtain ⟨accepted, rfl⟩ := Prod.mk.inj first
    rcases Run.bind_cases ran with ⟨cause, rfl, failed⟩ | ⟨_, _, wrote, returned⟩
    · obtain ⟨error, stopped, rfl⟩ := Run.mapError_eq_error.mp failed
      exact .inr ⟨manifest, _, accepted, stopped, rfl⟩
    · obtain ⟨rfl, rfl⟩ := Prod.mk.inj returned
      exact .inr ⟨manifest, _, accepted, Run.mapError_eq_ok.mp wrote, rfl⟩

theorem stage_eq_ok (staged : (stage directory contents origin).apply session = (.ok manifest, after)) :
    ofContents contents origin (manifestPath directory) = .ok manifest ∧
      (Run.write (manifestPath directory) contents).apply session = (.ok (), after) := by
  rcases stage_cases staged with ⟨_, _, impossible, _⟩ | ⟨other, answer, accepted, wrote, same⟩
  · cases impossible
  · cases answer with
    | ok _ =>
      cases same
      exact ⟨accepted, wrote⟩
    | error _ => cases same

/-- Staging fails without a call or with the one that writes. -/
theorem stage_eq_error (failed : (stage directory contents origin).apply session = (.error cause, after)) :
    after = session ∨ ∃ error, (Run.write (manifestPath directory) contents).apply session = (.error error, after) := by
  rcases stage_cases failed with ⟨_, _, _, same⟩ | ⟨_, answer, _, wrote, same⟩
  · exact .inl same
  · cases answer with
    | ok _ => cases same
    | error error => exact .inr ⟨error, wrote⟩

/-- Staging writes the manifest of the directory, and makes no other call. -/
theorem stage_only {allowed : Event → Prop}
    (fit : ∀ error?, allowed (.files (.write (manifestPath directory) contents) error?)) :
    (stage directory contents origin : Run σ Cause Manifest).Only allowed :=
  Run.only_bind (Run.only_ofExcept _) fun _ =>
    Run.only_bind (Run.only_mapError (Run.only_call fit)) fun _ => Run.only_pure _

theorem read_eq_ok (ran : (read path).apply session = (.ok manifest, after)) :
    ∃ contents, (Run.read path).apply session = (.ok contents, after) ∧
      ofContents contents path.text path = .ok manifest := by
  obtain ⟨contents, _, told, rest⟩ := Run.bind_eq_ok ran
  obtain ⟨accepted, rfl⟩ := Prod.mk.inj rest
  exact ⟨contents, Run.mapError_eq_ok.mp told, accepted⟩

theorem read_of_told (told : (Run.read path).apply session = (.ok contents, after)) :
    (read path).apply session = (ofContents contents path.text path, after) := by
  have first : (Run.during "read devfile" path (Run.read path)).apply session = (.ok contents, after) :=
    Run.mapError_eq_ok.mpr told
  rw [read, Run.apply_bind_of_ok first]
  rfl

theorem read_looks (path : Path) : (read path : Run σ Cause Manifest).Only Event.Looks :=
  Run.only_bind (Run.only_mapError (Run.only_call fun _ => rfl)) fun _ => Run.only_ofExcept _

end

end Manifest

end Scaffold
