import Mathlib.Data.List.Induction
import Scaffold.Proofs.Data.Distinct
import Scaffold.Proofs.Starter.Acquisition

/-! # Usable devfiles

A devfile has no defect exactly if it can be used: its schema has version 2, its commands and its starter projects have
names of their own, and each starter project comes from one place that is known. What is said of a version here is said
of the digits in it, and what is said of names does not depend on their order. A manifest that was read or staged is
usable, so its starter projects are told apart by their names, and a download always knows what to ask for.
-/

namespace Scaffold

/-! ## Numbers in versions -/

namespace Text

/-- Decimal digits and the number they write. -/
inductive Decimal : List Char → Nat → Prop
  | digit (c : Char) (isDigit : c.isDigit = true) : Decimal [c] (c.toNat - '0'.toNat)
  | more (digits : List Char) (value : Nat) (c : Char) (written : Decimal digits value) (isDigit : c.isDigit = true) :
      Decimal (digits ++ [c]) (10 * value + (c.toNat - '0'.toNat))

/-- A text writes a number of 64 bits, perhaps with a plus sign in front. -/
def Writes (text : List Char) (value : Nat) : Prop :=
  (Decimal text value ∨ ∃ digits, text = '+' :: digits ∧ Decimal digits value) ∧ value < UInt64.size

variable {text digits : List Char} {value : Nat}

theorem decimalValue_concat (digits : List Char) (c : Char) :
    decimalValue (digits ++ [c]) = 10 * decimalValue digits + (c.toNat - '0'.toNat) := by
  rw [decimalValue, List.foldl_append]
  rfl

theorem decimal_iff : Decimal digits value ↔ digits ≠ [] ∧ digits.all Char.isDigit = true ∧ decimalValue digits = value := by
  constructor
  · intro written
    induction written with
    | digit c isDigit => simp [decimalValue, isDigit]
    | more digits value c _ isDigit ih =>
      obtain ⟨_, all, same⟩ := ih
      refine ⟨by simp, ?_, by rw [decimalValue_concat, same]⟩
      simp [List.all_append, all, isDigit]
  · rintro ⟨some, all, rfl⟩
    induction digits using List.reverseRecOn with
    | nil => exact absurd rfl some
    | append_singleton digits c ih =>
      rw [List.all_append, Bool.and_eq_true, List.all_cons, Bool.and_eq_true] at all
      obtain ⟨before, isDigit, _⟩ := all
      by_cases first : digits = []
      · subst first
        have value : decimalValue ([] ++ [c]) = c.toNat - '0'.toNat := by simp [decimalValue]
        exact value ▸ .digit c isDigit
      · rw [decimalValue_concat]
        exact .more digits _ c (ih first before) isDigit

/-- No number begins with a plus sign of its own. -/
theorem not_decimal_plus : ¬ Decimal ('+' :: digits) value := by
  intro written
  have all := (decimal_iff.mp written).2.1
  have noDigit : '+'.isDigit = false := by decide
  rw [List.all_cons, noDigit, Bool.false_and] at all
  cases all

theorem number?_eq_some_iff : number? text = some value ↔ Writes text value := by
  have reads : ∀ digits : List Char,
      (if digits.isEmpty || !digits.all Char.isDigit then none else word? (decimalValue digits)) = some value ↔
        Decimal digits value ∧ value < UInt64.size := by
    intro digits
    rw [decimal_iff]
    cases digits with
    | nil => simp
    | cons c rest =>
      cases all : (c :: rest).all Char.isDigit with
      | false => simp
      | true =>
        simp only [List.isEmpty_cons, Bool.not_true, Bool.or_self, Bool.false_eq_true, ↓reduceIte, word?, UInt64.size,
          ne_eq, reduceCtorEq, not_false_eq_true, true_and]
        split <;> simp <;> omega
  unfold Writes
  rw [number?, reads]
  refine and_congr_left fun _ => ?_
  unfold withoutPlus
  split
  · rename_i rest
    simp [not_decimal_plus]
  · rename_i plain
    have noSign : ¬ ∃ digits, text = '+' :: digits ∧ Decimal digits value := fun ⟨digits, same, _⟩ => plain digits same
    simp [noSign]

end Text

namespace Devfile

variable {devfile : Devfile} {starter : StarterProject} {starters : List StarterProject} {names seen : List String}

/-- A version of the second schema: pieces between dots, the first of which writes 2, while each of the others begins
with a number that ends at its first dash. -/
def SecondSchema (version : String) : Prop :=
  ∃ major later, version.toList = Text.glue '.' (major :: later) ∧ (∀ piece ∈ major :: later, '.' ∉ piece) ∧
    Text.Writes major 2 ∧ ∀ piece ∈ later, ∃ number, Text.Writes (piece.takeWhile (· ≠ '-')) number

theorem isNumbered_iff {piece : List Char} :
    isNumbered piece = true ↔ ∃ number, Text.Writes (piece.takeWhile (· ≠ '-')) number := by
  simp only [isNumbered, Option.isSome_iff_exists, Text.number?_eq_some_iff]

theorem isSupported_iff {version : String} : isSupported version = true ↔ SecondSchema version := by
  obtain ⟨major, later, cut⟩ := List.exists_cons_of_ne_nil (Text.split_ne_nil '.' version.toList)
  have supported : isSupported version = true ↔
      Text.Writes major 2 ∧ ∀ piece ∈ later, ∃ number, Text.Writes (piece.takeWhile (· ≠ '-')) number := by
    simp only [isSupported, cut, Bool.and_eq_true, decide_eq_true_eq, Text.number?_eq_some_iff, List.all_eq_true,
      isNumbered_iff]
  rw [supported]
  constructor
  · rintro ⟨second, numbered⟩
    refine ⟨major, later, ?_, fun piece member => ?_, second, numbered⟩
    · rw [← cut, Text.glue_split]
    · exact Text.not_mem_of_mem_split (cut ▸ member)
  · rintro ⟨first, others, glued, free, second, numbered⟩
    rw [glued, Text.split_glue (List.cons_ne_nil _ _) free] at cut
    obtain ⟨rfl, rfl⟩ := List.cons.inj cut
    exact ⟨second, numbered⟩

/-! ## Names and sources -/

/-- Every name is there, and none is there twice. -/
def Distinct (names : List String) : Prop := (∀ name ∈ names, name ≠ "") ∧ names.Nodup

/-- A starter project comes from one place: an archive with an address, or a repository with a remote. -/
inductive StarterProject.Sourced (starter : StarterProject) : Prop
  | archive (source : ZipSource) (chosen : starter.zip? = some source) (located : source.location ≠ "")
      (noRepository : starter.git? = none)
  | repository (source : GitSource) (url : String) (chosen : starter.git? = some source)
      (remote : source.remoteUrl? = some url) (noArchive : starter.zip? = none)

/-- A devfile that a run can use. -/
structure Usable (devfile : Devfile) : Prop where
  schema : SecondSchema devfile.schemaVersion
  commands : Distinct (devfile.commands.map Command.id)
  starters : Distinct (devfile.starterProjects.map StarterProject.name)
  sources : ∀ starter ∈ devfile.starterProjects, starter.Sourced

theorem firstUnusable?_eq_none_iff :
    firstUnusable? seen names = none ↔ Distinct names ∧ ∀ name ∈ names, name ∉ seen := by
  rw [Distinct, and_assoc]
  induction names generalizing seen with
  | nil => simp [firstUnusable?]
  | cons name rest ih =>
    rw [List.forall_mem_cons, nodup_and_new_cons, and_assoc, and_left_comm (b := name ∉ seen), ← ih, firstUnusable?]
    by_cases unnamed : name = ""
    · simp [unnamed]
    · by_cases known : name ∈ seen
      · simp [known]
      · simp [unnamed, known]

theorem commandDefect?_eq_none_iff {commands : List Command} :
    commandDefect? commands = none ↔ Distinct (commands.map Command.id) := by
  rw [commandDefect?, Option.map_eq_none_iff, firstUnusable?_eq_none_iff]
  simp

theorem sourceDefect?_eq_none_iff : sourceDefect? starter = none ↔ starter.Sourced := by
  constructor
  · intro sound
    unfold sourceDefect? at sound
    split at sound
    · rename_i source chosen noRepository
      split at sound
      · cases sound
      · rename_i located
        exact .archive source chosen (by simpa using located) noRepository
    · rename_i source noArchive chosen
      split at sound
      · rename_i remote
        obtain ⟨url, remote⟩ := Option.isSome_iff_exists.mp remote
        exact .repository source url chosen remote noArchive
      · cases sound
    · cases sound
  · intro sourced
    unfold sourceDefect?
    cases sourced with
    | archive source chosen located noRepository => simp [chosen, noRepository, located]
    | repository source url chosen remote noArchive => simp [chosen, noArchive, remote]

/-- A defect among starter projects is one of their names or of one of their sources. -/
theorem starterDefect?_eq_none_iff :
    starterDefect? seen starters = none ↔
      firstUnusable? seen (starters.map StarterProject.name) = none ∧ ∀ starter ∈ starters, starter.Sourced := by
  induction starters generalizing seen with
  | nil => simp [starterDefect?, firstUnusable?]
  | cons starter rest ih =>
    rw [starterDefect?, List.map_cons, firstUnusable?, List.forall_mem_cons]
    cases starter.name.isEmpty with
    | true => simp
    | false =>
      cases seen.contains starter.name with
      | true => simp
      | false =>
        simp only [Bool.false_eq_true, ↓reduceIte, Bool.or_self, Option.or_eq_none_iff, sourceDefect?_eq_none_iff, ih]
        exact and_left_comm

theorem defect?_eq_none_iff : devfile.defect? = none ↔ devfile.Usable := by
  have names : ∀ names, firstUnusable? [] names = none ↔ Distinct names := fun names => by
    simp [firstUnusable?_eq_none_iff]
  unfold defect?
  split
  · rename_i supported
    rw [Option.or_eq_none_iff, commandDefect?_eq_none_iff, starterDefect?_eq_none_iff, names]
    exact ⟨fun ⟨commands, starters, sources⟩ => ⟨isSupported_iff.mp supported, commands, starters, sources⟩,
      fun usable => ⟨usable.commands, usable.starters, usable.sources⟩⟩
  · rename_i unsupported
    exact ⟨nofun, fun usable => absurd (isSupported_iff.mpr usable.schema) unsupported⟩

/-! ## What a usable devfile spares a run -/

/-- A cause other than not knowing what to ask for. -/
def StarterProject.Directed (cause : Cause) : Prop :=
  ∀ name, cause ≠ .downloadFailed name "starter project declares no source" ∧
    cause ≠ .downloadFailed name "git starter project has no usable remote"

namespace StarterProject

theorem directed_of_head? {name reason : String} {c : Char} (begins : reason.toList.head? = some c)
    (apart : c ≠ 's' ∧ c ≠ 'g') : Directed (.downloadFailed name reason) := by
  intro other
  constructor
  · rintro ⟨⟩
    exact apart.1 (Option.some.inj begins).symm
  · rintro ⟨⟩
    exact apart.2 (Option.some.inj begins).symm

/-- What cannot be fetched is told by its address. -/
theorem directed_fetchFailed (name url reason : String) : Directed (notDownloaded name (.fetchFailed url reason)) := by
  have begins : ("failed to fetch " ++ url ++ ": " ++ reason).toList.head? = some 'f' := by simp [String.toList_append]
  exact directed_of_head? begins (by decide)

/-- What is told of a clone that failed is not told of a starter project without a source. -/
theorem directed_cloneFails {name url reason : String} {revision? : Option String}
    (fails : Run.CloneFails url revision? reason) : Directed (.downloadFailed name reason) := by
  have begins : reason.toList.head? = some 'f' ∨ reason.toList.head? = some 'c' := by
    rcases fails with rfl | ⟨reason, rfl⟩ | ⟨reason, rfl⟩ | ⟨reason, rfl⟩
    · left
      simp [String.toList_append]
    · left
      simp [String.toList_append]
    · right
      simp [String.toList_append]
    · left
      simp [String.toList_append]
  rcases begins with begins | begins <;> exact directed_of_head? begins (by decide)

theorem directed_cancelled : Directed .cancelled := fun _ => ⟨nofun, nofun⟩

theorem directed_extractFailed (name reason : String) : Directed (.extractFailed name reason) :=
  fun _ => ⟨nofun, nofun⟩

variable {σ : Type}

/-- A step in front of the layout fails for the causes of the step. -/
theorem untouched_directed {α : Type} {step : Run σ Cause α} (fails : step.FailsWith Directed) :
    (untouched step).FailsWith fun setback => Directed setback.cause :=
  fails.mapError fun _ directed => directed

theorem subDirectory_directed (starter : StarterProject) :
    (Run.ofExcept starter.subDirectory : Run σ Cause _).FailsWith Directed := by
  refine Run.failsWith_ofExcept fun cause failed => ?_
  unfold subDirectory at failed
  split at failed
  · cases failed
  · split at failed
    · cases failed
    · cases failed
      exact directed_of_head? (c := 'i') (by simp [String.toList_append]) (by decide)

variable [Storage σ]

theorem layOut_directed (starter : StarterProject) (overlay : Overlay) (step : Run σ Interruption Nat) :
    (starter.layOut overlay step).FailsWith fun setback => Directed setback.cause :=
  Run.failsWith_bind (untouched_directed (Run.failsWith_mapError fun _ => directed_extractFailed _ _)) fun _ =>
    Run.failsWith_bind (Run.failsWith_mapError fun _ => directed_extractFailed _ _) fun _ => Run.failsWith_pure _

/-- The download of a starter project that comes from one place always knows what to ask for. -/
theorem Sourced.download_directed (sourced : starter.Sourced) (directory : Path) :
    (starter.download directory : Run σ Setback Unit).FailsWith fun setback => Directed setback.cause := by
  have checked := untouched_directed (Run.checkCancelled_failsWith directed_cancelled : Run.FailsWith _ (σ := σ) _)
  refine Run.failsWith_bind (untouched_directed starter.subDirectory_directed) fun names => ?_
  cases sourced with
  | archive source chosen located noRepository =>
    rw [chosen]
    have told : (Run.fetch source.location : Run σ Cause _).FailsWith fun cause => Directed (notDownloaded starter.name cause) :=
      Run.fetch_failsWith directed_cancelled fun reason => directed_fetchFailed _ _ reason
    exact Run.failsWith_bind (untouched_directed (told.mapError fun _ directed => directed)) fun _ =>
      Run.failsWith_bind checked fun _ => Run.failsWith_bind Run.failsWith_get fun _ => starter.layOut_directed _ _
  | repository source url chosen remote noArchive =>
    rw [noArchive, chosen]
    dsimp only
    rw [fromRepository, remote]
    exact Run.failsWith_bind (untouched_directed (Run.clone_failsWith directed_cancelled fun _ => directed_cloneFails)) fun _ =>
      Run.failsWith_bind checked fun _ => starter.layOut_directed _ _

end StarterProject

end Devfile

/-! ## Manifests that were read -/

namespace Manifest

/-- How a run comes by a manifest: it reads bytes, or the file at a path, or stages bytes. -/
inductive Obtained : Manifest → Prop
  | parsed (contents : ByteArray) (origin : String) (path : Path) (manifest : Manifest)
      (parsing : ofContents contents origin path = .ok manifest) : Obtained manifest
  | read {σ : Type} [Storage σ] (path : Path) (manifest : Manifest) (session after : Session σ)
      (reading : (read path).apply session = (.ok manifest, after)) : Obtained manifest
  | staged {σ : Type} [Storage σ] (directory : Path) (contents : ByteArray) (origin : String) (manifest : Manifest)
      (session after : Session σ) (staging : (stage directory contents origin).apply session = (.ok manifest, after)) :
      Obtained manifest

variable {manifest : Manifest}

theorem Obtained.usable (obtained : manifest.Obtained) : manifest.devfile.Usable := by
  have sound : ∀ {contents origin path}, ofContents contents origin path = .ok manifest → manifest.devfile.Usable :=
    fun parsing => Devfile.defect?_eq_none_iff.mp (ofContents_eq_ok.mp parsing).2.1
  cases obtained with
  | parsed contents origin path _ parsing => exact sound parsing
  | read path _ session after reading =>
    obtain ⟨_, _, parsing⟩ := read_eq_ok reading
    exact sound parsing
  | staged directory contents origin _ session after staging => exact sound (stage_eq_ok staging).1

end Manifest

namespace Devfile

/-- A devfile has no defect exactly if it is usable. So in each manifest that is parsed, read or staged, the starter
project of a name is the only one of that name, and a download of a starter project never fails for not knowing what to
ask for, whatever session and directory it is for. -/
theorem no_defect_iff_usable :
    (∀ devfile : Devfile, devfile.defect? = none ↔ devfile.Usable) ∧
      ∀ manifest : Manifest, manifest.Obtained →
        (∀ name, manifest.devfile.starterProjects.filter (fun starter => starter.name = name) =
          (manifest.devfile.starterProject? name).toList) ∧
        ∀ starter ∈ manifest.devfile.starterProjects, ∀ (σ : Type) [Storage σ] (directory : Path) (session : Session σ)
          (setback : Setback), ((starter.download directory).apply session).1 = .error setback →
            StarterProject.Directed setback.cause := by
  refine ⟨fun devfile => defect?_eq_none_iff, fun manifest obtained => ⟨fun name => ?_, ?_⟩⟩
  · exact filter_name_of_nodup obtained.usable.starters.2 name
  · intro starter member σ _ directory session setback failed
    exact (obtained.usable.sources starter member).download_directed directory session setback _ (Prod.ext failed rfl)

/-- A devfile with a starter project in an archive and one in a repository with two remotes. -/
def twoStartersText : String :=
  "\x7bschemaVersion: +2.0-rc, starterProjects: [\x7bname: a, zip: \x7blocation: x\x7d\x7d, " ++
    "\x7bname: b, git: \x7bremotes: \x7bo: y, u: z\x7d, checkoutFrom: \x7bremote: u\x7d\x7d\x7d]\x7d"

/-- A session in which no server answers. -/
def offlineSession : Session FileTree := { files := .new ⟨"/app"⟩, network := { online := false } }

/-- Without a network the repository cannot be cloned, but it was known which one it is. -/
theorem no_defect_iff_usable_cloned :
    ∃ manifest : Manifest, manifest.Obtained ∧ manifest.devfile.Usable ∧
      (manifest.devfile.starterProjects.filter fun starter => starter.name = "b").length = 1 ∧
      ∃ starter ∈ manifest.devfile.starterProjects, ∃ setback,
        ((starter.download ⟨"/app"⟩).apply offlineSession).1 = .error setback ∧
          setback.cause = .downloadFailed "b" "failed to clone repository 'z': <detail>" ∧
          StarterProject.Directed setback.cause := by
  have parsed : ∃ manifest, Manifest.ofContents twoStartersText.toUTF8 "test" ⟨"/app/devfile.yaml"⟩ = .ok manifest ∧
      ((manifest.devfile.starterProject? "b").toList.length = 1 ∧
        ∃ starter ∈ manifest.devfile.starterProjects,
          ((starter.download ⟨"/app"⟩).apply offlineSession).1 =
            .error ⟨.downloadFailed "b" "failed to clone repository 'z': <detail>", false⟩) := by
    decide +kernel
  obtain ⟨manifest, parsing, found, starter, member, failed⟩ := parsed
  have obtained : manifest.Obtained := .parsed _ _ _ manifest parsing
  obtain ⟨sound, told⟩ := no_defect_iff_usable
  obtain ⟨only, directed⟩ := told manifest obtained
  refine ⟨manifest, obtained, (sound _).mp (Manifest.ofContents_eq_ok.mp parsing).2.1, ?_, starter, member, _, failed, rfl,
    directed starter member _ _ _ _ failed⟩
  rw [only, found]

end Devfile

end Scaffold
