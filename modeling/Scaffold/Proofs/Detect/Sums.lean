import Scaffold.Detect.Signals
import Scaffold.Proofs.Data.OrderedMap

/-! # What files add up to

The signals of some files are sums over them. A language weighs what its markers and sources weigh together and is
absent without them, the frameworks are those that some marker names, and the project is called what the first file
says that declares a name. A file that is neither marker nor source adds nothing.
-/

namespace Scaffold

namespace Language

/-- Whether a file is a marker of a language. -/
def marksOf (language : Language) (file : String) : Bool := ofMarker? file = some language

/-- Whether a file is a source of a language, and not a marker of any. -/
def sourceOf (language : Language) (file : String) : Bool :=
  ofMarker? file = none && ofExtension? file = some language

/-- Whether a file tells anything: it is a marker or a source. -/
def tells (file : String) : Bool := (ofMarker? file).isSome || (ofExtension? file).isSome

end Language

namespace SourceFile

/-- The text of a marker that could be read. -/
def text? (file : SourceFile) : Option String :=
  if (Language.ofMarker? file.name).isSome then file.contents?.map Text.fromUtf8Lossy else none

/-- The frameworks that a file names. -/
def frameworks (file : SourceFile) : List String := (file.text?.map (Marker.frameworks file.name)).getD []

/-- The name that a file directly in the directory declares for the project. -/
def projectName? (file : SourceFile) : Option String :=
  if file.isTop then file.text?.bind (Marker.declaredName? file.name) else none

end SourceFile

namespace Signals

variable {signals : Signals} {file : SourceFile} {files : List SourceFile} {language : Language}

/-- What some files weigh for a language. -/
def tally (names : List String) (language : Language) : Nat :=
  markerWeight * names.countP language.marksOf + sourceWeight * names.countP language.sourceOf

theorem addFile_of_marker {marked : Language} (marker : Language.ofMarker? file.name = some marked) :
    signals.addFile file =
      (file.contents?.map ((signals.addLanguage marked markerWeight).addContents file)).getD
        (signals.addLanguage marked markerWeight) := by
  rw [addFile, marker]
  cases file.contents? <;> rfl

theorem addFile_of_source {written : Language} (unmarked : Language.ofMarker? file.name = none)
    (source : Language.ofExtension? file.name = some written) :
    signals.addFile file = signals.addLanguage written sourceWeight := by
  rw [addFile, unmarked, source]

theorem addFile_of_silent (silent : Language.tells file.name = false) : signals.addFile file = signals := by
  obtain ⟨unmarked, unwritten⟩ : Language.ofMarker? file.name = none ∧ Language.ofExtension? file.name = none := by
    simpa [Language.tells] using silent
  rw [addFile, unmarked, unwritten]

/-- Files that are neither marker nor source add nothing. -/
theorem ofFiles_filter (files : List SourceFile) :
    ofFiles (files.filter fun file => Language.tells file.name) = ofFiles files := by
  rw [ofFiles, List.foldl_filter, ofFiles]
  congr 1
  funext signals file
  split
  · rfl
  · rename_i silent
    exact (addFile_of_silent (by simpa using silent)).symm

/-! ## Languages -/

@[simp] theorem languages_addContents (contents : ByteArray) :
    (signals.addContents file contents).languages = signals.languages := by
  unfold addContents
  dsimp only
  split <;> rfl

theorem get?_addLanguage (weight : Nat) (other : Language) :
    (signals.addLanguage language weight).languages.get? other =
      if language = other then some (wrap (signals.weight language + weight)) else signals.languages.get? other :=
  OrderedMap.get?_insert ..

/-- Further sums lose nothing by what was dropped before. -/
theorem wrap_wrap_add (sum weight : Nat) : wrap (wrap sum + weight) = wrap (sum + weight) := Nat.mod_add_mod ..

/-- A file adds its own weight to its language, and leaves the others as they are. -/
theorem get?_addFile (signals : Signals) (file : SourceFile) (language : Language) :
    (signals.addFile file).languages.get? language =
      if tally [file.name] language = 0 then signals.languages.get? language
      else some (wrap (signals.weight language + tally [file.name] language)) := by
  cases marker : Language.ofMarker? file.name with
  | some marked =>
    have kept : (signals.addFile file).languages = (signals.addLanguage marked markerWeight).languages := by
      rw [addFile_of_marker marker]
      cases file.contents? with
      | none => rfl
      | some contents => exact languages_addContents contents
    rw [kept, get?_addLanguage]
    by_cases same : marked = language <;>
      simp [tally, Language.marksOf, Language.sourceOf, marker, same, markerWeight]
  | none =>
    cases source : Language.ofExtension? file.name with
    | some written =>
      rw [addFile_of_source marker source, get?_addLanguage]
      by_cases same : written = language <;>
        simp [tally, Language.marksOf, Language.sourceOf, marker, source, same, sourceWeight]
    | none =>
      rw [addFile_of_silent (by simp [Language.tells, marker, source])]
      simp [tally, Language.marksOf, Language.sourceOf, marker, source]

theorem tally_append (left right : List String) (language : Language) :
    tally (left ++ right) language = tally left language + tally right language := by
  simp only [tally, List.countP_append, Nat.mul_add]
  omega

/-- Some signals hold the languages of some files, each with what these weigh for it. -/
def Tallies (signals : Signals) (names : List String) : Prop :=
  ∀ language, signals.languages.get? language =
    if tally names language = 0 then none else some (wrap (tally names language))

theorem Tallies.weight_eq {names : List String} (tallies : signals.Tallies names) (language : Language) :
    signals.weight language = wrap (tally names language) := by
  rw [weight, tallies language]
  split
  · rename_i nothing
    rw [nothing]
    rfl
  · rfl

theorem Tallies.addFile {names : List String} (tallies : signals.Tallies names) (file : SourceFile) :
    (signals.addFile file).Tallies (names ++ [file.name]) := by
  intro language
  rw [get?_addFile, tallies.weight_eq, tallies language, wrap_wrap_add, tally_append]
  split
  · rename_i silent
    rw [silent, Nat.add_zero]
  · rw [if_neg (by omega)]

theorem Tallies.foldl_addFile {names : List String} (tallies : signals.Tallies names) (files : List SourceFile) :
    (files.foldl Signals.addFile signals).Tallies (names ++ files.map SourceFile.name) := by
  induction files generalizing signals names with
  | nil =>
    rw [List.map_nil, List.append_nil]
    exact tallies
  | cons file rest ih =>
    have onward := ih (tallies.addFile file)
    rw [List.append_assoc] at onward
    exact onward

/-- The weight of a language is what its markers and sources weigh together; without any, it is absent. -/
theorem tallies_ofFiles (files : List SourceFile) : (ofFiles files).Tallies (files.map SourceFile.name) := by
  have empty : (default : Signals).Tallies [] := fun _ => rfl
  exact empty.foldl_addFile files

/-! ## Frameworks -/

theorem mem_keys_addFrameworks (signals : Signals) (frameworks : List String) (framework : String) :
    framework ∈ (signals.addFrameworks frameworks).frameworks.keys ↔
      framework ∈ signals.frameworks.keys ∨ framework ∈ frameworks := by
  have along : ∀ set : OrderedMap String Unit,
      framework ∈ (frameworks.foldl (fun set framework => set.insert framework ()) set).keys ↔
        framework ∈ set.keys ∨ framework ∈ frameworks := by
    induction frameworks with
    | nil => simp
    | cons first rest ih =>
      intro set
      rw [List.foldl_cons, ih, OrderedMap.mem_keys_insert, List.mem_cons, or_assoc, or_left_comm]
  exact along signals.frameworks

theorem mem_frameworks_addFile (signals : Signals) (file : SourceFile) (framework : String) :
    framework ∈ (signals.addFile file).frameworks.keys ↔
      framework ∈ signals.frameworks.keys ∨ framework ∈ file.frameworks := by
  cases marker : Language.ofMarker? file.name with
  | some marked =>
    rw [addFile_of_marker marker, SourceFile.frameworks, SourceFile.text?, marker]
    cases file.contents? with
    | none => simp [addLanguage]
    | some contents =>
      have added := mem_keys_addFrameworks (signals.addLanguage marked markerWeight)
        (Marker.frameworks file.name (Text.fromUtf8Lossy contents)) framework
      unfold addContents
      dsimp only [Option.map_some, Option.getD_some]
      split <;> exact added
  | none =>
    have silent : framework ∉ file.frameworks := by simp [SourceFile.frameworks, SourceFile.text?, marker]
    rw [or_iff_left silent, addFile, marker]
    dsimp only
    cases Language.ofExtension? file.name <;> rfl

/-- The frameworks are those that some file names. -/
theorem mem_frameworks_ofFiles (files : List SourceFile) (framework : String) :
    framework ∈ (ofFiles files).frameworks.keys ↔ ∃ file ∈ files, framework ∈ file.frameworks := by
  have along : ∀ signals : Signals, framework ∈ (files.foldl addFile signals).frameworks.keys ↔
      framework ∈ signals.frameworks.keys ∨ ∃ file ∈ files, framework ∈ file.frameworks := by
    induction files with
    | nil => simp
    | cons file rest ih =>
      intro signals
      rw [List.foldl_cons, ih, mem_frameworks_addFile, or_assoc]
      simp only [List.mem_cons, exists_eq_or_imp]
  exact (along default).trans (or_iff_right List.not_mem_nil)

/-! ## The name of the project -/

theorem projectName_addFile (signals : Signals) (file : SourceFile) :
    (signals.addFile file).projectName = signals.projectName.or file.projectName? := by
  cases marker : Language.ofMarker? file.name with
  | some marked =>
    rw [addFile_of_marker marker, SourceFile.projectName?, SourceFile.text?, marker]
    cases file.contents? with
    | none => simp [addLanguage]
    | some contents =>
      cases top : file.isTop <;> cases named : signals.projectName <;>
        simp [addContents, addFrameworks, addLanguage, top, named]
  | none =>
    have silent : file.projectName? = none := by simp [SourceFile.projectName?, SourceFile.text?, marker]
    rw [silent, Option.or_none, addFile, marker]
    dsimp only
    cases Language.ofExtension? file.name <;> rfl

/-- The project is called what the first file says that declares a name. -/
theorem projectName_ofFiles (files : List SourceFile) :
    (ofFiles files).projectName = files.findSome? SourceFile.projectName? := by
  have along : ∀ signals : Signals, (files.foldl addFile signals).projectName =
      signals.projectName.or (files.findSome? SourceFile.projectName?) := by
    induction files with
    | nil => exact fun signals => (Option.or_none ..).symm
    | cons file rest ih =>
      intro signals
      rw [List.foldl_cons, ih, projectName_addFile, Option.or_assoc, List.findSome?_cons]
      cases file.projectName? <;> rfl
  exact along default

end Signals

end Scaffold
