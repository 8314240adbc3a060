import Scaffold.Initialise
import Scaffold.Proofs.Name
import Scaffold.Proofs.Session.Heeding

/-! # Careful decisions

All that a run decides before it lays a starter project out is decided with care: it heeds cancellation, and once the
flags have been accepted it rejects none of them. The backends check the flags again, and registries are searched past
failures; but what was accepted before is accepted again, and a cancellation is passed on by the search.
-/

namespace Scaffold

variable {σ : Type} [Storage σ]

namespace Run

variable {α β : Type} {step : Run σ Cause α} {next : α → Run σ Cause β} {tie : Tie}

/-- A step that rejects no flags, refuses no directory and heeds cancellation. -/
structure Careful (tie : Tie) (step : Run σ Cause α) : Prop where
  late : step.FailsLate
  heeds : step.Heeds tie

/-- A careful step that may come after one that is tied: in a session that was cancelled already it fails for a cause that
tells of the network, unless it may return. -/
structure Resumes (tie : Tie) (step : Run σ Cause α) : Prop where
  careful : step.Careful tie
  folds : step.Folds Cause.OfNetwork tie

theorem careful_pure (value : α) : (pure value : Run σ Cause α).Careful tie := ⟨failsWith_pure value, heeds_pure value⟩

theorem careful_throw {cause : Cause} (late : cause.Late) : (throw cause : Run σ Cause α).Careful tie :=
  ⟨failsWith_throw late, heeds_throw cause⟩

theorem careful_checkCancelled : (checkCancelled : Run σ Cause Unit).Careful tie :=
  ⟨checkCancelled_failsLate, heeds_checkCancelled⟩

theorem careful_bind (first : step.Careful .stops) (rest : ∀ value, (next value).Careful tie) :
    (step >>= next).Careful tie :=
  ⟨failsWith_bind first.late fun value => (rest value).late, heeds_bind first.heeds fun value => (rest value).heeds⟩

theorem careful_bind_passing (first : step.Careful .passes) (rest : ∀ value, (next value).Resumes tie) :
    (step >>= next).Careful tie :=
  ⟨failsWith_bind first.late fun value => (rest value).careful.late,
    heeds_bind_passing first.heeds (fun value => (rest value).careful.heeds) fun value => (rest value).folds⟩

theorem careful_refuse {condition : Prop} [Decidable condition] {cause : Cause} {rest : Unit → Run σ Cause β}
    (late : cause.Late) (careful : (rest ()).Careful tie) :
    (if condition then throw cause >>= rest else rest ()).Careful tie := by
  split
  · exact careful_bind (careful_throw late) fun _ => careful
  · exact careful

theorem resumes_pure (value : α) : (pure value : Run σ Cause α).Resumes .passes := ⟨careful_pure value, folds_pure value⟩

theorem resumes_throw {cause : Cause} (network : cause.OfNetwork) : (throw cause : Run σ Cause α).Resumes tie :=
  ⟨careful_throw network.late, folds_throw network⟩

theorem resumes_of_halts (careful : step.Careful tie) (halts : step.Halts Cause.OfNetwork) : step.Resumes tie :=
  ⟨careful, halts.folds⟩

theorem resumes_refuse {condition : Prop} [Decidable condition] {cause : Cause} {rest : Unit → Run σ Cause β}
    (network : cause.OfNetwork) (resumes : (rest ()).Resumes tie) :
    (if condition then throw cause >>= rest else rest ()).Resumes tie := by
  split
  · exact resumes_of_halts (careful_bind (careful_throw network.late) fun _ => resumes.careful)
      (halts_bind (halts_throw network))
  · exact resumes

/-- What comes after a step that always goes on resumes if it does. -/
theorem resumes_bind (first : step.Careful .stops) (folds : step.Folds Cause.OfNetwork .passes)
    (rest : ∀ value, (next value).Resumes tie) : (step >>= next).Resumes tie :=
  ⟨careful_bind first fun value => (rest value).careful,
    folds_bind folds first.heeds.idles fun value => (rest value).folds⟩

theorem careful_fetch (url : String) : (fetch url : Run σ Cause ByteArray).Careful .passes :=
  ⟨fetch_failsLate url, fetch_heeds url⟩

theorem careful_select (prompt : String) (items : List String) :
    (select prompt items : Run σ Cause (Fin items.length)).Careful tie :=
  ⟨select_failsLate prompt items, select_heeds prompt items⟩

theorem careful_input (prompt offered : String) : (input prompt offered : Run σ Cause String).Careful tie :=
  ⟨input_failsLate prompt offered, input_heeds prompt offered⟩

theorem notice_idles (message : String) : (notice message : Run σ Cause Unit).Only Event.Idle :=
  only_note (show (Event.notice message).Idle from trivial) rfl rfl

theorem careful_notice (message : String) : (notice message : Run σ Cause Unit).Careful tie :=
  ⟨notice_failsWith message, (notice_idles message).heeds⟩

omit [Storage σ] in
theorem folds_notice {told : Cause → Prop} (message : String) :
    (notice message : Run σ Cause Unit).Folds told .passes := by
  rintro session _ _ _ ⟨⟩
  exact .inr ⟨rfl, (), rfl⟩

theorem careful_scan (directory : Path) : (scan directory : Run σ Cause Signals).Careful tie :=
  ⟨scan_failsLate directory, ((scan_looks directory).weaken fun _ looks => looks.idle).heeds⟩

/-- Bytes are only staged if the run was not cancelled by then. -/
theorem careful_stage (directory : Path) (contents : ByteArray) (origin : String) :
    (checkCancelled >>= fun _ => Manifest.stage directory contents origin : Run σ Cause Manifest).Careful tie :=
  ⟨failsWith_bind checkCancelled_failsLate fun _ => Manifest.stage_failsLate _ _ _,
    heeds_guard (Only.yields (Manifest.stage_only fun _ => (rfl : Event.Onward _)) fun _ => id)⟩

/-- What was had from the network is only staged if the run was not cancelled just when it came. -/
theorem careful_bind_stage {acquires : Run σ Cause ByteArray} (first : acquires.Careful .passes) (directory : Path)
    (origin : String) :
    (acquires >>= fun contents => checkCancelled >>= fun _ =>
      Manifest.stage directory contents origin).Careful .stops :=
  careful_bind_passing first fun _ => resumes_of_halts (careful_stage _ _ _) (halts_bind (halts_checkCancelled trivial))

end Run

open Run (careful_pure careful_throw careful_checkCancelled careful_bind careful_bind_passing careful_refuse resumes_pure
  resumes_throw resumes_of_halts)

/-! ## Registries -/

namespace Registry

/-- A registry of a name is found exactly if there is one. -/
theorem any_eq_isSome_named? (registries : List Registry) (name : String) :
    (registries.any fun registry => registry.name = name) = (named? registries name).isSome := by
  rw [Bool.eq_iff_iff, List.any_eq_true, named?, List.find?_isSome]

/-- A registry's index fails for causes of the network. -/
theorem index_ofNetwork (registry : Registry) :
    (registry.index : Run σ Cause (List Stack)).FailsWith Cause.OfNetwork := by
  refine Run.failsWith_bind (Run.fetch_ofNetwork _) fun _ => ?_
  split
  · exact Run.failsWith_pure _
  · exact Run.failsWith_throw trivial

omit [Storage σ] in
theorem halts_index {told : Cause → Prop} (fit : told .cancelled) (registry : Registry) :
    (registry.index : Run σ Cause (List Stack)).Halts told :=
  Run.halts_bind (Run.halts_fetch fit _)

theorem index_yields (registry : Registry) :
    (registry.index : Run σ Cause (List Stack)).Yields Run.Breaks .passes := by
  refine Run.yields_bind_passing (Run.fetch_yields _) (fun _ => ?_) (fun _ => ?_) fun _ => ?_ <;> split
  · exact Run.yields_pure _
  · exact Run.yields_throw _
  · exact (Run.only_pure _).idles
  · exact (Run.only_throw _).idles
  · exact Run.folds_pure _
  · exact Run.folds_throw False.elim

theorem index_careful (registry : Registry) : (registry.index : Run σ Cause (List Stack)).Careful .passes where
  late session cause after failed := (registry.index_ofNetwork session cause after failed).late
  heeds := ⟨registry.index_yields.failing registry.index_ofNetwork Run.Breaks.cutShort,
    (registry.halts_index trivial : registry.index.Halts fun _ => True).idles⟩

section

variable {β : Type} {registry : Registry} {next : Except Cause (List Stack) → Run σ Cause β} {tie : Run.Tie}
  (passes : next (.error .cancelled) = throw .cancelled)
include passes

omit [Storage σ] in
theorem halts_attempt_index : (Run.attempt registry.index >>= next).Halts Cause.OfNetwork := by
  intro session cancelled
  have halts : (registry.index : Run σ Cause (List Stack)).Halts (.cancelled = ·) := registry.halts_index rfl
  obtain ⟨_, rfl, failed⟩ := halts cancelled
  refine ⟨.cancelled, trivial, ?_⟩
  rw [Run.apply_bind_of_ok (Run.apply_attempt _ _), failed, passes]
  rfl

/-- Going on with the index of a registry, or with why it could not be had, unless the run was cancelled. -/
theorem resumes_attempt_index (failed : ∀ cause, cause.OfNetwork → (next (.error cause)).Resumes tie)
    (returned : ∀ listed, (next (.ok listed)).Resumes tie) : (Run.attempt registry.index >>= next).Resumes tie := by
  refine resumes_of_halts ⟨?_, ?_⟩ (halts_attempt_index passes)
  · exact Run.failsWith_bind_attempt registry.index_ofNetwork (fun cause network => (failed cause network).careful.late)
      fun listed => (returned listed).careful.late
  · refine Run.heeds_bind_attempt registry.index_yields registry.index_careful.heeds.idles passes
      fun {session after answer} came => ?_
    have resumes : (next answer).Resumes tie := by
      cases answer with
      | error cause => exact failed cause (registry.index_ofNetwork _ _ _ came)
      | ok listed => exact returned listed
    exact ⟨resumes.careful.heeds, resumes.folds⟩

end

/-- The first failure met tells of the network if those met before and the one that comes do. -/
theorem ofNetwork_orElse {failure? : Option Cause} {cause : Cause} (met : ∀ failure ∈ failure?, failure.OfNetwork)
    (network : cause.OfNetwork) : ∀ failure ∈ failure? <|> some cause, failure.OfNetwork := by
  intro failure member
  cases failure? with
  | none =>
    cases member
    exact network
  | some first => exact met failure member

theorem searchFrom_resumes (name : String) {failure? : Option Cause} (met : ∀ failure ∈ failure?, failure.OfNetwork)
    (registries : List Registry) :
    (searchFrom name failure? registries : Run σ Cause (Option (Registry × Stack))).Resumes .passes := by
  induction registries generalizing failure? with
  | nil =>
    cases failure? with
    | none => exact resumes_pure _
    | some failure => exact resumes_throw (met failure rfl)
  | cons registry rest ih =>
    refine resumes_attempt_index rfl (fun cause network => ?_) fun listed => ?_
    · have met := ofNetwork_orElse met network
      cases cause with
      | cancelled => exact resumes_throw trivial
      | _ => exact ih met
    · dsimp only
      split
      · exact resumes_pure _
      · exact ih met

/-- Locating a stack is done with care as long as a registry that is named is configured. -/
theorem locate_careful {registries : List Registry} {wanted? : Option String}
    (configured : ∀ wanted ∈ wanted?, (named? registries wanted).isSome = true) (name : String) :
    (locate registries name wanted? : Run σ Cause (Registry × Stack)).Careful .passes := by
  cases wanted? with
  | none =>
    have nothing : ∀ failure ∈ (none : Option Cause), failure.OfNetwork := nofun
    refine careful_bind_passing (searchFrom_resumes name nothing registries).careful fun found? => ?_
    split
    · exact resumes_pure _
    · exact resumes_throw trivial
  | some wanted =>
    obtain ⟨registry, found⟩ := Option.isSome_iff_exists.mp (configured wanted rfl)
    unfold locate
    dsimp only
    rw [found]
    refine careful_bind_passing registry.index_careful fun listed => ?_
    split
    · exact resumes_pure _
    · exact resumes_throw trivial

theorem stage_resumes (registry : Registry) (stack : Stack) (directory : Path) :
    (registry.stage stack directory : Run σ Cause Manifest).Resumes .stops :=
  resumes_of_halts (Run.careful_bind_stage (Run.careful_fetch _) _ _) (Run.halts_bind (Run.halts_fetch trivial _))

end Registry

/-! ## Accepted flags -/

namespace Flags

variable {flags : Flags} {registries : List Registry}

/-- What is checked of flags before anything is acquired: a devfile is asked for, the name is valid, and a registry that
is named is configured. -/
structure Accepted (flags : Flags) (registries : List Registry) : Prop where
  sourced : flags.devfilePath = none → flags.devfile ≠ none
  named : flags.checkName = .ok ()
  configured : ∀ wanted ∈ flags.devfileRegistry, (Registry.named? registries wanted).isSome = true

theorem check_eq (flags : Flags) (registries : List Registry) :
    flags.check registries =
      match flags.conflict? with
      | some cause => .error cause
      | none =>
        match flags.checkName with
        | .error cause => .error cause
        | .ok _ => flags.checkRegistry registries := by
  unfold check
  cases flags.conflict? with
  | some cause => rfl
  | none => cases flags.checkName <;> rfl

theorem sourced_of_conflict? (fits : flags.conflict? = none) (unplaced : flags.devfilePath = none) :
    flags.devfile ≠ none := by
  intro unnamed
  unfold conflict? at fits
  simp only [unplaced, unnamed, Option.isSome_none, Bool.false_and, Bool.false_eq_true, ↓reduceIte, Bool.not_false,
    Bool.and_true] at fits
  split at fits
  · cases fits
  · split at fits <;> cases fits

/-- Flags that do not go together are refused for one of four causes. -/
theorem mem_of_conflict? {cause : Cause} (broken : flags.conflict? = some cause) :
    cause ∈ [Cause.flagConflict, .flagDependency, .starterWithoutDevfile, .devfileRequired] := by
  unfold conflict? at broken
  dsimp only at broken
  repeat' split at broken
  all_goals cases broken <;> simp

theorem eq_nameInvalid_of_checkName {cause : Cause} (refused : flags.checkName = .error cause) :
    ∃ name reason, cause = .nameInvalid name reason := by
  unfold checkName at refused
  split at refused
  · cases refused
  · unfold Name.validate at refused
    repeat' split at refused
    all_goals cases refused <;> exact ⟨_, _, rfl⟩

theorem accepted_of_check (passed : flags.check registries = .ok ()) : flags.Accepted registries := by
  rw [check_eq] at passed
  split at passed
  · cases passed
  · rename_i fits
    split at passed
    · cases passed
    · rename_i named
      refine ⟨sourced_of_conflict? fits, named, fun wanted given => ?_⟩
      unfold checkRegistry at passed
      rw [Option.mem_def.mp given] at passed
      dsimp only at passed
      split at passed
      · rename_i known
        rwa [Registry.any_eq_isSome_named?] at known
      · cases passed

/-- A name that was accepted is chosen. -/
theorem Accepted.chooseName (accepted : flags.Accepted registries) (devfile : Devfile) (directory : Path) :
    ∃ name, flags.chooseName devfile directory = .ok name := by
  have named := accepted.named
  unfold checkName at named
  unfold Flags.chooseName
  cases given : flags.name with
  | none => exact ⟨_, rfl⟩
  | some name =>
    rw [given] at named
    exact ⟨name, by dsimp only at named ⊢; rw [named]; rfl⟩

theorem selectStarter_late {devfile : Devfile} {cause : Cause} (failed : flags.selectStarter devfile = .error cause) :
    cause.Late := by
  unfold selectStarter at failed
  split at failed
  · cases failed
  · split at failed
    · cases failed
    · cases failed
      trivial

theorem acquire_careful (place : String) (directory : Path) :
    (acquire place directory : Run σ Cause ByteArray).Careful .passes := by
  unfold acquire
  split
  · exact Run.careful_fetch _
  · exact ⟨Run.during_failsLate _ _ _,
      ((Run.only_mapError (Run.call_looks rfl)).weaken fun _ looks => looks.idle).heeds⟩

theorem Accepted.selectManifest_careful (accepted : flags.Accepted registries) (directory : Path) :
    (flags.selectManifest registries directory : Run σ Cause Manifest).Careful .stops := by
  unfold selectManifest
  split
  · exact Run.careful_bind_stage (acquire_careful _ _) _ _
  · rename_i unplaced
    split
    · rename_i unnamed
      exact absurd unnamed (accepted.sourced unplaced)
    · exact careful_bind_passing (Registry.locate_careful accepted.configured _) fun _ =>
        Registry.stage_resumes _ _ directory

end Flags

/-! ## Deciding without flags -/

namespace Detection

theorem bestFrom_resumes (signals : Signals) (directory : Path) (best? : Option Match) {failure? : Option Cause}
    (met : ∀ failure ∈ failure?, failure.OfNetwork) (registries : List Registry) :
    (bestFrom signals directory best? failure? registries : Run σ Cause Match).Resumes .passes := by
  induction registries generalizing best? failure? with
  | nil =>
    unfold bestFrom
    split
    · exact resumes_pure _
    · exact resumes_throw (met _ rfl)
    · exact resumes_throw trivial
  | cons registry rest ih =>
    refine Registry.resumes_attempt_index rfl (fun cause network => ?_) fun listed => ?_
    · have met := Registry.ofNetwork_orElse met network
      cases cause with
      | cancelled => exact resumes_throw trivial
      | _ => exact ih best? met
    · dsimp only
      split
      · exact ih _ met
      · exact ih _ met

theorem selectManifest_careful (registries : List Registry) (directory : Path) :
    (selectManifest registries directory : Run σ Cause Manifest).Careful .stops := by
  have nothing : ∀ failure ∈ (none : Option Cause), failure.OfNetwork := nofun
  refine careful_bind (Run.careful_scan directory) fun signals => careful_refuse trivial <|
    careful_bind_passing (bestFrom_resumes signals directory none nothing registries).careful fun best => ?_
  exact Run.resumes_bind (Run.careful_notice _) (Run.folds_notice _) fun _ =>
    best.registry.stage_resumes best.stack directory

theorem chooseName_careful (devfile : Devfile) (directory : Path) :
    (chooseName devfile directory : Run σ Cause String).Careful .stops :=
  careful_bind (Run.careful_scan directory) fun _ => careful_pure _

end Detection

namespace Interactive

omit [Storage σ] in
theorem halts_choose {α : Type} {told : Cause → Prop} (fit : told .cancelled) (prompt : String) (label : α → String)
    (choices : List α) : (choose prompt label choices : Run σ Cause α).Halts told :=
  Run.halts_bind (Run.halts_select fit _ _)

theorem choose_careful {α : Type} (prompt : String) (label : α → String) (choices : List α) :
    (choose prompt label choices : Run σ Cause α).Careful .stops :=
  careful_bind (Run.careful_select _ _) fun _ => careful_pure _

theorem selectRegistry_careful (registries : List Registry) :
    (selectRegistry registries : Run σ Cause Registry).Careful .stops := by
  unfold selectRegistry
  split
  · exact careful_throw trivial
  · exact careful_pure _
  · exact choose_careful _ _ _

theorem selectManifest_careful (registries : List Registry) (directory : Path) :
    (selectManifest registries directory : Run σ Cause Manifest).Careful .stops := by
  refine careful_bind (selectRegistry_careful registries) fun registry =>
    careful_bind_passing registry.index_careful fun _ => Run.resumes_refuse trivial <|
      resumes_of_halts ?_ (Run.halts_bind (halts_choose trivial _ _ _))
  exact careful_bind (choose_careful _ _ _) fun _ => careful_bind (choose_careful _ _ _) fun stack =>
    (registry.stage_resumes stack directory).careful

theorem selectStarter_careful (devfile : Devfile) :
    (selectStarter devfile : Run σ Cause (Option Devfile.StarterProject)).Careful .stops := by
  unfold selectStarter
  split
  · exact careful_pure _
  · exact choose_careful _ _ _

theorem askName_careful (offered : String) (fuel : Nat) :
    (askName offered fuel : Run σ Cause String).Careful .stops := by
  induction fuel with
  | zero => exact careful_throw trivial
  | succ fuel ih =>
    refine careful_bind (Run.careful_input _ _) fun answer => ?_
    dsimp only
    split
    · exact careful_pure _
    · exact careful_bind (Run.careful_notice _) fun _ => ih

theorem chooseName_careful (devfile : Devfile) (directory : Path) :
    (chooseName devfile directory : Run σ Cause String).Careful .stops :=
  careful_bind ⟨Run.failsWith_get, Run.only_get.heeds⟩ fun _ => askName_careful _ _

end Interactive

/-! ## Preparing -/

namespace BackendKind

variable {flags : Flags} {registries : List Registry} {empty : Bool}

theorem choose_eq_flags (served : choose flags empty = .flags) : flags.isEmpty = false := by
  unfold choose at served
  cases given : flags.isEmpty with
  | false => rfl
  | true => cases empty <;> simp [given] at served

/-- With flags that were accepted, or without any, a plan is prepared with care. -/
theorem prepare_careful (accepted : flags.isEmpty = false → flags.Accepted registries) (directory : Path) :
    (Run.prepare (choose flags empty) registries flags directory empty : Run σ Cause Run.Plan).Careful .stops := by
  have served : choose flags empty = .flags → flags.Accepted registries :=
    fun served => accepted (choose_eq_flags served)
  generalize choose flags empty = kind at served
  have greets : (Run.greet flags empty : Run σ Cause Unit).Careful .stops := by
    unfold Run.greet
    split
    · exact Run.careful_notice _
    · exact careful_pure _
  refine careful_bind greets fun _ => careful_bind ?_ fun staged => careful_bind careful_checkCancelled fun _ =>
    careful_bind ?_ fun _ => careful_bind ?_ fun _ => careful_bind careful_checkCancelled fun _ => careful_pure _
  · cases kind with
    | flags => exact (served rfl).selectManifest_careful directory
    | detection => exact Detection.selectManifest_careful registries directory
    | interactive => exact Interactive.selectManifest_careful registries directory
  · cases kind with
    | flags => exact ⟨Run.failsWith_ofExcept fun _ => Flags.selectStarter_late, (Run.only_ofExcept _).heeds⟩
    | detection => exact careful_pure _
    | interactive => exact Interactive.selectStarter_careful _
  · cases kind with
    | flags =>
      obtain ⟨name, chosen⟩ := (served rfl).chooseName staged.devfile directory
      refine ⟨Run.failsWith_ofExcept fun cause failed => ?_, (Run.only_ofExcept _).heeds⟩
      rw [chosen] at failed
      cases failed
    | detection => exact Detection.chooseName_careful _ directory
    | interactive => exact Interactive.chooseName_careful _ directory

end BackendKind

end Scaffold
