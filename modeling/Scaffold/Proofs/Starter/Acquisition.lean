import Scaffold.Proofs.Causes
import Scaffold.Proofs.Starter.Overlay
import Scaffold.Starter.Download

/-! # What a download acquires

A download acquires one archive or one repository before it changes anything. What was acquired decides which entries
are laid out and to which places they go, and laying them out makes no call for any other place.
-/

namespace Scaffold

/-! ## Laying out -/

/-- An event in laying out what goes to a place: a call for the place, or one that makes the directory above. -/
def Event.Places (target : Path) : Event → Prop
  | .files (.createDirs path) _ => path = target ∨ target.parent? = some path
  | .files (.write path _) _ => path = target
  | .files (.setMode path _) _ => path = target
  | _ => False

namespace Overlay

/-- The places that an overlay assigns to some entries, whose paths may begin with a directory that is left out. -/
def Assigns (overlay : Overlay) (top? : Option String) (entries : List Archive.Entry) (target : Path) : Prop :=
  ∃ entry ∈ entries, overlay.target? (Archive.below top? entry.path) = .ok (some target)

section

variable {σ : Type} [Storage σ] {overlay : Overlay}

theorem createDirectory_places (written : Nat) (target : Path) :
    (createDirectory written target : Run σ _ _).Only (Event.Places target) :=
  Run.only_bind (Run.only_mapError (Run.only_call fun _ => .inl rfl)) fun _ => Run.only_pure _

theorem writeFile_places (written : Nat) (target : Path) (contents : ByteArray) (mode? : Option Nat) :
    (writeFile written target contents mode? : Run σ _ _).Only (Event.Places target) := by
  have parent : (createParent written target : Run σ _ _).Only (Event.Places target) := by
    unfold createParent
    split
    · rename_i climbed
      exact Run.only_mapError (Run.only_call fun _ => .inr climbed)
    · exact Run.only_pure _
  have mode : (applyMode (written + 1) target mode? : Run σ _ _).Only (Event.Places target) := by
    unfold applyMode
    split
    · exact Run.only_mapError (Run.only_call fun _ => rfl)
    · exact Run.only_pure _
  exact Run.only_bind parent fun _ => Run.only_bind (Run.only_mapError (Run.only_call fun _ => rfl)) fun _ =>
    Run.only_bind mode fun _ => Run.only_pure _

/-- Laying out an entry only makes calls for the place that it is assigned. -/
theorem place_places (top? : Option String) (written : Nat) (entry : Archive.Entry) :
    (overlay.place top? written entry : Run σ _ _).Only fun event =>
      ∃ target, overlay.target? (Archive.below top? entry.path) = .ok (some target) ∧ event.Places target := by
  unfold place
  split
  · exact Run.only_throw _
  · exact Run.only_pure _
  · rename_i target aimed
    split
    · exact (createDirectory_places _ _).weaken fun _ fit => ⟨target, aimed, fit⟩
    · split
      · exact (writeFile_places _ _ _ _).weaken fun _ fit => ⟨target, aimed, fit⟩
      · exact Run.only_throw _

theorem placeAll_places (top? : Option String) (written : Nat) (entries : List Archive.Entry) :
    (overlay.placeAll top? written entries : Run σ _ _).Only fun event =>
      ∃ target, overlay.Assigns top? entries target ∧ event.Places target := by
  induction entries generalizing written with
  | nil => exact Run.only_pure _
  | cons entry rest ih =>
    refine Run.only_bind ((place_places _ _ _).weaken ?_) fun _ => (ih _).weaken ?_
    · rintro event ⟨target, aimed, fit⟩
      exact ⟨target, ⟨entry, List.mem_cons_self, aimed⟩, fit⟩
    · rintro event ⟨target, ⟨other, member, aimed⟩, fit⟩
      exact ⟨target, ⟨other, List.mem_cons_of_mem _ member, aimed⟩, fit⟩

theorem placeListed_places (top? : Option String) (entries : List Archive.Entry) (stop? : Option Archive.Obstacle) :
    (overlay.placeListed top? entries stop? : Run σ _ _).Only fun event =>
      ∃ target, overlay.Assigns top? entries target ∧ event.Places target := by
  refine Run.only_bind (placeAll_places _ _ _) fun _ => ?_
  split
  · exact Run.only_pure _
  · exact Run.only_throw _

theorem Lays.logged {step : Run σ Interruption Nat} (lays : overlay.Lays step) : step.Logged := by
  rcases lays with ⟨obstacle, rfl⟩ | ⟨top?, entries, stop?, rfl⟩
  · exact Run.only_throw _
  · exact (placeListed_places _ _ _).logged

end

end Overlay

/-! ## Acquiring -/

/-- What is acquired for a starter project: an archive, whose members are unpacked in some way, or a checkout. -/
inductive Acquisition
  | archive (unpack : Archive.Unpack) (data : ByteArray)
  | repository (checkout : ClonedTree)

namespace Acquisition

/-- The entries of an acquisition that are listed, and the directory that is left out of their paths. -/
def entries : Acquisition → Except Archive.Obstacle (Option String × List Archive.Entry)
  | archive unpack data => (Archive.entries unpack data).map fun entries => (Archive.commonTop? entries, entries)
  | repository checkout => .ok (none, WorkTree.listed checkout)

/-- Why no more entries of an acquisition are listed. -/
def stop? : Acquisition → Option Archive.Obstacle
  | archive _ _ => none
  | repository checkout => WorkTree.stop? checkout

/-- The places that an overlay assigns to the entries of an acquisition. -/
def Assigns (acquisition : Acquisition) (overlay : Overlay) (target : Path) : Prop :=
  ∃ top? entries, acquisition.entries = .ok (top?, entries) ∧ overlay.Assigns top? entries target

variable {σ : Type} [Storage σ]

/-- Lay an acquisition out: how many entries were written. -/
def layOut (acquisition : Acquisition) (overlay : Overlay) : Run σ Interruption Nat :=
  match acquisition with
  | archive unpack data => overlay.extract unpack data
  | repository checkout => overlay.placeListed none (WorkTree.listed checkout) (WorkTree.stop? checkout)

theorem layOut_eq (acquisition : Acquisition) (overlay : Overlay) :
    (acquisition.layOut overlay : Run σ _ _) =
      match acquisition.entries with
      | .error obstacle => throw ⟨obstacle, 0⟩
      | .ok (top?, entries) => overlay.placeListed top? entries acquisition.stop? := by
  cases acquisition with
  | archive unpack data =>
    simp only [layOut, Overlay.extract, entries, stop?]
    cases Archive.entries unpack data with
    | error obstacle => rfl
    | ok entries => exact (Overlay.placeListed_none _ _ _).symm
  | repository checkout => rfl

theorem lays (acquisition : Acquisition) (overlay : Overlay) :
    overlay.Lays (acquisition.layOut overlay : Run σ _ _) := by
  rw [layOut_eq]
  split
  · exact .inl ⟨_, rfl⟩
  · exact .inr ⟨_, _, _, rfl⟩

theorem layOut_places (acquisition : Acquisition) (overlay : Overlay) :
    (acquisition.layOut overlay : Run σ _ _).Only fun event =>
      ∃ target, acquisition.Assigns overlay target ∧ event.Places target := by
  rw [layOut_eq]
  split
  · exact Run.only_throw _
  · rename_i top? entries told
    refine (Overlay.placeListed_places top? entries acquisition.stop?).weaken ?_
    rintro event ⟨target, assigned, fit⟩
    exact ⟨target, ⟨top?, entries, told, assigned⟩, fit⟩

end Acquisition

namespace Devfile.StarterProject

variable {σ : Type} [Storage σ] {starter : StarterProject} {directory : Path} {overlay : Overlay}
  {acquisition : Acquisition} {session acquired after : Session σ}

/-- A download acquires an archive or a repository, and goes on to lay it out. -/
inductive Acquires (starter : StarterProject) (directory : Path) (session : Session σ) :
    Overlay → Acquisition → Session σ → Prop
  | archive (names : List String) (source : ZipSource) (data : ByteArray) (acquired : Session σ)
      (taken : starter.subDirectory = .ok names) (chosen : starter.zip? = some source)
      (fetched : (Run.fetch source.location).apply session = (.ok data, acquired))
      (onward : acquired.isCancelled = false) :
      Acquires starter directory session ⟨directory, names⟩ (.archive acquired.unpack data) acquired
  | repository (names : List String) (source : GitSource) (url : String) (checkout : ClonedTree) (acquired : Session σ)
      (taken : starter.subDirectory = .ok names) (noArchive : starter.zip? = none)
      (chosen : starter.git? = some source) (remote : source.remoteUrl? = some url)
      (cloned : (Run.clone url source.revision? (.downloadFailed starter.name)).apply session = (.ok checkout, acquired))
      (onward : acquired.isCancelled = false) :
      Acquires starter directory session ⟨directory, names⟩ (.repository checkout) acquired

omit [Storage σ] in
theorem Acquires.destination (acquires : starter.Acquires directory session overlay acquisition acquired) :
    overlay.destination = directory := by
  cases acquires <;> rfl

/-- Acquiring makes no call to the files. -/
theorem Acquires.advances (acquires : starter.Acquires directory session overlay acquisition acquired) :
    session.Advances Event.Outside acquired := by
  cases acquires with
  | archive names source data _ taken chosen fetched onward => exact (Run.fetch_outside _).advances fetched
  | repository names source url checkout _ taken noArchive chosen remote cloned onward =>
    exact (Run.clone_outside _ _ _).advances cloned

/-- What was acquired is what a download lays out. -/
theorem Acquires.download_apply (acquires : starter.Acquires directory session overlay acquisition acquired) :
    (starter.download directory).apply session = (starter.layOut overlay (acquisition.layOut overlay)).apply acquired := by
  have first : ∀ {names : List String}, starter.subDirectory = .ok names →
      (untouched (Run.ofExcept starter.subDirectory)).apply session = (.ok names, session) := by
    intro names taken
    rw [taken]
    rfl
  have last : ∀ {session : Session σ}, session.isCancelled = false →
      (untouched Run.checkCancelled).apply session = (.ok (), session) := fun free =>
    Run.mapError_eq_ok.mpr (Run.apply_checkCancelled_of_free free)
  cases acquires with
  | archive names source data _ taken chosen fetched onward =>
    have asked : (untouched ((Run.fetch source.location).mapError (notDownloaded starter.name))).apply session =
        (.ok data, acquired) := Run.mapError_eq_ok.mpr (Run.mapError_eq_ok.mpr fetched)
    rw [download, Run.apply_bind_of_ok (first taken), chosen]
    dsimp only
    rw [fromArchive, Run.apply_bind_of_ok asked, Run.apply_bind_of_ok (last onward),
      Run.apply_bind_of_ok (Run.apply_get _)]
    rfl
  | repository names source url checkout _ taken noArchive chosen remote cloned onward =>
    have asked : (untouched (Run.clone url source.revision? (.downloadFailed starter.name))).apply session =
        (.ok checkout, acquired) := Run.mapError_eq_ok.mpr cloned
    rw [download, Run.apply_bind_of_ok (first taken), noArchive, chosen]
    dsimp only
    rw [fromRepository, remote]
    dsimp only
    rw [Run.apply_bind_of_ok asked, Run.apply_bind_of_ok (last onward)]
    rfl

/-- Why nothing is acquired: the run was cancelled, or what was asked for could not be downloaded. -/
inductive NotAcquired (starter : StarterProject) : Cause → Prop
  | cancelled : NotAcquired starter .cancelled
  | failed (reason : String) : NotAcquired starter (.downloadFailed starter.name reason)

/-- Nothing was acquired: a setback that touched nothing, without a call to the files. -/
inductive StopsShort (starter : StarterProject) (session : Session σ) : Except Setback Unit → Session σ → Prop
  | intro (cause : Cause) (after : Session σ) (unmet : starter.NotAcquired cause)
      (advance : session.Advances Event.Outside after) : StopsShort starter session (.error ⟨cause, false⟩) after

/-- A step in front of the layout that fails has touched nothing. -/
private theorem stopsShort_of_untouched {α : Type} {step : Run σ Cause α} {setback : Setback}
    (start : session.Advances Event.Outside acquired) (only : step.Only Event.Outside)
    (fails : step.FailsWith starter.NotAcquired)
    (failed : (untouched step).apply acquired = (.error setback, after)) :
    starter.StopsShort session (.error setback) after := by
  obtain ⟨cause, stopped, rfl⟩ := Run.mapError_eq_error.mp failed
  exact ⟨cause, after, fails _ _ _ stopped, start.trans (only.advances stopped)⟩

omit [Storage σ] in
theorem subDirectory_failsWith (starter : StarterProject) :
    (Run.ofExcept starter.subDirectory : Run σ Cause _).FailsWith starter.NotAcquired := by
  refine Run.failsWith_ofExcept fun cause failed => ?_
  unfold subDirectory at failed
  split at failed
  · cases failed
  · split at failed
    · cases failed
    · cases failed
      exact .failed _

omit [Storage σ] in
theorem notDownloaded_notAcquired (starter : StarterProject) (cause : Cause) :
    starter.NotAcquired (notDownloaded starter.name cause) := by
  unfold notDownloaded
  split
  · exact .cancelled
  · exact .failed _

/-- A download stops before anything is touched, or lays out what it acquired. -/
theorem download_cases {outcome : Except Setback Unit}
    (ran : (starter.download directory).apply session = (outcome, after)) :
    starter.StopsShort session outcome after ∨
      ∃ overlay acquisition acquired, starter.Acquires directory session overlay acquisition acquired ∧
        (starter.layOut overlay (acquisition.layOut overlay)).apply acquired = (outcome, after) := by
  have cancelling : (Run.checkCancelled : Run σ Cause Unit).FailsWith starter.NotAcquired :=
    Run.checkCancelled_failsWith .cancelled
  rcases Run.bind_cases ran with ⟨setback, rfl, failed⟩ | ⟨names, _, taken, ran⟩
  · exact .inl (stopsShort_of_untouched (.refl _) (Run.only_ofExcept _) starter.subDirectory_failsWith failed)
  obtain ⟨told, rfl⟩ := Prod.mk.inj (Run.mapError_eq_ok.mp taken)
  dsimp only at ran
  split at ran
  · rename_i source chosen
    rcases Run.bind_cases ran with ⟨setback, rfl, failed⟩ | ⟨data, acquired, fetched, ran⟩
    · exact .inl (stopsShort_of_untouched (.refl _) (Run.only_mapError (Run.fetch_outside _))
        (Run.failsWith_mapError starter.notDownloaded_notAcquired) failed)
    have fetched := Run.mapError_eq_ok.mp (Run.mapError_eq_ok.mp fetched)
    rcases Run.bind_cases ran with ⟨setback, rfl, failed⟩ | ⟨_, _, passed, laid⟩
    · exact .inl (stopsShort_of_untouched ((Run.fetch_outside _).advances fetched) Run.only_checkCancelled cancelling
        failed)
    obtain ⟨onward, rfl⟩ := Run.checkCancelled_eq_ok (Run.mapError_eq_ok.mp passed)
    rw [Run.apply_bind_of_ok (Run.apply_get _)] at laid
    exact .inr ⟨_, .archive _ data, _, .archive names source data _ told chosen fetched onward, laid⟩
  · rename_i source noArchive chosen
    unfold fromRepository at ran
    split at ran
    · cases ran
      exact .inl ⟨_, _, .failed _, .refl _⟩
    rename_i url remote
    rcases Run.bind_cases ran with ⟨setback, rfl, failed⟩ | ⟨checkout, acquired, cloned, ran⟩
    · exact .inl (stopsShort_of_untouched (.refl _) (Run.clone_outside _ _ _) (Run.clone_failsWith .cancelled fun reason _ => .failed reason)
        failed)
    have cloned := Run.mapError_eq_ok.mp cloned
    rcases Run.bind_cases ran with ⟨setback, rfl, failed⟩ | ⟨_, _, passed, laid⟩
    · exact .inl (stopsShort_of_untouched ((Run.clone_outside _ _ _).advances cloned) Run.only_checkCancelled cancelling
        failed)
    obtain ⟨onward, rfl⟩ := Run.checkCancelled_eq_ok (Run.mapError_eq_ok.mp passed)
    exact .inr ⟨_, .repository checkout, _, .repository names source url checkout _ told noArchive chosen remote cloned onward,
      laid⟩
  · cases ran
    exact .inl ⟨_, _, .failed _, .refl _⟩

end Devfile.StarterProject

end Scaffold
