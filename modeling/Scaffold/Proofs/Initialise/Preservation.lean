import Scaffold.Proofs.Initialise.Precedence

/-! # What is preserved

A run that fails leaves the directory as it is just if a starter project had come into it: an entry had been counted
before the layout was interrupted, or the download had returned. From the moment at which the staged manifest gave way
to the project such a run removes nothing, and it ends with the step that failed.
-/

namespace Scaffold

/-- An event that removes nothing. -/
def Event.Keeps : Event → Prop
  | .files (.remove _) _ => False
  | _ => True

theorem Event.Reads.keeps {event : Event} (reads : event.Reads) : event.Keeps := by
  cases event with
  | files call _ => cases call <;> trivial
  | _ => trivial

theorem Event.Places.keeps {event : Event} {target : Path} (places : event.Places target) : event.Keeps := by
  cases event with
  | files call _ => cases call <;> trivial
  | _ => trivial

theorem Acquisition.layOut_keeps {σ : Type} [Storage σ] (acquisition : Acquisition) (overlay : Overlay) :
    (acquisition.layOut overlay : Run σ _ _).Only Event.Keeps :=
  (acquisition.layOut_places overlay).weaken fun _ ⟨_, _, places⟩ => places.keeps

namespace Run

variable {σ : Type} [Storage σ] {registries : List Registry} {flags : Flags} {directory : Path} {plan : Plan}
  {starter : Devfile.StarterProject} {overlay : Overlay} {acquisition : Acquisition} {cause : Cause} {failure : Failure}
  {session prepared cleared after : Session σ}

/-! ## Coming to a starter project -/

/-- A run has cleared the staged manifest away for what it acquired. -/
structure ClearsManifest (registries : List Registry) (flags : Flags) (session : Session σ) (directory : Path)
    (plan : Plan) (starter : Devfile.StarterProject) (overlay : Overlay) (acquisition : Acquisition)
    (cleared : Session σ) : Prop where
  reached : ∃ prepared acquired, ReachesStarter registries flags session directory plan starter prepared ∧
    starter.Acquires directory prepared overlay acquisition acquired ∧
    overlay.clearManifest.apply acquired = (.ok (), cleared)

/-- The download of a run returned, even if there was nothing to lay out. -/
def DownloadReturned (registries : List Registry) (flags : Flags) (session : Session σ) : Prop :=
  ∃ directory plan starter prepared laid, ReachesStarter registries flags session directory plan starter prepared ∧
    (starter.download directory).apply prepared = (.ok (), laid)

/-- The layout of a run was interrupted when an entry had been counted. -/
def EntryCounted (registries : List Registry) (flags : Flags) (session : Session σ) : Prop :=
  ∃ directory plan starter overlay acquisition cleared interruption stopped,
    ClearsManifest registries flags session directory plan starter overlay acquisition cleared ∧
      (acquisition.layOut overlay).apply cleared = (.error interruption, stopped) ∧ 0 < interruption.written

/-- The step with which a run ends that has come to lay a starter project out: the layout itself, taking over the
manifest of the project, or writing the manifest. -/
inductive EndsFailing (plan : Plan) (starter : Devfile.StarterProject) (overlay : Overlay) (acquisition : Acquisition)
    (cleared : Session σ) (cause : Cause) (after : Session σ) : Prop
  | layingOut (interruption : Interruption)
      (failed : (acquisition.layOut overlay).apply cleared = (.error interruption, after))
      (counted : 0 < interruption.written)
      (told : cause = .extractFailed starter.name interruption.obstacle.message)
  | settling (count : Nat) (laid : Session σ)
      (laidOut : (acquisition.layOut overlay).apply cleared = (.ok count, laid))
      (failed : (settledManifest plan.staged).apply laid = (.error cause, after))
  | committing (count : Nat) (laid settled : Session σ) (manifest : Manifest)
      (laidOut : (acquisition.layOut overlay).apply cleared = (.ok count, laid))
      (settling : (settledManifest plan.staged).apply laid = (.ok manifest, settled))
      (failed : (commit (manifest.withName plan.name)).apply settled = (.error cause, after))

/-- Until such a run ends nothing is removed any more. -/
theorem EndsFailing.advances (ends : EndsFailing plan starter overlay acquisition cleared cause after) :
    cleared.Advances Event.Keeps after := by
  have settle : (settledManifest plan.staged : Run σ Cause Manifest).Only Event.Keeps :=
    (settledManifest_looks _).weaken fun _ looks => looks.reads.keeps
  cases ends with
  | layingOut interruption failed _ _ => exact (acquisition.layOut_keeps overlay).advances failed
  | settling count laid laidOut failed =>
    exact ((acquisition.layOut_keeps overlay).advances laidOut).trans (settle.advances failed)
  | committing count laid settled manifest laidOut settling failed =>
    exact ((acquisition.layOut_keeps overlay).advances laidOut).trans
      ((settle.advances settling).trans ((commit_only fun _ _ => trivial).advances failed))

/-! ## Runs that preserve -/

/-- A download that returned has cleared the manifest and laid out what it acquired. -/
theorem ReachesStarter.clears_of_ok {laid : Session σ}
    (reaches : ReachesStarter registries flags session directory plan starter prepared)
    (downloaded : (starter.download directory).apply prepared = (.ok (), laid)) :
    ∃ overlay acquisition cleared count,
      ClearsManifest registries flags session directory plan starter overlay acquisition cleared ∧
        (acquisition.layOut overlay).apply cleared = (.ok count, laid) := by
  rcases Devfile.StarterProject.download_cases downloaded with
    stops | ⟨overlay, acquisition, acquired, acquires, laidOut⟩
  · cases stops
  · obtain ⟨cleared, count, clearing, ran⟩ := Devfile.StarterProject.layOut_eq_ok laidOut
    exact ⟨overlay, acquisition, cleared, count, ⟨prepared, acquired, reaches, acquires, clearing⟩, ran⟩

/-- A download that touched something has cleared the manifest and counted an entry. -/
theorem ReachesStarter.clears_of_touched
    (reaches : ReachesStarter registries flags session directory plan starter prepared)
    (failed : (starter.download directory).apply prepared = (.error ⟨cause, true⟩, after)) :
    ∃ overlay acquisition cleared interruption,
      ClearsManifest registries flags session directory plan starter overlay acquisition cleared ∧
        (acquisition.layOut overlay).apply cleared = (.error interruption, after) ∧ 0 < interruption.written ∧
        cause = .extractFailed starter.name interruption.obstacle.message := by
  rcases Devfile.StarterProject.download_cases failed with
    stops | ⟨overlay, acquisition, acquired, acquires, stopped⟩
  · cases stops
  rcases Devfile.StarterProject.layOut_eq_error stopped with
    ⟨_, _, impossible⟩ | ⟨cleared, interruption, clearing, interrupted, same⟩
  · cases impossible
  obtain ⟨told, counted⟩ := Setback.mk.inj same
  exact ⟨overlay, acquisition, cleared, interruption, ⟨prepared, acquired, reaches, acquires, clearing⟩, interrupted,
    of_decide_eq_true counted.symm, told⟩

/-- A run that preserves had come to lay a starter project out, and ends with the step that failed. -/
theorem endsFailing_of_preserved
    (failed : (initialise registries flags).apply session = (.error ⟨cause, .preserved⟩, after)) :
    ∃ directory plan starter overlay acquisition cleared,
      ClearsManifest registries flags session directory plan starter overlay acquisition cleared ∧
        EndsFailing plan starter overlay acquisition cleared cause after := by
  cases initialise_ends failed with
  | preserved directory empty inspected _ _ passed failed =>
    cases setUp_eq_error failed with
    | preparing _ _ impossible => cases impossible
    | starting plan prepared ran failed =>
      obtain ⟨starter, chosen, stopped⟩ := withStarter_eq_error failed
      have reaches : ReachesStarter registries flags session directory plan starter prepared :=
        ⟨⟨empty, inspected, passed, ran⟩, chosen⟩
      rcases stopped with failed | ⟨_, laid, _, downloaded, failed, rfl⟩
      · obtain ⟨overlay, acquisition, cleared, interruption, clears, interrupted, counted, told⟩ :=
          reaches.clears_of_touched failed
        exact ⟨directory, plan, starter, overlay, acquisition, cleared, clears,
          .layingOut interruption interrupted counted told⟩
      · obtain ⟨overlay, acquisition, cleared, count, clears, laidOut⟩ := reaches.clears_of_ok downloaded
        exact ⟨directory, plan, starter, overlay, acquisition, cleared, clears, .settling count laid laidOut failed⟩
    | committing plan manifest prepared settled _ ran settling failed same =>
      obtain ⟨rfl, started⟩ := Setback.mk.inj same
      obtain ⟨starter, chosen⟩ := Option.isSome_iff_exists.mp started.symm
      have reaches : ReachesStarter registries flags session directory plan starter prepared :=
        ⟨⟨empty, inspected, passed, ran⟩, chosen⟩
      rw [chosen] at settling
      obtain ⟨laid, downloaded, settling⟩ := withStarter_eq_ok settling
      obtain ⟨overlay, acquisition, cleared, count, clears, laidOut⟩ := reaches.clears_of_ok downloaded
      exact ⟨directory, plan, starter, overlay, acquisition, cleared, clears,
        .committing count laid settled manifest laidOut settling failed⟩

/-- A run that fails after it decided on a starter project preserves, unless the download failed untouched. -/
theorem ReachesStarter.preserved_or_untouched
    (reaches : ReachesStarter registries flags session directory plan starter prepared)
    (failed : (initialise registries flags).apply session = (.error failure, after)) :
    failure.cleanup = .preserved ∨
      ∃ cause stopped, (starter.download directory).apply prepared = (.error ⟨cause, false⟩, stopped) := by
  obtain ⟨⟨empty, inspected, passed, preparing⟩, chosen⟩ := reaches
  cases initialise_ends failed with
  | refused cause _ refused =>
    rw [passed] at refused
    cases refused
  | preserved _ _ _ _ _ _ _ => exact .inl rfl
  | rolledBack _ _ _ stopped cause _ _ again stopping _ =>
    rw [passed] at again
    cases again
    cases setUp_eq_error stopping with
    | preparing _ impossible _ =>
      rw [preparing] at impossible
      cases impossible
    | starting _ _ ran failed =>
      rw [preparing] at ran
      cases ran
      obtain ⟨other, same, failed | ⟨impossible, _⟩⟩ := withStarter_eq_error failed
      · obtain rfl := Option.some.inj (chosen.symm.trans same)
        exact .inr ⟨cause, stopped, failed⟩
      · cases impossible
    | committing _ _ _ _ _ ran _ _ same =>
      rw [preparing] at ran
      cases ran
      have untouched := congrArg Setback.touched same
      rw [chosen] at untouched
      cases untouched

/-- A run that fails preserves the directory just if its download had returned or had counted an entry. From the moment
at which the manifest was cleared away such a run removes nothing, and it ends with the step that failed. -/
theorem preserved_iff_started (failed : (initialise registries flags).apply session = (.error failure, after)) :
    (failure.cleanup = .preserved ↔
      DownloadReturned registries flags session ∨ EntryCounted registries flags session) ∧
    (failure.cleanup = .preserved → ∃ directory plan starter overlay acquisition cleared,
      ClearsManifest registries flags session directory plan starter overlay acquisition cleared ∧
        EndsFailing plan starter overlay acquisition cleared failure.cause after ∧
        cleared.Advances Event.Keeps after) := by
  obtain ⟨cause, cleanup⟩ := failure
  refine ⟨⟨?_, ?_⟩, ?_⟩
  · rintro rfl
    obtain ⟨directory, plan, starter, overlay, acquisition, cleared, clears, ends⟩ := endsFailing_of_preserved failed
    have returned : ∀ {count : Nat} {laid : Session σ},
        (acquisition.layOut overlay).apply cleared = (.ok count, laid) → DownloadReturned registries flags session := by
      intro count laid laidOut
      obtain ⟨prepared, acquired, reaches, acquires, clearing⟩ := clears.reached
      refine ⟨directory, plan, starter, prepared, laid, reaches, acquires.download_apply.trans ?_⟩
      exact Devfile.StarterProject.layOut_of_cleared clearing laidOut
    cases ends with
    | layingOut interruption interrupted counted _ =>
      exact .inr ⟨directory, plan, starter, overlay, acquisition, cleared, interruption, after, clears, interrupted,
        counted⟩
    | settling count laid laidOut _ => exact .inl (returned laidOut)
    | committing count laid settled manifest laidOut _ _ => exact .inl (returned laidOut)
  · rintro (⟨directory, plan, starter, prepared, laid, reaches, downloaded⟩ |
      ⟨directory, plan, starter, overlay, acquisition, cleared, interruption, stopped, clears, interrupted, counted⟩)
    · rcases reaches.preserved_or_untouched failed with same | ⟨_, _, impossible⟩
      · exact same
      · rw [downloaded] at impossible
        cases impossible
    · obtain ⟨prepared, acquired, reaches, acquires, clearing⟩ := clears.reached
      rcases reaches.preserved_or_untouched failed with same | ⟨_, _, untouched⟩
      · exact same
      · rw [acquires.download_apply, Devfile.StarterProject.layOut_of_cleared clearing interrupted] at untouched
        have impossible := congrArg Setback.touched (Except.error.inj (Prod.mk.inj untouched).1)
        exact absurd counted (of_decide_eq_false impossible)
  · rintro rfl
    obtain ⟨directory, plan, starter, overlay, acquisition, cleared, clears, ends⟩ := endsFailing_of_preserved failed
    exact ⟨directory, plan, starter, overlay, acquisition, cleared, clears, ends, ends.advances⟩

/-- A session in which the manifest can be staged, but not be written once the starter project is laid out. -/
def uncommittedSession : Session (Faulty FileTree) :=
  { starterSession with
    files :=
      { starterSession.files with
        faults := [⟨.write, ⟨"/app/devfile.yaml"⟩, 2, none, ⟨.storageFull, "no space left"⟩⟩] } }

private theorem uncommittedSession_fails :
    ((initialise [] starterFlags).apply uncommittedSession).1 =
      .error ⟨.io "write devfile" ⟨"/app/devfile.yaml"⟩ "no space left", .preserved⟩ := by
  decide +kernel

/-- The download had returned by then, so that the project stays. -/
theorem preserved_iff_started_uncommitted :
    ((initialise [] starterFlags).apply uncommittedSession).1 =
        .error ⟨.io "write devfile" ⟨"/app/devfile.yaml"⟩ "no space left", .preserved⟩ ∧
      (DownloadReturned [] starterFlags uncommittedSession ∨ EntryCounted [] starterFlags uncommittedSession) :=
  ⟨uncommittedSession_fails, (preserved_iff_started (Prod.ext uncommittedSession_fails rfl)).1.mp rfl⟩

end Run

end Scaffold
