import Scaffold.Proofs.Detect.Scan
import Scaffold.Proofs.Initialise.Rollback

/-! # Naming by the sources

The manifest that is staged is neither marker nor source. So the scan that is repeated for the name tells the same as
the one that a stack was selected by, and the name follows the project that the sources declare.
-/

namespace Scaffold

variable {session other staged after : Session (Faulty FileTree)} {directory : Path}

/-- Where a manifest was staged the directory is still there, with the same markers and sources. -/
theorem Session.Scannable.of_staged (scannable : session.Scannable directory)
    (staged : Run.Staged (manifestPath directory) session.files other.files) :
    other.files.inner.isDirectoryAt (other.files.inner.resolve directory) = true ∧
      session.TellsAlike other directory := by
  obtain ⟨contents, changed, wrote, same⟩ := staged
  have inner : other.files.inner = changed := congrArg Faulty.inner same
  have resolved : other.files.inner.resolve directory = session.files.inner.resolve directory :=
    inner ▸ FileTree.resolve_of_write wrote directory
  refine ⟨?_, fun file _ tells => ?_⟩
  · rw [resolved, inner]
    exact FileTree.isDirectoryAt_of_write wrote scannable.present
  · have elsewhere : session.files.inner.resolve (manifestPath directory) ≠
        file.route (session.files.inner.resolve directory) := by
      rw [manifestPath, FileTree.resolve_join _ _ (by decide), FoundFile.route]
      intro here
      have names : [manifestName] = file.names := Route.append_names_inj.mp here
      have name : file.name = manifestName := by
        simpa [FoundFile.names] using (congrArg List.getLast? names).symm
      rw [name] at tells
      revert tells
      decide
    rw [Session.Holds, Session.Holds, resolved, inner, FileTree.get?_write wrote, if_neg elsewhere]

namespace Run

/-- After a stack was selected by the sources, they tell what they told before. -/
theorem selectManifest_signals {registries : List Registry} {manifest : Manifest} (scannable : session.Scannable directory)
    (selected : (Detection.selectManifest registries directory).apply session = (.ok manifest, staged)) :
    staged.Scannable directory ∧ staged.signals directory = session.signals directory := by
  rcases (BackendKind.detection.selectManifest_endsStaging registries {} directory).cases selected with
    ⟨_, _, impossible, _⟩ | ⟨_, opened, ⟨acquired, origin, rfl⟩, advance, staging⟩
  · cases impossible
  · have same := advance.files_of_clear scannable.clear
    have wrote := stage_staged (same ▸ scannable.clear) staging
    have keeps := advance.logs.trans ((Manifest.stage_only fun _ => trivial).advances staging)
    rw [same] at wrote
    obtain ⟨present, alike⟩ := scannable.of_staged wrote
    have still := scannable.later keeps.keepsTo present
    exact ⟨still, alike.signals_eq scannable still⟩

/-- A plan by the sources names the component by what they tell once the manifest is staged. -/
theorem planFor_detection_name {flags : Flags} {manifest : Manifest} {plan : Plan} (scannable : session.Scannable directory)
    (ran : (planFor .detection flags directory manifest).apply session = (.ok plan, after)) :
    plan.name =
      Name.suggest ((session.signals directory).projectName.toList ++ plan.staged.devfile.metadata.name?.toList)
        directory := by
  obtain ⟨_, checked, passed, selecting⟩ := bind_eq_ok ran
  obtain ⟨_, rfl⟩ := checkCancelled_eq_ok passed
  obtain ⟨_, asked, selected, choosing⟩ := bind_eq_ok selecting
  obtain ⟨_, rfl⟩ := Prod.mk.inj selected
  obtain ⟨name, named, chose, finishing⟩ := bind_eq_ok choosing
  obtain ⟨_, _, _, returned⟩ := bind_eq_ok finishing
  cases returned
  obtain ⟨signals, scanned, scanning, told⟩ := bind_eq_ok chose
  obtain ⟨_, again, _⟩ := scannable.scan_gives checked rfl
  rw [again] at scanning
  cases scanning
  exact (Except.ok.inj (Prod.mk.inj told).1).symm

/-- A scan of a directory never fails without faults, and returns what the files add up to that it reaches. What else
there is does not matter to it, so that it tells the same before and after a manifest is staged. -/
theorem scan_sums_up (scannable : session.Scannable directory) :
    ∃ signals files,
      (∃ after, (scan directory).apply session = (.ok signals, after) ∧ after.files = session.files) ∧
      session.files.inner.Reaches scanDepth (session.files.inner.resolve directory) files ∧
      signals.SumOf files ∧
      (∀ other, other.Scannable directory → session.TellsAlike other directory →
        ∃ after, (scan directory).apply other = (.ok signals, after)) ∧
      (∀ registries manifest staged,
        (Detection.selectManifest registries directory).apply session = (.ok manifest, staged) →
          ∃ after, (scan directory).apply staged = (.ok signals, after)) ∧
      ∀ registries flags empty plan after,
        (prepare .detection registries flags directory empty).apply session = (.ok plan, after) →
          plan.name =
            Name.suggest (signals.projectName.toList ++ plan.staged.devfile.metadata.name?.toList) directory := by
  have scans : ∀ other : Session (Faulty FileTree), other.Scannable directory →
      other.signals directory = session.signals directory →
        ∃ after, (scan directory).apply other = (.ok (session.signals directory), after) := by
    intro other scannable same
    obtain ⟨after, ran, _⟩ := scannable.scan_gives other rfl
    exact ⟨after, same ▸ ran⟩
  refine ⟨session.signals directory, session.visited directory, scannable.scan_gives session rfl, scannable.reaches,
    Signals.sumOf_ofFiles scannable.reaches.increasing, ?_, ?_, ?_⟩
  · exact fun other also alike => scans other also (alike.signals_eq scannable also)
  · intro registries manifest staged selected
    obtain ⟨still, same⟩ := selectManifest_signals scannable selected
    exact scans staged still same
  · intro registries flags empty plan after ran
    obtain ⟨_, greeted, first, ran⟩ := bind_eq_ok ran
    obtain ⟨manifest, selected, selection, ran⟩ := bind_eq_ok ran
    have same : greeted.files = session.files :=
      ((greet_reads _ _).advances first).files_of_clear scannable.clear
    have begun : greeted.Scannable directory := by
      obtain ⟨clear, ordered, present⟩ := scannable
      exact ⟨same ▸ clear, same ▸ ordered, same ▸ present⟩
    obtain ⟨still, told⟩ := selectManifest_signals begun selection
    have unchanged : greeted.signals directory = session.signals directory := by
      rw [Session.signals, Session.visited, same, Session.signals, Session.visited]
    rw [planFor_detection_name still ran, told, unchanged]

/-- A session in a directory with sources among hidden, skipped and deep files, and a registry that lists a stack for
them. -/
def expressSession : Session (Faulty FileTree) :=
  { files :=
      { inner :=
          (((((FileTree.new ⟨"/app"⟩).withFile ⟨"/app/package.json"⟩
            "\x7b\"name\": \"@acme/shop\", \"dependencies\": \x7b\"express\": \"^4\"\x7d\x7d".toUTF8).withFile
            ⟨"/app/lib/util.js"⟩ ByteArray.empty).withFile ⟨"/app/.git/hook.py"⟩ ByteArray.empty).withFile
            ⟨"/app/vendor/pom.xml"⟩ ByteArray.empty).withFile ⟨"/app/a/b/deep.go"⟩ ByteArray.empty
        faults := []
        special := []
        modes := [] }
    network :=
      { pages :=
          [("http://b.test/index", [.answer 200 "[[\"nodejs\",\"\",\"\",\"JavaScript\"]]".toUTF8 none true]),
            ("http://b.test/devfiles/nodejs", [.answer 200 "schemaVersion: 2.2.0".toUTF8 none true])] } }

/-- The registry of that session. -/
def expressRegistries : List Registry := [⟨"b", "http://b.test"⟩]

/-- What that directory tells. -/
def expressSignals : Signals :=
  { languages := ⟨[(.javascript, 11)]⟩
    frameworks := ⟨[("express", ())]⟩
    projectName := some "shop" }

private theorem expressSession_scans : ((scan ⟨"/app"⟩).apply expressSession).1 = .ok expressSignals := by
  decide +kernel

private theorem expressSession_prepares :
    ((prepare .detection expressRegistries {} ⟨"/app"⟩ false).apply expressSession).1.toOption.isSome = true := by
  decide +kernel

/-- Of what is in that directory only the marker and the source that are reached count, and the component is named
after the project. -/
theorem scan_sums_up_express :
    expressSession.Scannable ⟨"/app"⟩ ∧
      (∃ files, expressSession.files.inner.Reaches scanDepth (expressSession.files.inner.resolve ⟨"/app"⟩) files ∧
        expressSignals.SumOf files) ∧
      ∃ plan after, (prepare .detection expressRegistries {} ⟨"/app"⟩ false).apply expressSession = (.ok plan, after) ∧
        plan.name = Name.suggest ("shop" :: plan.staged.devfile.metadata.name?.toList) ⟨"/app"⟩ := by
  have scannable : expressSession.Scannable ⟨"/app"⟩ := ⟨⟨rfl, rfl⟩, by decide +kernel, by decide +kernel⟩
  obtain ⟨signals, files, ⟨_, scanned, _⟩, reaches, sums, _, _, names⟩ := scan_sums_up scannable
  have told := expressSession_scans
  rw [scanned] at told
  obtain rfl := Except.ok.inj told
  refine ⟨scannable, ⟨files, reaches, sums⟩, ?_⟩
  have succeeds := expressSession_prepares
  rcases prepared : (prepare .detection expressRegistries {} ⟨"/app"⟩ false).apply expressSession with ⟨_ | plan, after⟩
  · rw [prepared] at succeeds
    cases succeeds
  · exact ⟨plan, after, rfl, names _ _ _ plan after prepared⟩

end Run

end Scaffold
