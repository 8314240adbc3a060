import Scaffold.Files.Faults
import Scaffold.Proofs.Files.Tree
import Scaffold.Proofs.Session.Advance

/-! # Calls to a store with a schedule

A call that a fault strikes changes nothing but the schedule; any other call does what the tree does. Which paths
are special and which directory is the working directory never changes, and an empty schedule stays empty. So a
session that only reads keeps its tree, and one without faults and special paths behaves as its tree.
-/

namespace Scaffold

namespace FileTree

variable {tree after : FileTree} {call : FileCall} {error : IoError}

private theorem settle_eq_ok {result : Except IoError FileTree} :
    settle tree result = (.ok (), after) ↔ result = .ok after := by
  cases result <;> simp [settle]

private theorem settle_eq_error {result : Except IoError FileTree} (failed : settle tree result = (.error error, after)) :
    after = tree := by
  cases result with
  | error _ => exact (Prod.mk.inj failed).2.symm
  | ok changed => cases failed

theorem perform_remove_ok {path : Path} :
    Storage.perform (.remove path) tree = (.ok (), after) ↔ tree.remove path = .ok after := by
  simp only [Storage.perform, perform]
  exact settle_eq_ok

theorem perform_write_ok {path : Path} {contents : ByteArray} :
    Storage.perform (.write path contents) tree = (.ok (), after) ↔ tree.write path contents = .ok after := by
  simp only [Storage.perform, perform]
  exact settle_eq_ok

theorem perform_createDirs_ok {path : Path} :
    Storage.perform (.createDirs path) tree = (.ok (), after) ↔ tree.createDirs path = .ok after := by
  simp only [Storage.perform, perform]
  exact settle_eq_ok

theorem perform_error (failed : Storage.perform call tree = (.error error, after)) : after = tree := by
  cases call <;> simp only [Storage.perform, perform] at failed
  case remove => exact settle_eq_error failed
  case write => exact settle_eq_error failed
  case createDirs => exact settle_eq_error failed
  all_goals exact (Prod.mk.inj failed).2.symm

theorem perform_reads (fit : call.mutates = false) (tree : FileTree) : (Storage.perform call tree).2 = tree := by
  cases call <;> first | (cases fit; done) | rfl

theorem perform_workingDirectory (call : FileCall) (tree : FileTree) :
    (Storage.perform call tree).2.workingDirectory = tree.workingDirectory := by
  rcases performed : Storage.perform call tree with ⟨error | answer, after⟩
  · rw [perform_error performed]
  · cases call with
    | remove path => rw [(remove_eq_ok.mp (perform_remove_ok.mp performed)).2]
    | write path contents => rw [(write_eq_ok.mp (perform_write_ok.mp performed)).2.2]
    | createDirs path => rw [(createDirs_eq_ok.mp (perform_createDirs_ok.mp performed)).2, addDirs]
    | _ => exact congrArg workingDirectory (Prod.mk.inj performed).2.symm

end FileTree

namespace Fault

variable {call : FileCall} {faults left : List Fault} {error : IoError}

/-- The error of a call that is struck is that of a fault which matches the call. -/
theorem mem_of_strike? (struck : strike? call faults = (some error, left)) :
    ∃ fault ∈ faults, fault.matchesCall call = true ∧ fault.error = error := by
  induction faults generalizing left with
  | nil => cases struck
  | cons fault rest ih =>
    have onward : (strike? call rest).1 = some error →
        ∃ other ∈ fault :: rest, other.matchesCall call = true ∧ other.error = error := fun found =>
      (ih (Prod.ext found rfl)).imp fun _ fit => ⟨List.mem_cons_of_mem _ fit.1, fit.2⟩
    unfold strike? at struck
    dsimp only at struck
    split at struck
    · exact onward (Prod.mk.inj struck).1
    · rename_i fit
      have here : fault.matchesCall call = true := by simpa using fit
      split at struck
      · exact onward (Prod.mk.inj struck).1
      · split at struck
        · exact ⟨fault, List.mem_cons_self, here, Option.some.inj (Prod.mk.inj struck).1⟩
        · exact onward (Prod.mk.inj struck).1
        · exact ⟨fault, List.mem_cons_self, here, Option.some.inj (Prod.mk.inj struck).1⟩

/-- The faults that are left are those from before, but for how often they pass and fail. -/
theorem forall_strike? {holds : Fault → Prop} (each : ∀ fault ∈ faults, holds fault)
    (steady : ∀ (fault : Fault) skip times, holds fault → holds { fault with skip, times }) :
    ∀ fault ∈ (strike? call faults).2, holds fault := by
  induction faults with
  | nil => exact each
  | cons fault rest ih =>
    have first := each fault List.mem_cons_self
    have onward := ih fun other member => each other (List.mem_cons_of_mem _ member)
    unfold strike?
    dsimp only
    repeat' split
    all_goals simp only [List.forall_mem_cons]
    · exact ⟨first, onward⟩
    · exact ⟨steady fault _ _ first, onward⟩
    · exact ⟨first, fun other member => each other (List.mem_cons_of_mem _ member)⟩
    · exact ⟨first, onward⟩
    · exact ⟨steady fault _ _ first, fun other member => each other (List.mem_cons_of_mem _ member)⟩

end Fault

namespace Faulty

section

variable {σ : Type} [Storage σ] {store after : Faulty σ} {call : FileCall} {answer : call.Answer} {error : IoError}

/-- What a store tells in place of the answer of the store behind the schedule. -/
def revise (store : Faulty σ) : (call : FileCall) → call.Answer → call.Answer
  | .stat path, metadata => store.reviseStat path metadata
  | .list path, entries => store.reviseList path entries
  | .workingDirectory, answer | .remove _, answer | .read _, answer | .write _ _, answer | .createDirs _, answer
  | .setMode _ _, answer => answer

/-- The permission bits that a store keeps after a call. -/
def modesAfter (store : Faulty σ) : FileCall → List (Path × Nat)
  | .setMode path mode => recordMode path mode store.modes
  | _ => store.modes

/-- What the store behind the schedule makes of a call. -/
theorem perform_of_pass {faults : List Fault} (pass : Fault.strike? call store.faults = (none, faults)) :
    Storage.perform call store =
      ((Storage.perform call store.inner).1.map (store.revise call),
        { store with inner := (Storage.perform call store.inner).2, faults, modes := store.modesAfter call }) := by
  have unchanged : ∀ {α : Type} (result : Except IoError α), result.map (fun answer => answer) = result := by
    intro α result
    cases result <;> rfl
  change perform call store = _
  unfold perform
  rw [pass]
  cases call with
  | stat _ => rfl
  | list _ => rfl
  | _ => exact Prod.ext (unchanged _).symm rfl

/-- A call that a fault strikes changes nothing but the schedule. -/
theorem perform_of_strike {faults : List Fault} (struck : Fault.strike? call store.faults = (some error, faults)) :
    Storage.perform call store = (.error error, { store with faults }) := by
  change perform call store = _
  rw [perform, struck]

/-- A fault strikes a call, or the store behind the schedule performs it. -/
theorem perform_cases (call : FileCall) (store : Faulty σ) :
    (∃ error faults, Fault.strike? call store.faults = (some error, faults) ∧
        Storage.perform call store = (.error error, { store with faults })) ∨
      ∃ faults, Fault.strike? call store.faults = (none, faults) ∧
        Storage.perform call store =
          ((Storage.perform call store.inner).1.map (store.revise call),
            { store with inner := (Storage.perform call store.inner).2, faults, modes := store.modesAfter call }) := by
  rcases struck : Fault.strike? call store.faults with ⟨_ | error, faults⟩
  · exact .inr ⟨faults, rfl, perform_of_pass struck⟩
  · exact .inl ⟨error, faults, rfl, perform_of_strike struck⟩

theorem perform_schedule (call : FileCall) (store : Faulty σ) :
    (Storage.perform call store).2.faults = (Fault.strike? call store.faults).2 := by
  rcases perform_cases call store with ⟨_, _, struck, performed⟩ | ⟨_, struck, performed⟩ <;> rw [performed, struck]

theorem perform_special (call : FileCall) (store : Faulty σ) :
    (Storage.perform call store).2.special = store.special := by
  rcases perform_cases call store with ⟨_, _, _, performed⟩ | ⟨_, _, performed⟩ <;> rw [performed]

theorem perform_faults (call : FileCall) (quiet : store.faults = []) : (Storage.perform call store).2.faults = [] := by
  rw [perform_of_pass (by rw [quiet]; rfl)]

/-- The same store without faults from now on. -/
def quiet (store : Faulty σ) : Faulty σ := { store with faults := [] }

/-- Without faults and special paths. -/
structure Clear (store : Faulty σ) : Prop where
  faults : store.faults = []
  special : store.special = []

theorem Clear.perform (clear : store.Clear) (call : FileCall) :
    Storage.perform call store =
      ((Storage.perform call store.inner).1,
        { store with inner := (Storage.perform call store.inner).2, modes := store.modesAfter call }) := by
  have ordinary : ∀ path, store.isSpecial path = false := by simp [isSpecial, clear.special]
  have unrevised : store.revise call = id := by
    funext answer
    cases call with
    | list path => exact (List.map_congr_left fun entry _ => by simp [ordinary]).trans (List.map_id _)
    | _ => simp [revise, reviseStat, ordinary]
  have unmapped : ∀ result : Except IoError call.Answer, result.map id = result := by
    rintro (_ | _) <;> rfl
  rw [perform_of_pass (by rw [clear.faults]; rfl), unrevised, unmapped, ← clear.faults]

omit [Storage σ] in
/-- Stores without faults and special paths that agree otherwise are the same. -/
theorem Clear.eq_of {before : Faulty σ} (clear : before.Clear) (still : after.Clear) (inner : after.inner = before.inner)
    (modes : after.modes = before.modes) : after = before := by
  have faults := still.faults.trans clear.faults.symm
  have special := still.special.trans clear.special.symm
  cases after
  cases before
  simp_all

end

variable {store after : Faulty FileTree} {call : FileCall} {answer : call.Answer} {error : IoError}

/-- A call that fails changes neither the tree nor the permission bits. -/
theorem perform_error (failed : Storage.perform call store = (.error error, after)) :
    after.inner = store.inner ∧ after.modes = store.modes := by
  rcases perform_cases call store with ⟨_, _, _, performed⟩ | ⟨_, _, performed⟩
  · rw [performed] at failed
    obtain ⟨_, rfl⟩ := Prod.mk.inj failed
    exact ⟨rfl, rfl⟩
  · rw [performed] at failed
    obtain ⟨same, rfl⟩ := Prod.mk.inj failed
    rcases told : Storage.perform call store.inner with ⟨other | answer, inner⟩
    · refine ⟨FileTree.perform_error told, ?_⟩
      -- Setting permission bits never fails.
      cases call with
      | setMode _ _ => cases (Prod.mk.inj told).1
      | _ => rfl
    · rw [told] at same
      cases same

/-- A call that returns does to the tree what the tree makes of it. -/
theorem perform_ok (returned : Storage.perform call store = (.ok answer, after)) :
    ∃ told, Storage.perform call store.inner = (.ok told, after.inner) ∧ store.revise call told = answer := by
  rcases perform_cases call store with ⟨_, _, _, performed⟩ | ⟨_, _, performed⟩
  · rw [performed] at returned
    cases returned
  · rw [performed] at returned
    obtain ⟨same, rfl⟩ := Prod.mk.inj returned
    rcases told : Storage.perform call store.inner with ⟨_ | answer, inner⟩
    · rw [told] at same
      cases same
    · rw [told] at same
      exact ⟨answer, rfl, Except.ok.inj same⟩

theorem perform_reads (fit : call.mutates = false) (store : Faulty FileTree) :
    (Storage.perform call store).2.inner = store.inner ∧ (Storage.perform call store).2.modes = store.modes := by
  rcases perform_cases call store with ⟨_, _, _, performed⟩ | ⟨_, _, performed⟩
  · rw [performed]
    exact ⟨rfl, rfl⟩
  · rw [performed]
    refine ⟨FileTree.perform_reads fit store.inner, ?_⟩
    cases call <;> first | (cases fit; done) | rfl

theorem perform_workingDirectory (call : FileCall) (store : Faulty FileTree) :
    (Storage.perform call store).2.inner.workingDirectory = store.inner.workingDirectory := by
  rcases perform_cases call store with ⟨_, _, _, performed⟩ | ⟨_, _, performed⟩
  · rw [performed]
  · rw [performed]
    exact FileTree.perform_workingDirectory call store.inner

end Faulty

namespace Session.KeepsTo

variable {allowed : Event → Prop} {before after : Session (Faulty FileTree)}

theorem inner (keeps : before.KeepsTo Event.Reads after) : after.files.inner = before.files.inner :=
  keeps.preserves (fun files => files.inner = before.files.inner)
    (fun files event fit same => by
      cases event with
      | files call _ => exact (Faulty.perform_reads fit files).1.trans same
      | _ => exact same) rfl

theorem modes (keeps : before.KeepsTo Event.Reads after) : after.files.modes = before.files.modes :=
  keeps.preserves (fun files => files.modes = before.files.modes)
    (fun files event fit same => by
      cases event with
      | files call _ => exact (Faulty.perform_reads fit files).2.trans same
      | _ => exact same) rfl

theorem special (keeps : before.KeepsTo allowed after) : after.files.special = before.files.special :=
  keeps.preserves (fun files => files.special = before.files.special)
    (fun files event _ same => by
      cases event with
      | files call _ => exact (Faulty.perform_special call files).trans same
      | _ => exact same) rfl

theorem workingDirectory (keeps : before.KeepsTo allowed after) :
    after.files.inner.workingDirectory = before.files.inner.workingDirectory :=
  keeps.preserves (fun files => files.inner.workingDirectory = before.files.inner.workingDirectory)
    (fun files event _ same => by
      cases event with
      | files call _ => exact (Faulty.perform_workingDirectory call files).trans same
      | _ => exact same) rfl

theorem clear (keeps : before.KeepsTo allowed after) (start : before.files.Clear) : after.files.Clear :=
  ⟨keeps.preserves (fun files => files.faults = [])
    (fun files event _ quiet => by
      cases event with
      | files call _ => exact Faulty.perform_faults call quiet
      | _ => exact quiet) start.faults, keeps.special.trans start.special⟩

/-- What holds of all faults, however often they pass and fail, goes on to hold. -/
theorem forall_faults {holds : Fault → Prop} (keeps : before.KeepsTo allowed after)
    (steady : ∀ (fault : Fault) skip times, holds fault → holds { fault with skip, times })
    (each : ∀ fault ∈ before.files.faults, holds fault) : ∀ fault ∈ after.files.faults, holds fault :=
  keeps.preserves (fun files => ∀ fault ∈ files.faults, holds fault)
    (fun files event _ each => by
      cases event with
      | files call _ =>
        rw [Event.replay, Faulty.perform_schedule]
        exact Fault.forall_strike? each steady
      | _ => exact each) each

end Session.KeepsTo

namespace Session.Advances

variable {allowed : Event → Prop} {before after : Session (Faulty FileTree)}

theorem inner (advance : before.Advances Event.Reads after) : after.files.inner = before.files.inner :=
  advance.keepsTo.inner

theorem modes (advance : before.Advances Event.Reads after) : after.files.modes = before.files.modes :=
  advance.keepsTo.modes

theorem special (advance : before.Advances allowed after) : after.files.special = before.files.special :=
  advance.keepsTo.special

theorem workingDirectory (advance : before.Advances allowed after) :
    after.files.inner.workingDirectory = before.files.inner.workingDirectory :=
  advance.keepsTo.workingDirectory

theorem clear (advance : before.Advances allowed after) (start : before.files.Clear) : after.files.Clear :=
  advance.keepsTo.clear start

/-- Without faults and special paths, a session that only reads keeps its files as they are. -/
theorem files_of_clear (advance : before.Advances Event.Reads after) (start : before.files.Clear) :
    after.files = before.files :=
  start.eq_of (advance.clear start) advance.inner advance.modes

end Session.Advances

end Scaffold
