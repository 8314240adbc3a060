import Scaffold.Proofs.Session.Files

/-! # What files give

A step that only looks at the files may give a value that they alone decide, whatever else the session holds. What
is given composes along the sequence of a run, so that the run is told by a function of the files. Without faults and
special paths, the calls that look at the files are of this kind.
-/

namespace Scaffold.Run

variable {σ ε ε' α β : Type} {files : σ} {step : Run σ ε α} {next : α → Run σ ε β} {value : α} {result : β}

/-- In whatever session holds the files, the step returns the value and leaves them as they are. -/
def Gives (files : σ) (step : Run σ ε α) (value : α) : Prop :=
  ∀ session : Session σ, session.files = files → ∃ after, step.apply session = (.ok value, after) ∧ after.files = files

theorem gives_pure (value : α) : Gives files (pure value : Run σ ε α) value :=
  fun session same => ⟨session, rfl, same⟩

theorem Gives.bind (first : Gives files step value) (rest : Gives files (next value) result) :
    Gives files (step >>= next) result := by
  intro session same
  obtain ⟨middle, returned, still⟩ := first session same
  obtain ⟨after, continued, unchanged⟩ := rest middle still
  exact ⟨after, (apply_bind_of_ok returned).trans continued, unchanged⟩

theorem Gives.mapError {restate : ε → ε'} (gives : Gives files step value) :
    Gives files (step.mapError restate) value :=
  fun session same => (gives session same).imp fun _ ran => ⟨mapError_eq_ok.mpr ran.1, ran.2⟩

theorem Gives.attempt (gives : Gives files step value) :
    Gives files (Run.attempt step : Run σ ε' (Except ε α)) (.ok value) :=
  fun session same => (gives session same).imp fun _ ran => ⟨by rw [apply_attempt, ran.1], ran.2⟩

/-- Steps that are taken one after the other give what each of them gives. -/
theorem gives_mapM {step : α → Run σ ε β} {value : α → β} {items : List α}
    (each : ∀ item ∈ items, Gives files (step item) (value item)) : Gives files (items.mapM step) (items.map value) := by
  induction items with
  | nil => exact gives_pure []
  | cons item rest ih =>
    rw [List.mapM_cons]
    exact (each item List.mem_cons_self).bind
      ((ih fun other member => each other (List.mem_cons_of_mem _ member)).bind (gives_pure _))

section

variable {store : Faulty FileTree} {path : Path}

theorem gives_call {file : FileCall} {answer : file.Answer} (clear : store.Clear) (fit : file.mutates = false)
    (told : (Storage.perform file store.inner).1 = .ok answer) : Gives store (call file) answer := by
  rintro session rfl
  have ran := apply_call file session
  rw [clear.perform, told] at ran
  refine ⟨_, ran, ?_⟩
  have modes : session.files.modesAfter file = session.files.modes := by
    cases file <;> first | (cases fit; done) | rfl
  dsimp only
  rw [FileTree.perform_reads fit, modes]

theorem gives_read {contents : ByteArray} (clear : store.Clear)
    (present : store.inner.get? (store.inner.resolve path) = some (.file contents)) : Gives store (read path) contents :=
  gives_call clear rfl (FileTree.read_eq_ok.mpr present)

theorem gives_list {entries : List DirEntry} (clear : store.Clear) (told : store.inner.list path = .ok entries) :
    Gives store (list path) entries :=
  gives_call clear rfl told

end

end Scaffold.Run
