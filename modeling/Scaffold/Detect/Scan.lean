import Scaffold.Detect.Signals
import Scaffold.Session.Files

/-! # Scanning sources

The files directly in a directory and in its subdirectories are looked at, hidden entries and the usual
places of foreign or generated files left out. A marker that cannot be read still counts.
-/

namespace Scaffold

/-- Directories that are never looked into. -/
def skippedDirectories : List String := ["node_modules", "target", "vendor", "venv", "__pycache__", "dist"]

/-- How many levels are looked at, the directory itself being one. -/
def scanDepth : Nat := 2

/-- Whether a name is hidden. -/
def isHidden (name : String) : Bool := name.toList.head? = some '.'

namespace Run

variable {σ : Type} [Storage σ]

/-- Look at a file; only markers are read. -/
def lookAt (path : Path) (name : String) (isTop : Bool) : Run σ Cause SourceFile :=
  if (Language.ofMarker? name).isSome then do
    match ← attempt (read path) with
    | .ok contents => pure ⟨name, isTop, some contents⟩
    | .error _ => pure ⟨name, isTop, none⟩
  else pure ⟨name, isTop, none⟩

/-- The files to be looked at in a directory and the given number of levels below it. -/
def sourceFiles (isTop : Bool) (directory : Path) : Nat → Run σ Cause (List SourceFile)
  | 0 => pure []
  | levels + 1 => do
    let entries ← during "read directory" directory (list directory)
    let found ← (entries.filter fun entry => !isHidden entry.name).mapM fun entry =>
      let path := directory.join ⟨entry.name⟩
      match entry.kind with
      | .file => do pure [← lookAt path entry.name isTop]
      | .directory =>
        if skippedDirectories.contains entry.name then pure [] else sourceFiles false path levels
      | .other => pure []
    pure found.flatten

/-- The signals of a directory. -/
def scan (directory : Path) : Run σ Cause Signals := do
  pure (Signals.ofFiles (← sourceFiles true directory scanDepth))

end Run

end Scaffold
