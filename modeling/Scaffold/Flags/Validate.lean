import Scaffold.Flags
import Scaffold.Name
import Scaffold.Registry
import Scaffold.Session.Files
import Scaffold.Url

/-! # Validation of flags

Flags are refused before anything is fetched. The combination is checked first, then the name, then the
registry; last, a devfile path that is no web address has to be an existing file.
-/

namespace Scaffold

/-- Refuse an invalid name if one was given. -/
def Flags.checkName (flags : Flags) : Except Cause Unit :=
  match flags.name with
  | none => .ok ()
  | some name => Name.validate name

/-- Refuse a registry that is not configured. -/
def Flags.checkRegistry (flags : Flags) (registries : List Registry) : Except Cause Unit :=
  match flags.devfileRegistry with
  | none => .ok ()
  | some name =>
    if registries.any fun registry => registry.name = name then .ok ()
    else .error (.registryNotFound name (Registry.names registries))

/-- All that is checked without looking at the files. -/
def Flags.check (flags : Flags) (registries : List Registry) : Except Cause Unit := do
  match flags.conflict? with
  | some cause => throw cause
  | none => pure ()
  flags.checkName
  flags.checkRegistry registries

namespace Run

variable {σ : Type} [Storage σ]

/-- Refuse a devfile path that is neither a web address nor an existing file. -/
def checkDevfilePath (flags : Flags) (directory : Path) : Run σ Cause Unit :=
  match flags.devfilePath with
  | none => pure ()
  | some text =>
    if Url.isUrl text then pure ()
    else do
      let path := directory.join ⟨text⟩
      if ← isFile path then pure () else throw (.devfilePathNotFound path)

/-- Refuse flags that do not go together or name what is not there. -/
def validateFlags (flags : Flags) (directory : Path) (registries : List Registry) : Run σ Cause Unit :=
  if flags.isEmpty then pure ()
  else do
    match flags.check registries with
    | .error cause => throw cause
    | .ok () => pure ()
    checkDevfilePath flags directory

end Run

end Scaffold
