import Scaffold.Path

/-! # Where preferences are kept -/

namespace Scaffold.Preference

/-- The settings of the environment that decide where preferences are. -/
structure Environment where
  home : Option String := none
  configHome : Option String := none
  /-- The preference file itself. -/
  preference : Option String := none
  deriving DecidableEq, Repr, Inhabited

namespace Environment

/-- The home directory; an empty path if it is not known. -/
def homeDirectory (environment : Environment) : Path := ⟨environment.home.getD ""⟩

/-- The directory of the configuration. -/
def configDirectory (environment : Environment) : Path :=
  let base := match environment.configHome with
    | some directory => Path.mk directory
    | none => environment.homeDirectory.join ⟨".config"⟩
  base.join ⟨"devinit"⟩

/-- The preference file: the one that is named, unless its name is empty, else the one in the
configuration. -/
def preferenceFile (environment : Environment) : Path :=
  match environment.preference with
  | some path => if path.isEmpty then inConfiguration else ⟨path⟩
  | none => inConfiguration
where
  inConfiguration : Path := environment.configDirectory.join ⟨"preference.yaml"⟩

end Environment

end Scaffold.Preference
