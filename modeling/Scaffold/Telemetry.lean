import Scaffold.Json

/-! # Telemetry

Facts about a run, each recorded at most once: the first value of a key is kept.
-/

namespace Scaffold

/-- What a fact is about. -/
inductive TelemetryKey
  | interactive
  | componentType
  | language
  | projectType
  | devfileName
  deriving DecidableEq, Repr, Inhabited

namespace TelemetryKey

/-- All keys in the order of their names. -/
def all : List TelemetryKey := [componentType, devfileName, interactive, language, projectType]

/-- The name of a key. -/
def name : TelemetryKey → String
  | interactive => "interactive"
  | componentType => "componentType"
  | language => "language"
  | projectType => "projectType"
  | devfileName => "devfileName"

/-- The key of a name. -/
def ofName? (name : String) : Option TelemetryKey := all.find? fun key => key.name = name

end TelemetryKey

/-- The facts recorded so far. -/
structure Telemetry where
  fact? : TelemetryKey → Option Json
  deriving Inhabited

namespace Telemetry

/-- No facts. -/
def empty : Telemetry := ⟨fun _ => none⟩

/-- Record a fact unless the key has one. -/
def record (telemetry : Telemetry) (key : TelemetryKey) (value : Json) : Telemetry :=
  if (telemetry.fact? key).isSome then telemetry
  else ⟨fun other => if other = key then some value else telemetry.fact? other⟩

/-- The facts in the order of their names. -/
def snapshot (telemetry : Telemetry) : List (String × Json) :=
  TelemetryKey.all.filterMap fun key => (telemetry.fact? key).map fun value => (key.name, value)

/-- The first value of a key stays. -/
theorem fact?_record (telemetry : Telemetry) (key other : TelemetryKey) (value : Json) :
    (telemetry.record key value).fact? other =
      if other = key ∧ (telemetry.fact? key).isNone then some value else telemetry.fact? other := by
  cases known : telemetry.fact? key with
  | some fact => simp [record, known]
  | none => simp [record, known]

end Telemetry

end Scaffold
