import Scaffold.Path
import Scaffold.Text.Blank
import Scaffold.Text.Lowercase

/-! # Languages

The languages that can be detected: by the marker files of their build tools, by the extensions of source
files, and by the labels that registries give them.
-/

namespace Scaffold

/-- A language, in the order of the names. -/
inductive Language
  | dotnet
  | go
  | java
  | javascript
  | php
  | python
  | ruby
  | rust
  | typescript
  deriving DecidableEq, Repr, Inhabited

namespace Language

/-- All languages in the order of their names. -/
def all : List Language := [dotnet, go, java, javascript, php, python, ruby, rust, typescript]

/-- The place of a language in the order. -/
def rank : Language → Nat
  | dotnet => 0
  | go => 1
  | java => 2
  | javascript => 3
  | php => 4
  | python => 5
  | ruby => 6
  | rust => 7
  | typescript => 8

instance : LT Language where
  lt a b := a.rank < b.rank

instance (a b : Language) : Decidable (a < b) := inferInstanceAs (Decidable (a.rank < b.rank))

/-- The name of a language. -/
def name : Language → String
  | dotnet => "dotnet"
  | go => "go"
  | java => "java"
  | javascript => "javascript"
  | php => "php"
  | python => "python"
  | ruby => "ruby"
  | rust => "rust"
  | typescript => "typescript"

/-- The language of a name. -/
def ofName? (name : String) : Option Language := all.find? fun language => language.name = name

/-- The language whose marker a file is. -/
def ofMarker? (file : String) : Option Language :=
  match file with
  | "package.json" => some javascript
  | "tsconfig.json" => some typescript
  | "go.mod" => some go
  | "pom.xml" | "build.gradle" | "build.gradle.kts" => some java
  | "requirements.txt" | "pyproject.toml" | "setup.py" | "Pipfile" => some python
  | "Cargo.toml" => some rust
  | "composer.json" => some php
  | "Gemfile" => some ruby
  | _ =>
    if ".csproj".toList.isSuffixOf file.toList || ".sln".toList.isSuffixOf file.toList then some dotnet
    else none

/-- The language of the sources with a file's extension. -/
def ofExtension? (file : String) : Option Language :=
  match fileExtension? file with
  | some "js" | some "mjs" | some "cjs" | some "jsx" => some javascript
  | some "ts" | some "tsx" => some typescript
  | some "go" => some go
  | some "java" | some "kt" => some java
  | some "py" => some python
  | some "rs" => some rust
  | some "cs" => some dotnet
  | some "php" => some php
  | some "rb" => some ruby
  | _ => none

/-- The language that a label of a registry means. -/
def ofLabel? (label : String) : Option Language :=
  match String.ofList (Text.lowerAscii (Text.trim label.toList)) with
  | "javascript" | "nodejs" | "node.js" | "node" => some javascript
  | "typescript" => some typescript
  | "go" | "golang" => some go
  | "java" => some java
  | "python" => some python
  | "rust" => some rust
  | ".net" | "dotnet" | "c#" | "csharp" => some dotnet
  | "php" => some php
  | "ruby" => some ruby
  | _ => none

end Language

end Scaffold
