import Scaffold.Json.Document
import Scaffold.Text.Blank
import Scaffold.Text.Lowercase
import Scaffold.Text.Search
import Scaffold.Text.Split

/-! # What marker files tell

The contents of a marker file name the frameworks that a project uses and, in two kinds of file, the project
itself.
-/

namespace Scaffold.Marker

/-- The words looked for in a marker file, each with the framework it hints at. -/
def hints (file : String) : List (String × String) :=
  match file with
  | "package.json" =>
    [("\"express\"", "express"), ("\"react\"", "react"), ("\"next\"", "next"), ("\"vue\"", "vue"),
      ("\"nuxt\"", "nuxt"), ("\"svelte\"", "svelte"), ("\"@angular/core\"", "angular"),
      ("\"@nestjs/core\"", "nest")]
  | "pom.xml" | "build.gradle" | "build.gradle.kts" =>
    [("spring-boot", "spring"), ("quarkus", "quarkus"), ("vertx", "vertx"), ("micronaut", "micronaut"),
      ("wildfly", "wildfly"), ("openliberty", "liberty")]
  | "requirements.txt" | "pyproject.toml" | "setup.py" | "Pipfile" =>
    [("django", "django"), ("flask", "flask"), ("fastapi", "fastapi")]
  | "go.mod" => [("github.com/gin-gonic/gin", "gin"), ("github.com/labstack/echo", "echo")]
  | "composer.json" => [("laravel/framework", "laravel")]
  | _ => []

/-- The frameworks that a marker file names, whatever the case of the letters. -/
def frameworks (file contents : String) : List String :=
  let lowered := Text.lowerAscii contents.toList
  ((hints file).filter fun (word, _) => Text.occursIn word.toList lowered).map Prod.snd

/-- The name that a package description gives, none if it is null or missing. -/
def packageName? : Json.Document → Option (Option String)
  | .object fields => do
    let keyed ← fields.mapM fun (key?, value) => key?.map fun key => (key, value)
    match (keyed.filter fun (key, _) => key = "name").map Prod.snd with
    | [] => pure none
    | [value] => nameOf? value
    | _ => none
  | .array [value] => nameOf? value
  | _ => none
where
  nameOf? : Json.Document → Option (Option String)
    | .null => some none
    | value => value.text?.map some

/-- The part of a name after its last slash. -/
def lastPart (name : List Char) : String := String.ofList (Text.lastPiece '/' name)

/-- The module that a line of a module file declares. -/
def moduleOf? (line : List Char) : Option (List Char) :=
  Text.after? "module ".toList (Text.trim line)

/-- The name that a marker file declares for its project. -/
def declaredName? (file contents : String) : Option String :=
  let name? := match file with
    | "package.json" => do
      let name? ← packageName? (← Json.Document.parse? contents.toUTF8)
      pure (lastPart (← name?).toList)
    | "go.mod" => do
      let module ← (Text.split '\n' contents.toList).findSome? moduleOf?
      let quote (c : Char) : Bool := c = '"'
      pure (lastPart (Text.trimEnd quote (Text.trimStart quote (Text.trim module))))
    | _ => none
  name?.filter fun name => !name.isEmpty

end Scaffold.Marker
