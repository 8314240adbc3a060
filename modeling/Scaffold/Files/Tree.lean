import Scaffold.Data.OrderedMap
import Scaffold.Files.Call
import Scaffold.Text.Utf8

/-! # Files in memory

A tree of files and directories, kept as a map from routes to nodes. Paths are taken relative to the
working directory and normalised before they are looked up; a file is written only into an existing
directory, and only files are removed.
-/

namespace Scaffold

/-- A node of the tree. -/
inductive Node
  | file (contents : ByteArray)
  | directory
  deriving Inhabited

/-- A working directory and the nodes by their routes. -/
structure FileTree where
  workingDirectory : Path
  nodes : OrderedMap Route Node
  deriving Inhabited

namespace FileTree

/-- The node at a route. -/
def get? (tree : FileTree) (route : Route) : Option Node := tree.nodes.get? route

/-- The route a path leads to. -/
def resolve (tree : FileTree) (path : Path) : Route :=
  (if path.isAbsolute then path else tree.workingDirectory.join path).components.normalize

/-- Make a route and the routes above it directories, except where there is a node already. -/
def addDirs (tree : FileTree) (route : Route) : FileTree :=
  { tree with
    nodes := route.ancestors.foldl (fun nodes above => nodes.insertNew above .directory) tree.nodes }

/-- A tree that holds only the working directory. -/
def new (workingDirectory : Path) : FileTree :=
  addDirs ⟨workingDirectory, OrderedMap.empty⟩ workingDirectory.components

/-- The tree with one more file, its directories made as needed. -/
def withFile (tree : FileTree) (path : Path) (contents : ByteArray) : FileTree :=
  let route := tree.resolve path
  let tree := match route.parent? with
    | none => tree
    | some parent => tree.addDirs parent
  { tree with nodes := tree.nodes.insert route (.file contents) }

/-- The contents of a file as text, read leniently. -/
def contents? (tree : FileTree) (path : Path) : Option String :=
  match tree.get? (tree.resolve path) with
  | some (.file contents) => some (Text.fromUtf8Lossy contents)
  | _ => none

/-- There is no node at a route. -/
def noSuchEntry (route : Route) : IoError :=
  ⟨.notFound, route.toPath.shown ++ ": no such file or directory"⟩

/-- A file was expected at a route that is a directory. -/
def isDirectory (route : Route) : IoError := ⟨.isADirectory, route.toPath.shown ++ ": is a directory"⟩

/-- A directory was expected at a route that is a file. -/
def notDirectory (kind : IoErrorKind) (route : Route) : IoError :=
  ⟨kind, route.toPath.shown ++ ": not a directory"⟩

/-- Kind and size of a node. -/
def stat (tree : FileTree) (path : Path) : Except IoError Metadata :=
  let route := tree.resolve path
  match tree.get? route with
  | some (.file contents) => .ok ⟨.file, contents.size⟩
  | some .directory => .ok ⟨.directory, 0⟩
  | none => .error (noSuchEntry route)

/-- Remove a file. -/
def remove (tree : FileTree) (path : Path) : Except IoError FileTree :=
  let route := tree.resolve path
  match tree.get? route with
  | some (.file _) => .ok { tree with nodes := tree.nodes.erase route }
  | some .directory => .error (isDirectory route)
  | none => .error (noSuchEntry route)

/-- The contents of a file. -/
def read (tree : FileTree) (path : Path) : Except IoError ByteArray :=
  let route := tree.resolve path
  match tree.get? route with
  | some (.file contents) => .ok contents
  | some .directory => .error (isDirectory route)
  | none => .error (noSuchEntry route)

/-- Whether there is a file at a route. -/
def isFileAt (tree : FileTree) (route : Route) : Bool :=
  match tree.get? route with
  | some (.file _) => true
  | _ => false

/-- Whether there is a directory at a route. -/
def isDirectoryAt (tree : FileTree) (route : Route) : Bool :=
  match tree.get? route with
  | some .directory => true
  | _ => false

/-- Write a file into an existing directory. -/
def write (tree : FileTree) (path : Path) (contents : ByteArray) : Except IoError FileTree :=
  let route := tree.resolve path
  if !route.parent?.any tree.isDirectoryAt then .error (noSuchEntry route)
  else if tree.isDirectoryAt route then .error (isDirectory route)
  else .ok { tree with nodes := tree.nodes.insert route (.file contents) }

/-- Create a directory and its ancestors, unless a file is in the way. -/
def createDirs (tree : FileTree) (path : Path) : Except IoError FileTree :=
  let route := tree.resolve path
  match route.ancestors.find? tree.isFileAt with
  | some existing => .error (notDirectory .alreadyExists existing)
  | none => .ok (tree.addDirs route)

/-- The entry a node makes in the listing of a directory. -/
def entryOf? (directory : Route) : Route × Node → Option DirEntry
  | (route, node) =>
    if route.parent? = some directory then
      route.fileName?.map fun name =>
        ⟨name, match node with
          | .file _ => .file
          | .directory => .directory⟩
    else none

/-- The entries of a directory. -/
def list (tree : FileTree) (path : Path) : Except IoError (List DirEntry) :=
  let route := tree.resolve path
  match tree.get? route with
  | some .directory => .ok (tree.nodes.entries.filterMap (entryOf? route))
  | some (.file _) => .error (notDirectory .notADirectory route)
  | none => .error (noSuchEntry route)

/-- The answer of a mutation together with the tree it leaves. -/
def settle (tree : FileTree) : Except IoError FileTree → Except IoError Unit × FileTree
  | .ok changed => (.ok (), changed)
  | .error error => (.error error, tree)

/-- Answer a call. Permission bits are not kept. -/
def perform (call : FileCall) (tree : FileTree) : Except IoError call.Answer × FileTree :=
  match call with
  | .workingDirectory => (.ok tree.workingDirectory, tree)
  | .stat path => (tree.stat path, tree)
  | .remove path => settle tree (tree.remove path)
  | .read path => (tree.read path, tree)
  | .write path contents => settle tree (tree.write path contents)
  | .createDirs path => settle tree (tree.createDirs path)
  | .list path => (tree.list path, tree)
  | .setMode _ _ => (.ok (), tree)

instance : Storage FileTree where
  perform := perform

/-- All files with their contents, by route. -/
def files (tree : FileTree) : List (Route × ByteArray) :=
  tree.nodes.entries.filterMap fun (route, node) =>
    match node with
    | .file contents => some (route, contents)
    | .directory => none

end FileTree

end Scaffold
