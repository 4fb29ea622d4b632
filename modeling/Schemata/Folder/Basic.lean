import Schemata.Folder.Path
import Schemata.SystemError

/-! # Folders

A folder is what a program can see of a file system from its working directory: files and
directories, each at a place. Paths are followed part by part, and every step that fails has its
cause. -/

namespace Schemata

/-- A directory from which places are reckoned. -/
inductive Anchor where
  /-- The directory so many levels above the working directory, which itself is level zero. -/
  | above (levels : Nat)
  /-- The root directory. -/
  | root
  deriving DecidableEq, Repr

/-- A place: the names that lead to it from an anchor. -/
structure Place where
  /-- Where the names start. -/
  anchor : Anchor
  /-- The names, from the anchor down. -/
  names : List String
  deriving DecidableEq, Repr

namespace Place

/-- The working directory. -/
def working : Place := ⟨.above 0, []⟩

/-- The place of a given name in a directory. -/
def child (p : Place) (name : String) : Place := ⟨p.anchor, p.names ++ [name]⟩

/-- The directory that a directory is in. The root is in itself. -/
def up (p : Place) : Place :=
  match p.names, p.anchor with
  | [], .above levels => ⟨.above (levels + 1), []⟩
  | [], .root => p
  | names, anchor => ⟨anchor, names.dropLast⟩

end Place

/-- What stands at a place. -/
inductive Node where
  /-- A directory. -/
  | directory
  /-- A file with its content. -/
  | file (content : ByteArray)

/-- The files and directories that can be seen. Every anchor is a directory. -/
structure Folder where
  /-- What stands at the places other than the anchors. -/
  nodes : List (Place × Node)

namespace Folder

/-- The folder without files. -/
def empty : Folder := ⟨[]⟩

/-- What stands at a place. -/
def node? (f : Folder) (p : Place) : Option Node :=
  if p.names.isEmpty then some .directory else f.nodes.lookup p

/-- Put a node at a place, in the stead of what stood there. -/
def put (f : Folder) (p : Place) (node : Node) : Folder :=
  ⟨(p, node) :: f.nodes.filter fun entry => entry.1 != p⟩

/-- The longest that a part of a path may be, in bytes. -/
def maxPart : Nat := 255

/-- The longest that a path may be, in bytes. -/
def maxPath : Nat := 4095

/-- Where one part of a path leads from a directory. The name need not stand for anything. -/
def step (p : Place) (part : String) : Except SystemError Place :=
  if part = "." then .ok p
  else if part = ".." then .ok p.up
  else if maxPart < part.utf8ByteSize then .error .nameTooLong
  else .ok (p.child part)

/-- Where the parts of a path lead, each of them a directory. -/
def enter (f : Folder) (p : Place) : List String → Except SystemError Place
  | [] => .ok p
  | part :: rest => do
      let q ← step p part
      match f.node? q with
      | some .directory => f.enter q rest
      | some (.file _) => throw .notDirectory
      | none => throw .notFound

/-- Where the parts of a path lead. All but the last must be directories. -/
def resolveParts (f : Folder) (start : Place) (parts : List String) : Except SystemError Place := do
  let p ← f.enter start parts.dropLast
  match parts.getLast? with
  | some last => step p last
  | none => return p

/-- The directory from which a path is followed. A text that cannot be a path is refused before any
part of it is looked at. -/
def start (path : String) : Except SystemError Place :=
  if path.toList.contains '\x00' then .error .nulInPath
  else if path.isEmpty then .error .notFound
  else if maxPath < path.utf8ByteSize then .error .nameTooLong
  else if Path.isAbsolute path then .ok ⟨.root, []⟩
  else .ok .working

/-- Where a path leads. -/
def resolve (f : Folder) (path : String) : Except SystemError Place := do
  f.resolveParts (← start path) (Path.parts path)

/-- The content of the file that a path leads to. -/
def read (f : Folder) (path : String) : Except SystemError ByteArray := do
  let p ← f.resolve path
  match f.node? p with
  | none => throw .notFound
  | some .directory => throw .isDirectory
  | some (.file content) => if Path.endsWithSlash path then throw .notDirectory else return content

/-- Create the file that a path leads to, or replace its content. -/
def write (f : Folder) (path : String) (content : ByteArray) : Except SystemError Folder := do
  if Path.endsWithSlash path then
    let _ ← f.enter (← start path) (Path.parts path).dropLast
    throw .isDirectory
  let p ← f.resolve path
  match f.node? p with
  | some .directory => throw .isDirectory
  | _ => return f.put p (.file content)

/-- Make one directory. -/
def makeDirectory (f : Folder) (start : Place) (parts : List String) :
    Except SystemError Folder := do
  let p ← f.resolveParts start parts
  match f.node? p with
  | some _ => throw .exists
  | none => return f.put p .directory

/-- Make a directory unless it is there already. -/
def ensureDirectory (f : Folder) (start : Place) (parts : List String) :
    Except SystemError Folder :=
  match f.makeDirectory start parts with
  | .ok made => .ok made
  | .error e =>
      match f.enter start parts with
      | .ok _ => .ok f
      | .error _ => .error e

/-- What a change left behind that may have stopped halfway: what it made until then stays. -/
abbrev Outcome := Folder × Except SystemError Unit

/-- The outcome of a change that is made as a whole or not at all. -/
def Outcome.ofExcept (f : Folder) : Except SystemError Folder → Outcome
  | .ok changed => (changed, .ok ())
  | .error e => (f, .error e)

/-- A change and, when it went through, a further one. -/
def Outcome.andThen (o : Outcome) (next : Folder → Outcome) : Outcome :=
  match o with
  | (f, .ok ()) => next f
  | (f, .error e) => (f, .error e)

/-- Make a directory and those that it is in. One that is there already is left as it is. The last
part is given apart, and the parts before it are listed backwards. -/
def makeDirectories (f : Folder) (start : Place) : List String → Outcome
  | [] => (f, .ok ())
  | last :: before =>
      let parts := (last :: before).reverse
      match f.makeDirectory start parts with
      -- Only a missing parent is a reason to make the parents and try again.
      | .error .notFound =>
          (f.makeDirectories start before).andThen fun f =>
            .ofExcept f (f.ensureDirectory start parts)
      | _ => .ofExcept f (f.ensureDirectory start parts)

/-- Make the directory that a path leads to and those that it is in. The empty path asks for
none. -/
def makePath (f : Folder) (path : String) : Outcome :=
  if path.isEmpty then (f, .ok ())
  else
    match start path with
    | .ok p => f.makeDirectories p (Path.components path).reverse
    | .error e => (f, .error e)

/-- Create a file, or empty it, and make the directories that it is in. The directories are made
first, so their path is the first to be refused. -/
def createEmpty (f : Folder) (path : String) : Outcome :=
  (match Path.parent? path with
    | some parent => f.makePath parent
    | none => (f, .ok ())).andThen fun f => .ofExcept f (f.write path .empty)

/-- The folder that holds files under given paths, with the directories that they are in. -/
def ofFiles (files : List (String × ByteArray)) : Folder :=
  files.foldl
    (fun f file =>
      ((f.createEmpty file.1).andThen fun f => .ofExcept f (f.write file.1 file.2)).1)
    .empty

end Folder

end Schemata
