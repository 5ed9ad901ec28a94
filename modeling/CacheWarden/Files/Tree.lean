import CacheWarden.Files.Path
import CacheWarden.Table
import CacheWarden.Text.Utf8

/-!
# File trees

A file system as a value: directories and files by their place below the root, and a working
directory where relative paths start. The operations are those a run needs: reading a file as text,
and appending to a file, which makes the file and the directories above it where they are missing.
Each way to fail is an `IoFailure`.
-/

namespace CacheWarden

/-- Why a file operation fails. -/
inductive IoFailure where
  | notFound
  | notADirectory
  | isADirectory
  | fileExists
  | nameTooLong
  | nulCharacter
  | invalidText
  | other (reason : String)
  deriving DecidableEq, Repr

/-- The text of a failure. -/
def IoFailure.message : IoFailure → String
  | notFound => "No such file or directory (os error 2)"
  | notADirectory => "Not a directory (os error 20)"
  | isADirectory => "Is a directory (os error 21)"
  | fileExists => "File exists (os error 17)"
  | nameTooLong => "File name too long (os error 36)"
  | nulCharacter => "file name contained an unexpected NUL byte"
  | invalidText => "stream did not contain valid UTF-8"
  | other reason => reason

/-- What stands at a place of a file tree. -/
inductive FileNode where
  | directory
  | file (content : ByteArray)

/-- A place below the root, as the names on the way to it. -/
abbrev Place := List String

/-- Directories and files by their place, and the place where relative paths start. -/
structure FileTree where
  nodes : Table Place FileNode
  workingDirectory : Place

namespace FileTree

/-- The tree that holds nothing but the working directory. -/
def empty (workingDirectory : Place) : FileTree where
  nodes := Table.ofList
    ((List.range workingDirectory.length).map fun n => (workingDirectory.take (n + 1), .directory))
  workingDirectory

/-- What stands at a place; the root is a directory. -/
def node? (tree : FileTree) (place : Place) : Option FileNode :=
  if place.isEmpty then some .directory else tree.nodes.get? place

/-- The tree with a node put at a place. -/
def put (tree : FileTree) (place : Place) (node : FileNode) : FileTree :=
  { tree with nodes := tree.nodes.insert place node }

/-- Where one step leads from a directory. -/
def step (place : Place) (name : String) : Except IoFailure Place :=
  if name == "." then .ok place
  else if name == ".." then .ok place.dropLast
  else if 255 < name.utf8ByteSize then .error .nameTooLong
  else .ok (place ++ [name])

/-- Follows steps from a directory. Every step but the last has to lead to a directory; the last
    one may lead to anything, or to a place where nothing stands. -/
def follow (tree : FileTree) (place : Place) : List String → Except IoFailure Place
  | [] => .ok place
  | [name] => step place name
  | name :: rest =>
      match step place name with
      | .error e => .error e
      | .ok next =>
          match tree.node? next with
          | none => .error .notFound
          | some (.file _) => .error .notADirectory
          | some .directory => tree.follow next rest

/-- Where a path starts. -/
def start (tree : FileTree) (path : FilePath) : Place :=
  if path.absolute then [] else tree.workingDirectory

/-- The path that a text writes, if a file system can take it at all. -/
def checkPath (text : String) : Except IoFailure FilePath :=
  if text.toList.contains '\x00' then .error .nulCharacter
  else if text.isEmpty then .error .notFound
  else if 4095 < text.utf8ByteSize then .error .nameTooLong
  else .ok (FilePath.ofString text)

/-- The place a path leads to. -/
def locate (tree : FileTree) (path : FilePath) : Except IoFailure Place :=
  tree.follow (tree.start path) path.steps

/-- The bytes of the file that a path leads to. -/
def readBytes (tree : FileTree) (text : String) : Except IoFailure ByteArray :=
  match checkPath text with
  | .error e => .error e
  | .ok path =>
      match tree.locate path with
      | .error e => .error e
      | .ok place =>
          match tree.node? place with
          | none => .error .notFound
          | some .directory => .error .isADirectory
          | some (.file content) =>
              if path.wantsDirectory then .error .notADirectory else .ok content

/-- The text of the file that a path leads to. -/
def readText (tree : FileTree) (text : String) : Except IoFailure String :=
  match tree.readBytes text with
  | .error e => .error e
  | .ok bytes =>
      match Text.Utf8.decode? bytes with
      | some s => .ok s
      | none => .error .invalidText

/-- Whether the steps lead to a directory. -/
def isDirectory (tree : FileTree) (place : Place) (steps : List String) : Bool :=
  match tree.follow place steps with
  | .ok target => match tree.node? target with
    | some .directory => true
    | _ => false
  | .error _ => false

/-- Makes one directory, where nothing may stand yet. -/
def makeDirectory (tree : FileTree) (place : Place) (steps : List String) :
    Except IoFailure FileTree :=
  match tree.follow place steps with
  | .error e => .error e
  | .ok target =>
      match tree.node? target with
      | some _ => .error .fileExists
      | none => .ok (tree.put target .directory)

/-- Makes the directory that the reversed steps lead to, and those above it that are missing. The
    second component is the tree afterwards, also where that fails half-way. -/
def makeDirectories (tree : FileTree) (place : Place) :
    List String → Except IoFailure Unit × FileTree
  | [] => (.ok (), tree)
  | name :: above =>
      let steps := (name :: above).reverse
      match tree.makeDirectory place steps with
      | .ok tree => (.ok (), tree)
      | .error .notFound =>
          match tree.makeDirectories place above with
          | (.error e, tree) => (.error e, tree)
          | (.ok (), tree) =>
              match tree.makeDirectory place steps with
              | .ok tree => (.ok (), tree)
              | .error e => (if tree.isDirectory place steps then .ok () else .error e, tree)
      | .error e => (if tree.isDirectory place steps then .ok () else .error e, tree)

/-- Appends to the file that a path leads to, which is made if it is missing. -/
def appendFile (tree : FileTree) (text : String) (bytes : ByteArray) :
    Except IoFailure FileTree :=
  match checkPath text with
  | .error e => .error e
  | .ok path =>
      match tree.locate path with
      | .error e => .error e
      | .ok place =>
          match tree.node? place with
          | some .directory => .error .isADirectory
          | some (.file content) =>
              if path.wantsDirectory then .error .notADirectory
              else .ok (tree.put place (.file (content ++ bytes)))
          | none =>
              if path.wantsDirectory then .error .isADirectory
              else .ok (tree.put place (.file bytes))

/-- Appends to the file that a path leads to, after making the directories above it. -/
def append (tree : FileTree) (text : String) (bytes : ByteArray) :
    Except IoFailure Unit × FileTree :=
  let path := FilePath.ofString text
  let above := path.names.dropLast
  let (made, tree) :=
    if above.any (·.toList.contains '\x00') then (.error .nulCharacter, tree)
    else tree.makeDirectories (tree.start path) above.reverse
  match made with
  | .error e => (.error e, tree)
  | .ok () =>
      match tree.appendFile text bytes with
      | .error e => (.error e, tree)
      | .ok tree => (.ok (), tree)

end FileTree

end CacheWarden
