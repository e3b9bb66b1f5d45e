import StreamWindow.Files

/-! A file system in memory: a tree of files and directories. -/

namespace StreamWindow

inductive FileNode
  | file (content : ByteArray)
  | directory (entries : List (String × FileNode))

namespace FileNode

def put (name : String) (node : FileNode) : List (String × FileNode) → List (String × FileNode)
  | [] => [(name, node)]
  | entry :: entries =>
      if entry.1 = name then (name, node) :: entries else entry :: put name node entries

end FileNode

def checkName (name : String) : Except FileError Unit :=
  if 255 < name.utf8ByteSize then .error .nameTooLong else .ok ()

/-- A node of a tree, and the directories that it lies in, inmost first. Each comes with the name
that leads inwards. -/
structure Spot where
  node : FileNode
  around : List (String × List (String × FileNode)) := []

namespace Spot

def place (spot : Spot) : List String :=
  (spot.around.map Prod.fst).reverse

def up (spot : Spot) : Spot :=
  match spot.around with
  | [] => spot
  | (name, entries) :: around => ⟨.directory (FileNode.put name spot.node entries), around⟩

def root (spot : Spot) : FileNode :=
  spot.around.foldl (fun node (name, entries) => .directory (FileNode.put name node entries))
    spot.node

inductive Passage
  | existing
  | making
  /-- One of them has been made, so that the names after it are those of directories to make. -/
  | made
  deriving DecidableEq, Repr

def Passage.obstacle : Passage → FileError
  | made => .alreadyExists
  | existing => .notADirectory
  | making => .notADirectory

def walk (passage : Passage) : Spot → List String → Except FileError Spot
  | spot, [] => .ok spot
  | spot, name :: path =>
      match spot.node with
      | .file _ => .error passage.obstacle
      | .directory entries =>
          if Path.leadsNowhere name then walk passage spot path
          else if name = ".." then walk passage spot.up path
          else do
            checkName name
            match entries.lookup name with
            | some node => walk passage ⟨node, (name, entries) :: spot.around⟩ path
            | none =>
                if passage = .existing then .error .notFound
                else walk .made ⟨.directory [], (name, entries) :: spot.around⟩ path

end Spot

structure FileTree where
  root : FileNode := .directory []
  workingDirectory : List String := []

namespace FileTree

def start (tree : FileTree) (path : String) : Spot :=
  let root : Spot := { node := tree.root }
  if Path.isAbsolute path then root
  else (root.walk .existing tree.workingDirectory).toOption.getD root

def checkPath (path : String) : Except FileError Unit :=
  if path.toList.contains '\x00' then .error .nulInName
  else if path = "" then .error .notFound
  else .ok ()

def find (tree : FileTree) (path : String) : Except FileError Spot := do
  checkPath path
  (tree.start path).walk .existing (path.splitOn "/")

def checkLength (path : String) : Except FileError Unit := do
  checkPath path
  if 4096 ≤ path.utf8ByteSize then .error .nameTooLong else return ()

def locate (tree : FileTree) (path : String) : Except FileError Spot := do
  checkLength path
  tree.find path

def absolute (place : List String) : String :=
  "/" ++ "/".intercalate place

def isFile (tree : FileTree) (path : String) : Bool :=
  match tree.locate path with
  | .ok ⟨.file _, _⟩ => true
  | _ => false

def readText (tree : FileTree) (path : String) : Except FileError String := do
  match (← tree.locate path).node with
  | .directory _ => .error .isADirectory
  | .file content =>
      match String.fromUTF8? content with
      | some text => .ok text
      | none => .error .notUnicode

def createDirectories (tree : FileTree) (path : String) : Except FileError FileTree := do
  checkLength path
  let spot ← (tree.start path).walk .making (path.splitOn "/")
  match spot.node with
  | .directory _ => return { tree with root := spot.root }
  | .file _ => .error .alreadyExists

/-- Puts a file where a path leads to, in a directory that exists. The content is made from what
the file holds already, if it is there. -/
def change (tree : FileTree) (path : String) (content : Option ByteArray → ByteArray) :
    Except FileError FileTree := do
  checkLength path
  let names := Path.names path
  let spot ← (tree.start path).walk .existing names.dropLast
  match spot.node, names.getLast? with
  | .directory entries, some name => do
      checkName name
      let found ← match entries.lookup name with
        | none => pure none
        | some (.file content) => pure (some content)
        | some (.directory _) => .error .isADirectory
      let entries := FileNode.put name (.file (content found)) entries
      return { tree with root := Spot.root ⟨.directory entries, spot.around⟩ }
  | _, _ => .error .notADirectory

def openFile (tree : FileTree) (path : String) : Except FileError FileTree :=
  tree.change path fun found => found.getD ByteArray.empty

def append (tree : FileTree) (path text : String) : FileTree :=
  ((tree.change path fun found => found.getD ByteArray.empty ++ text.toUTF8).toOption).getD tree

def write (tree : FileTree) (path : String) (content : ByteArray) : Except FileError FileTree := do
  let tree ← match Path.parent? path with
    | none => pure tree
    | some "" => pure tree
    | some parent => tree.createDirectories parent
  tree.change path fun _ => content

def inDirectory (place : List String) : FileTree :=
  { root := ({ node := .directory [], around := place.reverse.map (·, []) } : Spot).root
    workingDirectory := place }

def epoch : String := "1970-01-01T00:00:00.000000Z"

instance : FileHost (StateM FileTree) where
  workingDirectory tree := (absolute tree.workingDirectory, tree)
  resolve path tree := ((tree.find path).map fun spot => absolute spot.place, tree)
  isFile path tree := (tree.isFile path, tree)
  readText path tree := (tree.readText path, tree)
  createDirectories path tree :=
    match tree.createDirectories path with
    | .ok changed => (.ok (), changed)
    | .error cause => (.error cause, tree)
  openFile path tree :=
    match tree.openFile path with
    | .ok changed => (true, changed)
    | .error _ => (false, tree)
  append path text tree := ((), tree.append path text)
  timestamp tree := (epoch, tree)

end FileTree

end StreamWindow
