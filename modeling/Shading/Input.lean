import Shading.FileSystem
import Shading.Zip.Reader

set_option autoImplicit false

namespace Shading

structure SourceEntry where
  path : Text
  isDirectory : Bool
  time? : Option Zip.Timestamp
  mode? : Option Nat
  size : Nat
  content : Except FileFault Bytes

inductive Finding where
  | entry (e : SourceEntry)
  | archive (e : SourceEntry) (path : Text)
  | failure (f : Failure)

inductive Input where
  | directory (path : Text)
  | archive (path : Text)
  | file (path : Text)
deriving DecidableEq, Repr

def archiveSuffix : Text := ".jar".toList

def isArchiveName (name : Text) : Bool := Text.endsWith archiveSuffix name

namespace SourceEntry

def ofItem (path : Text) (item : Item) : SourceEntry where
  path := path
  isDirectory := item.isDirectory
  time? := Zip.Timestamp.ofUnix? item.modified
  mode? := some (item.mode &&& 0o7777)
  size :=
    match item.node with
    | .file content => content.length
    | _ => 0
  content := FileSystem.contentOf item

-- The entry for an item of a directory tree; a directory in it has nothing of its own.
def ofTreeItem (path : Text) (item : Item) : SourceEntry :=
  if item.isDirectory then { ofItem path item with content := .ok [] } else ofItem path item

def ofArchive (e : Zip.Entry) : SourceEntry where
  path := (e.name.reverse.dropWhile (· == '/')).reverse
  isDirectory := e.isDirectory
  time? := e.time?
  mode? := e.mode?
  size := e.size
  content := e.content

end SourceEntry

namespace Input

def path : Input → Text
  | directory path | archive path | file path => path

def classify (fs : FileSystem) (path : Text) : Except Failure Input :=
  match fs.find true path with
  | .error .notFound => .error (.noInput path)
  | .error e => .error (.unreadable path e)
  | .ok (_, item) =>
      if item.isDirectory then .ok (.directory path)
      else if isArchiveName path then .ok (.archive path)
      else .ok (.file path)

def archiveEntries (fs : FileSystem) (path : Text) : List (Except Failure SourceEntry) :=
  match fs.openItem path with
  | .error e => [.error (.unreadable path e)]
  | .ok item =>
      match FileSystem.contentOf item with
      | .error _ => [.error (.archive .malformed)]
      | .ok bytes =>
          match Zip.read bytes with
          | .error e => [.error (.archive e)]
          | .ok entries =>
              entries.map fun
                | .ok e => .ok (SourceEntry.ofArchive e)
                | .error e => .error (.archive e)

structure Ancestor where
  place : Location
  path : Text

structure Visited where
  place : Location
  item : Item

def follow (fs : FileSystem) (root : Text) (ancestors : List Ancestor) (place : Location)
    (name path : Text) : Except Failure Visited :=
  match fs.walk true FileSystem.linkLimit place [name] with
  | .error e => .error (.unreadable path (.visiting path e))
  | .ok target =>
      match fs.item? target with
      | none => .error (.unreadable path (.visiting path .notFound))
      | some item =>
          if !item.isDirectory then .ok ⟨target, item⟩
          else if !item.isReadable then .error (.unreadable root .permissionDenied)
          else
            match ancestors.find? fun a => a.place == target with
            | some a => .error (.unreadable path (.loop path a.path))
            | none => .ok ⟨target, item⟩

def visit (fs : FileSystem) (root : Text) (ancestors : List Ancestor) (place : Location)
    (name path : Text) : Except Failure Visited :=
  match fs.item? (place ++ [name]) with
  | some ⟨.link _, _, _⟩ => follow fs root ancestors place name path
  | some item =>
      match fs.checkDirectory place with
      | .ok () => .ok ⟨place ++ [name], item⟩
      | .error e => .error (.unreadable path (.visiting path e))
  | none => .error (.unreadable path (.visiting path .notFound))

-- What is found for the names of a directory. `relative` is the path of the directory from the root
-- of the tree; `fuel` bounds the depth.
def findIn (fs : FileSystem) (root : Text) (ancestors : List Ancestor) (place : Location)
    (path relative : Text) (fuel : Nat) : List Finding :=
  match fuel with
  | 0 => []
  | fuel + 1 =>
      if !(fs.item? place).any Item.isReadable then
        [.failure (.unreadable path (.visiting path .permissionDenied))]
      else
        (fs.namesIn place).flatMap fun name =>
          let childPath := Path.child path name
          let childRelative := Path.child relative name
          match visit fs root ancestors place name childPath with
          | .error f => [.failure f]
          | .ok found =>
              let e := SourceEntry.ofTreeItem childRelative found.item
              if e.isDirectory then
                .entry e ::
                  findIn fs root (⟨found.place, childPath⟩ :: ancestors) found.place childPath
                    childRelative fuel
              else if isArchiveName childRelative then [.archive e childPath]
              else if found.item.isReadable then [.entry e]
              else [.failure (.unreadable childPath .permissionDenied)]

-- A directory tree is no deeper than this: every link that is followed leads to another directory,
-- and so does every name after it.
def depthLimit (fs : FileSystem) : Nat := (fs.items.length + 2) * (fs.items.length + 2)

def treeFindings (fs : FileSystem) (root : Text) : List Finding :=
  match fs.find true root with
  | .error e => [.failure (.unreadable root (.visiting root e))]
  | .ok (place, item) =>
      if item.isDirectory then findIn fs root [⟨place, root⟩] place root [] (depthLimit fs) else []

def findings (fs : FileSystem) : Input → List Finding
  | directory root => treeFindings fs root
  | archive path =>
      (archiveEntries fs path).map fun
        | .ok e => .entry e
        | .error f => .failure f
  | file path =>
      match fs.openItem path with
      | .error e => [.failure (.unreadable path e)]
      | .ok item => [.entry (SourceEntry.ofItem ((Path.fileName? path).getD []) item)]

end Input

inductive Event where
  | input (path : Text)
  | archive (name : Text)
  | entry (e : SourceEntry) (input : Text)
  | failure (f : Failure)

namespace Event

-- What happens at a finding in the input at a path. A failure to read an archive in a directory
-- tree belongs to its entry.
def ofFinding (fs : FileSystem) (root : Text) : Finding → List Event
  | .entry e => [.entry e root]
  | .archive outer path =>
      .archive outer.path :: (Input.archiveEntries fs path).map fun
        | .ok e => .entry e path
        | .error f => .failure (f.inEntry outer.path root)
  | .failure f => [.failure f]

def ofInput (fs : FileSystem) (path : Text) : List Event :=
  match Input.classify fs path with
  | .error f => [.failure f]
  | .ok source => .input path :: (source.findings fs).flatMap (ofFinding fs path)

def ofInputs (fs : FileSystem) (paths : List Text) : List Event := paths.flatMap (ofInput fs)

end Event

end Shading
