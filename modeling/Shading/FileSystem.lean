import Shading.Failure
import Shading.Path

set_option autoImplicit false

namespace Shading

abbrev Location := List Text

inductive Node where
  | file (content : Bytes)
  | directory
  | link (target : Text)
deriving DecidableEq, Repr

structure Item where
  node : Node
  mode : Nat
  modified : Int := 0
deriving DecidableEq, Repr

namespace Item

def isDirectory (item : Item) : Bool := item.node == .directory

def isReadable (item : Item) : Bool := item.mode &&& 0o400 != 0

def isWritable (item : Item) : Bool := item.mode &&& 0o200 != 0

def isSearchable (item : Item) : Bool := item.mode &&& 0o100 != 0

def newDirectory : Item := ⟨.directory, 0o755, 0⟩

end Item

structure FileSystem where
  -- The items. The root is there even if it is not listed.
  items : List (Location × Item) := []
  current : Location := []
deriving DecidableEq, Repr

namespace FileSystem

def item? (fs : FileSystem) (place : Location) : Option Item :=
  match fs.items.lookup place with
  | some item => some item
  | none => if place = [] then some Item.newDirectory else none

def putItem (place : Location) (item : Item) : List (Location × Item) → List (Location × Item)
  | [] => [(place, item)]
  | (other, old) :: rest =>
      if other = place then (place, item) :: rest else (other, old) :: putItem place item rest

def put (fs : FileSystem) (place : Location) (item : Item) : FileSystem :=
  { fs with items := putItem place item fs.items }

def remove (fs : FileSystem) (place : Location) : FileSystem :=
  { fs with items := fs.items.filter fun entry => entry.1 != place }

def namesIn (fs : FileSystem) (place : Location) : List Text :=
  let names := fs.items.filterMap fun (other, _) =>
    match other.getLast? with
    | some name => if other.dropLast = place then some name else none
    | none => none
  names.mergeSort fun a b => !Text.before b a

def linkLimit : Nat := 40

def nameLimit : Nat := 255

-- The names of a path. A slash at the end asks for a directory, as a final `.` does.
def pathNames (path : Text) : List Text :=
  Text.segments path ++ if Text.endsWith ['/'] path then [['.']] else []

def startFrom (place : Location) (path : Text) : Location :=
  if Text.startsWith ['/'] path then [] else place

def checkDirectory (fs : FileSystem) (place : Location) : Except FileFault Unit :=
  match fs.item? place with
  | none => .error .notFound
  | some item =>
      if !item.isDirectory then .error .notADirectory
      else if !item.isSearchable then .error .permissionDenied
      else .ok ()

def walk (fs : FileSystem) (followLast : Bool) (links : Nat) (place : Location)
    (names : List Text) : Except FileFault Location :=
  match names with
  | [] => .ok place
  | name :: rest =>
      match fs.checkDirectory place with
      | .error e => .error e
      | .ok () =>
          if name = ['.'] then walk fs followLast links place rest
          else if name = ['.', '.'] then walk fs followLast links place.dropLast rest
          else if nameLimit < Text.utf8Size name then .error .nameTooLong
          else
            match fs.item? (place ++ [name]) with
            | none => .error .notFound
            | some ⟨.link target, _, _⟩ =>
                if rest.isEmpty && !followLast then .ok (place ++ [name])
                else
                  match links with
                  | 0 => .error .tooManyLinks
                  | links + 1 =>
                      walk fs followLast links (startFrom place target) (pathNames target ++ rest)
            | some _ => walk fs followLast links (place ++ [name]) rest
termination_by (links, names.length)

def resolve (fs : FileSystem) (followLast : Bool) (path : Text) : Except FileFault Location :=
  if path = [] then .error .notFound
  else if path.contains '\x00' then .error .unusableName
  else fs.walk followLast linkLimit (startFrom fs.current path) (pathNames path)

def find (fs : FileSystem) (followLast : Bool) (path : Text) :
    Except FileFault (Location × Item) := do
  let place ← fs.resolve followLast path
  match fs.item? place with
  | some item => return (place, item)
  | none => throw .notFound

def isDirectory (fs : FileSystem) (path : Text) : Bool :=
  match fs.find true path with
  | .ok (_, item) => item.isDirectory
  | .error _ => false

def openItem (fs : FileSystem) (path : Text) : Except FileFault Item := do
  let (_, item) ← fs.find true path
  if item.isReadable then return item else throw .permissionDenied

def contentOf (item : Item) : Except FileFault Bytes :=
  match item.node with
  | .file content => .ok content
  | _ => .error .isADirectory

def contentAt (fs : FileSystem) (path : Text) : Except FileFault Bytes := do
  contentOf (← fs.openItem path)

-- The location in which something can be put at the end of a path, whether or not there is
-- something already.
def targetPlace (fs : FileSystem) (path : Text) : Except FileFault Location := do
  if path = [] then throw .notFound
  if path.contains '\x00' then throw .unusableName
  let names := Text.segments path
  let parent ← fs.walk true linkLimit (startFrom fs.current path) names.dropLast
  fs.checkDirectory parent
  match names.getLast? with
  | none => throw .busy
  | some name =>
      if name = ['.'] ∨ name = ['.', '.'] then throw .busy
      if nameLimit < Text.utf8Size name then throw .nameTooLong
      return parent ++ [name]

def checkWritable (fs : FileSystem) (place : Location) : Except FileFault Unit :=
  match fs.item? place.dropLast with
  | some item => if item.isWritable then .ok () else .error .permissionDenied
  | none => .error .notFound

def makeDirectory (fs : FileSystem) (path : Text) : Except FileFault FileSystem :=
  match fs.targetPlace path with
  | .error .busy => .error .alreadyExists
  | .error e => .error e
  | .ok place => do
      if (fs.item? place).isSome then throw .alreadyExists
      fs.checkWritable place
      return fs.put place Item.newDirectory

-- Creates a directory and those around it that are missing; there are no more than `fuel` of them.
-- What has been created stays, also when a later one fails.
def makeDirectories (fuel : Nat) (path : Text) (fs : FileSystem) :
    Except FileFault Unit × FileSystem :=
  if path = [] then (.ok (), fs)
  else
    match fs.makeDirectory path, fuel, Path.parent? path with
    | .ok fs, _, _ => (.ok (), fs)
    | .error .notFound, fuel + 1, some parent =>
        match makeDirectories fuel parent fs with
        | (.error e, fs) => (.error e, fs)
        | (.ok (), fs) =>
            match fs.makeDirectory path with
            | .ok fs => (.ok (), fs)
            | .error e => (if fs.isDirectory path then .ok () else .error e, fs)
    | .error e, _, _ => (if fs.isDirectory path then .ok () else .error e, fs)

-- The names that temporary files may have. There is one more of them than there are items.
def temporaryNames (fs : FileSystem) : List Text :=
  (List.range (fs.items.length + 1)).map fun n => ".tmp".toList ++ Text.ofNat n

def temporaryPlace (fs : FileSystem) (directory : Text) : Except FileFault Location := do
  let directory ← fs.resolve true (Path.child directory ['.'])
  let candidates := fs.temporaryNames.map fun name => directory ++ [name]
  match candidates.find? fun place => (fs.item? place).isNone with
  | none => throw .alreadyExists
  | some place =>
      fs.checkWritable place
      return place

-- Where a file can be moved to so that it is found at a path. A directory is not replaced.
def movePlace (fs : FileSystem) (path : Text) : Except FileFault Location := do
  let place ← fs.targetPlace path
  if Text.endsWith ['/'] path then throw .notADirectory
  fs.checkWritable place
  match fs.item? place with
  | some item => if item.isDirectory then throw .isADirectory else return place
  | none => return place

end FileSystem

end Shading
