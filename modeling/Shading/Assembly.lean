import Shading.ClassFile.Renaming
import Shading.EntryPath
import Shading.Input
import Shading.Settings
import Shading.Zip.Writer

set_option autoImplicit false

namespace Shading

structure DirectoryRecord where
  time? : Option Zip.Timestamp := none
  mode? : Option Nat := none

structure Assembly where
  written : List Zip.NewEntry := []
  files : List Text := []
  directories : List Text := []
  -- What is known of directories; of several records for a path the first one counts.
  records : List (Text × DirectoryRecord) := []
  transformers : List Transformer

/-- The path of a class in the output. A release directory stays, and the ending is that of class
files whatever comes after the first dot. -/
def Chain.mapClassPath (chain : Chain) (path : Text) : Text :=
  let (version, rest) := splitVersion path
  version ++ (chain.mapStem? rest).getD (Chain.stem rest) ++ classSuffix

namespace Assembly

def defaultMode (isDirectory : Bool) : Nat := if isDirectory then 0o755 else 0o644

def permissions (isDirectory : Bool) (mode? : Option Nat) : Nat :=
  match mode? with
  | some mode => mode &&& 0o777
  | none => defaultMode isDirectory

def hasName (a : Assembly) (name : Text) : Bool := a.written.any fun e => e.name == name

-- Writes an entry. An archive does not have two entries of one name.
def write (a : Assembly) (e : Zip.NewEntry) : Except Failure Assembly :=
  if a.hasName e.name then .error (.archive .duplicateName)
  else .ok { a with written := a.written ++ [e] }

def directoryEntry (a : Assembly) (d : EntryPath) : Zip.NewEntry :=
  let record := (a.records.lookup d.path).getD {}
  ⟨d.entryName, true, record.time?.getD {}, permissions true record.mode?, false, []⟩

def addDirectory (a : Assembly) (d : EntryPath) : Except Failure Assembly :=
  if a.directories.contains d.path then .ok a
  else write { a with directories := d.path :: a.directories } (a.directoryEntry d)

def addParents (a : Assembly) (path : Text) : Except Failure Assembly :=
  (EntryPath.parse path).ancestors.reverse.foldlM addDirectory a

def addFile (a : Assembly) (compression : Compression) (path : Text)
    (time? : Option Zip.Timestamp) (mode? : Option Nat) (content : Except FileFault Bytes) :
    Except Failure Assembly := do
  let a ← a.addParents path
  if a.hasName path then throw (.archive .duplicateName)
  match content with
  | .error e => throw (.content e)
  | .ok content =>
      a.write ⟨path, false, time?.getD {}, permissions false mode?, compression == .deflated,
        content⟩

def recordDirectory (a : Assembly) (chain : Chain) (e : SourceEntry) : Assembly :=
  { a with records := a.records ++ [(chain.mapPath e.path, ⟨e.time?, e.mode?⟩)] }

def claim (a : Assembly) (path : Text) (add : Assembly → Except Failure Assembly) :
    Except Failure Assembly :=
  if a.files.contains path then .ok a else add { a with files := path :: a.files }

def relocated (chain : Chain) (e : SourceEntry) : Except Failure Bytes :=
  match e.content with
  | .error fault => .error (.content fault)
  | .ok content => (ClassFile.relocate chain content).mapError (.classFile e.path)

def addClass (task : Task) (a : Assembly) (e : SourceEntry) : Except Failure Assembly :=
  let target := task.chain.mapClassPath e.path
  a.claim target fun a => do
    let content ← relocated task.chain e
    a.addFile task.compression target e.time? none (.ok content)

def transform (task : Task) (a : Assembly) (e : SourceEntry) : Except Failure Assembly :=
  match e.content with
  | .error fault => .error (.content fault)
  | .ok content =>
      let target := task.chain.mapPath e.path
      .ok { a with
        transformers := a.transformers.map fun t =>
          if t.claims e.path then t.take task.chain target content else t }

def copy (task : Task) (a : Assembly) (e : SourceEntry) : Except Failure Assembly :=
  let target := task.chain.mapPath e.path
  a.claim target fun a => a.addFile task.compression target e.time? e.mode? e.content

def isClass (task : Task) (path : Text) : Bool :=
  !task.chain.isEmpty && (EntryPath.parse path).isClassFile

def isClaimed (a : Assembly) (path : Text) : Bool := a.transformers.any fun t => t.claims path

def visit (task : Task) (a : Assembly) (e : SourceEntry) : Except Failure Assembly :=
  if e.isDirectory then .ok (a.recordDirectory task.chain e)
  else if task.exclusions.excludes e.path then .ok a
  else if isClass task e.path then addClass task a e
  else if a.isClaimed e.path then transform task a e
  else copy task a e

def step (task : Task) (a : Assembly) : Event → Except Failure Assembly
  | .input _ | .archive _ => .ok a
  | .entry e input => (visit task a e).mapError (Failure.inEntry e.path input)
  | .failure f => .error f

def addCollected (task : Task) (a : Assembly) (collected : Text × Bytes) :
    Except Failure Assembly :=
  a.claim collected.1 fun a =>
    a.addFile task.compression collected.1 none none (.ok collected.2)

def finish (task : Task) (a : Assembly) : Except Failure Assembly :=
  (a.transformers.flatMap Transformer.output).foldlM (addCollected task) a

def start (task : Task) : Assembly := { transformers := task.transformers }

def run (task : Task) (events : List Event) : Except Failure (List Zip.NewEntry) := do
  let a ← events.foldlM (step task) (start task)
  return (← finish task a).written

end Assembly

def Task.assemble (task : Task) (fs : FileSystem) : Except Failure (List Zip.NewEntry) :=
  Assembly.run task (Event.ofInputs fs task.inputs)

end Shading
