import Shading.Assembly

set_option autoImplicit false

namespace Shading

def Item.privateFile (content : Bytes) : Item := ⟨.file content, 0o600, 0⟩

def FileSystem.withTemporary (fs : FileSystem) (place : Location) : FileSystem :=
  fs.put place (Item.privateFile [])

namespace Task

def workDirectory (task : Task) : Text :=
  match Path.parent? task.destination with
  | none | some [] => ['.']
  | some parent => parent

def prepare (task : Task) (fs : FileSystem) : Except Failure Location × FileSystem :=
  let directory := task.workDirectory
  match fs.makeDirectories directory.length directory with
  | (.error e, fs) => (.error (.unwritable directory e), fs)
  | (.ok (), fs) => ((fs.temporaryPlace directory).mapError (.unwritable directory), fs)

def buildAt (task : Task) (pack : List Zip.NewEntry → Except Failure Bytes) (temporary : Location)
    (fs : FileSystem) : Except Failure Unit × FileSystem :=
  let working := fs.withTemporary temporary
  match task.assemble working >>= pack with
  | .error f => (.error f, working.remove temporary)
  | .ok archive =>
      match working.movePlace task.destination with
      | .error e => (.error (.unwritable task.destination e), working.remove temporary)
      | .ok place => (.ok (), (working.remove temporary).put place (Item.privateFile archive))

-- Writing the archive may fail as well, so the build is the same for every way to do that.
def buildWith (task : Task) (pack : List Zip.NewEntry → Except Failure Bytes) (fs : FileSystem) :
    Except Failure Unit × FileSystem :=
  match task.prepare fs with
  | (.error f, fs) => (.error f, fs)
  | (.ok temporary, fs) => task.buildAt pack temporary fs

def packed (entries : List Zip.NewEntry) : Except Failure Bytes := .ok (Zip.write entries)

def build (task : Task) (fs : FileSystem) : Except Failure Unit × FileSystem := task.buildWith packed fs

end Task

end Shading
