import Shading.CommandLine

set_option autoImplicit false

namespace Shading.Program

def locate (current : Location) (path : Text) : Location :=
  (Text.segments path).foldl
    (fun place name =>
      if name = ['.'] then place else if name = ['.', '.'] then place.dropLast else place ++ [name])
    (FileSystem.startFrom current path)

def enclose (fs : FileSystem) (path : Text) (item : Item) : FileSystem :=
  let place := locate fs.current path
  let around := (List.range place.length).map fun n => place.take n
  (around.foldl (fun fs directory => fs.put directory Item.newDirectory) fs).put place item

def isDirectoryCode : UInt32 := 21

def load (fs : FileSystem) (path : Text) : IO FileSystem := do
  try
    let content ← IO.FS.readBinFile (String.ofList path)
    return enclose fs path ⟨.file content.toList, 0o644, 0⟩
  catch
    | .inappropriateType _ code _ =>
        return if code = isDirectoryCode then enclose fs path Item.newDirectory else fs
    | .permissionDenied .. => return enclose fs path ⟨.file [], 0, 0⟩
    | _ => return fs

def absolute (place : Location) : Text := '/' :: Text.join ['/'] place

def onTheWay (current : Location) (target? : Option Text) : List Text :=
  match target? with
  | none => []
  | some path =>
      let place := locate current path
      (List.range place.length).map fun n => absolute (place.take (n + 1))

-- Writes what differs from the file system before. A file is replaced as a whole.
def store (before after : FileSystem) : IO Unit := do
  for (place, item) in after.items do
    if before.item? place != some item then
      let path := String.ofList (absolute place)
      match item.node with
      | .file content =>
          let draft := path ++ ".draft"
          IO.FS.writeBinFile draft ⟨content.toArray⟩
          IO.setAccessRights draft { user := { read := true, write := true } }
          IO.FS.rename draft path
      | .directory => IO.FS.createDirAll path
      | .link _ => pure ()

def perform (detailed : Bool) (request : Request) : IO Outcome := do
  let here := Text.segments (toString (← IO.currentDir)).toList
  let start : FileSystem := { current := here }
  let start := start.put [] Item.newDirectory
  let start := enclose start ['.'] Item.newDirectory
  let before ← (CommandLine.settingsFile? request).toList.foldlM load start
  let sources := CommandLine.sources before request
  let before ← sources.foldlM load before
  let before ← (onTheWay here (CommandLine.target? before request)).foldlM load before
  match sources.find? before.isDirectory with
  | some path =>
      return CommandLine.failed [] ⟨"cannot list directory ".toList ++ path, []⟩
  | none =>
      let (outcome, after) := CommandLine.answer detailed before request
      store before after
      return outcome

end Shading.Program

def main (arguments : List String) : IO UInt32 := do
  let detailed := (← IO.getEnv "SHADING_LOG") == some "debug"
  let outcome ←
    match Shading.Request.parse? (arguments.map String.toList) with
    | none => pure Shading.CommandLine.unusable
    | some request => Shading.Program.perform detailed request
  IO.print (String.ofList outcome.output)
  IO.eprint (String.ofList outcome.errors)
  return outcome.exitCode.toUInt32
