import Shading.CommandLine.Request
import Shading.Remark
import Shading.Settings.File

set_option autoImplicit false

namespace Shading

structure Outcome where
  -- Zero after success, one after a failure, two when the command line cannot be read.
  exitCode : Nat
  output : Text := []
  errors : Text := []
deriving DecidableEq, Repr

structure Report where
  message : Text
  causes : List Text := []

namespace Report

def ofFailure (f : Failure) : Report := ⟨f.message, f.causes⟩

def indented (heading : Text) (text : Text) : Text :=
  let margin := '\n' :: List.replicate heading.length ' '
  heading ++ Text.join margin (Text.split '\n' text)

def causeLines (causes : List Text) : List Text :=
  match causes with
  | [cause] => [indented "    ".toList cause]
  | causes => causes.zipIdx.map fun (cause, n) =>
      let number := Text.ofNat n
      indented (List.replicate (5 - number.length) ' ' ++ number ++ ": ".toList) cause

def lines (r : Report) : List Text :=
  ("Error: ".toList ++ r.message) ::
    if r.causes.isEmpty then [] else [] :: "Caused by:".toList :: causeLines r.causes

end Report

namespace CommandLine

def unlines (lines : List Text) : Text := lines.flatMap fun line => line ++ ['\n']

def shown (level : Level) (remarks : List Remark) : List Text :=
  (Remark.upTo level remarks).map Remark.line

def failed (output : List Text) (r : Report) : Outcome := ⟨1, unlines output, unlines r.lines⟩

def settingsName : Text := "jrepack.toml".toList

def settingsPath? (r : BuildRequest) (fs : FileSystem) : Option Text :=
  match r.settingsPath? with
  | some path => some path
  | none => if (fs.find true settingsName).isOk then some settingsName else none

def readSettings (fs : FileSystem) (path : Text) : Except Failure Settings :=
  match fs.contentAt path with
  | .error e => .error (.unreadable path e)
  | .ok bytes => (SettingsFile.read path bytes).map SettingsFile.settings

def complete (s : Settings) (r : BuildRequest) : Settings :=
  { s with
    inputs := s.inputs ++ r.inputs
    destination := r.output?.getD s.destination
    relocations := s.relocations ++ r.relocations.map RelocationSetting.ofArgument
    exclusions := s.exclusions ++ r.exclusions
    stripComments := s.stripComments || r.stripComments
    resourceIncludes := s.resourceIncludes ++ r.resourceIncludes
    resourceExcludes := s.resourceExcludes ++ r.resourceExcludes
    compression := if r.store then .stored else s.compression
    verbose := s.verbose || r.verbose }

def buildWith (level : Level) (said : List Text) (s : Settings) (fs : FileSystem) :
    Outcome × FileSystem :=
  if s.inputs.isEmpty then
    let advice := "no inputs given. Pass them as arguments or list them in ".toList
    (failed said ⟨advice ++ settingsName, []⟩, fs)
  else
    match s.task with
    | .error p => (failed said (.ofFailure (.pattern p)), fs)
    | .ok task =>
        let remarks := if level = .error then [] else task.remarks fs
        let said := said ++ shown level (s.remarks ++ remarks)
        match task.build fs with
        | (.error f, fs) =>
            let message := "could not create repackaged jar '".toList ++ s.destination ++ ['\'']
            (failed said ⟨message, f.message :: f.causes⟩, fs)
        | (.ok (), fs) =>
            (⟨0, unlines said, unlines ["Wrote ".toList ++ s.destination]⟩, fs)

def build (detailed : Bool) (r : BuildRequest) (fs : FileSystem) : Outcome × FileSystem :=
  let level : Level := if r.verbose then .info else .error
  let buildLevel : Level := if detailed then .debug else level
  match settingsPath? r fs with
  | none => buildWith buildLevel [] (complete {} r) fs
  | some path =>
      let said := shown level [⟨.info, "loading config from ".toList ++ path⟩]
      match readSettings fs path with
      | .error f => (failed said (.ofFailure f), fs)
      | .ok s => buildWith buildLevel said (complete s r) fs

def entryLine (e : Zip.Entry) : Text :=
  let size := Text.ofNat e.size
  List.replicate (10 - size.length) ' ' ++ size ++ "  ".toList ++ e.name

def listEntries (said : List Text) : List (Except Zip.Fault Zip.Entry) → Outcome
  | [] => ⟨0, unlines said.reverse, []⟩
  | .ok e :: rest => listEntries (entryLine e :: said) rest
  | .error fault :: _ => failed said.reverse ⟨fault.message, []⟩

def list (path : Text) (fs : FileSystem) : Outcome :=
  match fs.openItem path with
  | .error e => failed [] ⟨"cannot open ".toList ++ path, e.message :: e.causes⟩
  | .ok item =>
      match FileSystem.contentOf item with
      | .error e =>
          failed [] ⟨"cannot read ".toList ++ path, ["i/o error: ".toList ++ e.message, e.message]⟩
      | .ok bytes =>
          match Zip.read bytes with
          | .error fault => failed [] ⟨"cannot read ".toList ++ path, [fault.message]⟩
          | .ok entries => listEntries [] entries

def settingsFile? : Request → Option Text
  | .build r => some (r.settingsPath?.getD settingsName)
  | _ => none

def settings? (fs : FileSystem) (r : BuildRequest) : Option Settings :=
  match settingsPath? r fs with
  | none => some (complete {} r)
  | some path => (readSettings fs path).toOption.map fun s => complete s r

def sources (fs : FileSystem) : Request → List Text
  | .list path => [path]
  | .build r => ((settings? fs r).map Settings.inputs).getD []
  | _ => []

def target? (fs : FileSystem) : Request → Option Text
  | .build r => (settings? fs r).map Settings.destination
  | _ => none

def usage : Text := "Merge JVM archives into one jar with relocated packages

Usage: jrepack build [OPTIONS] [INPUTS]...
       jrepack list <ARCHIVE>
       jrepack help [COMMAND]

Options of build:
  -o, --output <PATH>             the output jar
  -r, --relocate <FROM[=TO]>      relocate a package
  -e, --exclude <PATTERN>         drop classes
      --filter-exclude <PATTERN>  drop resources
      --filter-include <PATTERN>  keep only some resources
      --strip-service-comments    remove comments from merged service files
      --store                     store entries without compression
  -c, --config <PATH>             the settings file
  -v, --verbose                   report every entry

Options:
  -h, --help                      explain the usage
  -V, --version                   tell the version
".toList

def unusable : Outcome := ⟨2, [], "error: these arguments cannot be used\n\n".toList ++ usage⟩

def answer (detailed : Bool) (fs : FileSystem) : Request → Outcome × FileSystem
  | .help => (⟨0, usage, []⟩, fs)
  | .version => (⟨0, "jrepack 0.1.0\n".toList, []⟩, fs)
  | .list path => (list path fs, fs)
  | .build r => build detailed r fs

/-- Runs the program with its arguments. -/
def run (detailed : Bool) (arguments : List Text) (fs : FileSystem) : Outcome × FileSystem :=
  match Request.parse? arguments with
  | none => (unusable, fs)
  | some request => answer detailed fs request

end CommandLine

end Shading
