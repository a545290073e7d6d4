import Shading.Text

set_option autoImplicit false

namespace Shading

inductive Switch where
  | output
  | relocate
  | exclude
  | filterExclude
  | filterInclude
  | stripComments
  | store
  | config
  | verbose
  | help
  | version
deriving DecidableEq, Repr

namespace Switch

def names : List (Text × Switch) := [
  ("output".toList, output), ("relocate".toList, relocate), ("exclude".toList, exclude),
  ("filter-exclude".toList, filterExclude), ("filter-include".toList, filterInclude),
  ("strip-service-comments".toList, stripComments), ("store".toList, store),
  ("config".toList, config), ("verbose".toList, verbose), ("help".toList, help),
  ("version".toList, version)]

def letters : List (Char × Switch) := [
  ('o', output), ('r', relocate), ('e', exclude), ('c', config), ('v', verbose), ('h', help),
  ('V', version)]

def hasValue : Switch → Bool
  | output | relocate | exclude | filterExclude | filterInclude | config => true
  | stripComments | store | verbose | help | version => false

def ofProgram : List Switch := [help, version]

def ofBuild : List Switch :=
  [output, relocate, exclude, filterExclude, filterInclude, stripComments, store, config, verbose,
    help]

def ofList : List Switch := [help]

def ofName? (known : List Switch) (name : Text) : Option Switch :=
  (names.lookup name).filter known.contains

def ofLetter? (known : List Switch) (letter : Char) : Option Switch :=
  (letters.lookup letter).filter known.contains

end Switch

inductive Argument where
  | positional (value : Text)
  | flag (s : Switch)
  | valued (s : Switch) (value : Text)
  | unreadable
deriving DecidableEq, Repr

namespace Argument

structure Reading where
  parts : List Argument
  pending? : Option Switch := none

def readName (known : List Switch) (word : Text) : Reading :=
  let (name, value?) : Text × Option Text :=
    match Text.cutAt? '=' word with
    | some (name, value) => (name, some value)
    | none => (word, none)
  match Switch.ofName? known name, value? with
  | none, _ => ⟨[unreadable], none⟩
  | some s, some value => ⟨[if s.hasValue then valued s value else unreadable], none⟩
  | some s, none => if s.hasValue then ⟨[], some s⟩ else ⟨[flag s], none⟩

def readLetters (known : List Switch) : Text → Reading
  | [] => ⟨[], none⟩
  | letter :: rest =>
      match Switch.ofLetter? known letter with
      | none => ⟨[unreadable], none⟩
      | some s =>
          if s.hasValue then
            match rest with
            | [] => ⟨[], some s⟩
            | '=' :: value => ⟨[valued s value], none⟩
            | value => ⟨[valued s value], none⟩
          else
            let more := readLetters known rest
            ⟨flag s :: more.parts, more.pending?⟩

def readOne (known : List Switch) : Text → Reading
  | '-' :: '-' :: word => readName known word
  | '-' :: letter :: more => readLetters known (letter :: more)
  | value => ⟨[positional value], none⟩

def isSwitch : Text → Bool
  | '-' :: _ :: _ => true
  | _ => false

-- Reads arguments; `pending?` is a switch whose value comes next.
def readAll (known : List Switch) (pending? : Option Switch) : List Text → List Argument
  | [] => if pending?.isSome then [unreadable] else []
  | value :: rest =>
      match pending? with
      | some s =>
          if isSwitch value then [unreadable] else valued s value :: readAll known none rest
      | none =>
          if value = ['-', '-'] then rest.map positional
          else
            let now := readOne known value
            now.parts ++ readAll known now.pending? rest

end Argument

structure BuildRequest where
  inputs : List Text := []
  output? : Option Text := none
  relocations : List Text := []
  exclusions : List Text := []
  resourceExcludes : List Text := []
  resourceIncludes : List Text := []
  stripComments : Bool := false
  store : Bool := false
  settingsPath? : Option Text := none
  verbose : Bool := false
deriving DecidableEq, Repr

-- Adds a part of the command line. Paths are not empty, and nothing that stands for one thing is
-- given twice.
def BuildRequest.add? (r : BuildRequest) : Argument → Option BuildRequest
  | .positional path => if path = [] then none else some { r with inputs := r.inputs ++ [path] }
  | .valued .output path =>
      if path = [] || r.output?.isSome then none else some { r with output? := some path }
  | .valued .config path =>
      if path = [] || r.settingsPath?.isSome then none
      else some { r with settingsPath? := some path }
  | .valued .relocate rule => some { r with relocations := r.relocations ++ [rule] }
  | .valued .exclude pattern => some { r with exclusions := r.exclusions ++ [pattern] }
  | .valued .filterExclude pattern =>
      some { r with resourceExcludes := r.resourceExcludes ++ [pattern] }
  | .valued .filterInclude pattern =>
      some { r with resourceIncludes := r.resourceIncludes ++ [pattern] }
  | .flag .stripComments =>
      if r.stripComments then none else some { r with stripComments := true }
  | .flag .store => if r.store then none else some { r with store := true }
  | .flag .verbose => if r.verbose then none else some { r with verbose := true }
  | _ => none

inductive Request where
  | build (r : BuildRequest)
  | list (archive : Text)
  | help
  | version
deriving DecidableEq, Repr

namespace Request

def ofBuild? (r : BuildRequest) : List Argument → Option Request
  | [] => some (build r)
  | .flag .help :: _ => some help
  | part :: rest => (r.add? part).bind fun r => ofBuild? r rest

def ofList? : List Argument → Option Request
  | .flag .help :: _ => some help
  | .positional (c :: path) :: rest =>
      match rest with
      | [] => some (list (c :: path))
      | .flag .help :: _ => some help
      | _ => none
  | _ => none

def commands : List Text := ["build".toList, "list".toList, "help".toList]

def parse? : List Text → Option Request
  | [] => none
  | first :: rest =>
      if first = "build".toList then ofBuild? {} (Argument.readAll Switch.ofBuild none rest)
      else if first = "list".toList then ofList? (Argument.readAll Switch.ofList none rest)
      else if first = "help".toList then
        if rest = [] ∨ rest.tail = [] ∧ rest.all commands.contains then some help else none
      else
        match (Argument.readOne Switch.ofProgram first).parts with
        | .flag .help :: _ => some help
        | .flag .version :: _ => some version
        | _ => none

end Request

end Shading
