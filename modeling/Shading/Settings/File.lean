import Shading.Settings
import Shading.Toml.Parser

set_option autoImplicit false

namespace Shading

open Toml (Value)

structure Record where
  positional : Bool
  values : List (Text × Value)

namespace Record

def ofValue? (names : List Text) : Value → Option Record
  | .table entries =>
      if entries.all fun entry => names.contains entry.1 then some ⟨false, entries⟩ else none
  | .array items => some ⟨true, names.zip items⟩
  | _ => none

def required? {α : Type} (r : Record) (name : Text) (read : Value → Option α) : Option α :=
  (r.values.lookup name).bind read

-- A value that may be missing, unless values are given by position.
def optional? {α : Type} (r : Record) (name : Text) (read : Value → Option α) :
    Option (Option α) :=
  match r.values.lookup name with
  | some v => (read v).map some
  | none => if r.positional then none else some none

def withDefault? {α : Type} (r : Record) (name : Text) (default : α) (read : Value → Option α) :
    Option α :=
  match r.values.lookup name with
  | some v => read v
  | none => some default

end Record

namespace Toml.Value

def text? : Value → Option Text
  | .string s => some s
  | _ => none

def flag? : Value → Option Bool
  | .boolean b => some b
  | _ => none

def list? {α : Type} (read : Value → Option α) : Value → Option (List α)
  | .array items => items.mapM read
  | _ => none

def isVoid : Value → Bool
  | .array items => items.isEmpty
  | .table entries => entries.isEmpty
  | _ => false

end Toml.Value

-- Reads the name of a compression, which may also be given as a table with nothing under it.
def Compression.ofValue? : Value → Option Compression
  | .string s => named s
  | .table [(name, content)] => if content.isVoid then named name else none
  | _ => none
where
  named (s : Text) : Option Compression :=
    if s = "deflated".toList then some .deflated
    else if s = "stored".toList then some .stored
    else none

def RelocationSetting.ofValue? (v : Value) : Option RelocationSetting := do
  let r ← Record.ofValue? (["pattern", "destination", "includes", "excludes"].map String.toList) v
  return {
    pattern := ← r.required? "pattern".toList Value.text?
    target? := ← r.optional? "destination".toList Value.text?
    includes := ← r.withDefault? "includes".toList [] (Value.list? Value.text?)
    excludes := ← r.withDefault? "excludes".toList [] (Value.list? Value.text?) }

structure ServiceSection where
  stripComments? : Option Bool := none
  includes : List Text := []
  excludes : List Text := []

def ServiceSection.ofValue? (v : Value) : Option ServiceSection := do
  let r ← Record.ofValue? (["strip_comments", "include", "exclude"].map String.toList) v
  return {
    stripComments? := ← r.optional? "strip_comments".toList Value.flag?
    includes := ← r.withDefault? "include".toList [] (Value.list? Value.text?)
    excludes := ← r.withDefault? "exclude".toList [] (Value.list? Value.text?) }

structure ResourceSection where
  includes : List Text := []
  excludes : List Text := []

def ResourceSection.ofValue? (v : Value) : Option ResourceSection := do
  let r ← Record.ofValue? (["include", "exclude"].map String.toList) v
  return {
    includes := ← r.withDefault? "include".toList [] (Value.list? Value.text?)
    excludes := ← r.withDefault? "exclude".toList [] (Value.list? Value.text?) }

structure SettingsFile where
  destination? : Option Text := none
  verbose? : Option Bool := none
  compression? : Option Compression := none
  inputs : List Text := []
  exclusions : List Text := []
  relocations : List RelocationSetting := []
  services : ServiceSection := {}
  resources : ResourceSection := {}

namespace SettingsFile

def names : List Text :=
  ["destination", "verbose", "compression", "inputs", "exclude", "relocate", "services",
    "resources"].map String.toList

def parse? (s : Text) : Option SettingsFile := do
  let r ← Record.ofValue? names (.table (← Toml.parse? s))
  return {
    destination? := ← r.optional? "destination".toList Value.text?
    verbose? := ← r.optional? "verbose".toList Value.flag?
    compression? := ← r.optional? "compression".toList Compression.ofValue?
    inputs := ← r.withDefault? "inputs".toList [] (Value.list? Value.text?)
    exclusions := ← r.withDefault? "exclude".toList [] (Value.list? Value.text?)
    relocations := ← r.withDefault? "relocate".toList [] (Value.list? RelocationSetting.ofValue?)
    services := ← r.withDefault? "services".toList {} ServiceSection.ofValue?
    resources := ← r.withDefault? "resources".toList {} ResourceSection.ofValue? }

def read (path : Text) (bytes : Bytes) : Except Failure SettingsFile :=
  match Text.Utf8.decode? bytes with
  | none => .error (.unreadable path .notText)
  | some s =>
      match parse? s with
      | none => .error (.settings path)
      | some file => .ok file

def settings (file : SettingsFile) : Settings where
  inputs := file.inputs
  destination := file.destination?.getD defaultDestination
  relocations := file.relocations
  exclusions := file.exclusions
  stripComments := file.services.stripComments?.getD false
  serviceIncludes := file.services.includes
  serviceExcludes := file.services.excludes
  resourceIncludes := file.resources.includes
  resourceExcludes := file.resources.excludes
  compression := file.compression?.getD .deflated
  verbose := file.verbose?.getD false

end SettingsFile

end Shading
