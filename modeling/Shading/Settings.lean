import Shading.ClassPattern
import Shading.Failure
import Shading.Relocation.Chain
import Shading.Resource

set_option autoImplicit false

namespace Shading

inductive Compression where
  | deflated
  | stored
deriving DecidableEq, Repr

structure RelocationSetting where
  pattern : Text
  target? : Option Text := none
  includes : List Text := []
  excludes : List Text := []
deriving DecidableEq, Repr

namespace RelocationSetting

def ofArgument (argument : Text) : RelocationSetting :=
  match Text.cutAt? '=' argument with
  | some (pattern, target) => { pattern, target? := some target }
  | none => { pattern := argument }

def relocation (r : RelocationSetting) : Except IllFormedPattern Relocation :=
  Relocation.withFilters r.pattern r.target? r.includes r.excludes

end RelocationSetting

def defaultDestination : Text := "build/repack/repackaged.jar".toList

structure Settings where
  inputs : List Text := []
  destination : Text := defaultDestination
  relocations : List RelocationSetting := []
  exclusions : List Text := []
  stripComments : Bool := false
  serviceIncludes : List Text := []
  serviceExcludes : List Text := []
  resourceIncludes : List Text := []
  resourceExcludes : List Text := []
  compression : Compression := .deflated
  verbose : Bool := false
deriving DecidableEq, Repr

structure Task where
  inputs : List Text
  destination : Text
  chain : Chain
  transformers : List Transformer
  exclusions : Exclusions
  compression : Compression
  verbose : Bool

namespace Settings

def resources (s : Settings) : Except IllFormedPattern PatternSet :=
  ({} : PatternSet).extend s.resourceIncludes s.resourceExcludes

def serviceMerger (s : Settings) : Except IllFormedPattern ServiceMerger := do
  let start := ServiceMerger.start s.stripComments
  let services ← start.services.extend s.serviceIncludes s.serviceExcludes
  return { start with services }

/-- The task. Resources are filtered before service descriptors are merged. The first pattern that
is ill-formed, in the order of rules, resources and services, is an error; an ill-formed pattern of
classes to leave out is not. -/
def task (s : Settings) : Except IllFormedPattern Task := do
  let chain ← s.relocations.mapM RelocationSetting.relocation
  let resources ← s.resources
  let merger ← s.serviceMerger
  return {
    inputs := s.inputs
    destination := s.destination
    chain
    transformers := [.filter resources, .services merger]
    exclusions := Exclusions.ofPatterns s.exclusions
    compression := s.compression
    verbose := s.verbose }

end Settings

end Shading
