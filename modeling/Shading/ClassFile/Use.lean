import Shading.ClassFile

set_option autoImplicit false

namespace Shading

inductive Role where
  -- The name of a member, an attribute, an element, a variable or a module, which never changes.
  | fixed
  -- An internal class name, or the descriptor of an array.
  | className
  | descriptor
  | signature
  | stringValue
  | packageName
deriving DecidableEq, Repr

structure Use where
  index : UInt16
  role : Role
deriving DecidableEq, Repr

abbrev Repointing := UInt16 → Role → UInt16

namespace Constant

def uses : Constant → List Use
  | classRef name => [⟨name, .className⟩]
  | string value => [⟨value, .stringValue⟩]
  | nameAndType name descriptor => [⟨name, .fixed⟩, ⟨descriptor, .descriptor⟩]
  | methodType descriptor => [⟨descriptor, .descriptor⟩]
  | module name => [⟨name, .fixed⟩]
  | package name => [⟨name, .packageName⟩]
  | _ => []

def mapUses (f : Repointing) : Constant → Constant
  | classRef name => classRef (f name .className)
  | string value => string (f value .stringValue)
  | nameAndType name descriptor => nameAndType (f name .fixed) (f descriptor .descriptor)
  | methodType descriptor => methodType (f descriptor .descriptor)
  | module name => module (f name .fixed)
  | package name => package (f name .packageName)
  | other => other

end Constant

def ElementValue.stringTag : UInt8 := 0x73

mutual
-- The references of an element value. Constants other than strings refer to numbers.
def ElementValue.uses : ElementValue → List Use
  | .const tag index => if tag = ElementValue.stringTag then [⟨index, .stringValue⟩] else []
  | .enumConst type name => [⟨type, .descriptor⟩, ⟨name, .fixed⟩]
  | .classInfo descriptor => [⟨descriptor, .descriptor⟩]
  | .nested type elements => ⟨type, .descriptor⟩ :: ElementValue.usesOfElements elements
  | .array values => ElementValue.usesOfValues values
termination_by structural value => value

def ElementValue.usesOfValues : List ElementValue → List Use
  | [] => []
  | value :: rest => value.uses ++ ElementValue.usesOfValues rest
termination_by structural values => values

def ElementValue.usesOfElements : List (UInt16 × ElementValue) → List Use
  | [] => []
  | (name, value) :: rest => ⟨name, .fixed⟩ :: value.uses ++ ElementValue.usesOfElements rest
termination_by structural elements => elements
end

mutual
def ElementValue.mapUses (f : Repointing) : ElementValue → ElementValue
  | .const tag index =>
      .const tag (if tag = ElementValue.stringTag then f index .stringValue else index)
  | .enumConst type name => .enumConst (f type .descriptor) (f name .fixed)
  | .classInfo descriptor => .classInfo (f descriptor .descriptor)
  | .nested type elements =>
      .nested (f type .descriptor) (ElementValue.mapUsesOfElements f elements)
  | .array values => .array (ElementValue.mapUsesOfValues f values)
termination_by structural value => value

def ElementValue.mapUsesOfValues (f : Repointing) : List ElementValue → List ElementValue
  | [] => []
  | value :: rest => value.mapUses f :: ElementValue.mapUsesOfValues f rest
termination_by structural values => values

def ElementValue.mapUsesOfElements (f : Repointing) :
    List (UInt16 × ElementValue) → List (UInt16 × ElementValue)
  | [] => []
  | (name, value) :: rest =>
      (f name .fixed, value.mapUses f) :: ElementValue.mapUsesOfElements f rest
termination_by structural elements => elements
end

namespace AnnotationEntry

def uses (a : AnnotationEntry) : List Use :=
  ⟨a.type, .descriptor⟩ :: ElementValue.usesOfElements a.elements

def mapUses (f : Repointing) (a : AnnotationEntry) : AnnotationEntry :=
  ⟨f a.type .descriptor, ElementValue.mapUsesOfElements f a.elements⟩

end AnnotationEntry

namespace LocalVariable

def uses (type : Role) (v : LocalVariable) : List Use := [⟨v.name, .fixed⟩, ⟨v.type, type⟩]

def mapUses (f : Repointing) (type : Role) (v : LocalVariable) : LocalVariable :=
  { v with name := f v.name .fixed, type := f v.type type }

end LocalVariable

mutual
def AttributeBody.uses : AttributeBody → List Use
  | .code _ _ _ _ attributes => Attribute.usesOfAll attributes
  | .signature index => [⟨index, .signature⟩]
  | .localVariables entries => entries.flatMap (LocalVariable.uses .descriptor)
  | .localVariableTypes entries => entries.flatMap (LocalVariable.uses .signature)
  | .annotations items => items.flatMap AnnotationEntry.uses
  | .parameterAnnotations parameters => parameters.flatten.flatMap AnnotationEntry.uses
  | .typeAnnotations items => items.flatMap fun a => a.entry.uses
  | .annotationDefault value => value.uses
  | .record components => RecordComponent.usesOfAll components
  | .raw _ => []
termination_by structural body => body

def Attribute.uses : Attribute → List Use
  | .mk name body => ⟨name, .fixed⟩ :: body.uses
termination_by structural a => a

def Attribute.usesOfAll : List Attribute → List Use
  | [] => []
  | a :: rest => a.uses ++ Attribute.usesOfAll rest
termination_by structural attributes => attributes

def RecordComponent.uses : RecordComponent → List Use
  | .mk name descriptor attributes =>
      ⟨name, .fixed⟩ :: ⟨descriptor, .descriptor⟩ :: Attribute.usesOfAll attributes
termination_by structural component => component

def RecordComponent.usesOfAll : List RecordComponent → List Use
  | [] => []
  | component :: rest => component.uses ++ RecordComponent.usesOfAll rest
termination_by structural components => components
end

mutual
def AttributeBody.mapUses (f : Repointing) : AttributeBody → AttributeBody
  | .code maxStack maxLocals instructions handlers attributes =>
      .code maxStack maxLocals instructions handlers (Attribute.mapUsesOfAll f attributes)
  | .signature index => .signature (f index .signature)
  | .localVariables entries => .localVariables (entries.map (LocalVariable.mapUses f .descriptor))
  | .localVariableTypes entries =>
      .localVariableTypes (entries.map (LocalVariable.mapUses f .signature))
  | .annotations items => .annotations (items.map (AnnotationEntry.mapUses f))
  | .parameterAnnotations parameters =>
      .parameterAnnotations (parameters.map fun items => items.map (AnnotationEntry.mapUses f))
  | .typeAnnotations items =>
      .typeAnnotations (items.map fun a => { a with entry := a.entry.mapUses f })
  | .annotationDefault value => .annotationDefault (value.mapUses f)
  | .record components => .record (RecordComponent.mapUsesOfAll f components)
  | .raw data => .raw data
termination_by structural body => body

def Attribute.mapUses (f : Repointing) : Attribute → Attribute
  | .mk name body => .mk (f name .fixed) (body.mapUses f)
termination_by structural a => a

def Attribute.mapUsesOfAll (f : Repointing) : List Attribute → List Attribute
  | [] => []
  | a :: rest => a.mapUses f :: Attribute.mapUsesOfAll f rest
termination_by structural attributes => attributes

def RecordComponent.mapUses (f : Repointing) : RecordComponent → RecordComponent
  | .mk name descriptor attributes =>
      .mk (f name .fixed) (f descriptor .descriptor) (Attribute.mapUsesOfAll f attributes)
termination_by structural component => component

def RecordComponent.mapUsesOfAll (f : Repointing) : List RecordComponent → List RecordComponent
  | [] => []
  | component :: rest => component.mapUses f :: RecordComponent.mapUsesOfAll f rest
termination_by structural components => components
end

namespace Member

def uses (m : Member) : List Use :=
  ⟨m.name, .fixed⟩ :: ⟨m.descriptor, .descriptor⟩ :: Attribute.usesOfAll m.attributes

def mapUses (f : Repointing) (m : Member) : Member :=
  { m with
    name := f m.name .fixed
    descriptor := f m.descriptor .descriptor
    attributes := Attribute.mapUsesOfAll f m.attributes }

end Member

namespace ClassFile

def uses (c : ClassFile) : List Use :=
  c.pool.slots.toList.flatMap Constant.uses ++ c.fields.flatMap Member.uses ++
    c.methods.flatMap Member.uses ++ Attribute.usesOfAll c.attributes

def mapUses (f : Repointing) (c : ClassFile) : ClassFile :=
  { c with
    pool := ⟨c.pool.slots.map (Constant.mapUses f)⟩
    fields := c.fields.map (Member.mapUses f)
    methods := c.methods.map (Member.mapUses f)
    attributes := Attribute.mapUsesOfAll f c.attributes }

end ClassFile

end Shading
