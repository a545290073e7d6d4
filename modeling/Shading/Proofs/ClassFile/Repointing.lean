import Mathlib.Data.List.Forall2
import Shading.Proofs.ClassFile.Traversal

set_option autoImplicit false

namespace Shading

inductive Constant.Repointed : Constant → Constant → Prop where
  | same (k : Constant) : Repointed k k
  | classRef (old new : UInt16) : Repointed (.classRef old) (.classRef new)
  | string (old new : UInt16) : Repointed (.string old) (.string new)
  | nameAndType (name old new : UInt16) : Repointed (.nameAndType name old) (.nameAndType name new)
  | methodType (old new : UInt16) : Repointed (.methodType old) (.methodType new)
  | package (old new : UInt16) : Repointed (.package old) (.package new)

inductive ElementValue.Repointed : ElementValue → ElementValue → Prop where
  | same (tag : UInt8) (index : UInt16) : Repointed (.const tag index) (.const tag index)
  | string (old new : UInt16) :
      Repointed (.const ElementValue.stringTag old) (.const ElementValue.stringTag new)
  | enumConst (old new name : UInt16) : Repointed (.enumConst old name) (.enumConst new name)
  | classInfo (old new : UInt16) : Repointed (.classInfo old) (.classInfo new)
  | nested (old new : UInt16) (elements others : List (UInt16 × ElementValue))
      (names : others.map Prod.fst = elements.map Prod.fst)
      (each : List.Forall₂ Repointed (elements.map Prod.snd) (others.map Prod.snd)) :
      Repointed (.nested old elements) (.nested new others)
  | array (values others : List ElementValue) (each : List.Forall₂ Repointed values others) :
      Repointed (.array values) (.array others)

structure AnnotationEntry.Repointed (a b : AnnotationEntry) : Prop where
  names : b.elements.map Prod.fst = a.elements.map Prod.fst
  values : List.Forall₂ ElementValue.Repointed (a.elements.map Prod.snd) (b.elements.map Prod.snd)

structure TypeAnnotationEntry.Repointed (a b : TypeAnnotationEntry) : Prop where
  target : b.target = a.target
  entry : a.entry.Repointed b.entry

structure LocalVariable.Repointed (v w : LocalVariable) : Prop where
  start : w.start = v.start
  length : w.length = v.length
  name : w.name = v.name
  slot : w.slot = v.slot

mutual
inductive AttributeBody.Repointed : AttributeBody → AttributeBody → Prop where
  | code (maxStack maxLocals : UInt16) (instructions : Bytes) (handlers : List Handler)
      (attributes others : List Attribute) (each : List.Forall₂ Attribute.Repointed attributes others) :
      AttributeBody.Repointed (.code maxStack maxLocals instructions handlers attributes)
        (.code maxStack maxLocals instructions handlers others)
  | signature (old new : UInt16) : AttributeBody.Repointed (.signature old) (.signature new)
  | localVariables (entries others : List LocalVariable)
      (each : List.Forall₂ LocalVariable.Repointed entries others) :
      AttributeBody.Repointed (.localVariables entries) (.localVariables others)
  | localVariableTypes (entries others : List LocalVariable)
      (each : List.Forall₂ LocalVariable.Repointed entries others) :
      AttributeBody.Repointed (.localVariableTypes entries) (.localVariableTypes others)
  | annotations (items others : List AnnotationEntry)
      (each : List.Forall₂ AnnotationEntry.Repointed items others) :
      AttributeBody.Repointed (.annotations items) (.annotations others)
  | parameterAnnotations (parameters others : List (List AnnotationEntry))
      (each : List.Forall₂ (List.Forall₂ AnnotationEntry.Repointed) parameters others) :
      AttributeBody.Repointed (.parameterAnnotations parameters) (.parameterAnnotations others)
  | typeAnnotations (items others : List TypeAnnotationEntry)
      (each : List.Forall₂ TypeAnnotationEntry.Repointed items others) :
      AttributeBody.Repointed (.typeAnnotations items) (.typeAnnotations others)
  | annotationDefault (value other : ElementValue) (repointed : ElementValue.Repointed value other) :
      AttributeBody.Repointed (.annotationDefault value) (.annotationDefault other)
  | record (components others : List RecordComponent)
      (each : List.Forall₂ RecordComponent.Repointed components others) :
      AttributeBody.Repointed (.record components) (.record others)
  | raw (data : Bytes) : AttributeBody.Repointed (.raw data) (.raw data)

inductive Attribute.Repointed : Attribute → Attribute → Prop where
  | mk (name : UInt16) (body other : AttributeBody) (repointed : AttributeBody.Repointed body other) :
      Attribute.Repointed (.mk name body) (.mk name other)

inductive RecordComponent.Repointed : RecordComponent → RecordComponent → Prop where
  | mk (name old new : UInt16) (attributes others : List Attribute)
      (each : List.Forall₂ Attribute.Repointed attributes others) :
      RecordComponent.Repointed (.mk name old attributes) (.mk name new others)
end

structure Member.Repointed (m n : Member) : Prop where
  access : n.access = m.access
  name : n.name = m.name
  attributes : List.Forall₂ Attribute.Repointed m.attributes n.attributes

def Repointing.KeepsNames (f : Repointing) : Prop := ∀ index, f index .fixed = index

variable {f : Repointing}

theorem mapped_list_repointed {α : Type} {R : α → α → Prop} (change : α → α) (items : List α)
    (each : ∀ a, R a (change a)) : List.Forall₂ R items (items.map change) := by
  induction items with
  | nil => exact .nil
  | cons a rest ih => exact .cons (each a) ih

theorem Constant.map_uses_repointed (names : f.KeepsNames) (k : Constant) :
    k.Repointed (k.mapUses f) := by
  cases k with
  | classRef name => exact .classRef _ _
  | string value => exact .string _ _
  | nameAndType name descriptor =>
      rw [mapUses, names name]
      exact .nameAndType name _ _
  | methodType descriptor => exact .methodType _ _
  | module name =>
      rw [mapUses, names name]
      exact .same _
  | package name => exact .package _ _
  | _ => exact .same _

mutual
theorem ElementValue.map_uses_repointed (names : f.KeepsNames) (value : ElementValue) :
    value.Repointed (value.mapUses f) := by
  cases value with
  | const tag index =>
      by_cases string : tag = stringTag
      · rw [mapUses, if_pos string, string]
        exact .string _ _
      · rw [mapUses, if_neg string]
        exact .same tag index
  | enumConst type name =>
      rw [mapUses, names name]
      exact .enumConst _ _ name
  | classInfo descriptor => exact .classInfo _ _
  | nested type elements =>
      obtain ⟨same, each⟩ := ElementValue.map_uses_repointed_of_elements names elements
      exact .nested _ _ elements _ same each
  | array values => exact .array values _ (ElementValue.map_uses_repointed_of_values names values)
termination_by structural value

theorem ElementValue.map_uses_repointed_of_values (names : f.KeepsNames) (values : List ElementValue) :
    List.Forall₂ ElementValue.Repointed values (mapUsesOfValues f values) := by
  cases values with
  | nil => exact .nil
  | cons value rest =>
      exact .cons (value.map_uses_repointed names)
        (ElementValue.map_uses_repointed_of_values names rest)
termination_by structural values

theorem ElementValue.map_uses_repointed_of_elements (names : f.KeepsNames)
    (elements : List (UInt16 × ElementValue)) :
    (mapUsesOfElements f elements).map Prod.fst = elements.map Prod.fst ∧
      List.Forall₂ ElementValue.Repointed (elements.map Prod.snd)
        ((mapUsesOfElements f elements).map Prod.snd) := by
  cases elements with
  | nil => exact ⟨rfl, .nil⟩
  | cons element rest =>
      cases element with
      | mk name value =>
          obtain ⟨same, each⟩ := ElementValue.map_uses_repointed_of_elements names rest
          refine ⟨?_, .cons (value.map_uses_repointed names) each⟩
          rw [mapUsesOfElements, List.map_cons, List.map_cons, same, names name]
termination_by structural elements
end

theorem AnnotationEntry.map_uses_repointed (names : f.KeepsNames) (a : AnnotationEntry) :
    a.Repointed (a.mapUses f) := by
  obtain ⟨same, each⟩ := ElementValue.map_uses_repointed_of_elements names a.elements
  exact ⟨same, each⟩

theorem LocalVariable.map_uses_repointed (names : f.KeepsNames) (type : Role) (v : LocalVariable) :
    v.Repointed (v.mapUses f type) := ⟨rfl, rfl, names v.name, rfl⟩

mutual
theorem AttributeBody.map_uses_repointed (names : f.KeepsNames) (body : AttributeBody) :
    body.Repointed (body.mapUses f) := by
  cases body with
  | code maxStack maxLocals instructions handlers attributes =>
      exact .code _ _ _ _ attributes _ (Attribute.map_uses_repointed_of_all names attributes)
  | signature index => exact .signature _ _
  | localVariables entries =>
      exact .localVariables entries _
        (mapped_list_repointed _ entries (LocalVariable.map_uses_repointed names .descriptor))
  | localVariableTypes entries =>
      exact .localVariableTypes entries _
        (mapped_list_repointed _ entries (LocalVariable.map_uses_repointed names .signature))
  | annotations items =>
      exact .annotations items _ (mapped_list_repointed _ items (AnnotationEntry.map_uses_repointed names))
  | parameterAnnotations parameters =>
      refine .parameterAnnotations parameters _ (mapped_list_repointed _ parameters fun items => ?_)
      exact mapped_list_repointed _ items (AnnotationEntry.map_uses_repointed names)
  | typeAnnotations items =>
      refine .typeAnnotations items _ (mapped_list_repointed _ items fun a => ?_)
      exact ⟨rfl, a.entry.map_uses_repointed names⟩
  | annotationDefault value => exact .annotationDefault value _ (value.map_uses_repointed names)
  | record components =>
      exact .record components _ (RecordComponent.map_uses_repointed_of_all names components)
  | raw data => exact .raw data
termination_by structural body

theorem Attribute.map_uses_repointed (names : f.KeepsNames) (a : Attribute) :
    a.Repointed (a.mapUses f) := by
  cases a with
  | mk name body =>
      rw [Attribute.mapUses, names name]
      exact .mk name body _ (body.map_uses_repointed names)
termination_by structural a

theorem Attribute.map_uses_repointed_of_all (names : f.KeepsNames) (attributes : List Attribute) :
    List.Forall₂ Attribute.Repointed attributes (Attribute.mapUsesOfAll f attributes) := by
  cases attributes with
  | nil => exact .nil
  | cons a rest =>
      exact .cons (a.map_uses_repointed names) (Attribute.map_uses_repointed_of_all names rest)
termination_by structural attributes

theorem RecordComponent.map_uses_repointed (names : f.KeepsNames) (component : RecordComponent) :
    component.Repointed (component.mapUses f) := by
  cases component with
  | mk name descriptor attributes =>
      rw [RecordComponent.mapUses, names name]
      exact .mk name _ _ attributes _ (Attribute.map_uses_repointed_of_all names attributes)
termination_by structural component

theorem RecordComponent.map_uses_repointed_of_all (names : f.KeepsNames)
    (components : List RecordComponent) :
    List.Forall₂ RecordComponent.Repointed components (RecordComponent.mapUsesOfAll f components) := by
  cases components with
  | nil => exact .nil
  | cons component rest =>
      exact .cons (component.map_uses_repointed names)
        (RecordComponent.map_uses_repointed_of_all names rest)
termination_by structural components
end

theorem Member.map_uses_repointed (names : f.KeepsNames) (m : Member) : m.Repointed (m.mapUses f) :=
  ⟨rfl, names m.name, Attribute.map_uses_repointed_of_all names m.attributes⟩

end Shading
