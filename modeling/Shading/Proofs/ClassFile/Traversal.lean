import Shading.ClassFile.Use

set_option autoImplicit false

namespace Shading

def Use.repoint (f : Repointing) (u : Use) : Use := ⟨f u.index u.role, u.role⟩

def Repointing.unchanged : Repointing := fun index _ => index

theorem mapped_list_uses {α : Type} (f : Repointing) (uses : α → List Use) (change : α → α)
    (items : List α) (each : ∀ a, uses (change a) = (uses a).map (Use.repoint f)) :
    (items.map change).flatMap uses = (items.flatMap uses).map (Use.repoint f) := by
  rw [List.flatMap_map, List.map_flatMap]
  exact congrArg (fun g => items.flatMap g) (funext each)

theorem Constant.map_uses_uses (f : Repointing) (k : Constant) :
    (k.mapUses f).uses = k.uses.map (Use.repoint f) := by
  cases k <;> rfl

theorem Constant.map_uses_unchanged (k : Constant) : k.mapUses Repointing.unchanged = k := by
  cases k <;> rfl

mutual
theorem ElementValue.map_uses_uses (f : Repointing) (value : ElementValue) :
    (value.mapUses f).uses = value.uses.map (Use.repoint f) := by
  cases value with
  | const tag index =>
      by_cases string : tag = ElementValue.stringTag
      · simp only [mapUses, uses, if_pos string]
        rfl
      · simp only [mapUses, uses, if_neg string]
        rfl
  | enumConst type name => rfl
  | classInfo descriptor => rfl
  | nested type elements =>
      simp only [mapUses, uses, List.map_cons, map_uses_uses_of_elements f elements]
      rfl
  | array values => simp only [mapUses, uses, map_uses_uses_of_values f values]
termination_by structural value

theorem ElementValue.map_uses_uses_of_values (f : Repointing) (values : List ElementValue) :
    usesOfValues (mapUsesOfValues f values) = (usesOfValues values).map (Use.repoint f) := by
  cases values with
  | nil => rfl
  | cons value rest =>
      simp only [mapUsesOfValues, usesOfValues, List.map_append, map_uses_uses f value,
        map_uses_uses_of_values f rest]
termination_by structural values

theorem ElementValue.map_uses_uses_of_elements (f : Repointing)
    (elements : List (UInt16 × ElementValue)) :
    usesOfElements (mapUsesOfElements f elements) =
      (usesOfElements elements).map (Use.repoint f) := by
  cases elements with
  | nil => rfl
  | cons element rest =>
      cases element with
      | mk name value =>
          simp only [mapUsesOfElements, usesOfElements, List.map_cons, List.map_append,
            map_uses_uses f value, map_uses_uses_of_elements f rest]
          rfl
termination_by structural elements
end

mutual
theorem ElementValue.map_uses_unchanged (value : ElementValue) :
    value.mapUses Repointing.unchanged = value := by
  cases value with
  | const tag index => simp only [mapUses, Repointing.unchanged, ite_self]
  | enumConst type name => rfl
  | classInfo descriptor => rfl
  | nested type elements =>
      simp only [mapUses, Repointing.unchanged, map_uses_unchanged_of_elements elements]
  | array values => simp only [mapUses, map_uses_unchanged_of_values values]
termination_by structural value

theorem ElementValue.map_uses_unchanged_of_values (values : List ElementValue) :
    mapUsesOfValues Repointing.unchanged values = values := by
  cases values with
  | nil => rfl
  | cons value rest =>
      simp only [mapUsesOfValues, map_uses_unchanged value, map_uses_unchanged_of_values rest]
termination_by structural values

theorem ElementValue.map_uses_unchanged_of_elements (elements : List (UInt16 × ElementValue)) :
    mapUsesOfElements Repointing.unchanged elements = elements := by
  cases elements with
  | nil => rfl
  | cons element rest =>
      cases element with
      | mk name value =>
          simp only [mapUsesOfElements, Repointing.unchanged, map_uses_unchanged value,
            map_uses_unchanged_of_elements rest]
termination_by structural elements
end

theorem AnnotationEntry.map_uses_uses (f : Repointing) (a : AnnotationEntry) :
    (a.mapUses f).uses = a.uses.map (Use.repoint f) := by
  simp only [mapUses, uses, List.map_cons, ElementValue.map_uses_uses_of_elements]
  rfl

theorem AnnotationEntry.map_uses_unchanged (a : AnnotationEntry) :
    a.mapUses Repointing.unchanged = a := by
  simp only [mapUses, Repointing.unchanged, ElementValue.map_uses_unchanged_of_elements]

theorem LocalVariable.map_uses_uses (f : Repointing) (type : Role) (v : LocalVariable) :
    (v.mapUses f type).uses type = (v.uses type).map (Use.repoint f) := rfl

theorem LocalVariable.map_uses_unchanged (type : Role) (v : LocalVariable) :
    v.mapUses Repointing.unchanged type = v := rfl

mutual
theorem AttributeBody.map_uses_uses (f : Repointing) (body : AttributeBody) :
    (body.mapUses f).uses = body.uses.map (Use.repoint f) := by
  cases body with
  | code maxStack maxLocals instructions handlers attributes =>
      simp only [AttributeBody.mapUses, AttributeBody.uses, Attribute.map_uses_uses_of_all f attributes]
  | signature index => rfl
  | localVariables entries =>
      simp only [AttributeBody.mapUses, AttributeBody.uses]
      exact mapped_list_uses f _ _ entries (LocalVariable.map_uses_uses f .descriptor)
  | localVariableTypes entries =>
      simp only [AttributeBody.mapUses, AttributeBody.uses]
      exact mapped_list_uses f _ _ entries (LocalVariable.map_uses_uses f .signature)
  | annotations items =>
      simp only [AttributeBody.mapUses, AttributeBody.uses]
      exact mapped_list_uses f _ _ items (AnnotationEntry.map_uses_uses f)
  | parameterAnnotations parameters =>
      simp only [AttributeBody.mapUses, AttributeBody.uses, ← List.map_flatten]
      exact mapped_list_uses f _ _ parameters.flatten (AnnotationEntry.map_uses_uses f)
  | typeAnnotations items =>
      simp only [AttributeBody.mapUses, AttributeBody.uses]
      exact mapped_list_uses f _ _ items fun a => AnnotationEntry.map_uses_uses f a.entry
  | annotationDefault value =>
      simp only [AttributeBody.mapUses, AttributeBody.uses, ElementValue.map_uses_uses f value]
  | record components =>
      simp only [AttributeBody.mapUses, AttributeBody.uses, RecordComponent.map_uses_uses_of_all f components]
  | raw data => rfl
termination_by structural body

theorem Attribute.map_uses_uses (f : Repointing) (a : Attribute) :
    (a.mapUses f).uses = a.uses.map (Use.repoint f) := by
  cases a with
  | mk name body =>
      simp only [Attribute.mapUses, Attribute.uses, List.map_cons, AttributeBody.map_uses_uses f body]
      rfl
termination_by structural a

theorem Attribute.map_uses_uses_of_all (f : Repointing) (attributes : List Attribute) :
    Attribute.usesOfAll (Attribute.mapUsesOfAll f attributes) =
      (Attribute.usesOfAll attributes).map (Use.repoint f) := by
  cases attributes with
  | nil => rfl
  | cons a rest =>
      simp only [Attribute.mapUsesOfAll, Attribute.usesOfAll, List.map_append, Attribute.map_uses_uses f a,
        Attribute.map_uses_uses_of_all f rest]
termination_by structural attributes

theorem RecordComponent.map_uses_uses (f : Repointing) (component : RecordComponent) :
    (component.mapUses f).uses = component.uses.map (Use.repoint f) := by
  cases component with
  | mk name descriptor attributes =>
      simp only [RecordComponent.mapUses, RecordComponent.uses, List.map_cons,
        Attribute.map_uses_uses_of_all f attributes]
      rfl
termination_by structural component

theorem RecordComponent.map_uses_uses_of_all (f : Repointing) (components : List RecordComponent) :
    RecordComponent.usesOfAll (RecordComponent.mapUsesOfAll f components) =
      (RecordComponent.usesOfAll components).map (Use.repoint f) := by
  cases components with
  | nil => rfl
  | cons component rest =>
      simp only [RecordComponent.mapUsesOfAll, RecordComponent.usesOfAll, List.map_append,
        RecordComponent.map_uses_uses f component, RecordComponent.map_uses_uses_of_all f rest]
termination_by structural components
end

theorem map_unchanged {α : Type} (change : α → α) (items : List α) (each : ∀ a, change a = a) :
    items.map change = items := by
  rw [show change = id from funext each, List.map_id]

mutual
theorem AttributeBody.map_uses_unchanged (body : AttributeBody) :
    body.mapUses Repointing.unchanged = body := by
  cases body with
  | code maxStack maxLocals instructions handlers attributes =>
      simp only [AttributeBody.mapUses, Attribute.map_uses_unchanged_of_all attributes]
  | signature index => rfl
  | localVariables entries =>
      simp only [AttributeBody.mapUses,
        map_unchanged _ entries (LocalVariable.map_uses_unchanged .descriptor)]
  | localVariableTypes entries =>
      simp only [AttributeBody.mapUses,
        map_unchanged _ entries (LocalVariable.map_uses_unchanged .signature)]
  | annotations items =>
      simp only [AttributeBody.mapUses, map_unchanged _ items AnnotationEntry.map_uses_unchanged]
  | parameterAnnotations parameters =>
      simp only [AttributeBody.mapUses]
      rw [map_unchanged _ parameters fun items =>
        map_unchanged _ items AnnotationEntry.map_uses_unchanged]
  | typeAnnotations items =>
      simp only [AttributeBody.mapUses, AnnotationEntry.map_uses_unchanged]
      rw [map_unchanged _ items fun _ => rfl]
  | annotationDefault value => simp only [AttributeBody.mapUses, ElementValue.map_uses_unchanged value]
  | record components =>
      simp only [AttributeBody.mapUses, RecordComponent.map_uses_unchanged_of_all components]
  | raw data => rfl
termination_by structural body

theorem Attribute.map_uses_unchanged (a : Attribute) : a.mapUses Repointing.unchanged = a := by
  cases a with
  | mk name body => simp only [Attribute.mapUses, Repointing.unchanged, AttributeBody.map_uses_unchanged body]
termination_by structural a

theorem Attribute.map_uses_unchanged_of_all (attributes : List Attribute) :
    Attribute.mapUsesOfAll Repointing.unchanged attributes = attributes := by
  cases attributes with
  | nil => rfl
  | cons a rest =>
      simp only [Attribute.mapUsesOfAll, Attribute.map_uses_unchanged a,
        Attribute.map_uses_unchanged_of_all rest]
termination_by structural attributes

theorem RecordComponent.map_uses_unchanged (component : RecordComponent) :
    component.mapUses Repointing.unchanged = component := by
  cases component with
  | mk name descriptor attributes =>
      simp only [RecordComponent.mapUses, Repointing.unchanged,
        Attribute.map_uses_unchanged_of_all attributes]
termination_by structural component

theorem RecordComponent.map_uses_unchanged_of_all (components : List RecordComponent) :
    RecordComponent.mapUsesOfAll Repointing.unchanged components = components := by
  cases components with
  | nil => rfl
  | cons component rest =>
      simp only [RecordComponent.mapUsesOfAll, RecordComponent.map_uses_unchanged component,
        RecordComponent.map_uses_unchanged_of_all rest]
termination_by structural components
end

theorem Member.map_uses_uses (f : Repointing) (m : Member) :
    (m.mapUses f).uses = m.uses.map (Use.repoint f) := by
  simp only [mapUses, uses, List.map_cons, Attribute.map_uses_uses_of_all]
  rfl

theorem Member.map_uses_unchanged (m : Member) : m.mapUses Repointing.unchanged = m := by
  simp only [mapUses, Repointing.unchanged, Attribute.map_uses_unchanged_of_all]

namespace ClassFile

theorem map_uses_uses (f : Repointing) (c : ClassFile) :
    (c.mapUses f).uses = c.uses.map (Use.repoint f) := by
  simp only [mapUses, uses, List.map_append, Array.toList_map, Attribute.map_uses_uses_of_all,
    mapped_list_uses f _ _ _ (Constant.map_uses_uses f),
    mapped_list_uses f _ _ _ (Member.map_uses_uses f)]

theorem map_uses_unchanged (c : ClassFile) : c.mapUses Repointing.unchanged = c := by
  have slots : c.pool.slots.map (Constant.mapUses Repointing.unchanged) = c.pool.slots := by
    apply Array.ext'
    rw [Array.toList_map, map_unchanged _ _ Constant.map_uses_unchanged]
  simp only [mapUses, slots, map_unchanged _ _ Member.map_uses_unchanged,
    Attribute.map_uses_unchanged_of_all]

end ClassFile

end Shading
