import Shading.Proofs.ClassFile.Extent
import Shading.Proofs.ClassFile.Repointing
import Shading.Proofs.ClassFile.RoundTrip

set_option autoImplicit false

namespace Shading

mutual
def AttributeBody.attributeNames : AttributeBody → List UInt16
  | .code _ _ _ _ attributes => Attribute.namesOfAll attributes
  | .record components => RecordComponent.namesOfAll components
  | _ => []
termination_by structural body => body

def Attribute.attributeNames : Attribute → List UInt16
  | .mk name body => name :: body.attributeNames
termination_by structural a => a

def Attribute.namesOfAll : List Attribute → List UInt16
  | [] => []
  | a :: rest => a.attributeNames ++ Attribute.namesOfAll rest
termination_by structural attributes => attributes

def RecordComponent.attributeNames : RecordComponent → List UInt16
  | .mk _ _ attributes => Attribute.namesOfAll attributes
termination_by structural component => component

def RecordComponent.namesOfAll : List RecordComponent → List UInt16
  | [] => []
  | component :: rest => component.attributeNames ++ RecordComponent.namesOfAll rest
termination_by structural components => components
end

def ClassFile.attributeNames (c : ClassFile) : List UInt16 :=
  (c.fields.flatMap fun m => Attribute.namesOfAll m.attributes) ++
    (c.methods.flatMap fun m => Attribute.namesOfAll m.attributes) ++ Attribute.namesOfAll c.attributes

mutual
theorem AttributeBody.name_used (body : AttributeBody) (n : UInt16) (named : n ∈ body.attributeNames) :
    ⟨n, .fixed⟩ ∈ body.uses := by
  cases body with
  | code maxStack maxLocals instructions handlers attributes =>
      exact Attribute.name_used_of_all attributes n named
  | record components => exact RecordComponent.name_used_of_all components n named
  | _ => cases named
termination_by structural body

theorem Attribute.name_used (a : Attribute) (n : UInt16) (named : n ∈ a.attributeNames) :
    ⟨n, .fixed⟩ ∈ a.uses := by
  cases a with
  | mk name body =>
      rcases List.mem_cons.mp named with rfl | inside
      · exact List.mem_cons_self
      · exact List.mem_cons_of_mem _ (body.name_used n inside)
termination_by structural a

theorem Attribute.name_used_of_all (attributes : List Attribute) (n : UInt16)
    (named : n ∈ Attribute.namesOfAll attributes) : ⟨n, .fixed⟩ ∈ Attribute.usesOfAll attributes := by
  cases attributes with
  | nil => cases named
  | cons a rest =>
      rcases List.mem_append.mp named with here | there
      · exact List.mem_append_left _ (a.name_used n here)
      · exact List.mem_append_right _ (Attribute.name_used_of_all rest n there)
termination_by structural attributes

theorem RecordComponent.name_used (component : RecordComponent) (n : UInt16)
    (named : n ∈ component.attributeNames) : ⟨n, .fixed⟩ ∈ component.uses := by
  cases component with
  | mk name descriptor attributes =>
      exact List.mem_cons_of_mem _ (List.mem_cons_of_mem _ (Attribute.name_used_of_all attributes n named))
termination_by structural component

theorem RecordComponent.name_used_of_all (components : List RecordComponent) (n : UInt16)
    (named : n ∈ RecordComponent.namesOfAll components) :
    ⟨n, .fixed⟩ ∈ RecordComponent.usesOfAll components := by
  cases components with
  | nil => cases named
  | cons component rest =>
      rcases List.mem_append.mp named with here | there
      · exact List.mem_append_left _ (component.name_used n here)
      · exact List.mem_append_right _ (RecordComponent.name_used_of_all rest n there)
termination_by structural components
end

theorem Member.name_used_of_all (members : List Member) (n : UInt16)
    (named : n ∈ members.flatMap fun m => Attribute.namesOfAll m.attributes) :
    ⟨n, .fixed⟩ ∈ members.flatMap Member.uses := by
  obtain ⟨m, member, inside⟩ := List.mem_flatMap.mp named
  refine List.mem_flatMap.mpr ⟨m, member, ?_⟩
  exact List.mem_cons_of_mem _ (List.mem_cons_of_mem _ (Attribute.name_used_of_all m.attributes n inside))

theorem ClassFile.name_used (c : ClassFile) (n : UInt16) (named : n ∈ c.attributeNames) :
    ⟨n, .fixed⟩ ∈ c.uses := by
  simp only [attributeNames, List.mem_append] at named
  simp only [uses, List.mem_append]
  rcases named with (field | method) | own
  · exact .inl (.inl (.inr (Member.name_used_of_all c.fields n field)))
  · exact .inl (.inr (Member.name_used_of_all c.methods n method))
  · exact .inr (Attribute.name_used_of_all c.attributes n own)

variable {f : Repointing}

mutual
theorem ElementValue.map_uses_extent (value : ElementValue) : (value.mapUses f).extent = value.extent := by
  cases value with
  | nested type elements =>
      obtain ⟨length, same⟩ := ElementValue.map_uses_extent_of_elements elements
      rw [ElementValue.mapUses, ElementValue.extent, length, same, ElementValue.extent]
  | array values =>
      obtain ⟨length, same⟩ := ElementValue.map_uses_extent_of_values values
      rw [ElementValue.mapUses, ElementValue.extent, length, same, ElementValue.extent]
  | _ => rfl
termination_by structural value

theorem ElementValue.map_uses_extent_of_values (values : List ElementValue) :
    (mapUsesOfValues f values).length = values.length ∧
      extentOfValues (mapUsesOfValues f values) = extentOfValues values := by
  cases values with
  | nil => exact ⟨rfl, rfl⟩
  | cons value rest =>
      obtain ⟨length, same⟩ := ElementValue.map_uses_extent_of_values rest
      refine ⟨congrArg Nat.succ length, ?_⟩
      rw [mapUsesOfValues, extentOfValues, value.map_uses_extent, same, extentOfValues]
termination_by structural values

theorem ElementValue.map_uses_extent_of_elements (elements : List (UInt16 × ElementValue)) :
    (mapUsesOfElements f elements).length = elements.length ∧
      extentOfElements (mapUsesOfElements f elements) = extentOfElements elements := by
  cases elements with
  | nil => exact ⟨rfl, rfl⟩
  | cons element rest =>
      cases element with
      | mk name value =>
          obtain ⟨length, same⟩ := ElementValue.map_uses_extent_of_elements rest
          refine ⟨congrArg Nat.succ length, ?_⟩
          rw [mapUsesOfElements, extentOfElements, value.map_uses_extent, same, extentOfElements]
termination_by structural elements
end

theorem AnnotationEntry.map_uses_extent (a : AnnotationEntry) : (a.mapUses f).extent = a.extent := by
  obtain ⟨length, same⟩ := ElementValue.map_uses_extent_of_elements (f := f) a.elements
  rw [extent, mapUses, length, same, extent]

theorem mapped_sum_extent {α : Type} (extent : α → Extent) (change : α → α)
    (stays : ∀ a, extent (change a) = extent a) (items : List α) :
    Extent.sum ((items.map change).map extent) = Extent.sum (items.map extent) := by
  rw [List.map_map]
  exact congrArg Extent.sum (List.map_congr_left fun a _ => stays a)

theorem AnnotationEntry.map_uses_extent_of_all (items : List AnnotationEntry) :
    extentOfAll (items.map (AnnotationEntry.mapUses f)) = extentOfAll items := by
  rw [extentOfAll, List.length_map, mapped_sum_extent _ _ AnnotationEntry.map_uses_extent, extentOfAll]

theorem LocalVariable.map_uses_extent_of_all (type : Role) (entries : List LocalVariable) :
    extentOfAll (entries.map (LocalVariable.mapUses f type)) = extentOfAll entries := by
  rw [extentOfAll, List.length_map, extentOfAll]

mutual
theorem AttributeBody.map_uses_extent (body : AttributeBody) : (body.mapUses f).extent = body.extent := by
  cases body with
  | code maxStack maxLocals instructions handlers attributes =>
      obtain ⟨length, same⟩ := Attribute.map_uses_extent_of_all attributes
      rw [AttributeBody.mapUses, AttributeBody.extent, length, same, AttributeBody.extent]
  | localVariables entries => exact LocalVariable.map_uses_extent_of_all .descriptor entries
  | localVariableTypes entries => exact LocalVariable.map_uses_extent_of_all .signature entries
  | annotations items => exact AnnotationEntry.map_uses_extent_of_all items
  | parameterAnnotations parameters =>
      rw [AttributeBody.mapUses, AttributeBody.extent, List.length_map,
        mapped_sum_extent _ _ AnnotationEntry.map_uses_extent_of_all, AttributeBody.extent]
  | typeAnnotations items =>
      have each (a : TypeAnnotationEntry) :
          ({ a with entry := a.entry.mapUses f } : TypeAnnotationEntry).extent = a.extent := by
        rw [TypeAnnotationEntry.extent, a.entry.map_uses_extent, TypeAnnotationEntry.extent]
      rw [AttributeBody.mapUses, AttributeBody.extent, List.length_map, mapped_sum_extent _ _ each,
        AttributeBody.extent]
  | annotationDefault value => exact value.map_uses_extent
  | record components =>
      obtain ⟨length, same⟩ := RecordComponent.map_uses_extent_of_all components
      rw [AttributeBody.mapUses, AttributeBody.extent, length, same, AttributeBody.extent]
  | _ => rfl
termination_by structural body

theorem Attribute.map_uses_extent (a : Attribute) : (a.mapUses f).extent = a.extent := by
  cases a with
  | mk name body => rw [Attribute.mapUses, Attribute.extent, body.map_uses_extent, Attribute.extent]
termination_by structural a

theorem Attribute.map_uses_extent_of_all (attributes : List Attribute) :
    (Attribute.mapUsesOfAll f attributes).length = attributes.length ∧
      Attribute.extentOfEach (Attribute.mapUsesOfAll f attributes) = Attribute.extentOfEach attributes := by
  cases attributes with
  | nil => exact ⟨rfl, rfl⟩
  | cons a rest =>
      obtain ⟨length, same⟩ := Attribute.map_uses_extent_of_all rest
      refine ⟨congrArg Nat.succ length, ?_⟩
      rw [Attribute.mapUsesOfAll, Attribute.extentOfEach, a.map_uses_extent, same, Attribute.extentOfEach]
termination_by structural attributes

theorem RecordComponent.map_uses_extent (component : RecordComponent) :
    (component.mapUses f).extent = component.extent := by
  cases component with
  | mk name descriptor attributes =>
      obtain ⟨length, same⟩ := Attribute.map_uses_extent_of_all attributes
      rw [RecordComponent.mapUses, RecordComponent.extent, length, same, RecordComponent.extent]
termination_by structural component

theorem RecordComponent.map_uses_extent_of_all (components : List RecordComponent) :
    (RecordComponent.mapUsesOfAll f components).length = components.length ∧
      RecordComponent.extentOfEach (RecordComponent.mapUsesOfAll f components) =
        RecordComponent.extentOfEach components := by
  cases components with
  | nil => exact ⟨rfl, rfl⟩
  | cons component rest =>
      obtain ⟨length, same⟩ := RecordComponent.map_uses_extent_of_all rest
      refine ⟨congrArg Nat.succ length, ?_⟩
      rw [RecordComponent.mapUsesOfAll, RecordComponent.extentOfEach, component.map_uses_extent, same,
        RecordComponent.extentOfEach]
termination_by structural components
end

theorem Member.map_uses_extent (m : Member) : (m.mapUses f).extent = m.extent := by
  obtain ⟨length, same⟩ := Attribute.map_uses_extent_of_all (f := f) m.attributes
  rw [extent, mapUses, length, same, extent]

theorem Member.map_uses_extent_of_all (members : List Member) :
    extentOfAll (members.map (Member.mapUses f)) = extentOfAll members := by
  rw [extentOfAll, List.length_map, mapped_sum_extent _ _ Member.map_uses_extent, extentOfAll]

mutual
theorem ElementValue.map_uses_well_formed (value : ElementValue) (valid : value.WellFormed) :
    (value.mapUses f).WellFormed := by
  cases valid with
  | const tag index legal => exact .const tag _ legal
  | enumConst type name => exact .enumConst _ _
  | classInfo descriptor => exact .classInfo _
  | nested type elements each =>
      exact .nested _ _ (ElementValue.map_uses_well_formed_of_elements elements each)
  | array values each => exact .array _ (ElementValue.map_uses_well_formed_of_values values each)
termination_by structural value

theorem ElementValue.map_uses_well_formed_of_values (values : List ElementValue)
    (each : ∀ v ∈ values, v.WellFormed) : ∀ v ∈ mapUsesOfValues f values, v.WellFormed := by
  cases values with
  | nil => nofun
  | cons value rest =>
      obtain ⟨first, others⟩ := List.forall_mem_cons.mp each
      exact List.forall_mem_cons.mpr ⟨value.map_uses_well_formed first,
        ElementValue.map_uses_well_formed_of_values rest others⟩
termination_by structural values

theorem ElementValue.map_uses_well_formed_of_elements (elements : List (UInt16 × ElementValue))
    (each : ∀ e ∈ elements, e.2.WellFormed) : ∀ e ∈ mapUsesOfElements f elements, e.2.WellFormed := by
  cases elements with
  | nil => nofun
  | cons element rest =>
      cases element with
      | mk name value =>
          obtain ⟨first, others⟩ := List.forall_mem_cons.mp each
          exact List.forall_mem_cons.mpr ⟨value.map_uses_well_formed first,
            ElementValue.map_uses_well_formed_of_elements rest others⟩
termination_by structural elements
end

theorem AnnotationEntry.map_uses_well_formed (a : AnnotationEntry) (valid : a.WellFormed) :
    (a.mapUses f).WellFormed :=
  ElementValue.map_uses_well_formed_of_elements a.elements valid

theorem AnnotationEntry.map_uses_well_formed_of_all (items : List AnnotationEntry)
    (each : ∀ a ∈ items, a.WellFormed) : ∀ a ∈ items.map (AnnotationEntry.mapUses f), a.WellFormed :=
  List.forall_mem_map.mpr fun a member => a.map_uses_well_formed (each a member)

theorem AttributeBody.map_uses_kind (body : AttributeBody) : (body.mapUses f).kind = body.kind := by
  cases body <;> rfl

variable {before after : Pool}

mutual
theorem AttributeBody.map_uses_well_formed (names : f.KeepsNames) (body : AttributeBody)
    (same : ∀ n ∈ body.attributeNames, after.text n = before.text n) (valid : body.WellFormed before) :
    (body.mapUses f).WellFormed after := by
  cases valid with
  | code maxStack maxLocals instructions handlers attributes sized each =>
      exact .code _ _ _ _ _ sized (Attribute.map_uses_well_formed_of_all names attributes same each)
  | signature index => exact .signature _
  | localVariables entries => exact .localVariables _
  | localVariableTypes entries => exact .localVariableTypes _
  | annotations items each => exact .annotations _ (AnnotationEntry.map_uses_well_formed_of_all items each)
  | parameterAnnotations parameters each =>
      exact .parameterAnnotations _ (List.forall_mem_map.mpr fun items member =>
        AnnotationEntry.map_uses_well_formed_of_all items (each items member))
  | typeAnnotations items each =>
      exact .typeAnnotations _ (List.forall_mem_map.mpr fun a member =>
        ⟨(each a member).1, a.entry.map_uses_well_formed (each a member).2⟩)
  | annotationDefault value valid => exact .annotationDefault _ (value.map_uses_well_formed valid)
  | record components each =>
      exact .record _ (RecordComponent.map_uses_well_formed_of_all names components same each)
  | raw data => exact .raw data
termination_by structural body

theorem Attribute.map_uses_well_formed (names : f.KeepsNames) (a : Attribute)
    (same : ∀ n ∈ a.attributeNames, after.text n = before.text n) (valid : a.WellFormed before) :
    (a.mapUses f).WellFormed after := by
  cases valid with
  | mk name body kind valid =>
      obtain ⟨own, inside⟩ := List.forall_mem_cons.mp same
      rw [Attribute.mapUses, names name]
      refine .mk name _ ?_ (body.map_uses_well_formed names inside valid)
      rw [body.map_uses_kind, own, kind]
termination_by structural a

theorem Attribute.map_uses_well_formed_of_all (names : f.KeepsNames) (attributes : List Attribute)
    (same : ∀ n ∈ Attribute.namesOfAll attributes, after.text n = before.text n)
    (each : ∀ a ∈ attributes, a.WellFormed before) :
    ∀ a ∈ Attribute.mapUsesOfAll f attributes, a.WellFormed after := by
  cases attributes with
  | nil => nofun
  | cons a rest =>
      obtain ⟨here, there⟩ := List.forall_mem_append.mp same
      obtain ⟨first, others⟩ := List.forall_mem_cons.mp each
      exact List.forall_mem_cons.mpr ⟨a.map_uses_well_formed names here first,
        Attribute.map_uses_well_formed_of_all names rest there others⟩
termination_by structural attributes

theorem RecordComponent.map_uses_well_formed (names : f.KeepsNames) (component : RecordComponent)
    (same : ∀ n ∈ component.attributeNames, after.text n = before.text n)
    (valid : component.WellFormed before) : (component.mapUses f).WellFormed after := by
  cases valid with
  | mk name descriptor attributes each =>
      exact .mk _ _ _ (Attribute.map_uses_well_formed_of_all names attributes same each)
termination_by structural component

theorem RecordComponent.map_uses_well_formed_of_all (names : f.KeepsNames)
    (components : List RecordComponent)
    (same : ∀ n ∈ RecordComponent.namesOfAll components, after.text n = before.text n)
    (each : ∀ c ∈ components, c.WellFormed before) :
    ∀ c ∈ RecordComponent.mapUsesOfAll f components, c.WellFormed after := by
  cases components with
  | nil => nofun
  | cons component rest =>
      obtain ⟨here, there⟩ := List.forall_mem_append.mp same
      obtain ⟨first, others⟩ := List.forall_mem_cons.mp each
      exact List.forall_mem_cons.mpr ⟨component.map_uses_well_formed names here first,
        RecordComponent.map_uses_well_formed_of_all names rest there others⟩
termination_by structural components
end

theorem Member.map_uses_well_formed_of_all (names : f.KeepsNames) (members : List Member)
    (same : ∀ n ∈ members.flatMap fun m => Attribute.namesOfAll m.attributes, after.text n = before.text n)
    (each : ∀ m ∈ members, m.WellFormed before) :
    ∀ m ∈ members.map (Member.mapUses f), m.WellFormed after := by
  refine List.forall_mem_map.mpr fun m member => ?_
  refine Attribute.map_uses_well_formed_of_all names m.attributes (fun n named => ?_) (each m member)
  exact same n (List.mem_flatMap.mpr ⟨m, member, named⟩)

end Shading
