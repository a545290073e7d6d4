import Mathlib.Data.List.Forall2
import Shading.Proofs.Signature.Composition

set_option autoImplicit false

namespace Shading.Signature

open SignaturePiece

mutual
def TailTree.nestedNames : TailTree → List Text
  | .plain next => next.nestedNames
  | .generic _ next => next.nestedNames
termination_by structural t => t

def NextTree.nestedNames : NextTree → List Text
  | .stop => []
  | .nested name tail => name :: tail.nestedNames
termination_by structural n => n
end

mutual
def TypeTree.classTypes : TypeTree → List (Text × List Text)
  | .mk _ element => element.classTypes
termination_by structural t => t

def ElementTree.classTypes : ElementTree → List (Text × List Text)
  | .base _ => []
  | .variable _ => []
  | .object name tail => (name, tail.nestedNames) :: tail.classTypes
termination_by structural e => e

def TailTree.classTypes : TailTree → List (Text × List Text)
  | .plain next => next.classTypes
  | .generic arguments next => arguments.classTypes ++ next.classTypes
termination_by structural t => t

def NextTree.classTypes : NextTree → List (Text × List Text)
  | .stop => []
  | .nested _ tail => tail.classTypes
termination_by structural n => n

def ArgumentTree.classTypes : ArgumentTree → List (Text × List Text)
  | .close => []
  | .any rest => rest.classTypes
  | .type _ type rest => type.classTypes ++ rest.classTypes
termination_by structural a => a
end

def Parameter.classTypes (p : Parameter) : List (Text × List Text) :=
  p.classBound.elim [] TypeTree.classTypes ++ p.bounds.flatMap TypeTree.classTypes

def Item.classTypes : Item → List (Text × List Text)
  | mark _ => []
  | type t => t.classTypes

def Tree.classTypes (t : Tree) : List (Text × List Text) :=
  t.parameters.elim [] (fun ps => ps.flatMap Parameter.classTypes) ++ t.items.flatMap Item.classTypes

-- The renaming fixes the names, and with a name those of the classes nested in it.
structure Fixes (f : Text → Option Text) (p : Text → Prop) : Prop where
  fixed : ∀ name, p name → (f name).getD name = name
  nested : ∀ outer name, p outer → p (binaryName outer name)

def Kept (p : Text → Prop) : List (Text × List Text) → List (Text × List Text) → Prop :=
  List.Forall₂ fun before after => p before.1 → after = before

variable {f : Text → Option Text} {p : Text → Prop}

-- The renaming takes nested classes along with the classes around them, from names with the property.
structure Carries (f : Text → Option Text) (p : Text → Prop) : Prop where
  nested : ∀ outer name, p outer → Named nameStops name → p (binaryName outer name)
  carried : ∀ outer name, p outer → Named nameStops name →
    (f (binaryName outer name)).getD (binaryName outer name) = binaryName ((f outer).getD outer) name

theorem Fixes.carries (fixes : Fixes f p) : Carries f p where
  nested outer name holds _ := fixes.nested outer name holds
  carried outer name holds _ := by
    rw [fixes.fixed outer holds, fixes.fixed _ (fixes.nested outer name holds)]

mutual
theorem TailTree.nested_names_carried (carries : Carries f p) (t : TailTree) (proper : t.Proper)
    (outer : Text) (holds : p outer) : (t.rename f outer).nestedNames = t.nestedNames := by
  cases t with
  | plain next => exact next.nested_names_carried carries proper outer holds
  | generic arguments next => exact next.nested_names_carried carries proper.2 outer holds

theorem NextTree.nested_names_carried (carries : Carries f p) (next : NextTree) (proper : next.Proper)
    (outer : Text) (holds : p outer) : (next.rename f outer).nestedNames = next.nestedNames := by
  cases next with
  | stop => rfl
  | nested name tail =>
      obtain ⟨named, properTail⟩ := proper
      have inner := carries.nested outer name holds named
      rw [NextTree.rename, NextTree.nestedNames, NextTree.nestedNames,
        carries.carried outer name holds named, simple_name_nested,
        tail.nested_names_carried carries properTail _ inner]
end

def EachType (f : Text → Option Text) (R : Text × List Text → Text × List Text → Prop) : Prop :=
  ∀ name (tail : TailTree), Named nameStops name → tail.Proper →
    R (name, tail.nestedNames) ((f name).getD name, (tail.rename f name).nestedNames)

variable {R : Text × List Text → Text × List Text → Prop}

mutual
theorem TypeTree.class_types_related (each : EachType f R) (t : TypeTree) (proper : t.Proper) :
    List.Forall₂ R t.classTypes (t.rename f).classTypes := by
  cases t with
  | mk depth element => exact element.class_types_related each proper

theorem ElementTree.class_types_related (each : EachType f R) (e : ElementTree) (proper : e.Proper) :
    List.Forall₂ R e.classTypes (e.rename f).classTypes := by
  cases e with
  | base letter => exact .nil
  | «variable» name => exact .nil
  | object name tail =>
      obtain ⟨named, properTail⟩ := proper
      exact .cons (each name tail named properTail) (tail.class_types_related each properTail name)

theorem TailTree.class_types_related (each : EachType f R) (t : TailTree) (proper : t.Proper)
    (outer : Text) : List.Forall₂ R t.classTypes (t.rename f outer).classTypes := by
  cases t with
  | plain next => exact next.class_types_related each proper outer
  | generic arguments next =>
      exact List.rel_append (arguments.class_types_related each proper.1)
        (next.class_types_related each proper.2 outer)

theorem NextTree.class_types_related (each : EachType f R) (next : NextTree) (proper : next.Proper)
    (outer : Text) : List.Forall₂ R next.classTypes (next.rename f outer).classTypes := by
  cases next with
  | stop => exact .nil
  | nested name tail => exact tail.class_types_related each proper.2 _

theorem ArgumentTree.class_types_related (each : EachType f R) (arguments : ArgumentTree)
    (proper : arguments.Proper) : List.Forall₂ R arguments.classTypes (arguments.rename f).classTypes := by
  cases arguments with
  | close => exact .nil
  | any rest => exact rest.class_types_related each proper
  | type mark type rest =>
      exact List.rel_append (type.class_types_related each proper.2.1)
        (rest.class_types_related each proper.2.2)
end

theorem related_of_each {α : Type} (classTypes : α → List (Text × List Text)) (change : α → α)
    (items : List α) (each : ∀ a ∈ items, List.Forall₂ R (classTypes a) (classTypes (change a))) :
    List.Forall₂ R (items.flatMap classTypes) ((items.map change).flatMap classTypes) := by
  induction items with
  | nil => exact .nil
  | cons a rest ih =>
      obtain ⟨first, others⟩ := List.forall_mem_cons.mp each
      exact List.rel_append first (ih others)

theorem Parameter.class_types_related (each : EachType f R) (q : Parameter) (proper : q.Proper) :
    List.Forall₂ R q.classTypes (q.rename f).classTypes := by
  refine List.rel_append ?_ (related_of_each _ _ q.bounds fun t listed =>
    t.class_types_related each (proper.bounds t listed))
  unfold rename
  cases bound : q.classBound with
  | none => exact .nil
  | some t => exact t.class_types_related each (proper.classBound t bound).1

theorem Item.class_types_related (each : EachType f R) (i : Item) (proper : i.Proper) :
    List.Forall₂ R i.classTypes (i.rename f).classTypes := by
  cases i with
  | mark letter => exact .nil
  | type t => exact t.class_types_related each proper.1

theorem Tree.class_types_related (each : EachType f R) (t : Tree) (proper : t.Proper) :
    List.Forall₂ R t.classTypes (t.rename f).classTypes := by
  refine List.rel_append ?_ (related_of_each _ _ t.items fun i listed =>
    i.class_types_related each (proper.items i listed))
  unfold rename
  cases found : t.parameters with
  | none => exact .nil
  | some ps =>
      have properEach := ProperParameters.each ps (proper.parameters ps found)
      exact related_of_each _ _ ps fun q listed => q.class_types_related each (properEach q listed)

theorem Tree.class_types_kept (fixes : Fixes f p) (t : Tree) (proper : t.Proper) :
    Kept p t.classTypes (t.rename f).classTypes := by
  have each : EachType f fun before after => p before.1 → after = before := by
    intro name tail _ properTail holds
    rw [fixes.fixed name holds, tail.nested_names_carried fixes.carries properTail name holds]
  exact t.class_types_related each proper

end Shading.Signature
