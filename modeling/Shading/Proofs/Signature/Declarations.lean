import Shading.Proofs.Signature.Grammar
import Shading.Proofs.Signature.Printing

set_option autoImplicit false

namespace Shading.Signature

open SignaturePiece

def TypeTree.deeper : TypeTree → TypeTree
  | .mk depth element => .mk (depth + 1) element

def TailTree.make (next : NextTree) : ArgumentTree → TailTree
  | .close => .plain next
  | arguments => .generic arguments next

mutual
def FieldType.tree : FieldType → TypeTree
  | .base type => .mk 0 (.base type.letter)
  | .reference type => type.tree
termination_by structural t => t

def ReferenceType.tree : ReferenceType → TypeTree
  | .object type => .mk 0 type.tree
  | .variable name => .mk 0 (.variable name)
  | .array component => component.tree.deeper
termination_by structural t => t

def ClassType.tree : ClassType → ElementTree
  | .mk name arguments nested => .object name (.make nested.tree arguments.tree)
termination_by structural t => t

def Arguments.tree : Arguments → ArgumentTree
  | .nil => .close
  | .any others => .any others.tree
  | .type limit type others => .type (Limit.mark limit) type.tree others.tree
termination_by structural a => a

def NestedTypes.tree : NestedTypes → NextTree
  | .nil => .stop
  | .cons name arguments others => .nested name (.make others.tree arguments.tree)
termination_by structural n => n
end

def ThrownType.items : ThrownType → List Item
  | .object type => [.mark '^', .type (.mk 0 type.tree)]
  | .variable name => [.mark '^', .type (.mk 0 (.variable name))]

def TypeParameter.parameter (p : TypeParameter) : Parameter where
  name := p.name
  classBound := p.classBound.map ReferenceType.tree
  bounds := p.interfaceBounds.map ReferenceType.tree

def Declaration.parametersOf : List TypeParameter → Option (List Parameter)
  | [] => none
  | p :: rest => some ((p :: rest).map TypeParameter.parameter)

def Declaration.tree : Declaration → Tree
  | field type => ⟨none, [.type type.tree]⟩
  | method parameters arguments result thrown =>
      ⟨parametersOf parameters, .mark '(' :: arguments.map (fun t => .type t.tree) ++
        .mark ')' :: result.elim (.mark 'V') (fun t => .type t.tree) :: thrown.flatMap ThrownType.items⟩
  | classes parameters superclass interfaces =>
      ⟨parametersOf parameters, (superclass :: interfaces).map fun t => .type (.mk 0 t.tree)⟩

theorem bracketed_filled (s : Text) (filled : s ≠ []) : bracketed s = '<' :: s ++ ['>'] := by
  cases s with
  | nil => exact absurd rfl filled
  | cons c rest => rfl

theorem TypeTree.deeper_print (t : TypeTree) : t.deeper.print = '[' :: t.print := by
  cases t with
  | mk depth element => rfl

theorem ReferenceType.print_filled (t : ReferenceType) : t.print ≠ [] := by
  cases t with
  | object type =>
      cases type
      simp [ReferenceType.print, ClassType.print]
  | «variable» name => simp [ReferenceType.print]
  | array component => simp [ReferenceType.print]

theorem TailTree.make_print (arguments : Arguments) (next : NextTree)
    (same : arguments.tree.print = arguments.print ++ ['>']) :
    (TailTree.make next arguments.tree).print = bracketed arguments.print ++ next.print := by
  cases arguments with
  | nil => rfl
  | any others =>
      have filled : (Arguments.any others).print ≠ [] := by simp [Arguments.print]
      rw [bracketed_filled _ filled]
      simpa [Arguments.tree, TailTree.make, TailTree.print] using congrArg (· ++ next.print) same
  | type limit type others =>
      have filled : (Arguments.type limit type others).print ≠ [] := by
        simp [Arguments.print, type.print_filled]
      rw [bracketed_filled _ filled]
      simpa [Arguments.tree, TailTree.make, TailTree.print] using congrArg (· ++ next.print) same

mutual
theorem FieldType.tree_print (t : FieldType) : t.tree.print = t.print := by
  cases t with
  | base type => rfl
  | reference type => exact type.tree_print

theorem ReferenceType.tree_print (t : ReferenceType) : t.tree.print = t.print := by
  cases t with
  | object type => exact type.tree_print
  | «variable» name => rfl
  | array component =>
      rw [ReferenceType.tree, TypeTree.deeper_print, component.tree_print, ReferenceType.print]

theorem ClassType.tree_print (t : ClassType) : t.tree.print = t.print := by
  cases t with
  | mk name arguments nested =>
      rw [ClassType.tree, ElementTree.print, TailTree.make_print arguments _ arguments.tree_print,
        nested.tree_print, ClassType.print]
      simp

theorem Arguments.tree_print (arguments : Arguments) :
    arguments.tree.print = arguments.print ++ ['>'] := by
  cases arguments with
  | nil => rfl
  | any others => rw [Arguments.tree, ArgumentTree.print, others.tree_print, Arguments.print, List.cons_append]
  | type limit type others =>
      rw [Arguments.tree, ArgumentTree.print, type.tree_print, others.tree_print, Arguments.print]
      simp

theorem NestedTypes.tree_print (nested : NestedTypes) : nested.tree.print = nested.print ++ [';'] := by
  cases nested with
  | nil => rfl
  | cons name arguments others =>
      rw [NestedTypes.tree, NextTree.print, TailTree.make_print arguments _ arguments.tree_print,
        others.tree_print, NestedTypes.print]
      simp
end

theorem TypeParameter.parameter_print (p : TypeParameter) : p.parameter.print = p.print := by
  unfold parameter Parameter.print TypeParameter.print
  cases p.classBound <;> simp [List.flatMap_map, ReferenceType.tree_print]

theorem Declaration.parameters_print (parameters : List TypeParameter) :
    (parametersOf parameters).elim [] (fun ps => '<' :: ps.flatMap Parameter.print ++ ['>']) =
      bracketed (parameters.flatMap TypeParameter.print) := by
  cases parameters with
  | nil => rfl
  | cons p rest =>
      have filled : (p :: rest).flatMap TypeParameter.print ≠ [] := by
        simp [TypeParameter.print]
      rw [bracketed_filled _ filled, parametersOf, Option.elim_some, List.flatMap_map]
      simp only [TypeParameter.parameter_print]

theorem ThrownType.items_print (t : ThrownType) : t.items.flatMap Item.print = t.print := by
  cases t with
  | object type => simp [items, Item.print, TypeTree.print, ThrownType.print, ClassType.tree_print]
  | «variable» name => simp [items, Item.print, TypeTree.print, ThrownType.print, ElementTree.print]

theorem Declaration.tree_print (d : Declaration) : d.tree.print = d.print := by
  cases d with
  | field type => simp [tree, Tree.print, Item.print, Declaration.print, type.tree_print]
  | method parameters arguments result thrown =>
      rw [tree, Tree.print, parameters_print, Declaration.print]
      cases result <;>
        simp [List.flatMap_map, List.flatMap_assoc, Item.print, FieldType.tree_print, ThrownType.items_print]
  | classes parameters superclass interfaces =>
      rw [tree, Tree.print, parameters_print, Declaration.print]
      simp [List.flatMap_map, Item.print, TypeTree.print, ClassType.tree_print]

theorem identifier_named (stops name : Text) (identifier : Identifier name)
    (inside : stops ⊆ ['.', ';', '[', '/', '<', '>', ':']) : Named stops name :=
  ⟨identifier.1, fun c member stop => identifier.2 c member (inside stop)⟩

theorem qualified_named (name : Text) (qualified : QualifiedName name) : Named nameStops name := by
  have whole : Text.join ['/'] (Text.split '/' name) = name := List.intercalate_splitOn '/'
  refine ⟨fun empty => ?_, fun c member => ?_⟩
  · rw [empty] at qualified
    exact (qualified [] (by decide)).1 rfl
  · rw [← whole] at member
    cases Text.mem_join '/' _ c member with
    | inl slash =>
        rw [slash]
        decide
    | inr inside =>
        obtain ⟨part, listed, here⟩ := inside
        exact (identifier_named nameStops part (qualified part listed) (by decide)).2 c here

theorem TypeTree.deeper_proper (t : TypeTree) (proper : t.Proper) : t.deeper.Proper := by
  cases t with
  | mk depth element => exact proper

theorem TailTree.make_proper (arguments : ArgumentTree) (next : NextTree) (proper : arguments.Proper)
    (properNext : next.Proper) : (TailTree.make next arguments).Proper := by
  cases arguments with
  | close => exact properNext
  | any rest => exact ⟨proper, properNext⟩
  | type mark type rest => exact ⟨proper, properNext⟩

theorem BaseType.letter_legal (t : BaseType) : t.letter ∈ baseTypes ∧ t.letter ≠ 'V' := by
  cases t <;> decide

theorem Limit.mark_legal (limit : Option Limit) : mark limit ∈ [[], ['+'], ['-']] := by
  cases limit with
  | none => decide
  | some limit => cases limit <;> decide

mutual
theorem FieldType.tree_proper (t : FieldType) (formed : t.WellFormed) : t.tree.Proper := by
  cases t with
  | base type => exact type.letter_legal.1
  | reference type => exact type.tree_proper formed

theorem ReferenceType.tree_proper (t : ReferenceType) (formed : t.WellFormed) : t.tree.Proper := by
  cases t with
  | object type => exact type.tree_proper formed
  | «variable» name => exact identifier_named [';'] name formed (by decide)
  | array component => exact component.tree.deeper_proper (component.tree_proper formed)

theorem ClassType.tree_proper (t : ClassType) (formed : t.WellFormed) : t.tree.Proper := by
  cases t with
  | mk name arguments nested =>
      obtain ⟨qualified, formedArguments, formedNested⟩ := formed
      exact ⟨qualified_named name qualified, TailTree.make_proper _ _
        (arguments.tree_proper formedArguments) (nested.tree_proper formedNested)⟩

theorem Arguments.tree_proper (arguments : Arguments) (formed : arguments.WellFormed) :
    arguments.tree.Proper := by
  cases arguments with
  | nil => trivial
  | any others => exact others.tree_proper formed
  | type limit type others =>
      exact ⟨Limit.mark_legal limit, type.tree_proper formed.1, others.tree_proper formed.2⟩

theorem NestedTypes.tree_proper (nested : NestedTypes) (formed : nested.WellFormed) :
    nested.tree.Proper := by
  cases nested with
  | nil => trivial
  | cons name arguments others =>
      obtain ⟨identifier, formedArguments, formedOthers⟩ := formed
      exact ⟨identifier_named nameStops name identifier (by decide), TailTree.make_proper _ _
        (arguments.tree_proper formedArguments) (others.tree_proper formedOthers)⟩
end

theorem ReferenceType.tree_class_bound (t : ReferenceType) : t.tree.IsClassBound := by
  cases t with
  | object type =>
      cases type
      intro _ letter base
      cases base
  | «variable» name =>
      intro _ letter base
      cases base
  | array component =>
      rw [ReferenceType.tree]
      cases component.tree with
      | mk depth element => exact fun absent => absurd absent (Nat.succ_ne_zero depth)

theorem FieldType.tree_not_void (t : FieldType) : t.tree ≠ .mk 0 (.base 'V') := by
  cases t with
  | base type =>
      intro same
      injection same with _ element
      injection element with letter
      exact type.letter_legal.2 letter
  | reference type =>
      intro same
      have bound := type.tree_class_bound
      rw [show type.tree = .mk 0 (.base 'V') from same] at bound
      exact bound rfl 'V' rfl

theorem FieldType.item_proper (t : FieldType) (formed : t.WellFormed) : (Item.type t.tree).Proper :=
  ⟨t.tree_proper formed, t.tree_not_void⟩

theorem ReferenceType.item_proper (t : ReferenceType) (formed : t.WellFormed) : (Item.type t.tree).Proper :=
  FieldType.item_proper (.reference t) formed

theorem ThrownType.items_proper (t : ThrownType) (formed : t.WellFormed) : ∀ i ∈ t.items, i.Proper := by
  have mark : (Item.mark '^').Proper := by simp [Item.Proper]
  cases t with
  | object type =>
      have item := ReferenceType.item_proper (.object type) formed
      exact List.forall_mem_cons.mpr ⟨mark, List.forall_mem_singleton.mpr item⟩
  | «variable» name =>
      have item := ReferenceType.item_proper (.variable name) formed
      exact List.forall_mem_cons.mpr ⟨mark, List.forall_mem_singleton.mpr item⟩

theorem TypeParameter.parameter_proper (p : TypeParameter) (formed : p.WellFormed) :
    p.parameter.Proper where
  name := identifier_named [':'] p.name formed.name (by decide)
  opening := by
    intro opens
    exact formed.name.2 '>' (List.mem_of_head? opens) (by decide)
  classBound := by
    intro t bound
    obtain ⟨type, own, rfl⟩ := Option.map_eq_some_iff.mp bound
    exact ⟨type.tree_proper (formed.classBound type own), type.tree_class_bound⟩
  bounds := List.forall_mem_map.mpr fun t member => t.tree_proper (formed.interfaceBounds t member)

-- As every parameter has a bound, none is taken for the bound of the one before.
theorem parameters_proper (parameters : List TypeParameter) (formed : ∀ p ∈ parameters, p.WellFormed) :
    ProperParameters (parameters.map TypeParameter.parameter) := by
  induction parameters with
  | nil => trivial
  | cons p rest ih =>
      obtain ⟨formedFirst, formedRest⟩ := List.forall_mem_cons.mp formed
      refine ⟨p.parameter_proper formedFirst, ?_, ih formedRest⟩
      intro absent alone
      exact absurd (List.map_eq_nil_iff.mp alone)
        (formedFirst.bounded (Option.map_eq_none_iff.mp absent))

theorem Declaration.parameters_of_proper (parameters : List TypeParameter)
    (formed : ∀ p ∈ parameters, p.WellFormed) :
    ∀ ps, parametersOf parameters = some ps → ProperParameters ps := by
  intro ps same
  cases parameters with
  | nil => cases same
  | cons p rest =>
      cases same
      exact parameters_proper (p :: rest) formed

theorem Declaration.tree_proper (d : Declaration) (formed : d.WellFormed) : d.tree.Proper := by
  cases d with
  | field type =>
      refine { parameters := ?_, items := ?_, filled := ?_ }
      · intro ps same
        cases same
      · exact List.forall_mem_singleton.mpr (type.item_proper formed)
      · intro _ empty
        cases empty
  | method parameters arguments result thrown =>
      obtain ⟨formedParameters, formedArguments, formedResult, formedThrown⟩ := formed
      refine ⟨parameters_of_proper parameters formedParameters, ?_, fun _ empty => by cases empty⟩
      have mark : ∀ letter ∈ ['(', ')', '^', 'V'], (Item.mark letter).Proper := fun _ legal => legal
      have first : ∀ i ∈ arguments.map fun t => Item.type t.tree, i.Proper :=
        List.forall_mem_map.mpr fun t member => t.item_proper (formedArguments t member)
      have value : (result.elim (.mark 'V') fun t => .type t.tree : Item).Proper := by
        cases result with
        | none => exact mark 'V' (by decide)
        | some t => exact t.item_proper (formedResult t rfl)
      have last : ∀ i ∈ thrown.flatMap ThrownType.items, i.Proper := by
        intro i member
        obtain ⟨t, listed, inside⟩ := List.mem_flatMap.mp member
        exact t.items_proper (formedThrown t listed) i inside
      intro i member
      simp only [tree, List.mem_cons, List.mem_append] at member
      rcases member with (rfl | inside) | rfl | rfl | inside
      · exact mark '(' (by decide)
      · exact first i inside
      · exact mark ')' (by decide)
      · exact value
      · exact last i inside
  | classes parameters superclass interfaces =>
      obtain ⟨formedParameters, formedSuper, formedInterfaces⟩ := formed
      refine ⟨parameters_of_proper parameters formedParameters, ?_, fun _ empty => by cases empty⟩
      refine List.forall_mem_map.mpr fun t member => ReferenceType.item_proper (.object t) ?_
      cases List.mem_cons.mp member with
      | inl same => exact same ▸ formedSuper
      | inr inside => exact formedInterfaces t inside

theorem cut_at_last (mark : Char) (s : Text) :
    ((Text.cutAtLast? mark s).map Prod.snd).getD s = (s.reverse.takeWhile (· != mark)).reverse := by
  unfold Text.cutAtLast? Text.cutAt?
  rw [List.span_eq_takeWhile_dropWhile]
  cases behind : s.reverse.dropWhile (· != mark) with
  | nil =>
      have whole := List.takeWhile_append_dropWhile (p := (· != mark)) (l := s.reverse)
      rw [behind, List.append_nil] at whole
      simpa using (congrArg List.reverse whole).symm
  | cons c rest => simp

theorem simple_name_nested_name (outer full : Text) : simpleName outer full = nestedName outer full := by
  unfold simpleName nestedName
  by_cases inside : outer ++ ['$'] <+: full
  · obtain ⟨rest, rfl⟩ := inside
    rw [(Text.drop_start_some _ _ rest).mpr rfl, if_pos (List.prefix_append _ _)]
    simp
  · have none : Text.dropStart? (outer ++ ['$']) full = none := by
      cases cut : Text.dropStart? (outer ++ ['$']) full with
      | none => rfl
      | some rest => exact absurd ⟨rest, ((Text.drop_start_some _ _ rest).mp cut).symm⟩ inside
    rw [none, if_neg inside]
    exact cut_at_last '$' full

section

variable (f : Text → Option Text)

theorem TypeTree.deeper_rename (t : TypeTree) : t.deeper.rename f = (t.rename f).deeper := by
  cases t with
  | mk depth element => rfl

theorem TailTree.make_rename (arguments : ArgumentTree) (next : NextTree) (outer : Text) :
    (TailTree.make next arguments).rename f outer =
      TailTree.make (next.rename f outer) (arguments.rename f) := by
  cases arguments <;> rfl

mutual
theorem FieldType.tree_rename (t : FieldType) : (t.rename f).tree = t.tree.rename f := by
  cases t with
  | base type => rfl
  | reference type => exact type.tree_rename

theorem ReferenceType.tree_rename (t : ReferenceType) : (t.rename f).tree = t.tree.rename f := by
  cases t with
  | object type => exact congrArg (TypeTree.mk 0) type.tree_rename
  | «variable» name => rfl
  | array component =>
      rw [ReferenceType.rename, ReferenceType.tree, component.tree_rename, ReferenceType.tree,
        TypeTree.deeper_rename]

theorem ClassType.tree_rename (t : ClassType) : (t.rename f).tree = t.tree.rename f := by
  cases t with
  | mk name arguments nested =>
      rw [ClassType.rename, ClassType.tree, arguments.tree_rename, nested.tree_rename, ClassType.tree,
        ElementTree.rename, TailTree.make_rename]

theorem Arguments.tree_rename (arguments : Arguments) : (arguments.rename f).tree = arguments.tree.rename f := by
  cases arguments with
  | nil => rfl
  | any others => exact congrArg ArgumentTree.any others.tree_rename
  | type limit type others =>
      rw [Arguments.rename, Arguments.tree, type.tree_rename, others.tree_rename, Arguments.tree,
        ArgumentTree.rename]

theorem NestedTypes.tree_rename (nested : NestedTypes) (outer : Text) :
    (nested.rename f outer).tree = nested.tree.rename f outer := by
  cases nested with
  | nil => rfl
  | cons name arguments others =>
      rw [NestedTypes.rename, NestedTypes.tree, arguments.tree_rename, others.tree_rename,
        NestedTypes.tree, NextTree.rename, TailTree.make_rename, simple_name_nested_name, binaryName]
end

theorem ThrownType.items_rename (t : ThrownType) : (t.rename f).items = t.items.map (Item.rename f) := by
  cases t with
  | object type => simp [rename, items, Item.rename, TypeTree.rename, type.tree_rename]
  | «variable» name => rfl

theorem TypeParameter.parameter_rename (p : TypeParameter) :
    (p.rename f).parameter = p.parameter.rename f := by
  simp [rename, parameter, Parameter.rename, ReferenceType.tree_rename, Function.comp_def]

theorem Declaration.parameters_rename (parameters : List TypeParameter) :
    parametersOf (parameters.map (TypeParameter.rename f)) =
      (parametersOf parameters).map fun ps => ps.map (Parameter.rename f) := by
  cases parameters with
  | nil => rfl
  | cons p rest => simp [parametersOf, TypeParameter.parameter_rename]

theorem Declaration.tree_rename (d : Declaration) : (d.rename f).tree = d.tree.rename f := by
  cases d with
  | field type => simp [rename, tree, Tree.rename, Item.rename, type.tree_rename]
  | method parameters arguments result thrown =>
      rw [rename, tree, parameters_rename, tree, Tree.rename]
      cases result <;>
        simp [Item.rename, FieldType.tree_rename, ThrownType.items_rename, List.map_flatMap, List.flatMap_map]
  | classes parameters superclass interfaces =>
      rw [rename, tree, parameters_rename, tree, Tree.rename]
      simp [Item.rename, TypeTree.rename, ClassType.tree_rename]

end

theorem declarations_rename (f : Text → Option Text) (d : Declaration) (formed : d.WellFormed) :
    rename f d.print = .ok (d.rename f).print := by
  rw [← d.tree_print, rename_print f d.tree (d.tree_proper formed), ← d.tree_rename, Declaration.tree_print]

def movedApart (name : Text) : Option Text :=
  ["é/Outer", "é/Outer$In", "a/X", "a/S$T"].map String.toList |>.zip
    (["z/Outer", "q/Flat$Nested", "b/X", "Alone"].map String.toList) |>.lookup name

-- `<T::La/B<TT;>;U:[I>([[Lé/Outer<*-[TU;>.In<+La/X;>.Deep;J)V^La/S.T;^TT;`
def layeredMethod : Declaration :=
  let bounds : Arguments := .any (.type (some .lower) (.array (.reference (.variable ['U']))) .nil)
  let inner : Arguments := .type (some .upper) (.object (.mk "a/X".toList .nil .nil)) .nil
  let nested : NestedTypes := .cons "In".toList inner (.cons "Deep".toList .nil .nil)
  let outer : ReferenceType := .object (.mk "é/Outer".toList bounds nested)
  .method
    [⟨['T'], none, [.object (.mk "a/B".toList (.type none (.variable ['T']) .nil) .nil)]⟩,
      ⟨['U'], some (.array (.base .int)), []⟩]
    [.reference (.array (.reference (.array (.reference outer)))), .base .long] none
    [.object (.mk "a/S".toList .nil (.cons ['T'] .nil .nil)), .variable ['T']]

theorem layered_method_formed : layeredMethod.WellFormed := by
  have letterT : Identifier ['T'] := by decide
  have letterU : Identifier ['U'] := by decide
  have first : TypeParameter.WellFormed
      ⟨['T'], none, [.object (.mk "a/B".toList (.type none (.variable ['T']) .nil) .nil)]⟩ :=
    ⟨by decide, nofun, List.forall_mem_singleton.mpr ⟨by decide, ⟨letterT, trivial⟩, trivial⟩,
      fun _ => List.cons_ne_nil _ _⟩
  have second : TypeParameter.WellFormed ⟨['U'], some (.array (.base .int)), []⟩ :=
    ⟨letterU, fun t same => Option.some.inj same ▸ trivial, nofun, nofun⟩
  have bounds : (Arguments.any (.type (some .lower) (.array (.reference (.variable ['U']))) .nil)).WellFormed :=
    ⟨letterU, trivial⟩
  have nested : NestedTypes.WellFormed (.cons "In".toList
      (.type (some .upper) (.object (.mk "a/X".toList .nil .nil)) .nil)
      (.cons "Deep".toList .nil .nil)) :=
    ⟨by decide, ⟨⟨by decide, trivial, trivial⟩, trivial⟩, by decide, trivial, trivial⟩
  have thrown : (ClassType.mk "a/S".toList .nil (.cons ['T'] .nil .nil)).WellFormed :=
    ⟨by decide, trivial, by decide, trivial, trivial⟩
  refine ⟨?_, ?_, nofun, ?_⟩
  · exact List.forall_mem_cons.mpr ⟨first, List.forall_mem_singleton.mpr second⟩
  · exact List.forall_mem_cons.mpr ⟨⟨by decide, bounds, nested⟩, List.forall_mem_singleton.mpr trivial⟩
  · exact List.forall_mem_cons.mpr ⟨thrown, List.forall_mem_singleton.mpr letterT⟩

theorem layered_method_renames : layeredMethod.WellFormed ∧
    layeredMethod.print = "<T::La/B<TT;>;U:[I>([[Lé/Outer<*-[TU;>.In<+La/X;>.Deep;J)V^La/S.T;^TT;".toList ∧
    rename movedApart layeredMethod.print =
      .ok "<T::La/B<TT;>;U:[I>([[Lz/Outer<*-[TU;>.Nested<+Lb/X;>.Deep;J)V^La/S.Alone;^TT;".toList := by
  refine ⟨layered_method_formed, by decide, ?_⟩
  rw [declarations_rename movedApart layeredMethod layered_method_formed]
  exact congrArg Except.ok (by decide)

end Shading.Signature
