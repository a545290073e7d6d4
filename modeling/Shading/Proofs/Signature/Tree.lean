import Shading.Proofs.Text
import Shading.Signature

set_option autoImplicit false

namespace Shading.Signature

open SignaturePiece

mutual
inductive TypeTree where
  | mk (depth : Nat) (element : ElementTree)

inductive ElementTree where
  | base (letter : Char)
  | variable (name : Text)
  | object (name : Text) (tail : TailTree)

-- What comes after a part of a class name: type arguments perhaps, and the next part or the end.
inductive TailTree where
  | plain (next : NextTree)
  | generic (arguments : ArgumentTree) (next : NextTree)

inductive NextTree where
  | stop
  | nested (name : Text) (tail : TailTree)

inductive ArgumentTree where
  | close
  | any (rest : ArgumentTree)
  | type (mark : Text) (type : TypeTree) (rest : ArgumentTree)
end

mutual
def TypeTree.print : TypeTree → Text
  | .mk depth element => List.replicate depth '[' ++ element.print
termination_by structural t => t

def ElementTree.print : ElementTree → Text
  | .base letter => [letter]
  | .variable name => 'T' :: name ++ [';']
  | .object name tail => 'L' :: name ++ tail.print
termination_by structural e => e

def TailTree.print : TailTree → Text
  | .plain next => next.print
  | .generic arguments next => '<' :: arguments.print ++ next.print
termination_by structural t => t

def NextTree.print : NextTree → Text
  | .stop => [';']
  | .nested name tail => '.' :: name ++ tail.print
termination_by structural n => n

def ArgumentTree.print : ArgumentTree → Text
  | .close => ['>']
  | .any rest => '*' :: rest.print
  | .type mark type rest => mark ++ type.print ++ rest.print
termination_by structural a => a
end

def Named (stops name : Text) : Prop := name ≠ [] ∧ ∀ c ∈ name, c ∉ stops

instance (stops name : Text) : Decidable (Named stops name) :=
  @instDecidableAnd _ _ _ (List.decidableBAll (· ∉ stops) name)

mutual
def TypeTree.Proper : TypeTree → Prop
  | .mk _ element => element.Proper
termination_by structural t => t

def ElementTree.Proper : ElementTree → Prop
  | .base letter => letter ∈ baseTypes
  | .variable name => Named [';'] name
  | .object name tail => Named nameStops name ∧ tail.Proper
termination_by structural e => e

def TailTree.Proper : TailTree → Prop
  | .plain next => next.Proper
  | .generic arguments next => arguments.Proper ∧ next.Proper
termination_by structural t => t

def NextTree.Proper : NextTree → Prop
  | .stop => True
  | .nested name tail => Named nameStops name ∧ tail.Proper
termination_by structural n => n

def ArgumentTree.Proper : ArgumentTree → Prop
  | .close => True
  | .any rest => rest.Proper
  | .type mark type rest => mark ∈ [[], ['+'], ['-']] ∧ type.Proper ∧ rest.Proper
termination_by structural a => a
end

section

variable (f : Text → Option Text)

mutual
def TypeTree.rename : TypeTree → TypeTree
  | .mk depth element => .mk depth element.rename
termination_by structural t => t

def ElementTree.rename : ElementTree → ElementTree
  | .base letter => .base letter
  | .variable name => .variable name
  | .object name tail => .object ((f name).getD name) (tail.rename name)
termination_by structural e => e

-- `outer` is the binary name of the class so far.
def TailTree.rename (outer : Text) : TailTree → TailTree
  | .plain next => .plain (next.rename outer)
  | .generic arguments next => .generic arguments.rename (next.rename outer)
termination_by structural t => t

def NextTree.rename (outer : Text) : NextTree → NextTree
  | .stop => .stop
  | .nested name tail =>
      let full := binaryName outer name
      .nested (simpleName ((f outer).getD outer) ((f full).getD full)) (tail.rename full)
termination_by structural n => n

def ArgumentTree.rename : ArgumentTree → ArgumentTree
  | .close => .close
  | .any rest => .any rest.rename
  | .type mark type rest => .type mark type.rename rest.rename
termination_by structural a => a
end

end

structure Parameter where
  name : Text
  classBound : Option TypeTree
  bounds : List TypeTree

-- Punctuation, and types, may stand in any order at the top.
inductive Item where
  | mark (letter : Char)
  | type (type : TypeTree)

structure Tree where
  parameters : Option (List Parameter)
  items : List Item

def Parameter.print (p : Parameter) : Text :=
  p.name ++ ':' :: p.classBound.elim [] TypeTree.print ++ p.bounds.flatMap fun t => ':' :: t.print

def Item.print : Item → Text
  | mark letter => [letter]
  | type t => t.print

def Tree.print (t : Tree) : Text :=
  t.parameters.elim [] (fun ps => '<' :: ps.flatMap Parameter.print ++ ['>']) ++
    t.items.flatMap Item.print

-- The letters that a class bound begins with; a parameter without bounds must not come before one.
def boundStarts : Text := ['L', '[', 'T']

def TypeTree.IsClassBound : TypeTree → Prop
  | .mk depth element => depth = 0 → ∀ letter, element ≠ .base letter

structure Parameter.Proper (p : Parameter) : Prop where
  name : Named [':'] p.name
  opening : p.name.head? ≠ some '>'
  classBound : ∀ t, p.classBound = some t → t.Proper ∧ t.IsClassBound
  bounds : ∀ t ∈ p.bounds, t.Proper

def ProperParameters : List Parameter → Prop
  | [] => True
  | p :: rest => p.Proper ∧ (p.classBound = none → p.bounds = [] →
      ∀ q, rest.head? = some q → ∀ c, q.name.head? = some c → c ∉ boundStarts) ∧ ProperParameters rest

def Item.Proper : Item → Prop
  | mark letter => letter ∈ ['(', ')', '^', 'V']
  | type t => t.Proper ∧ t ≠ .mk 0 (.base 'V')

structure Tree.Proper (t : Tree) : Prop where
  parameters : ∀ ps, t.parameters = some ps → ProperParameters ps
  items : ∀ i ∈ t.items, i.Proper
  filled : t.parameters = none → t.items ≠ []

def Parameter.rename (f : Text → Option Text) (p : Parameter) : Parameter where
  name := p.name
  classBound := p.classBound.map (TypeTree.rename f)
  bounds := p.bounds.map (TypeTree.rename f)

def Item.rename (f : Text → Option Text) : Item → Item
  | mark letter => mark letter
  | type t => type (t.rename f)

def Tree.rename (f : Text → Option Text) (t : Tree) : Tree where
  parameters := t.parameters.map fun ps => ps.map (Parameter.rename f)
  items := t.items.map (Item.rename f)

theorem simple_name_nested (outer name : Text) : simpleName outer (binaryName outer name) = name := by
  have inside : Text.dropStart? (outer ++ ['$']) (binaryName outer name) = some name :=
    (Text.drop_start_some _ _ _).mpr (List.append_assoc outer ['$'] name).symm
  rw [simpleName, inside]

section

variable (f : Text → Option Text)

mutual
theorem TypeTree.rename_fixed (fixed : ∀ name, (f name).getD name = name) (t : TypeTree) :
    t.rename f = t := by
  cases t with
  | mk depth element => rw [TypeTree.rename, element.rename_fixed fixed]

theorem ElementTree.rename_fixed (fixed : ∀ name, (f name).getD name = name) (e : ElementTree) :
    e.rename f = e := by
  cases e with
  | base letter => rfl
  | «variable» name => rfl
  | object name tail => rw [ElementTree.rename, fixed, tail.rename_fixed fixed]

theorem TailTree.rename_fixed (fixed : ∀ name, (f name).getD name = name) (t : TailTree)
    (outer : Text) : t.rename f outer = t := by
  cases t with
  | plain next => rw [TailTree.rename, next.rename_fixed fixed]
  | generic arguments next => rw [TailTree.rename, arguments.rename_fixed fixed, next.rename_fixed fixed]

theorem NextTree.rename_fixed (fixed : ∀ name, (f name).getD name = name) (next : NextTree)
    (outer : Text) : next.rename f outer = next := by
  cases next with
  | stop => rfl
  | nested name tail => rw [NextTree.rename, fixed, fixed, simple_name_nested, tail.rename_fixed fixed]

theorem ArgumentTree.rename_fixed (fixed : ∀ name, (f name).getD name = name)
    (arguments : ArgumentTree) : arguments.rename f = arguments := by
  cases arguments with
  | close => rfl
  | any rest => rw [ArgumentTree.rename, rest.rename_fixed fixed]
  | type mark type rest => rw [ArgumentTree.rename, type.rename_fixed fixed, rest.rename_fixed fixed]
end

theorem Tree.rename_fixed (fixed : ∀ name, (f name).getD name = name) (t : Tree) :
    t.rename f = t := by
  have types : TypeTree.rename f = id := funext (TypeTree.rename_fixed f fixed)
  have parameters : Parameter.rename f = id := by
    funext p
    simp [Parameter.rename, types]
  have items : Item.rename f = id := by
    funext i
    cases i with
    | mark letter => rfl
    | type t => simp [Item.rename, types]
  simp [Tree.rename, parameters, items]

end

mutual
def TypeTree.outerNames : TypeTree → List Text
  | .mk _ element => element.outerNames
termination_by structural t => t

def ElementTree.outerNames : ElementTree → List Text
  | .base _ => []
  | .variable _ => []
  | .object name tail => name :: tail.outerNames
termination_by structural e => e

def TailTree.outerNames : TailTree → List Text
  | .plain next => next.outerNames
  | .generic arguments next => arguments.outerNames ++ next.outerNames
termination_by structural t => t

def NextTree.outerNames : NextTree → List Text
  | .stop => []
  | .nested _ tail => tail.outerNames
termination_by structural n => n

def ArgumentTree.outerNames : ArgumentTree → List Text
  | .close => []
  | .any rest => rest.outerNames
  | .type _ type rest => type.outerNames ++ rest.outerNames
termination_by structural a => a
end

def Parameter.outerNames (p : Parameter) : List Text :=
  p.classBound.elim [] TypeTree.outerNames ++ p.bounds.flatMap TypeTree.outerNames

def Item.outerNames : Item → List Text
  | mark _ => []
  | type t => t.outerNames

def Tree.outerNames (t : Tree) : List Text :=
  t.parameters.elim [] (fun ps => ps.flatMap Parameter.outerNames) ++ t.items.flatMap Item.outerNames

mutual
theorem TypeTree.outer_names_renamed (f : Text → Option Text) (t : TypeTree) :
    (t.rename f).outerNames = t.outerNames.map fun name => (f name).getD name := by
  cases t with
  | mk depth element => exact element.outer_names_renamed f

theorem ElementTree.outer_names_renamed (f : Text → Option Text) (e : ElementTree) :
    (e.rename f).outerNames = e.outerNames.map fun name => (f name).getD name := by
  cases e with
  | base letter => rfl
  | «variable» name => rfl
  | object name tail =>
      rw [ElementTree.rename, ElementTree.outerNames, ElementTree.outerNames,
        tail.outer_names_renamed f, List.map_cons]

theorem TailTree.outer_names_renamed (f : Text → Option Text) (t : TailTree) (outer : Text) :
    (t.rename f outer).outerNames = t.outerNames.map fun name => (f name).getD name := by
  cases t with
  | plain next => exact next.outer_names_renamed f outer
  | generic arguments next =>
      rw [TailTree.rename, TailTree.outerNames, TailTree.outerNames, arguments.outer_names_renamed f,
        next.outer_names_renamed f, List.map_append]

theorem NextTree.outer_names_renamed (f : Text → Option Text) (next : NextTree) (outer : Text) :
    (next.rename f outer).outerNames = next.outerNames.map fun name => (f name).getD name := by
  cases next with
  | stop => rfl
  | nested name tail => exact tail.outer_names_renamed f _

theorem ArgumentTree.outer_names_renamed (f : Text → Option Text) (arguments : ArgumentTree) :
    (arguments.rename f).outerNames = arguments.outerNames.map fun name => (f name).getD name := by
  cases arguments with
  | close => rfl
  | any rest => exact rest.outer_names_renamed f
  | type mark type rest =>
      rw [ArgumentTree.rename, ArgumentTree.outerNames, ArgumentTree.outerNames, type.outer_names_renamed f,
        rest.outer_names_renamed f, List.map_append]
end

theorem Parameter.outer_names_renamed (f : Text → Option Text) (p : Parameter) :
    (p.rename f).outerNames = p.outerNames.map fun name => (f name).getD name := by
  rw [rename, outerNames, outerNames, List.map_append, List.flatMap_map, List.map_flatMap]
  simp only [TypeTree.outer_names_renamed]
  cases p.classBound with
  | none => rfl
  | some t => simp [TypeTree.outer_names_renamed]

theorem Item.outer_names_renamed (f : Text → Option Text) (i : Item) :
    (i.rename f).outerNames = i.outerNames.map fun name => (f name).getD name := by
  cases i with
  | mark letter => rfl
  | type t => exact t.outer_names_renamed f

theorem Tree.outer_names_renamed (f : Text → Option Text) (t : Tree) :
    (t.rename f).outerNames = t.outerNames.map fun name => (f name).getD name := by
  rw [rename, outerNames, outerNames, List.map_append, List.flatMap_map, List.map_flatMap]
  simp only [Item.outer_names_renamed]
  cases t.parameters with
  | none => rfl
  | some ps => simp [List.flatMap_map, List.map_flatMap, Parameter.outer_names_renamed]

end Shading.Signature
