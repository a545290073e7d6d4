import Shading.Proofs.Signature.Printing

set_option autoImplicit false

namespace Shading.Signature

open SignaturePiece

-- Images of names are names, and a nested class stays in the class around it.
structure Nesting (f : Text → Option Text) : Prop where
  named : ∀ name, Named nameStops name → Named nameStops ((f name).getD name)
  nested : ∀ outer name, Named nameStops outer → Named nameStops name →
    (f (binaryName outer name)).getD (binaryName outer name) = binaryName ((f outer).getD outer) name

theorem named_binary (outer name : Text) (named : Named nameStops outer) (inner : Named nameStops name) :
    Named nameStops (binaryName outer name) := by
  refine ⟨List.append_ne_nil_of_left_ne_nil named.1 _, fun c member => ?_⟩
  rcases List.mem_append.mp member with before | behind
  · exact named.2 c before
  · rcases List.mem_cons.mp behind with rfl | inside
    · decide
    · exact inner.2 c inside

variable {f g h : Text → Option Text}

theorem Nesting.simple_name (nesting : Nesting f) (outer name : Text) (named : Named nameStops outer)
    (inner : Named nameStops name) : simpleName ((f outer).getD outer)
      ((f (binaryName outer name)).getD (binaryName outer name)) = name := by
  rw [nesting.nested outer name named inner, simple_name_nested]

mutual
theorem TypeTree.rename_proper (nesting : Nesting f) (t : TypeTree) (proper : t.Proper) :
    (t.rename f).Proper := by
  cases t with
  | mk depth element => exact element.rename_proper nesting proper

theorem ElementTree.rename_proper (nesting : Nesting f) (e : ElementTree) (proper : e.Proper) :
    (e.rename f).Proper := by
  cases e with
  | base letter => exact proper
  | «variable» name => exact proper
  | object name tail =>
      obtain ⟨named, properTail⟩ := proper
      exact ⟨nesting.named name named, tail.rename_proper nesting name named properTail⟩

theorem TailTree.rename_proper (nesting : Nesting f) (t : TailTree) (outer : Text)
    (named : Named nameStops outer) (proper : t.Proper) : (t.rename f outer).Proper := by
  cases t with
  | plain next => exact next.rename_proper nesting outer named proper
  | generic arguments next =>
      exact ⟨arguments.rename_proper nesting proper.1, next.rename_proper nesting outer named proper.2⟩

theorem NextTree.rename_proper (nesting : Nesting f) (next : NextTree) (outer : Text)
    (named : Named nameStops outer) (proper : next.Proper) : (next.rename f outer).Proper := by
  cases next with
  | stop => trivial
  | nested name tail =>
      obtain ⟨inner, properTail⟩ := proper
      have both := named_binary outer name named inner
      rw [NextTree.rename, nesting.simple_name outer name named inner]
      exact ⟨inner, tail.rename_proper nesting _ both properTail⟩

theorem ArgumentTree.rename_proper (nesting : Nesting f) (arguments : ArgumentTree)
    (proper : arguments.Proper) : (arguments.rename f).Proper := by
  cases arguments with
  | close => trivial
  | any rest => exact rest.rename_proper nesting proper
  | type mark type rest =>
      exact ⟨proper.1, type.rename_proper nesting proper.2.1, rest.rename_proper nesting proper.2.2⟩
end

theorem TypeTree.rename_class_bound (t : TypeTree) (bound : t.IsClassBound) :
    (t.rename f).IsClassBound := by
  cases t with
  | mk depth element =>
      cases element with
      | base letter => exact bound
      | «variable» name => nofun
      | object name tail => nofun

theorem TypeTree.rename_not_void (t : TypeTree) (other : t ≠ .mk 0 (.base 'V')) :
    t.rename f ≠ .mk 0 (.base 'V') := by
  cases t with
  | mk depth element =>
      cases element with
      | base letter => exact other
      | «variable» name => nofun
      | object name tail => nofun

theorem Parameter.rename_proper (nesting : Nesting f) (p : Parameter) (proper : p.Proper) :
    (p.rename f).Proper where
  name := proper.name
  opening := proper.opening
  classBound := by
    intro t same
    obtain ⟨u, bound, rfl⟩ := Option.map_eq_some_iff.mp same
    obtain ⟨properType, starts⟩ := proper.classBound u bound
    exact ⟨u.rename_proper nesting properType, u.rename_class_bound starts⟩
  bounds := List.forall_mem_map.mpr fun t member => t.rename_proper nesting (proper.bounds t member)

theorem parameters_rename_proper (nesting : Nesting f) (ps : List Parameter)
    (proper : ProperParameters ps) : ProperParameters (ps.map (Parameter.rename f)) := by
  induction ps with
  | nil => trivial
  | cons p rest ih =>
      obtain ⟨properFirst, follows, properRest⟩ := proper
      refine ⟨p.rename_proper nesting properFirst, ?_, ih properRest⟩
      intro unbound alone q next
      rw [List.head?_map, Option.map_eq_some_iff] at next
      obtain ⟨q', next, rfl⟩ := next
      exact follows (Option.map_eq_none_iff.mp unbound) (List.map_eq_nil_iff.mp alone) q' next

theorem Item.rename_proper (nesting : Nesting f) (i : Item) (proper : i.Proper) : (i.rename f).Proper := by
  cases i with
  | mark letter => exact proper
  | type t => exact ⟨t.rename_proper nesting proper.1, t.rename_not_void proper.2⟩

theorem Tree.rename_proper (nesting : Nesting f) (t : Tree) (proper : t.Proper) : (t.rename f).Proper where
  parameters := by
    intro ps same
    obtain ⟨qs, parameters, rfl⟩ := Option.map_eq_some_iff.mp same
    exact parameters_rename_proper nesting qs (proper.parameters qs parameters)
  items := List.forall_mem_map.mpr fun i member => i.rename_proper nesting (proper.items i member)
  filled := by
    intro none empty
    exact proper.filled (Option.map_eq_none_iff.mp none) (List.map_eq_nil_iff.mp empty)

def Follows (f g h : Text → Option Text) : Prop := ∀ name, Named nameStops name →
  (h name).getD name = (g ((f name).getD name)).getD ((f name).getD name)

mutual
theorem TypeTree.rename_rename (nesting : Nesting f) (follows : Follows f g h) (t : TypeTree)
    (proper : t.Proper) : (t.rename f).rename g = t.rename h := by
  cases t with
  | mk depth element =>
      rw [TypeTree.rename, TypeTree.rename, element.rename_rename nesting follows proper, TypeTree.rename]

theorem ElementTree.rename_rename (nesting : Nesting f) (follows : Follows f g h) (e : ElementTree)
    (proper : e.Proper) : (e.rename f).rename g = e.rename h := by
  cases e with
  | base letter => rfl
  | «variable» name => rfl
  | object name tail =>
      obtain ⟨named, properTail⟩ := proper
      rw [ElementTree.rename, ElementTree.rename, ElementTree.rename, follows name named,
        tail.rename_rename nesting follows name named properTail]

theorem TailTree.rename_rename (nesting : Nesting f) (follows : Follows f g h) (t : TailTree)
    (outer : Text) (named : Named nameStops outer) (proper : t.Proper) :
    (t.rename f outer).rename g ((f outer).getD outer) = t.rename h outer := by
  cases t with
  | plain next =>
      rw [TailTree.rename, TailTree.rename, next.rename_rename nesting follows outer named proper,
        TailTree.rename]
  | generic arguments next =>
      obtain ⟨properArguments, properNext⟩ := proper
      rw [TailTree.rename, TailTree.rename, arguments.rename_rename nesting follows properArguments,
        next.rename_rename nesting follows outer named properNext, TailTree.rename]

theorem NextTree.rename_rename (nesting : Nesting f) (follows : Follows f g h) (next : NextTree)
    (outer : Text) (named : Named nameStops outer) (proper : next.Proper) :
    (next.rename f outer).rename g ((f outer).getD outer) = next.rename h outer := by
  cases next with
  | stop => rfl
  | nested name tail =>
      obtain ⟨inner, properTail⟩ := proper
      have both := named_binary outer name named inner
      have later := tail.rename_rename nesting follows _ both properTail
      rw [NextTree.rename, nesting.simple_name outer name named inner, NextTree.rename,
        ← nesting.nested outer name named inner, later, NextTree.rename, follows outer named,
        follows _ both]

theorem ArgumentTree.rename_rename (nesting : Nesting f) (follows : Follows f g h)
    (arguments : ArgumentTree) (proper : arguments.Proper) :
    (arguments.rename f).rename g = arguments.rename h := by
  cases arguments with
  | close => rfl
  | any rest =>
      rw [ArgumentTree.rename, ArgumentTree.rename, rest.rename_rename nesting follows proper,
        ArgumentTree.rename]
  | type mark type rest =>
      obtain ⟨_, properType, properRest⟩ := proper
      rw [ArgumentTree.rename, ArgumentTree.rename, type.rename_rename nesting follows properType,
        rest.rename_rename nesting follows properRest, ArgumentTree.rename]
end

theorem Parameter.rename_rename (nesting : Nesting f) (follows : Follows f g h) (p : Parameter)
    (proper : p.Proper) : (p.rename f).rename g = p.rename h := by
  have bounds : (p.bounds.map (TypeTree.rename f)).map (TypeTree.rename g) =
      p.bounds.map (TypeTree.rename h) := by
    rw [List.map_map]
    exact List.map_congr_left fun t member => t.rename_rename nesting follows (proper.bounds t member)
  have classBound : (p.classBound.map (TypeTree.rename f)).map (TypeTree.rename g) =
      p.classBound.map (TypeTree.rename h) := by
    cases bound : p.classBound with
    | none => rfl
    | some t => exact congrArg some (t.rename_rename nesting follows (proper.classBound t bound).1)
  rw [rename, rename, bounds, classBound, rename]

theorem ProperParameters.each (ps : List Parameter) (proper : ProperParameters ps) : ∀ p ∈ ps, p.Proper := by
  induction ps with
  | nil => nofun
  | cons p rest ih => exact List.forall_mem_cons.mpr ⟨proper.1, ih proper.2.2⟩

theorem Item.rename_rename (nesting : Nesting f) (follows : Follows f g h) (i : Item) (proper : i.Proper) :
    (i.rename f).rename g = i.rename h := by
  cases i with
  | mark letter => rfl
  | type t => exact congrArg Item.type (t.rename_rename nesting follows proper.1)

theorem Tree.rename_rename (nesting : Nesting f) (follows : Follows f g h) (t : Tree) (proper : t.Proper) :
    (t.rename f).rename g = t.rename h := by
  have items : (t.items.map (Item.rename f)).map (Item.rename g) = t.items.map (Item.rename h) := by
    rw [List.map_map]
    exact List.map_congr_left fun i member => i.rename_rename nesting follows (proper.items i member)
  have parameters : (t.parameters.map fun ps => ps.map (Parameter.rename f)).map
      (fun ps => ps.map (Parameter.rename g)) = t.parameters.map fun ps => ps.map (Parameter.rename h) := by
    cases found : t.parameters with
    | none => rfl
    | some ps =>
        have each := ProperParameters.each ps (proper.parameters ps found)
        rw [Option.map_some, Option.map_some, Option.map_some, List.map_map]
        exact congrArg some (List.map_congr_left fun p member =>
          p.rename_rename nesting follows (each p member))
  rw [rename, rename, items, parameters, rename]

theorem rename_rename (nesting : Nesting f) (follows : Follows f g h) (s t : Text)
    (renamed : rename f s = .ok t) : rename g t = rename h s := by
  obtain ⟨tree, proper, rfl, rfl⟩ := rename_ok f s t renamed
  rw [rename_print g _ (tree.rename_proper nesting proper), rename_print h tree proper,
    tree.rename_rename nesting follows proper]

theorem Tree.print_head (f : Text → Option Text) (t : Tree) : (t.rename f).print.head? = t.print.head? := by
  cases t with
  | mk parameters items =>
      cases parameters with
      | some ps => rfl
      | none =>
          cases items with
          | nil => rfl
          | cons i rest =>
              cases i with
              | mark letter => rfl
              | type t =>
                  cases t with
                  | mk depth element =>
                      cases depth with
                      | succ depth => rfl
                      | zero => cases element <;> rfl

theorem rename_head (f : Text → Option Text) (s t : Text) (renamed : rename f s = .ok t) :
    t.head? = s.head? := by
  obtain ⟨tree, _, rfl, rfl⟩ := rename_ok f s t renamed
  exact tree.print_head f

end Shading.Signature
