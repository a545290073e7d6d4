import Shading.Proofs.Signature.Composition

set_option autoImplicit false

namespace Shading.Signature

open SignaturePiece

def compose (g f : Text → Option Text) (name : Text) : Option Text :=
  let moved := (f name).getD name
  some ((g moved).getD moved)

theorem follows_compose (f g : Text → Option Text) : Follows f g (compose g f) := fun _ _ => rfl

theorem rename_all_or_none (s : Text) :
    (∀ f, ∃ t, rename f s = .ok t) ∨ ∀ f, rename f s = .error (.badSignature s) := by
  cases parsed : parse? s with
  | none =>
      refine .inr fun f => ?_
      simp [rename, parsed]
  | some pieces =>
      refine .inl fun f => ⟨pieces.flatMap (SignaturePiece.rename f), ?_⟩
      simp [rename, parsed]

theorem renaming_laws (s : Text) :
    ((∀ f, ∃ t, rename f s = .ok t) ∨ ∀ f, rename f s = .error (.badSignature s)) ∧
    (∀ f t, (∀ name, (f name).getD name = name) → rename f s = .ok t → t = s) ∧
    ∀ f g t, Nesting f → rename f s = .ok t → rename g t = rename (compose g f) s := by
  refine ⟨rename_all_or_none s, ?_, ?_⟩
  · intro f t fixed renamed
    exact rename_fixed f fixed s t renamed
  · intro f g t nesting renamed
    exact rename_rename nesting (follows_compose f g) s t renamed

def below (package : Text) (name : Text) : Option Text := some (package ++ '/' :: name)

theorem below_nesting (package : Text) (named : Named nameStops package) : Nesting (below package) where
  named := by
    intro name inner
    refine ⟨List.append_ne_nil_of_left_ne_nil named.1 _, fun c member => ?_⟩
    cases List.mem_append.mp member with
    | inl front => exact named.2 c front
    | inr behind =>
        cases List.mem_cons.mp behind with
        | inl slash =>
            rw [slash]
            decide
        | inr inside => exact inner.2 c inside
  nested := by
    intro outer name _ _
    simp [below, binaryName]

-- Of the classes under `p` the second renaming moves one out of the class around it.
def movedOut (name : Text) : Option Text :=
  if name = "p/a/Out$In".toList then some "q/Flat$Part".toList else none

theorem renamed_twice_at_once :
    Nesting (below ['p']) ∧ (∀ name, (none : Option Text).getD name = name) ∧
    rename (below ['p']) "<T:TT;:La/X<*>;>La/Out<[La/X;>.In;".toList =
      .ok "<T:TT;:Lp/a/X<*>;>Lp/a/Out<[Lp/a/X;>.In;".toList ∧
    rename movedOut "<T:TT;:Lp/a/X<*>;>Lp/a/Out<[Lp/a/X;>.In;".toList =
      rename (compose movedOut (below ['p'])) "<T:TT;:La/X<*>;>La/Out<[La/X;>.In;".toList ∧
    rename movedOut "<T:TT;:Lp/a/X<*>;>Lp/a/Out<[Lp/a/X;>.In;".toList =
      .ok "<T:TT;:Lp/a/X<*>;>Lp/a/Out<[Lp/a/X;>.Part;".toList := by
  have nesting : Nesting (below ['p']) := below_nesting ['p'] (by decide)
  have first : rename (below ['p']) "<T:TT;:La/X<*>;>La/Out<[La/X;>.In;".toList =
      .ok "<T:TT;:Lp/a/X<*>;>Lp/a/Out<[Lp/a/X;>.In;".toList := by decide +kernel
  have laws := renaming_laws "<T:TT;:La/X<*>;>La/Out<[La/X;>.In;".toList
  exact ⟨nesting, fun _ => rfl, first, laws.2.2 _ movedOut _ nesting first, by decide +kernel⟩

end Shading.Signature
