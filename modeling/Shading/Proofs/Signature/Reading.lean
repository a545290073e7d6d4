import Mathlib.Data.Bool.AllAny
import Mathlib.Tactic.SplitIfs
import Shading.Proofs.Signature.Tree

set_option autoImplicit false

namespace Shading.Signature

open SignaturePiece

theorem take_name_some (stops s name rest : Text) :
    takeName? stops s = some (name, rest) ↔
      Named stops name ∧ s = name ++ rest ∧ ∃ c tail, rest = c :: tail ∧ c ∈ stops := by
  unfold takeName?
  rw [List.span_eq_takeWhile_dropWhile]
  constructor
  · intro taken
    split at taken
    · cases taken
    · cases taken
    · rename_i before after filled more split
      cases taken
      obtain ⟨first, second⟩ := Prod.mk.inj split
      refine ⟨⟨filled, ?_⟩, ?_, ?_⟩
      · intro c member
        rw [← first] at member
        simpa using List.mem_takeWhile_imp member
      · rw [← first, ← second, List.takeWhile_append_dropWhile]
      · cases rest with
        | nil => exact absurd rfl more
        | cons c tail =>
            have stopped := List.head?_dropWhile_not (fun c => !stops.contains c) s
            rw [second] at stopped
            exact ⟨c, tail, rfl, by simpa using stopped⟩
  · rintro ⟨⟨filled, free⟩, rfl, c, tail, rfl, stop⟩
    have keep : ∀ d ∈ name, (!stops.contains d) = true := by simpa using free
    rw [List.takeWhile_append_of_pos keep, List.dropWhile_append_of_pos keep,
      List.takeWhile_cons_of_neg (by simpa using stop),
      List.dropWhile_cons_of_neg (by simpa using stop), List.append_nil]
    cases name with
    | nil => exact absurd rfl filled
    | cons d others => rfl

-- What pieces become under any renaming of the names in them.
def Renders (pieces : List SignaturePiece) (out : (Text → Option Text) → Text) : Prop :=
  ∀ f, pieces.flatMap (SignaturePiece.rename f) = out f

def takeElement (fuel : Nat) (c : Char) (rest : Text) : Taken :=
  if baseTypes.contains c then some ([.plain [c]], rest)
  else if c = 'T' then takeVariable rest
  else if c = 'L' then (takeClass fuel rest).map fun (pieces, rest) => (.plain ['L'] :: pieces, rest)
  else none

theorem take_type_element (fuel : Nat) (s : Text) :
    takeType (fuel + 1) s =
      match s.dropWhile (· == '[') with
      | [] => none
      | c :: rest => (takeElement fuel c rest).map fun (pieces, rest) =>
          (.plain (s.takeWhile (· == '[')) :: pieces, rest) := by
  simp only [takeType, takeElement, List.span_eq_takeWhile_dropWhile]
  cases s.dropWhile (· == '[') with
  | nil => rfl
  | cons c rest =>
      dsimp only
      split_ifs <;> try rfl
      cases takeClass fuel rest <;> rfl

def TypeSound (fuel : Nat) : Prop :=
  ∀ s pieces rest, takeType fuel s = some (pieces, rest) →
    ∃ t : TypeTree, t.Proper ∧ s = t.print ++ rest ∧ Renders pieces fun f => (t.rename f).print

def ClassSound (fuel : Nat) : Prop :=
  ∀ s pieces rest, takeClass fuel s = some (pieces, rest) →
    ∃ (name : Text) (tail : TailTree), Named nameStops name ∧ tail.Proper ∧
      s = name ++ (tail.print ++ rest) ∧
      Renders pieces fun f => (f name).getD name ++ (tail.rename f name).print

def SuffixesSound (fuel : Nat) : Prop :=
  ∀ outer s pieces rest, takeSuffixes fuel outer s = some (pieces, rest) →
    ∃ tail : TailTree, tail.Proper ∧ s = tail.print ++ rest ∧
      Renders pieces fun f => (tail.rename f outer).print

def ArgumentsSound (fuel : Nat) : Prop :=
  ∀ s pieces rest, takeArguments fuel s = some (pieces, rest) →
    ∃ arguments : ArgumentTree, arguments.Proper ∧ s = arguments.print ++ rest ∧
      Renders pieces fun f => (arguments.rename f).print

theorem class_sound (fuel : Nat) (suffixes : SuffixesSound fuel) : ClassSound (fuel + 1) := by
  intro s pieces rest taken
  simp only [takeClass, Option.bind_eq_bind, Option.bind_eq_some_iff] at taken
  obtain ⟨⟨name, after⟩, named, ⟨more, last⟩, followed, final⟩ := taken
  cases final
  obtain ⟨proper, rfl, _⟩ := (take_name_some _ _ _ _).mp named
  obtain ⟨tail, properTail, rfl, renders⟩ := suffixes name after more _ followed
  refine ⟨name, tail, proper, properTail, rfl, ?_⟩
  intro f
  rw [List.flatMap_cons, renders f]
  rfl

theorem element_sound (fuel : Nat) (classes : ClassSound fuel) (c : Char) (s rest : Text)
    (pieces : List SignaturePiece) (taken : takeElement fuel c s = some (pieces, rest)) :
    ∃ e : ElementTree, e.Proper ∧ c :: s = e.print ++ rest ∧ Renders pieces fun f => (e.rename f).print := by
  unfold takeElement at taken
  split at taken
  · rename_i base
    cases taken
    exact ⟨.base c, List.contains_iff_mem.mp base, rfl, fun f => rfl⟩
  split at taken
  · rename_i _ letter
    subst letter
    unfold takeVariable at taken
    split at taken
    · rename_i name _ _ named
      cases taken
      obtain ⟨proper, rfl, c, tail, same, stop⟩ := (take_name_some _ _ _ _).mp named
      cases same
      cases List.mem_singleton.mp stop
      exact ⟨.variable name, proper, by simp [ElementTree.print], fun f => by
        simp [ElementTree.rename, ElementTree.print, SignaturePiece.rename]⟩
    · cases taken
  split at taken
  · rename_i _ _ letter
    subst letter
    obtain ⟨⟨more, last⟩, inner, final⟩ := Option.map_eq_some_iff.mp taken
    cases final
    obtain ⟨name, tail, proper, properTail, rfl, renders⟩ := classes s more _ inner
    refine ⟨.object name tail, ⟨proper, properTail⟩, ?_, ?_⟩
    · simp [ElementTree.print]
    · intro f
      rw [List.flatMap_cons, renders f]
      rfl
  · cases taken

theorem type_sound (fuel : Nat) (classes : ClassSound fuel) : TypeSound (fuel + 1) := by
  intro s pieces rest taken
  rw [take_type_element] at taken
  split at taken
  · cases taken
  · rename_i c tail split
    obtain ⟨⟨more, last⟩, inner, final⟩ := Option.map_eq_some_iff.mp taken
    cases final
    obtain ⟨e, proper, same, renders⟩ := element_sound fuel classes c tail _ more inner
    have brackets : s.takeWhile (· == '[') = List.replicate (s.takeWhile (· == '[')).length '[' := by
      refine List.eq_replicate_iff.mpr ⟨rfl, fun d member => ?_⟩
      simpa using List.mem_takeWhile_imp member
    refine ⟨.mk (s.takeWhile (· == '[')).length e, proper, ?_, ?_⟩
    · rw [TypeTree.print, List.append_assoc, ← same, ← split, ← brackets,
        List.takeWhile_append_dropWhile]
    · intro f
      rw [List.flatMap_cons, renders f]
      show s.takeWhile (· == '[') ++ _ = List.replicate _ '[' ++ _
      rw [← brackets]

def takeNext (fuel : Nat) (outer s : Text) : Taken :=
  match s with
  | ';' :: rest => some ([.plain [';']], rest)
  | '.' :: rest => do
      let (name, rest) ← takeName? nameStops rest
      let (pieces, rest) ← takeSuffixes fuel (binaryName outer name) rest
      some (.plain ['.'] :: .nestedName outer name :: pieces, rest)
  | _ => none

theorem take_suffixes_generic (fuel : Nat) (outer s : Text) :
    takeSuffixes (fuel + 1) outer ('<' :: s) = (do
      let (arguments, rest) ← takeArguments fuel s
      let (pieces, rest) ← takeNext fuel outer rest
      some (.plain ['<'] :: arguments ++ pieces, rest)) := by
  simp only [takeSuffixes, takeNext]
  cases takeArguments fuel s with
  | none => rfl
  | some taken =>
      obtain ⟨arguments, rest⟩ := taken
      simp only [Option.bind_eq_bind, Option.bind_some]
      cases rest with
      | nil => rfl
      | cons c tail =>
          by_cases ends : c = ';'
          · subst ends
            rfl
          · by_cases nested : c = '.'
            · subst nested
              simp [Option.bind_assoc]
            · simp [ends, nested]

theorem take_suffixes_plain (fuel : Nat) (outer s : Text) (other : s.head? ≠ some '<') :
    takeSuffixes (fuel + 1) outer s = takeNext fuel outer s := by
  simp only [takeSuffixes, takeNext]
  split
  · exact absurd rfl other
  · rfl

theorem next_sound (fuel : Nat) (suffixes : SuffixesSound fuel) (outer s rest : Text)
    (pieces : List SignaturePiece) (taken : takeNext fuel outer s = some (pieces, rest)) :
    ∃ next : NextTree, next.Proper ∧ s = next.print ++ rest ∧
      Renders pieces fun f => (next.rename f outer).print := by
  unfold takeNext at taken
  split at taken
  · cases taken
    exact ⟨.stop, trivial, rfl, fun f => rfl⟩
  · rename_i more
    simp only [Option.bind_eq_bind, Option.bind_eq_some_iff] at taken
    obtain ⟨⟨name, after⟩, named, ⟨others, last⟩, followed, final⟩ := taken
    cases final
    obtain ⟨proper, rfl, _⟩ := (take_name_some _ _ _ _).mp named
    obtain ⟨tail, properTail, rfl, renders⟩ := suffixes _ after others _ followed
    refine ⟨.nested name tail, ⟨proper, properTail⟩, by simp [NextTree.print], ?_⟩
    intro f
    rw [List.flatMap_cons, List.flatMap_cons, renders f]
    simp [SignaturePiece.rename, NextTree.rename, NextTree.print]
  · cases taken

theorem suffixes_sound (fuel : Nat) (args : ArgumentsSound fuel) (suffixes : SuffixesSound fuel) :
    SuffixesSound (fuel + 1) := by
  intro outer s pieces rest taken
  by_cases generic : s.head? = some '<'
  · obtain ⟨more, rfl⟩ : ∃ more, s = '<' :: more := List.head?_eq_some_iff.mp generic
    rw [take_suffixes_generic] at taken
    simp only [Option.bind_eq_bind, Option.bind_eq_some_iff] at taken
    obtain ⟨⟨arguments, after⟩, first, ⟨others, last⟩, second, final⟩ := taken
    cases final
    obtain ⟨tree, proper, rfl, renders⟩ := args more arguments after first
    obtain ⟨next, properNext, rfl, rendersNext⟩ := next_sound fuel suffixes outer after _ others second
    refine ⟨.generic tree next, ⟨proper, properNext⟩, by simp [TailTree.print], ?_⟩
    intro f
    rw [List.flatMap_append, List.flatMap_cons, renders f, rendersNext f]
    simp [SignaturePiece.rename, TailTree.rename, TailTree.print]
  · rw [take_suffixes_plain fuel outer s generic] at taken
    obtain ⟨next, proper, same, renders⟩ := next_sound fuel suffixes outer s rest pieces taken
    exact ⟨.plain next, proper, same, renders⟩

def takeMark (c : Char) (rest : Text) : List SignaturePiece × Text :=
  if c = '+' || c = '-' then ([.plain [c]], rest) else ([], c :: rest)

theorem take_mark (c : Char) (rest : Text) :
    ∃ mark ∈ [[], ['+'], ['-']], c :: rest = mark ++ (takeMark c rest).2 ∧
      Renders (takeMark c rest).1 fun _ => mark := by
  unfold takeMark
  by_cases plus : c = '+'
  · subst plus
    exact ⟨['+'], by decide, rfl, fun f => rfl⟩
  by_cases minus : c = '-'
  · subst minus
    exact ⟨['-'], by decide, rfl, fun f => rfl⟩
  · have none : ¬ (c = '+' || c = '-') = true := by simp [plus, minus]
    rw [if_neg none]
    exact ⟨[], by decide, rfl, fun f => rfl⟩

theorem arguments_sound (fuel : Nat) (types : TypeSound fuel) (args : ArgumentsSound fuel) :
    ArgumentsSound (fuel + 1) := by
  intro s pieces rest taken
  simp only [takeArguments] at taken
  split at taken
  · cases taken
  · cases taken
    exact ⟨.close, trivial, rfl, fun f => rfl⟩
  · rename_i more
    simp only [Option.bind_eq_bind, Option.bind_eq_some_iff] at taken
    obtain ⟨⟨others, last⟩, followed, final⟩ := taken
    cases final
    obtain ⟨tree, proper, rfl, renders⟩ := args more others _ followed
    refine ⟨.any tree, proper, rfl, ?_⟩
    intro f
    rw [List.flatMap_cons, renders f]
    rfl
  · rename_i c more _ _
    simp only [Option.bind_eq_bind, Option.bind_eq_some_iff] at taken
    obtain ⟨⟨first, after⟩, typed, ⟨others, last⟩, followed, final⟩ := taken
    cases final
    obtain ⟨mark, legal, whole, rendersMark⟩ := take_mark c more
    obtain ⟨t, proper, same, renders⟩ := types _ first after typed
    obtain ⟨tree, properTree, rfl, rendersTree⟩ := args after others _ followed
    refine ⟨.type mark t tree, ⟨legal, proper, properTree⟩, ?_, ?_⟩
    · rw [whole, takeMark, same]
      simp [ArgumentTree.print]
    · intro f
      rw [List.flatMap_append, List.flatMap_append, renders f, rendersTree f]
      exact congrArg (· ++ _ ++ _) (rendersMark f)

theorem take_sound (fuel : Nat) :
    TypeSound fuel ∧ ClassSound fuel ∧ SuffixesSound fuel ∧ ArgumentsSound fuel := by
  induction fuel with
  | zero => exact ⟨nofun, nofun, nofun, nofun⟩
  | succ fuel ih =>
      obtain ⟨types, classes, suffixes, args⟩ := ih
      exact ⟨type_sound fuel classes, class_sound fuel suffixes, suffixes_sound fuel args suffixes,
        arguments_sound fuel types args⟩

theorem class_bound_of_start (t : TypeTree) (proper : t.Proper) (rest : Text) (c : Char)
    (starts : (t.print ++ rest).head? = some c) (member : c ∈ boundStarts) : t.IsClassBound := by
  cases t with
  | mk depth element =>
      intro none letter base
      subst none
      subst base
      cases starts
      have apart : ∀ d ∈ boundStarts, d ∉ baseTypes := List.all_iff_forall_prop.mp rfl
      exact apart c member proper

theorem class_bound_typed (fuel : Nat) (s rest : Text) (pieces : List SignaturePiece) (c : Char)
    (starts : s.head? = some c) (member : c ∈ boundStarts)
    (typed : takeType fuel s = some (pieces, rest)) :
    ∃ bound : Option TypeTree, (∀ t, bound = some t → t.Proper ∧ t.IsClassBound) ∧
      s = bound.elim [] TypeTree.print ++ rest ∧
      Renders pieces (fun f => (bound.map (TypeTree.rename f)).elim [] TypeTree.print) ∧
      (bound = none → ∀ c, s.head? = some c → c ∉ boundStarts) := by
  obtain ⟨t, proper, rfl, renders⟩ := (take_sound fuel).1 s pieces rest typed
  refine ⟨some t, ?_, rfl, renders, nofun⟩
  rintro _ ⟨⟩
  exact ⟨proper, class_bound_of_start t proper rest c starts member⟩

theorem class_bound_sound (fuel : Nat) (s rest : Text) (pieces : List SignaturePiece)
    (taken : takeClassBound fuel s = some (pieces, rest)) :
    ∃ bound : Option TypeTree, (∀ t, bound = some t → t.Proper ∧ t.IsClassBound) ∧
      s = bound.elim [] TypeTree.print ++ rest ∧
      Renders pieces (fun f => (bound.map (TypeTree.rename f)).elim [] TypeTree.print) ∧
      (bound = none → ∀ c, s.head? = some c → c ∉ boundStarts) := by
  unfold takeClassBound at taken
  split at taken
  · exact class_bound_typed fuel _ rest pieces 'L' rfl (by decide) taken
  · exact class_bound_typed fuel _ rest pieces '[' rfl (by decide) taken
  · exact class_bound_typed fuel _ rest pieces 'T' rfl (by decide) taken
  · rename_i notL notBracket notT
    cases taken
    refine ⟨none, nofun, rfl, fun f => rfl, ?_⟩
    intro _ c starts member
    obtain ⟨tail, rfl⟩ := List.head?_eq_some_iff.mp starts
    simp only [boundStarts, List.mem_cons, List.not_mem_nil, or_false] at member
    rcases member with rfl | rfl | rfl
    · exact notL tail rfl
    · exact notBracket tail rfl
    · exact notT tail rfl

theorem bounds_sound (fuel : Nat) (s rest : Text) (pieces : List SignaturePiece)
    (taken : takeBounds fuel s = some (pieces, rest)) :
    ∃ bounds : List TypeTree, (∀ t ∈ bounds, t.Proper) ∧
      s = (bounds.flatMap fun t => ':' :: t.print) ++ rest ∧
      Renders pieces (fun f => (bounds.map (TypeTree.rename f)).flatMap fun t => ':' :: t.print) := by
  induction fuel generalizing s pieces with
  | zero => cases taken
  | succ fuel ih =>
      simp only [takeBounds] at taken
      split at taken
      · rename_i more
        simp only [Option.bind_eq_bind, Option.bind_eq_some_iff] at taken
        obtain ⟨⟨first, after⟩, typed, ⟨others, last⟩, followed, final⟩ := taken
        cases final
        obtain ⟨t, proper, rfl, renders⟩ := (take_sound fuel).1 more first after typed
        obtain ⟨bounds, each, rfl, rendersBounds⟩ := ih after others followed
        refine ⟨t :: bounds, List.forall_mem_cons.mpr ⟨proper, each⟩, by simp, ?_⟩
        intro f
        rw [List.flatMap_append, List.flatMap_cons, renders f, rendersBounds f]
        rfl
      · cases taken
        exact ⟨[], nofun, rfl, fun f => rfl⟩

theorem parameters_sound (fuel : Nat) (s rest : Text) (pieces : List SignaturePiece)
    (taken : takeParameters fuel s = some (pieces, rest)) :
    ∃ ps : List Parameter, ProperParameters ps ∧ s = ps.flatMap Parameter.print ++ '>' :: rest ∧
      Renders pieces (fun f => (ps.map (Parameter.rename f)).flatMap Parameter.print ++ ['>']) := by
  induction fuel generalizing s pieces with
  | zero => cases taken
  | succ fuel ih =>
      simp only [takeParameters] at taken
      split at taken
      · cases taken
        exact ⟨[], trivial, rfl, fun f => rfl⟩
      · rename_i other
        split at taken
        · rename_i name _ more named
          simp only [Option.bind_eq_bind, Option.bind_eq_some_iff] at taken
          obtain ⟨⟨bound, second⟩, classBound, ⟨bounds, third⟩, bounded, ⟨others, last⟩, followed,
            final⟩ := taken
          cases final
          obtain ⟨proper, rfl, c, tail, same, stop⟩ := (take_name_some _ _ _ _).mp named
          cases same
          cases List.mem_singleton.mp stop
          obtain ⟨classTree, properClass, sameClass, rendersClass, open_⟩ :=
            class_bound_sound fuel more second bound classBound
          obtain ⟨boundTrees, properBounds, sameBounds, rendersBounds⟩ :=
            bounds_sound fuel second third bounds bounded
          obtain ⟨ps, properRest, sameRest, rendersRest⟩ := ih third others followed
          have opening : name.head? ≠ some '>' := by
            intro closing
            obtain ⟨end_, rfl⟩ := List.head?_eq_some_iff.mp closing
            exact other _ rfl
          refine ⟨⟨name, classTree, boundTrees⟩ :: ps,
            ⟨⟨proper, opening, properClass, properBounds⟩, ?_, properRest⟩, ?_, ?_⟩
          · rintro rfl rfl q first d head
            obtain ⟨others, rfl⟩ := List.head?_eq_some_iff.mp first
            refine open_ rfl d ?_
            rw [sameClass, sameBounds, sameRest]
            simp [Parameter.print, head]
          · rw [sameClass, sameBounds, sameRest]
            simp [Parameter.print]
          · intro f
            rw [List.flatMap_append, List.flatMap_append, List.flatMap_cons, rendersClass f,
              rendersBounds f, rendersRest f]
            simp [Parameter.print, Parameter.rename, SignaturePiece.rename]
        · cases taken

theorem all_sound (fuel : Nat) (done : List (List SignaturePiece)) (s : Text)
    (pieces : List SignaturePiece) (taken : takeAll fuel done s = some pieces) :
    ∃ (items : List Item) (new : List SignaturePiece), (∀ i ∈ items, i.Proper) ∧
      s = items.flatMap Item.print ∧ pieces = done.reverse.flatten ++ new ∧
      Renders new (fun f => (items.map (Item.rename f)).flatMap Item.print) := by
  induction fuel generalizing done s with
  | zero =>
      cases s with
      | nil =>
          cases taken
          exact ⟨[], [], nofun, rfl, (List.append_nil _).symm, fun f => rfl⟩
      | cons c more => cases taken
  | succ fuel ih =>
      cases s with
      | nil =>
          cases taken
          exact ⟨[], [], nofun, rfl, (List.append_nil _).symm, fun f => rfl⟩
      | cons c more =>
          simp only [takeAll] at taken
          split at taken
          · rename_i mark
            obtain ⟨items, new, each, rfl, rfl, renders⟩ := ih _ more taken
            refine ⟨.mark c :: items, .plain [c] :: new, ?_, rfl, by simp, ?_⟩
            · refine List.forall_mem_cons.mpr ⟨?_, each⟩
              simpa [Item.Proper, or_assoc] using mark
            · intro f
              rw [List.flatMap_cons, renders f]
              rfl
          · rename_i mark
            split at taken
            · rename_i first after typed
              obtain ⟨items, new, each, rfl, rfl, renders⟩ := ih _ after taken
              obtain ⟨t, proper, same, rendersType⟩ := (take_sound fuel).1 _ _ _ typed
              refine ⟨.type t :: items, first ++ new, ?_, same, by simp, ?_⟩
              · refine List.forall_mem_cons.mpr ⟨⟨proper, ?_⟩, each⟩
                rintro rfl
                cases same
                exact mark (by decide)
              · intro f
                rw [List.flatMap_append, rendersType f, renders f]
                rfl
            · cases taken

theorem parse_sound (s : Text) (pieces : List SignaturePiece) (parsed : parse? s = some pieces) :
    ∃ tree : Tree, tree.Proper ∧ s = tree.print ∧ Renders pieces fun f => (tree.rename f).print := by
  unfold parse? at parsed
  dsimp only at parsed
  split at parsed
  · cases parsed
  · rename_i more
    simp only [Option.bind_eq_bind, Option.bind_eq_some_iff] at parsed
    obtain ⟨⟨parameters, rest⟩, first, taken⟩ := parsed
    obtain ⟨ps, proper, same, renders⟩ := parameters_sound _ more rest parameters first
    obtain ⟨items, new, each, rfl, rfl, rendersItems⟩ := all_sound _ _ rest pieces taken
    refine ⟨⟨some ps, items⟩, ⟨?_, each, ?_⟩, ?_, ?_⟩
    · rintro _ ⟨⟩
      exact proper
    · intro absent
      cases absent
    · rw [same]
      simp [Tree.print]
    · intro f
      simp only [List.reverse_singleton, List.flatten_singleton, List.flatMap_append,
        List.flatMap_cons, renders f, rendersItems f]
      simp [Tree.print, Tree.rename, SignaturePiece.rename]
  · rename_i filled _
    obtain ⟨items, new, each, rfl, rfl, renders⟩ := all_sound _ _ s pieces parsed
    refine ⟨⟨none, items⟩, ⟨?_, each, ?_⟩, rfl, renders⟩
    · intro _ present
      cases present
    · rintro _ rfl
      exact filled rfl

end Shading.Signature
