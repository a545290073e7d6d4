import Shading.Proofs.Signature.Reading

set_option autoImplicit false

namespace Shading.Signature

open SignaturePiece

def typeStarts : Text := '[' :: 'T' :: 'L' :: baseTypes

theorem ElementTree.print_start (e : ElementTree) (proper : e.Proper) :
    ∃ c tail, e.print = c :: tail ∧ c ∈ typeStarts ∧ c ≠ '[' := by
  cases e with
  | base letter =>
      have apart : ∀ c ∈ baseTypes, c ∈ typeStarts ∧ c ≠ '[' := List.all_iff_forall_prop.mp rfl
      exact ⟨letter, [], rfl, apart letter proper⟩
  | «variable» name => exact ⟨'T', name ++ [';'], rfl, by decide⟩
  | object name tail => exact ⟨'L', name ++ tail.print, rfl, by decide⟩

theorem TypeTree.print_start (t : TypeTree) (proper : t.Proper) :
    ∃ c tail, t.print = c :: tail ∧ c ∈ typeStarts := by
  cases t with
  | mk depth element =>
      cases depth with
      | zero =>
          obtain ⟨c, tail, same, starts, _⟩ := element.print_start proper
          exact ⟨c, tail, same, starts⟩
      | succ depth => exact ⟨'[', List.replicate depth '[' ++ element.print, rfl, by decide⟩

theorem NextTree.print_start (next : NextTree) : ∃ c tail, next.print = c :: tail ∧ c ∈ [';', '.'] := by
  cases next with
  | stop => exact ⟨';', [], rfl, by decide⟩
  | nested name tail => exact ⟨'.', name ++ tail.print, rfl, by decide⟩

theorem TailTree.print_start (t : TailTree) : ∃ c tail, t.print = c :: tail ∧ c ∈ nameStops := by
  cases t with
  | plain next =>
      obtain ⟨c, tail, same, starts⟩ := next.print_start
      have stop : ∀ d ∈ [';', '.'], d ∈ nameStops := List.all_iff_forall_prop.mp rfl
      exact ⟨c, tail, same, stop c starts⟩
  | generic arguments next => exact ⟨'<', arguments.print ++ next.print, rfl, by decide⟩

theorem take_name_before_tail (name rest : Text) (tail : TailTree) (proper : Named nameStops name) :
    takeName? nameStops (name ++ (tail.print ++ rest)) = some (name, tail.print ++ rest) := by
  obtain ⟨c, more, same, stop⟩ := tail.print_start
  exact (take_name_some _ _ _ _).mpr ⟨proper, rfl, c, more ++ rest, by rw [same]; rfl, stop⟩

theorem take_arguments_type (fuel : Nat) (c : Char) (more : Text) (open_ : c ≠ '>') (other : c ≠ '*') :
    takeArguments (fuel + 1) (c :: more) = (do
      let (type, rest) ← takeType fuel (takeMark c more).2
      let (pieces, rest) ← takeArguments fuel rest
      some ((takeMark c more).1 ++ type ++ pieces, rest)) := by
  simp only [takeArguments]
  rfl

theorem ArgumentTree.print_positive (arguments : ArgumentTree) : 0 < arguments.print.length := by
  cases arguments with
  | close => exact Nat.succ_pos _
  | any rest => exact Nat.succ_pos _
  | type mark type rest =>
      have more := rest.print_positive
      simp only [ArgumentTree.print, List.length_append]
      omega

-- A mark and the type after it are taken apart again, as no type begins like a mark.
theorem take_mark_of_legal (mark : Text) (legal : mark ∈ [[], ['+'], ['-']]) (c : Char) (s : Text)
    (starts : c ∈ typeStarts) :
    ∃ d text, mark ++ c :: s = d :: text ∧ (takeMark d text).2 = c :: s ∧
      Renders (takeMark d text).1 (fun _ => mark) ∧ d ≠ '>' ∧ d ≠ '*' := by
  have apart : ∀ d ∈ typeStarts, d ≠ '>' ∧ d ≠ '*' ∧ ¬ (d = '+' || d = '-') = true :=
    List.all_iff_forall_prop.mp rfl
  obtain ⟨close, any, none⟩ := apart c starts
  simp only [List.mem_cons, List.not_mem_nil, or_false] at legal
  rcases legal with rfl | rfl | rfl
  · refine ⟨c, s, rfl, ?_, ?_, close, any⟩
    · rw [takeMark, if_neg none]
    · intro f
      rw [takeMark, if_neg none]
      rfl
  · exact ⟨'+', c :: s, rfl, rfl, fun f => rfl, by decide, by decide⟩
  · exact ⟨'-', c :: s, rfl, rfl, fun f => rfl, by decide, by decide⟩

mutual
theorem TypeTree.taken (t : TypeTree) (proper : t.Proper) (fuel : Nat)
    (enough : 2 * t.print.length ≤ fuel) (rest : Text) :
    ∃ pieces, takeType fuel (t.print ++ rest) = some (pieces, rest) ∧
      Renders pieces fun f => (t.rename f).print := by
  cases t with
  | mk depth element =>
      obtain ⟨c, tail, same, _, other⟩ := element.print_start proper
      simp only [TypeTree.print, List.length_append, List.length_replicate, same,
        List.length_cons] at enough
      obtain ⟨less, rfl⟩ : ∃ less, fuel = less + 1 := Nat.exists_eq_succ_of_ne_zero (by omega)
      obtain ⟨pieces, taken, renders⟩ := element.taken proper less
        (by rw [same, List.length_cons]; omega) c tail rest same
      have brackets : ∀ d ∈ List.replicate depth '[', (d == '[') = true := by simp
      have text : (TypeTree.mk depth element).print ++ rest =
          List.replicate depth '[' ++ c :: (tail ++ rest) := by
        simp [TypeTree.print, same]
      refine ⟨.plain (List.replicate depth '[') :: pieces, ?_, ?_⟩
      · rw [text, take_type_element, List.takeWhile_append_of_pos brackets,
          List.dropWhile_append_of_pos brackets, List.takeWhile_cons_of_neg (by simpa using other),
          List.dropWhile_cons_of_neg (by simpa using other), List.append_nil]
        simp only [taken, Option.map_some]
      · intro f
        rw [List.flatMap_cons, renders f]
        rfl

theorem ElementTree.taken (e : ElementTree) (proper : e.Proper) (fuel : Nat)
    (enough : 2 * e.print.length ≤ fuel + 1) (c : Char) (s rest : Text)
    (same : e.print = c :: s) :
    ∃ pieces, takeElement fuel c (s ++ rest) = some (pieces, rest) ∧
      Renders pieces fun f => (e.rename f).print := by
  cases e with
  | base letter =>
      obtain ⟨rfl, rfl⟩ := List.cons.inj same
      refine ⟨[.plain [letter]], ?_, fun f => rfl⟩
      rw [takeElement, if_pos (List.contains_iff_mem.mpr proper)]
      rfl
  | «variable» name =>
      obtain ⟨rfl, rfl⟩ := List.cons.inj (show 'T' :: (name ++ [';']) = c :: s from same)
      have named := (take_name_some [';'] (name ++ ';' :: rest) name (';' :: rest)).mpr
        ⟨proper, rfl, ';', rest, rfl, by decide⟩
      refine ⟨[.plain ('T' :: name ++ [';'])], ?_, fun f => by
        simp [SignaturePiece.rename, ElementTree.rename, ElementTree.print]⟩
      rw [takeElement, if_neg (by decide), if_pos rfl, takeVariable, List.append_assoc]
      simp only [List.singleton_append, named]
  | object name tail =>
      obtain ⟨rfl, rfl⟩ := List.cons.inj (show 'L' :: (name ++ tail.print) = c :: s from same)
      simp only [ElementTree.print, List.length_append, List.length_cons] at enough
      have long : name.length ≠ 0 := fun none => proper.1.1 (List.length_eq_zero_iff.mp none)
      obtain ⟨less, rfl⟩ : ∃ less, fuel = less + 1 := Nat.exists_eq_succ_of_ne_zero (by omega)
      obtain ⟨pieces, taken, renders⟩ := tail.taken proper.2 less name (by omega) rest
      refine ⟨.plain ['L'] :: .className name :: pieces, ?_, ?_⟩
      · rw [takeElement, if_neg (by decide), if_neg (by decide), if_pos rfl, List.append_assoc]
        simp only [takeClass, take_name_before_tail name rest tail proper.1, taken,
          Option.bind_eq_bind, Option.bind_some, Option.map_some]
      · intro f
        rw [List.flatMap_cons, List.flatMap_cons, renders f]
        simp [SignaturePiece.rename, ElementTree.rename, ElementTree.print]

theorem TailTree.taken (t : TailTree) (proper : t.Proper) (fuel : Nat) (outer : Text)
    (enough : 2 * t.print.length ≤ fuel) (rest : Text) :
    ∃ pieces, takeSuffixes fuel outer (t.print ++ rest) = some (pieces, rest) ∧
      Renders pieces fun f => (t.rename f outer).print := by
  cases t with
  | plain next =>
      obtain ⟨c, more, same, starts⟩ := next.print_start
      have positive : next.print.length ≠ 0 := by
        rw [same]
        exact Nat.succ_ne_zero _
      simp only [TailTree.print] at enough ⊢
      obtain ⟨less, rfl⟩ : ∃ less, fuel = less + 1 := Nat.exists_eq_succ_of_ne_zero (by omega)
      obtain ⟨pieces, taken, renders⟩ := next.taken proper less outer enough rest
      refine ⟨pieces, ?_, renders⟩
      rw [take_suffixes_plain, taken]
      rw [same]
      rintro ⟨⟩
      exact absurd starts (by decide)
  | generic arguments next =>
      have positive : next.print.length ≠ 0 := by
        obtain ⟨c, more, same, _⟩ := next.print_start
        rw [same]
        exact Nat.succ_ne_zero _
      simp only [TailTree.print, List.length_append, List.length_cons] at enough
      obtain ⟨less, rfl⟩ : ∃ less, fuel = less + 1 := Nat.exists_eq_succ_of_ne_zero (by omega)
      obtain ⟨first, taken, renders⟩ :=
        arguments.taken proper.1 less (by omega) (next.print ++ rest)
      obtain ⟨second, takenNext, rendersNext⟩ := next.taken proper.2 less outer (by omega) rest
      refine ⟨.plain ['<'] :: first ++ second, ?_, ?_⟩
      · rw [TailTree.print, List.cons_append, List.cons_append, List.append_assoc,
          take_suffixes_generic, taken]
        simp only [Option.bind_eq_bind, Option.bind_some, takenNext]
      · intro f
        rw [List.flatMap_append, List.flatMap_cons, renders f, rendersNext f]
        simp [SignaturePiece.rename, TailTree.rename, TailTree.print]

theorem NextTree.taken (next : NextTree) (proper : next.Proper) (fuel : Nat) (outer : Text)
    (enough : 2 * next.print.length ≤ fuel + 1) (rest : Text) :
    ∃ pieces, takeNext fuel outer (next.print ++ rest) = some (pieces, rest) ∧
      Renders pieces fun f => (next.rename f outer).print := by
  cases next with
  | stop => exact ⟨_, rfl, fun f => rfl⟩
  | nested name tail =>
      simp only [NextTree.print, List.length_append, List.length_cons] at enough
      obtain ⟨pieces, taken, renders⟩ :=
        tail.taken proper.2 fuel (binaryName outer name) (by omega) rest
      refine ⟨.plain ['.'] :: .nestedName outer name :: pieces, ?_, ?_⟩
      · rw [NextTree.print, List.cons_append, List.cons_append, List.append_assoc]
        simp only [takeNext, take_name_before_tail name rest tail proper.1, taken,
          Option.bind_eq_bind, Option.bind_some]
      · intro f
        rw [List.flatMap_cons, List.flatMap_cons, renders f]
        simp [SignaturePiece.rename, NextTree.rename, NextTree.print]

theorem ArgumentTree.taken (arguments : ArgumentTree) (proper : arguments.Proper) (fuel : Nat)
    (enough : 2 * arguments.print.length ≤ fuel) (rest : Text) :
    ∃ pieces, takeArguments fuel (arguments.print ++ rest) = some (pieces, rest) ∧
      Renders pieces fun f => (arguments.rename f).print := by
  cases arguments with
  | close =>
      cases fuel with
      | zero => cases enough
      | succ less => exact ⟨_, rfl, fun f => rfl⟩
  | any others =>
      simp only [ArgumentTree.print, List.length_cons] at enough
      obtain ⟨less, rfl⟩ : ∃ less, fuel = less + 1 := Nat.exists_eq_succ_of_ne_zero (by omega)
      obtain ⟨pieces, taken, renders⟩ := others.taken proper less (by omega) rest
      refine ⟨.plain ['*'] :: pieces, ?_, ?_⟩
      · rw [ArgumentTree.print, List.cons_append]
        simp only [takeArguments, taken, Option.bind_eq_bind, Option.bind_some]
      · intro f
        rw [List.flatMap_cons, renders f]
        rfl
  | type mark type others =>
      obtain ⟨legal, properType, properOthers⟩ := proper
      obtain ⟨c, tail, same, starts⟩ := type.print_start properType
      have positive : 0 < type.print.length := by
        rw [same]
        exact Nat.succ_pos _
      have more := others.print_positive
      simp only [ArgumentTree.print, List.length_append] at enough
      obtain ⟨less, rfl⟩ : ∃ less, fuel = less + 1 := Nat.exists_eq_succ_of_ne_zero (by omega)
      obtain ⟨first, taken, renders⟩ := type.taken properType less (by omega) (others.print ++ rest)
      obtain ⟨second, takenOthers, rendersOthers⟩ := others.taken properOthers less (by omega) rest
      obtain ⟨d, text, whole, marked, rendersMark, open_, any⟩ :=
        take_mark_of_legal mark legal c (tail ++ (others.print ++ rest)) starts
      refine ⟨(takeMark d text).1 ++ first ++ second, ?_, ?_⟩
      · have split : (ArgumentTree.type mark type others).print ++ rest = d :: text := by
          rw [← whole, ArgumentTree.print, same]
          simp
        rw [split, take_arguments_type less d text open_ any, marked, ← List.cons_append, ← same, taken]
        simp only [Option.bind_eq_bind, Option.bind_some, takenOthers]
      · intro f
        rw [List.flatMap_append, List.flatMap_append, renders f, rendersOthers f, rendersMark f]
        simp [ArgumentTree.rename, ArgumentTree.print]
end

theorem TypeTree.class_bound_start (t : TypeTree) (bounds : t.IsClassBound) :
    ∃ c tail, t.print = c :: tail ∧ c ∈ boundStarts := by
  cases t with
  | mk depth element =>
      cases depth with
      | succ depth => exact ⟨'[', List.replicate depth '[' ++ element.print, rfl, by decide⟩
      | zero =>
          cases element with
          | base letter => exact absurd rfl (bounds rfl letter)
          | «variable» name => exact ⟨'T', name ++ [';'], rfl, by decide⟩
          | object name tail => exact ⟨'L', name ++ tail.print, rfl, by decide⟩

theorem class_bound_taken (bound : Option TypeTree)
    (proper : ∀ t, bound = some t → t.Proper ∧ t.IsClassBound) (fuel : Nat) (rest : Text)
    (enough : 2 * (bound.elim [] TypeTree.print).length ≤ fuel)
    (follows : bound = none → ∀ c, rest.head? = some c → c ∉ boundStarts) :
    ∃ pieces, takeClassBound fuel (bound.elim [] TypeTree.print ++ rest) = some (pieces, rest) ∧
      Renders pieces fun f => (bound.map (TypeTree.rename f)).elim [] TypeTree.print := by
  cases bound with
  | none =>
      refine ⟨[], ?_, fun f => rfl⟩
      have other := follows rfl
      show takeClassBound fuel rest = some ([], rest)
      unfold takeClassBound
      split
      · exact absurd (by decide) (other 'L' rfl)
      · exact absurd (by decide) (other '[' rfl)
      · exact absurd (by decide) (other 'T' rfl)
      · rfl
  | some t =>
      obtain ⟨properType, bounds⟩ := proper t rfl
      obtain ⟨pieces, taken, renders⟩ := t.taken properType fuel enough rest
      refine ⟨pieces, ?_, renders⟩
      obtain ⟨c, tail, same, starts⟩ := t.class_bound_start bounds
      show takeClassBound fuel (t.print ++ rest) = some (pieces, rest)
      rw [← taken, same]
      simp only [boundStarts, List.mem_cons, List.not_mem_nil, or_false] at starts
      rcases starts with rfl | rfl | rfl <;> rfl

theorem take_bounds_more (fuel : Nat) (s : Text) :
    takeBounds (fuel + 1) (':' :: s) = (do
      let (type, rest) ← takeType fuel s
      let (pieces, rest) ← takeBounds fuel rest
      some (.plain [':'] :: type ++ pieces, rest)) := rfl

theorem bounds_taken (bounds : List TypeTree) (proper : ∀ t ∈ bounds, t.Proper) (fuel : Nat)
    (rest : Text) (enough : 2 * (bounds.flatMap fun t => ':' :: t.print).length < fuel)
    (follows : rest.head? ≠ some ':') :
    ∃ pieces, takeBounds fuel ((bounds.flatMap fun t => ':' :: t.print) ++ rest) = some (pieces, rest) ∧
      Renders pieces fun f => (bounds.map (TypeTree.rename f)).flatMap fun t => ':' :: t.print := by
  obtain ⟨less, rfl⟩ : ∃ less, fuel = less + 1 := Nat.exists_eq_succ_of_ne_zero (by omega)
  induction bounds generalizing less with
  | nil =>
      refine ⟨[], ?_, fun f => rfl⟩
      show takeBounds (less + 1) rest = some ([], rest)
      simp only [takeBounds]
      split
      · exact absurd rfl follows
      · rfl
  | cons t bounds ih =>
      obtain ⟨properType, properBounds⟩ := List.forall_mem_cons.mp proper
      simp only [List.flatMap_cons, List.length_append, List.length_cons] at enough
      obtain ⟨again, rfl⟩ : ∃ again, less = again + 1 := Nat.exists_eq_succ_of_ne_zero (by omega)
      obtain ⟨first, taken, renders⟩ := t.taken properType (again + 1) (by omega)
        ((bounds.flatMap fun t => ':' :: t.print) ++ rest)
      obtain ⟨second, others, rendersOthers⟩ := ih properBounds again (by omega)
      refine ⟨.plain [':'] :: first ++ second, ?_, ?_⟩
      · rw [List.flatMap_cons, List.append_assoc, List.cons_append, take_bounds_more, taken]
        simp only [others, Option.bind_eq_bind, Option.bind_some]
      · intro f
        rw [List.flatMap_append, List.flatMap_cons, renders f, rendersOthers f]
        rfl

theorem Parameter.print_start (p : Parameter) (proper : p.Proper) :
    ∃ c tail, p.print = c :: tail ∧ p.name.head? = some c ∧ c ≠ ':' := by
  obtain ⟨⟨filled, free⟩, _, _, _⟩ := proper
  obtain ⟨c, tail, same⟩ := List.exists_cons_of_ne_nil filled
  refine ⟨c, _, by rw [Parameter.print, same]; rfl, by rw [same]; rfl, ?_⟩
  rintro rfl
  exact free ':' (by simp [same]) (List.mem_singleton_self ':')

theorem parameters_end (ps : List Parameter) (proper : ProperParameters ps) (rest : Text) :
    (ps.flatMap Parameter.print ++ '>' :: rest).head? ≠ some ':' := by
  cases ps with
  | nil => nofun
  | cons p ps =>
      obtain ⟨c, tail, same, _, other⟩ := p.print_start proper.1
      rw [List.flatMap_cons, same]
      rintro ⟨⟩
      exact other rfl

theorem bounds_end (p : Parameter) (ps : List Parameter) (proper : ProperParameters ps)
    (follows : p.classBound = none → p.bounds = [] →
      ∀ q, ps.head? = some q → ∀ c, q.name.head? = some c → c ∉ boundStarts) (rest : Text)
    (absent : p.classBound = none) (c : Char)
    (starts : ((p.bounds.flatMap fun t => ':' :: t.print) ++
      (ps.flatMap Parameter.print ++ '>' :: rest)).head? = some c) : c ∉ boundStarts := by
  cases bounds : p.bounds with
  | cons t more =>
      rw [bounds] at starts
      cases starts
      decide
  | nil =>
      rw [bounds] at starts
      cases ps with
      | nil =>
          cases starts
          decide
      | cons q others =>
          obtain ⟨d, tail, same, named, _⟩ := q.print_start proper.1
          rw [List.flatMap_nil, List.nil_append, List.flatMap_cons, same] at starts
          cases starts
          exact follows absent bounds q rfl _ named

theorem take_parameters_named (fuel : Nat) (name more : Text) (proper : Named [':'] name)
    (opening : name.head? ≠ some '>') :
    takeParameters (fuel + 1) (name ++ ':' :: more) = (do
      let (classBound, rest) ← takeClassBound fuel more
      let (bounds, rest) ← takeBounds fuel rest
      let (pieces, rest) ← takeParameters fuel rest
      some (.plain (name ++ [':']) :: classBound ++ bounds ++ pieces, rest)) := by
  have named := (take_name_some [':'] (name ++ ':' :: more) name (':' :: more)).mpr
    ⟨proper, rfl, ':', more, rfl, by decide⟩
  obtain ⟨c, tail, rfl⟩ := List.exists_cons_of_ne_nil proper.1
  simp only [takeParameters]
  split
  · rename_i closed
    exact absurd (congrArg List.head? closed) opening
  · simp only [named]

theorem parameters_taken (ps : List Parameter) (proper : ProperParameters ps) (fuel : Nat)
    (rest : Text) (enough : 2 * (ps.flatMap Parameter.print).length < fuel) :
    ∃ pieces, takeParameters fuel (ps.flatMap Parameter.print ++ '>' :: rest) = some (pieces, rest) ∧
      Renders pieces fun f => (ps.map (Parameter.rename f)).flatMap Parameter.print ++ ['>'] := by
  obtain ⟨less, rfl⟩ : ∃ less, fuel = less + 1 := Nat.exists_eq_succ_of_ne_zero (by omega)
  induction ps generalizing less with
  | nil => exact ⟨[.plain ['>']], rfl, fun f => rfl⟩
  | cons p ps ih =>
      obtain ⟨properParameter, follows, properRest⟩ := proper
      simp only [List.flatMap_cons, List.length_append, Parameter.print, List.length_cons] at enough
      obtain ⟨again, rfl⟩ : ∃ again, less = again + 1 := Nat.exists_eq_succ_of_ne_zero (by omega)
      obtain ⟨third, taken, renders⟩ := ih properRest again (by omega)
      obtain ⟨second, bounds, rendersBounds⟩ := bounds_taken p.bounds properParameter.bounds (again + 1)
        (ps.flatMap Parameter.print ++ '>' :: rest) (by omega) (parameters_end ps properRest rest)
      obtain ⟨first, classBound, rendersClass⟩ := class_bound_taken p.classBound
        properParameter.classBound (again + 1) _ (by omega) (bounds_end p ps properRest follows rest)
      refine ⟨.plain (p.name ++ [':']) :: first ++ second ++ third, ?_, ?_⟩
      · have text : (p :: ps).flatMap Parameter.print ++ '>' :: rest = p.name ++ ':' ::
            (p.classBound.elim [] TypeTree.print ++ ((p.bounds.flatMap fun t => ':' :: t.print) ++
              (ps.flatMap Parameter.print ++ '>' :: rest))) := by
          simp [Parameter.print]
        rw [text, take_parameters_named _ _ _ properParameter.name properParameter.opening, classBound]
        simp only [bounds, taken, Option.bind_eq_bind, Option.bind_some]
      · intro f
        rw [List.flatMap_append, List.flatMap_append, List.flatMap_cons, rendersClass f,
          rendersBounds f, renders f]
        simp [Parameter.print, Parameter.rename, SignaturePiece.rename]

theorem TypeTree.void_of_start (t : TypeTree) (tail : Text) (starts : t.print = 'V' :: tail) :
    t = .mk 0 (.base 'V') := by
  cases t with
  | mk depth element =>
      cases depth with
      | succ depth => cases starts
      | zero =>
          cases element with
          | base letter =>
              cases starts
              rfl
          | «variable» name => cases starts
          | object name tail => cases starts

theorem TypeTree.unmarked (t : TypeTree) (proper : t.Proper) (other : t ≠ .mk 0 (.base 'V'))
    (c : Char) (tail : Text) (same : t.print = c :: tail) :
    ¬ (c = '(' || c = ')' || c = '^' || c = 'V') = true := by
  obtain ⟨d, others, again, starts⟩ := t.print_start proper
  obtain ⟨rfl, _⟩ := List.cons.inj (same.symm.trans again)
  have apart : ∀ d ∈ typeStarts, d ≠ '(' ∧ d ≠ ')' ∧ d ≠ '^' := List.all_iff_forall_prop.mp rfl
  obtain ⟨opening, closing, hat⟩ := apart c starts
  have void : c ≠ 'V' := by
    rintro rfl
    exact other (t.void_of_start tail same)
  simp [opening, closing, hat, void]

theorem all_taken (items : List Item) (proper : ∀ i ∈ items, i.Proper) (fuel : Nat)
    (enough : 2 * (items.flatMap Item.print).length < fuel) (done : List (List SignaturePiece)) :
    ∃ pieces, takeAll fuel done (items.flatMap Item.print) = some (done.reverse.flatten ++ pieces) ∧
      Renders pieces fun f => (items.map (Item.rename f)).flatMap Item.print := by
  induction items generalizing fuel done with
  | nil =>
      refine ⟨[], ?_, fun f => rfl⟩
      rw [List.append_nil]
      cases fuel <;> rfl
  | cons i items ih =>
      obtain ⟨properItem, properRest⟩ := List.forall_mem_cons.mp proper
      cases i with
      | mark letter =>
          simp only [List.flatMap_cons, Item.print, List.length_append, List.length_singleton] at enough
          obtain ⟨less, rfl⟩ : ∃ less, fuel = less + 1 := Nat.exists_eq_succ_of_ne_zero (by omega)
          obtain ⟨pieces, taken, renders⟩ := ih properRest less (by omega) ([.plain [letter]] :: done)
          refine ⟨.plain [letter] :: pieces, ?_, ?_⟩
          · have mark : letter = '(' || letter = ')' || letter = '^' || letter = 'V' := by
              simpa [Item.Proper, or_assoc] using properItem
            simp only [List.flatMap_cons, Item.print, List.singleton_append, takeAll, if_pos mark, taken]
            simp
          · intro f
            rw [List.flatMap_cons, renders f]
            rfl
      | type t =>
          obtain ⟨properType, other⟩ := properItem
          obtain ⟨c, tail, same, _⟩ := t.print_start properType
          have unmarked := t.unmarked properType other c tail same
          simp only [List.flatMap_cons, Item.print, List.length_append, same, List.length_cons] at enough
          obtain ⟨less, rfl⟩ : ∃ less, fuel = less + 1 := Nat.exists_eq_succ_of_ne_zero (by omega)
          obtain ⟨first, typed, rendersType⟩ := t.taken properType less
            (by rw [same, List.length_cons]; omega) (items.flatMap Item.print)
          obtain ⟨second, taken, renders⟩ := ih properRest less (by omega) (first :: done)
          refine ⟨first ++ second, ?_, ?_⟩
          · rw [List.flatMap_cons, Item.print]
            rw [same, List.cons_append] at typed ⊢
            simp only [takeAll, if_neg unmarked, typed, taken]
            simp
          · intro f
            rw [List.flatMap_append, rendersType f, renders f]
            rfl

theorem items_start (items : List Item) (proper : ∀ i ∈ items, i.Proper) (filled : items ≠ []) :
    ∃ c tail, items.flatMap Item.print = c :: tail ∧ c ≠ '<' := by
  obtain ⟨i, others, rfl⟩ := List.exists_cons_of_ne_nil filled
  have properItem := proper i List.mem_cons_self
  cases i with
  | mark letter =>
      have apart : ∀ d ∈ ['(', ')', '^', 'V'], d ≠ '<' := List.all_iff_forall_prop.mp rfl
      exact ⟨letter, _, rfl, apart letter properItem⟩
  | type t =>
      obtain ⟨c, tail, same, starts⟩ := t.print_start properItem.1
      have apart : ∀ d ∈ typeStarts, d ≠ '<' := List.all_iff_forall_prop.mp rfl
      exact ⟨c, tail ++ others.flatMap Item.print, by
        rw [List.flatMap_cons, Item.print, same, List.cons_append], apart c starts⟩

theorem parse_of_other_start (s : Text) (c : Char) (tail : Text) (same : s = c :: tail)
    (other : c ≠ '<') : parse? s = takeAll (2 * s.length + 2) [] s := by
  subst same
  unfold parse?
  dsimp only
  split
  · rename_i empty
    cases empty
  · rename_i opened
    cases opened
    exact absurd rfl other
  · rfl

theorem parse_complete (t : Tree) (proper : t.Proper) :
    ∃ pieces, parse? t.print = some pieces ∧ Renders pieces fun f => (t.rename f).print := by
  cases t with
  | mk parameters items =>
      obtain ⟨properParameters, each, filled⟩ := proper
      cases parameters with
      | none =>
          obtain ⟨pieces, taken, renders⟩ := all_taken items each
            (2 * (items.flatMap Item.print).length + 2) (by omega) []
          obtain ⟨c, tail, same, other⟩ := items_start items each (filled rfl)
          refine ⟨pieces, ?_, renders⟩
          show parse? (items.flatMap Item.print) = some pieces
          rw [parse_of_other_start _ c tail same other]
          exact taken
      | some ps =>
          have text : (Tree.mk (some ps) items).print =
              '<' :: (ps.flatMap Parameter.print ++ '>' :: items.flatMap Item.print) := by
            simp [Tree.print]
          have size := congrArg List.length text
          simp only [List.length_cons, List.length_append] at size
          obtain ⟨first, taken, renders⟩ := parameters_taken ps (properParameters ps rfl)
            (2 * (Tree.mk (some ps) items).print.length + 2) (items.flatMap Item.print) (by omega)
          obtain ⟨second, rest, rendersRest⟩ := all_taken items each
            (2 * (Tree.mk (some ps) items).print.length + 2) (by omega) [.plain ['<'] :: first]
          refine ⟨.plain ['<'] :: first ++ second, ?_, ?_⟩
          · rw [text] at taken rest ⊢
            simp only [parse?, taken, rest, Option.bind_eq_bind, Option.bind_some]
            simp
          · intro f
            rw [List.flatMap_append, List.flatMap_cons, renders f, rendersRest f]
            simp [Tree.print, Tree.rename, SignaturePiece.rename]

theorem rename_ok (f : Text → Option Text) (s result : Text) (renamed : rename f s = .ok result) :
    ∃ t : Tree, t.Proper ∧ s = t.print ∧ result = (t.rename f).print := by
  unfold rename at renamed
  split at renamed
  · rename_i pieces parsed
    cases renamed
    obtain ⟨t, proper, same, renders⟩ := parse_sound s pieces parsed
    exact ⟨t, proper, same, renders f⟩
  · cases renamed

theorem rename_print (f : Text → Option Text) (t : Tree) (proper : t.Proper) :
    rename f t.print = .ok (t.rename f).print := by
  obtain ⟨pieces, parsed, renders⟩ := parse_complete t proper
  unfold rename
  rw [parsed]
  exact congrArg Except.ok (renders f)

theorem rename_fixed (f : Text → Option Text) (fixed : ∀ name, (f name).getD name = name)
    (s result : Text) (renamed : rename f s = .ok result) : result = s := by
  obtain ⟨t, _, rfl, rfl⟩ := rename_ok f s result renamed
  rw [t.rename_fixed f fixed]

end Shading.Signature
