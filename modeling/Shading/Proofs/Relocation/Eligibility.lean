import Mathlib.Data.List.Infix
import Shading.Proofs.Relocation.Rule

set_option autoImplicit false

namespace Shading

def Text.Opens (start x : Text) : Prop :=
  ∃ lead rest, (lead = [] ∨ lead = ['/']) ∧ x = lead ++ start ++ rest

theorem Text.replace_first_opens (pattern replacement lead rest : Text)
    (named : ∃ c tail, pattern = c :: tail ∧ c ≠ '/') (short : lead = [] ∨ lead = ['/']) :
    replaceFirst pattern replacement (lead ++ pattern ++ rest) = lead ++ replacement ++ rest := by
  rcases short with rfl | rfl
  · exact replace_first_start pattern replacement rest
  · have behind : ¬ pattern <+: '/' :: (pattern ++ rest) := by
      obtain ⟨c, tail, rfl, other⟩ := named
      intro begins
      exact other (List.cons_prefix_cons.mp begins).1
    show replaceFirst pattern replacement ('/' :: (pattern ++ rest)) = '/' :: (replacement ++ rest)
    rw [replace_first_later _ _ _ _ behind, replace_first_start]

namespace Relocation

theorem stem_slash (path : Text) : stem ('/' :: path) = '/' :: stem path := by
  unfold stem
  cases cut : Text.dropEnd? classSuffix path with
  | some front =>
      have whole := (Text.drop_end_some _ _ _).mp cut
      have cut' : Text.dropEnd? classSuffix ('/' :: path) = some ('/' :: front) := by
        rw [Text.drop_end_some, whole]
        rfl
      rw [cut']
      rfl
  | none =>
      cases cut' : Text.dropEnd? classSuffix ('/' :: path) with
      | none => rfl
      | some front =>
          have whole := (Text.drop_end_some _ _ _).mp cut'
          cases front with
          | nil => exact absurd (List.cons.inj whole).1 (by decide)
          | cons c front =>
              rw [(Text.drop_end_some classSuffix path front).mpr (List.cons.inj whole).2] at cut
              contradiction

theorem relative_stem_slash (path : Text) : relativeStem ('/' :: path) = stem path := by
  unfold relativeStem
  rw [stem_slash]
  rfl

-- What follows a path stays behind its stem, as long as it cannot be taken for the slash in front.
theorem relative_stem_append (path back : Text) (plain : '.' ∉ path ++ back) (apart : back.head? ≠ some '/') :
    relativeStem (path ++ back) = relativeStem path ++ back := by
  have plainPath : '.' ∉ path := fun dot => plain (List.mem_append_left back dot)
  have rooted (s : Text) : Text.dropStart? ['/'] ('/' :: s) = some s := (Text.drop_start_some _ _ _).mpr rfl
  have unrooted (s : Text) (other : s.head? ≠ some '/') : Text.dropStart? ['/'] s = none := by
    cases cut : Text.dropStart? ['/'] s with
    | none => rfl
    | some rest =>
        have whole := (Text.drop_start_some _ _ _).mp cut
        exact absurd (congrArg List.head? whole) other
  unfold relativeStem
  rw [stem_undotted _ plain, stem_undotted _ plainPath]
  cases path with
  | nil => rw [List.nil_append, unrooted back apart, unrooted [] (by simp)]; rfl
  | cons c rest =>
      by_cases slash : c = '/'
      · rw [slash, List.cons_append, rooted, rooted]
        rfl
      · have first : (c :: rest).head? ≠ some '/' := fun same => slash (Option.some.inj same)
        rw [unrooted _ first, unrooted (c :: rest ++ back) first]
        rfl

theorem relative_stem_within (path : Text) : relativeStem path <:+: path := by
  refine List.IsInfix.trans ?_ (stem_begins path).isInfix
  unfold relativeStem
  cases cut : Text.dropStart? ['/'] (stem path) with
  | none => exact List.infix_refl _
  | some rest => exact ⟨['/'], [], by simp [(Text.drop_start_some _ _ _).mp cut]⟩

variable {r : Relocation}

theorem applies_iff (r : Relocation) (path : Text) : r.appliesToPath path = true ↔
    path ≠ classSuffix ∧ r.pathPattern <+: relativeStem path ∧ r.admits (stem path) = true := by
  rw [applies_to_path_iff]
  constructor
  · rintro ⟨_, other, begins, admitted⟩
    exact ⟨other, begins, admitted⟩
  · rintro ⟨other, begins, admitted⟩
    exact ⟨Text.utf8_size_infix _ _ (begins.isInfix.trans (relative_stem_within path)), other, begins, admitted⟩

def fits (r : Relocation) (path : Text) : Bool :=
  Text.startsWith r.pathPattern (relativeStem path) && r.admits (stem path)

theorem fits_iff (r : Relocation) (path : Text) : r.fits path = true ↔
    r.pathPattern <+: relativeStem path ∧ r.admits (stem path) = true := by
  rw [fits, Bool.and_eq_true, Text.startsWith, List.isPrefixOf_iff_prefix]

theorem applies_of_filled (filled : r.pathPattern ≠ []) (path : Text) : r.appliesToPath path = r.fits path := by
  rw [Bool.eq_iff_iff, applies_iff, fits_iff]
  refine and_iff_right_of_imp fun both => ?_
  rintro rfl
  exact filled (List.prefix_nil.mp both.1)

theorem Unfiltered.applies_iff (free : r.Unfiltered) (x : Text) (plain : '.' ∉ x) :
    r.appliesToPath x = true ↔ r.pathPattern <+: relativeStem x := by
  rw [Relocation.applies_iff]
  refine ⟨fun applies => applies.2.1, fun begins => ⟨?_, begins, admits_unfiltered r free _⟩⟩
  rintro rfl
  exact plain List.mem_cons_self

theorem pattern_within (r : Relocation) (path : Text) (applies : r.appliesToPath path = true) :
    r.pathPattern <:+: path :=
  ((applies_iff r path).mp applies).2.1.isInfix.trans (relative_stem_within path)

theorem opens_of_applies (r : Relocation) (path : Text) (applies : r.appliesToPath path = true) :
    Text.Opens r.pathPattern path := by
  obtain ⟨_, begins, _⟩ := (applies_iff r path).mp applies
  obtain ⟨ending, whole⟩ := stem_begins path
  unfold relativeStem at begins
  cases cut : Text.dropStart? ['/'] (stem path) with
  | none =>
      rw [cut] at begins
      obtain ⟨rest, same⟩ := begins
      exact ⟨[], rest ++ ending, .inl rfl, by rw [← whole, ← (show _ = stem path from same)]; simp⟩
  | some relative =>
      rw [cut] at begins
      obtain ⟨rest, same⟩ := begins
      have slash := (Text.drop_start_some _ _ _).mp cut
      exact ⟨['/'], rest ++ ending, .inr rfl, by
        rw [← whole, slash, ← (show _ = relative from same)]; simp⟩

def renameClass (r : Relocation) (name : Text) : Text :=
  if r.appliesToClass name then r.moveClass name else name

theorem applies_to_class_iff (r : Relocation) (name : Text) :
    r.appliesToClass name = true ↔ '/' ∉ name ∧ r.appliesToPath (Text.slashed name) = true := by
  rw [appliesToClass, Bool.and_eq_true, Bool.not_eq_true', ← Bool.not_eq_true, List.contains_iff_mem]

theorem Coherent.class_opens (coherent : r.Coherent) (name : Text) (applies : r.appliesToClass name = true) :
    ∃ lead rest, (lead = [] ∨ lead = ['.']) ∧ name = lead ++ r.pattern ++ rest := by
  obtain ⟨plain, path⟩ := (applies_to_class_iff r name).mp applies
  obtain ⟨lead, rest, short, whole⟩ := opens_of_applies r _ path
  have dotted := congrArg Text.dotted whole
  rw [Text.dotted_slashed name plain, coherent.pattern] at dotted
  refine ⟨Text.dotted lead, Text.dotted rest, ?_, ?_⟩
  · cases short with
    | inl nothing => exact .inl (by rw [nothing]; rfl)
    | inr slash => exact .inr (by rw [slash]; rfl)
  · rw [Text.dotted_append, Text.dotted_append, Text.dotted_slashed r.pattern coherent.dottedPattern] at dotted
    exact dotted

theorem Coherent.pattern_within_class (coherent : r.Coherent) (name : Text)
    (applies : r.appliesToClass name = true) : r.pattern <:+: name := by
  obtain ⟨lead, rest, _, whole⟩ := coherent.class_opens name applies
  exact ⟨lead, rest, whole.symm⟩

theorem move_class_same_iff (r : Relocation) (name : Text) (within : r.pattern <:+: name) :
    r.moveClass name = name ↔ r.target = r.pattern := Text.replace_first_same_iff _ _ _ within

end Relocation

def Chain.renameClass (chain : Chain) (name : Text) : Text :=
  chain.foldl (fun name r => r.renameClass name) name

theorem Chain.rename_kept (chain : Chain) (holds : Text → Prop)
    (kept : ∀ r ∈ chain, ∀ name, holds name → holds (r.renameClass name)) (name : Text) (start : holds name) :
    holds (chain.renameClass name) :=
  List.foldlRecOn chain _ start fun name held r listed => kept r listed name held

end Shading
