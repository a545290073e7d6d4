import Shading.Proofs.Fallible
import Shading.Proofs.Text
import Shading.Relocation.Chain

set_option autoImplicit false

namespace Shading

open Fallible

namespace Relocation

structure Coherent (r : Relocation) : Prop where
  pattern : r.pathPattern = Text.slashed r.pattern
  target : r.pathTarget = Text.slashed r.target
  dottedPattern : '/' ∉ r.pattern
  dottedTarget : '/' ∉ r.target

theorem hidden_plain : '/' ∉ hiddenPackage := by decide

theorem unfiltered_coherent (pattern : Text) (target? : Option Text) :
    (unfiltered pattern target?).Coherent := by
  cases target? with
  | some target =>
      exact ⟨(Text.slashed_dotted pattern).symm, (Text.slashed_dotted target).symm,
        Text.slash_not_mem_dotted pattern, Text.slash_not_mem_dotted target⟩
  | none =>
      have hidden : hiddenPackage ++ '/' :: Text.slashed pattern =
          Text.slashed (hiddenPackage ++ '.' :: Text.dotted pattern) := by
        have tail := Text.slashed_dotted pattern
        rw [Text.slashed_append, ← tail]
        rfl
      refine ⟨(Text.slashed_dotted pattern).symm, hidden, Text.slash_not_mem_dotted pattern, ?_⟩
      have later := Text.slash_not_mem_dotted pattern
      simp [unfiltered, hidden_plain, later]

def patternSources (filters : List Text) : List Text := filters.flatMap filterSources

theorem add_includes (filters : List Text) (r : Relocation) : filters.foldlM addInclude r =
    ((patternSources filters).foldlM addPattern r.includes).map fun included => { r with includes := included } := by
  rw [patternSources, fold_flat_map]
  exact fold_part addInclude addFilter (fun included => { r with includes := included }) (fun _ _ => rfl)
    filters r.includes

theorem add_excludes (filters : List Text) (r : Relocation) : filters.foldlM addExclude r =
    ((patternSources filters).foldlM addPattern r.excludes).map fun excluded => { r with excludes := excluded } := by
  rw [patternSources, fold_flat_map]
  exact fold_part addExclude addFilter (fun excluded => { r with excludes := excluded }) (fun _ _ => rfl)
    filters r.excludes

theorem with_filters_steps (pattern : Text) (target? : Option Text) (includes excludes : List Text) :
    withFilters pattern target? includes excludes = (do
      let included ← (patternSources includes).foldlM addPattern []
      let excluded ← (patternSources excludes).foldlM addPattern []
      return { unfiltered pattern target? with includes := included, excludes := excluded }) := by
  have none : (unfiltered pattern target?).includes = [] := rfl
  rw [withFilters, add_includes, none]
  cases (patternSources includes).foldlM addPattern [] with
  | error e => rfl
  | ok included =>
      have later := add_excludes excludes { unfiltered pattern target? with includes := included }
      refine Eq.trans later ?_
      show Except.map _ ((patternSources excludes).foldlM addPattern []) = _ >>= _
      cases (patternSources excludes).foldlM addPattern [] <;> rfl

theorem with_filters_forms (pattern : Text) (target? : Option Text) (includes excludes : List Text)
    (r : Relocation) (built : withFilters pattern target? includes excludes = .ok r) :
    ∃ included excluded,
      r = { unfiltered pattern target? with includes := included, excludes := excluded } := by
  rw [with_filters_steps] at built
  obtain ⟨included, _, later⟩ := bind_ok.mp built
  obtain ⟨excluded, _, made⟩ := bind_ok.mp later
  exact ⟨included, excluded, (Except.ok.inj made).symm⟩

theorem filtered_coherent (pattern : Text) (target? : Option Text) (included excluded : List PathPattern) :
    Coherent { unfiltered pattern target? with includes := included, excludes := excluded } := by
  have forms := unfiltered_coherent pattern target?
  exact ⟨forms.pattern, forms.target, forms.dottedPattern, forms.dottedTarget⟩

theorem with_filters_coherent (pattern : Text) (target? : Option Text) (includes excludes : List Text)
    (r : Relocation) (built : withFilters pattern target? includes excludes = .ok r) :
    r.Coherent := by
  obtain ⟨included, excluded, rfl⟩ := with_filters_forms pattern target? includes excludes r built
  exact filtered_coherent pattern target? included excluded

def Unfiltered (r : Relocation) : Prop := r.includes = [] ∧ r.excludes = []

theorem admits_unfiltered (r : Relocation) (free : r.Unfiltered) (path : Text) :
    r.admits path = true := by
  unfold admits
  rw [free.1, free.2]
  rfl

variable {r : Relocation}

theorem Coherent.move_path_slashed (coherent : r.Coherent) (name : Text) (plain : '/' ∉ name) :
    r.movePath (Text.slashed name) = Text.slashed (r.moveClass name) := by
  unfold movePath moveClass
  rw [coherent.pattern, coherent.target]
  exact Text.replace_first_slashed _ _ _ coherent.dottedPattern plain

theorem Coherent.move_class_plain (coherent : r.Coherent) (name : Text) (plain : '/' ∉ name) :
    '/' ∉ r.moveClass name := by
  intro member
  cases Text.mem_replace_first _ _ _ _ member with
  | inl inside => exact coherent.dottedTarget inside
  | inr outside => exact plain outside

theorem applies_to_class_plain (r : Relocation) (name : Text) (plain : '/' ∉ name) :
    r.appliesToClass name = r.appliesToPath (Text.slashed name) := by
  unfold appliesToClass
  simp [plain]

theorem forms_move_together (pattern : Text) (target? : Option Text) (included excluded : List PathPattern)
    (name : Text) (plain : '/' ∉ name) :
    let r : Relocation := { unfiltered pattern target? with includes := included, excludes := excluded }
    Text.slashed (r.moveClass name) = r.movePath (Text.slashed name) ∧
      r.moveClass name = Text.dotted (r.movePath (Text.slashed name)) ∧
      r.appliesToClass name = r.appliesToPath (Text.slashed name) := by
  intro r
  have coherent : r.Coherent := filtered_coherent pattern target? included excluded
  have path := coherent.move_path_slashed name plain
  refine ⟨path.symm, ?_, applies_to_class_plain r name plain⟩
  rw [path, Text.dotted_slashed _ (coherent.move_class_plain name plain)]

-- The rule does not apply to the name, in which its pattern comes later.
theorem later_pattern_moves_together :
    '/' ∉ "com.org.antlr.v4.Tool".toList ∧
      (unfiltered "org/antlr.v4".toList none).appliesToClass "com.org.antlr.v4.Tool".toList = false ∧
      (unfiltered "org/antlr.v4".toList none).movePath (Text.slashed "com.org.antlr.v4.Tool".toList) =
        "com/hidden/org/antlr/v4/Tool".toList := by
  have plain : '/' ∉ "com.org.antlr.v4.Tool".toList := by decide
  obtain ⟨moved, _, test⟩ := forms_move_together "org/antlr.v4".toList none [] [] _ plain
  refine ⟨plain, test.trans (by decide), moved.symm.trans (by decide)⟩

-- The path without its ending `.class`, as filters see it.
def stem (path : Text) : Text := (Text.dropEnd? classSuffix path).getD path

theorem stem_begins (path : Text) : stem path <+: path := by
  unfold stem
  cases cut : Text.dropEnd? classSuffix path with
  | none => exact List.prefix_refl path
  | some front => exact ⟨classSuffix, ((Text.drop_end_some _ _ _).mp cut).symm⟩

theorem stem_undotted (path : Text) (plain : '.' ∉ path) : stem path = path := by
  unfold stem
  cases cut : Text.dropEnd? classSuffix path with
  | none => rfl
  | some front =>
      have whole := (Text.drop_end_some _ _ _).mp cut
      exact absurd (whole ▸ List.mem_append_right front List.mem_cons_self) plain

theorem stem_slashed (name : Text) : stem (Text.slashed name) = Text.slashed name :=
  stem_undotted _ (Text.dot_not_mem_slashed name)

def relativeStem (path : Text) : Text := (Text.dropStart? ['/'] (stem path)).getD (stem path)

theorem applies_to_path_iff (r : Relocation) (path : Text) :
    r.appliesToPath path = true ↔
      Text.utf8Size r.pathPattern ≤ Text.utf8Size path ∧ path ≠ classSuffix ∧
        r.pathPattern <+: relativeStem path ∧ r.admits (stem path) = true := by
  unfold appliesToPath
  by_cases short : Text.utf8Size path < Text.utf8Size r.pathPattern
  · rw [if_pos short]
    constructor
    · intro impossible
      contradiction
    · rintro ⟨long, _⟩
      omega
  · rw [if_neg short]
    by_cases bare : path = classSuffix
    · rw [if_pos bare]
      constructor
      · intro impossible
        contradiction
      · rintro ⟨_, other, _⟩
        exact absurd bare other
    · rw [if_neg bare, Bool.and_eq_true]
      have start : Text.startsWith r.pathPattern (relativeStem path) = true ↔
          r.pathPattern <+: relativeStem path := List.isPrefixOf_iff_prefix
      constructor
      · rintro ⟨begins, admitted⟩
        exact ⟨by omega, bare, start.mp begins, admitted⟩
      · rintro ⟨_, _, begins, admitted⟩
        exact ⟨start.mpr begins, admitted⟩

theorem relative_stem_unrooted (path : Text) (unrooted : ∀ rest, path ≠ '/' :: rest) :
    relativeStem path = stem path := by
  unfold relativeStem
  cases cut : Text.dropStart? ['/'] (stem path) with
  | none => rfl
  | some rest =>
      have whole := (Text.drop_start_some _ _ _).mp cut
      obtain ⟨ending, same⟩ := stem_begins path
      exact absurd (same.symm.trans (congrArg (· ++ ending) whole)) (unrooted _)

theorem relative_stem_plain (name : Text) (plain : '/' ∉ name) : relativeStem name = stem name :=
  relative_stem_unrooted name fun _ whole => plain (whole ▸ List.mem_cons_self)

-- A name in front of which a slash stands once its dots are slashes begins with a dot, so a text
-- without dots begins it only if it is empty.
theorem prefix_behind_slash (start name rest : Text) (undotted : '.' ∉ start) (plain : '/' ∉ name)
    (begins : start <+: name) (cut : Text.slashed name = '/' :: rest) : start <+: rest := by
  cases start with
  | nil => exact List.nil_prefix
  | cons c others =>
      cases name with
      | nil => contradiction
      | cons d tail =>
          have first : c = d := (List.cons_prefix_cons.mp begins).1
          have head : (if d = '.' then '/' else d) = '/' := (List.cons.inj cut).1
          by_cases dot : d = '.'
          · exact absurd (List.mem_cons.mpr (.inl (first.trans dot).symm)) undotted
          · rw [if_neg dot] at head
            exact absurd (List.mem_cons.mpr (.inl head.symm)) plain

-- A rule that fits a text without slashes fits it as a class name too, unless it has a pattern of
-- one segment and filters, which see the text in two forms.
theorem Coherent.applies_to_class_of_path (coherent : r.Coherent)
    (broad : r.Unfiltered ∨ '/' ∈ r.pathPattern) (name : Text) (plain : '/' ∉ name)
    (applies : r.appliesToPath name = true) : r.appliesToClass name = true := by
  obtain ⟨long, _, begins, _⟩ := (applies_to_path_iff r name).mp applies
  rw [relative_stem_plain name plain] at begins
  have within := begins.trans (stem_begins name)
  rw [applies_to_class_plain r name plain, applies_to_path_iff]
  cases broad with
  | inr several => exact absurd (within.subset several) plain
  | inl free =>
      have undotted : '.' ∉ r.pathPattern := by
        rw [coherent.pattern]
        exact Text.dot_not_mem_slashed r.pattern
      have same : Text.slashed r.pathPattern = r.pathPattern := Text.exchange_absent _ _ _ undotted
      have inside : r.pathPattern <+: Text.slashed name := by
        rw [← same]
        exact within.map _
      refine ⟨by rw [Text.utf8_size_slashed]; exact long, ?_, ?_, admits_unfiltered r free _⟩
      · intro bare
        have dot : '.' ∈ classSuffix := List.mem_cons_self
        exact Text.dot_not_mem_slashed name (bare ▸ dot)
      · unfold relativeStem
        rw [stem_slashed]
        cases cut : Text.dropStart? ['/'] (Text.slashed name) with
        | none => exact inside
        | some rest =>
            have whole := (Text.drop_start_some _ _ _).mp cut
            exact prefix_behind_slash _ name rest undotted plain within whole

end Relocation

namespace Chain

theorem split_wrapper_append (name : Text) :
    (splitWrapper name).1 ++ (splitWrapper name).2 = name := by
  unfold splitWrapper
  rw [List.span_eq_takeWhile_dropWhile]
  dsimp only
  split
  · rename_i first inner rest
    have whole := List.takeWhile_append_dropWhile (p := (· == '[')) (l := name)
    rw [rest] at whole
    simpa using whole
  · rfl

theorem split_wrapper_object (brackets : Text) (all : ∀ d ∈ brackets, (d == '[') = true) (c : Char)
    (rest : Text) : splitWrapper (brackets ++ 'L' :: c :: rest) = (brackets ++ ['L'], c :: rest) := by
  unfold splitWrapper
  rw [List.span_eq_takeWhile_dropWhile, List.takeWhile_append_of_pos all, List.dropWhile_append_of_pos all,
    List.takeWhile_cons_of_neg (by decide), List.dropWhile_cons_of_neg (by decide), List.append_nil]
  rfl

theorem split_wrapper_other (c : Char) (rest : Text) (letter : c ≠ 'L') (bracket : c ≠ '[') :
    splitWrapper (c :: rest) = ([], c :: rest) := by
  unfold splitWrapper
  rw [List.span_eq_takeWhile_dropWhile, List.dropWhile_cons_of_neg (by simpa using bracket)]
  dsimp only
  split
  · rename_i same
    exact absurd (List.cons.inj same).1 letter
  · rfl

theorem split_wrapper_form (name : Text) :
    (∃ brackets c rest, (∀ d ∈ brackets, (d == '[') = true) ∧ name = brackets ++ 'L' :: c :: rest ∧
      splitWrapper name = (brackets ++ ['L'], c :: rest)) ∨ splitWrapper name = ([], name) := by
  have whole := List.takeWhile_append_dropWhile (p := (· == '[')) (l := name)
  unfold splitWrapper
  rw [List.span_eq_takeWhile_dropWhile]
  dsimp only
  split
  · rename_i c rest behind
    rw [behind] at whole
    exact .inl ⟨_, c, rest, fun d => List.mem_takeWhile_imp (p := (· == '[')), whole.symm, rfl⟩
  · exact .inr rfl

-- What is behind the wrapper may be exchanged for a text that does not begin like a wrapper.
theorem split_wrapper_again (name : Text) (c : Char) (rest : Text) (letter : c ≠ 'L') (bracket : c ≠ '[') :
    splitWrapper ((splitWrapper name).1 ++ c :: rest) = ((splitWrapper name).1, c :: rest) := by
  rcases split_wrapper_form name with ⟨brackets, d, tail, all, _, split⟩ | split
  · rw [split]
    simpa using split_wrapper_object brackets all c rest
  · rw [split]
    exact split_wrapper_other c rest letter bracket

end Chain

end Shading
