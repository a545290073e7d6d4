import Shading.Proofs.ClassPattern.Matching
import Shading.Proofs.Relocation.ClassPath

set_option autoImplicit false

namespace Shading

def InNoRelease (path : Text) : Prop := ∀ directory, ReleaseDirectory directory → ¬ directory <+: path

def Unversioned (path rest : Text) : Prop :=
  (∃ directory, ReleaseDirectory directory ∧ path = directory ++ rest) ∨ (InNoRelease path ∧ rest = path)

-- The path without the ending of class files that it may have.
def Unended (path stem : Text) : Prop := path = stem ++ classSuffix ∨ (¬ classSuffix <:+ path ∧ stem = path)

theorem unversioned_iff (path rest : Text) : Unversioned path rest ↔ (splitVersion path).2 = rest := by
  constructor
  · rintro (⟨directory, release, rfl⟩ | ⟨outside, rfl⟩)
    · rw [split_version_release directory rest release]
    · rw [split_version_outside rest outside]
  · rintro rfl
    by_cases outside : InNoRelease path
    · exact .inr ⟨outside, by rw [split_version_outside path outside]⟩
    · simp only [InNoRelease, not_forall, not_not] at outside
      obtain ⟨directory, release, rest, rfl⟩ := outside
      exact .inl ⟨directory, release, by rw [split_version_release directory rest release]⟩

theorem unended_iff (path stem : Text) :
    Unended path stem ↔ (Text.dropEnd? classSuffix path).getD path = stem := by
  cases found : Text.dropEnd? classSuffix path with
  | some front =>
      have whole := (Text.drop_end_some _ _ _).mp found
      constructor
      · rintro (same | ⟨other, _⟩)
        · exact List.append_cancel_right (whole.symm.trans same)
        · exact absurd ⟨front, whole.symm⟩ other
      · rintro rfl
        exact .inl whole
  | none =>
      have other : ¬ classSuffix <:+ path := by
        rintro ⟨front, whole⟩
        rw [(Text.drop_end_some classSuffix path front).mpr whole.symm] at found
        contradiction
      constructor
      · rintro (rfl | ⟨_, rfl⟩)
        · exact absurd ⟨stem, rfl⟩ other
        · rfl
      · rintro rfl
        exact .inr ⟨other, rfl⟩

def Excluded (patterns : List Text) (path : Text) : Prop :=
  ∃ pattern ∈ patterns, ClassPattern.isPattern pattern = true ∧
    ∃ rest stem, Unversioned path rest ∧ Unended rest stem ∧ ClassPattern.Matches pattern stem

namespace Exclusions

theorem add_pattern (exclusions : Exclusions) (pattern : Text) : exclusions.add? pattern =
    if ClassPattern.isPattern pattern then
      some ⟨exclusions.patterns ++ [(pattern, ClassPattern.expression pattern)]⟩
    else none := by
  rw [add?]
  split
  · rename_i accepted
    rw [ClassPattern.regex_text_read pattern (ClassPattern.pattern_chars pattern accepted)]
    rfl
  · rfl

theorem patterns_added (patterns : List Text) (exclusions : Exclusions) :
    (patterns.foldl (fun exclusions pattern => (exclusions.add? pattern).getD exclusions) exclusions).patterns =
      exclusions.patterns ++ (patterns.filter ClassPattern.isPattern).map fun p => (p, ClassPattern.expression p) := by
  induction patterns generalizing exclusions with
  | nil => exact (List.append_nil _).symm
  | cons pattern rest ih =>
      rw [List.foldl_cons, ih, add_pattern]
      cases accepted : ClassPattern.isPattern pattern <;> simp [accepted]

theorem patterns_of_list (patterns : List Text) : (ofPatterns patterns).patterns =
    (patterns.filter ClassPattern.isPattern).map fun p => (p, ClassPattern.expression p) :=
  (patterns_added patterns {}).trans (List.nil_append _)

theorem excludes_iff (patterns : List Text) (path : Text) :
    (ofPatterns patterns).excludes path = true ↔ Excluded patterns path := by
  simp only [excludes, patterns_of_list, List.any_map, List.any_eq_true, Function.comp_apply, List.mem_filter,
    ClassPattern.expression_matches]
  constructor
  · rintro ⟨pattern, ⟨listed, accepted⟩, matched⟩
    exact ⟨pattern, listed, accepted, _, _, (unversioned_iff _ _).mpr rfl, (unended_iff _ _).mpr rfl, matched⟩
  · rintro ⟨pattern, listed, accepted, rest, stem, release, ending, matched⟩
    rw [(unversioned_iff _ _).mp release, (unended_iff _ _).mp ending]
    exact ⟨pattern, ⟨listed, accepted⟩, matched⟩

theorem rejected_left_out (patterns : List Text) :
    ofPatterns (patterns.filter ClassPattern.isPattern) = ofPatterns patterns := by
  have same : (ofPatterns (patterns.filter ClassPattern.isPattern)).patterns = (ofPatterns patterns).patterns := by
    rw [patterns_of_list, patterns_of_list, List.filter_filter]
    simp only [Bool.and_self]
  exact congrArg mk same

theorem release_ignored (exclusions : Exclusions) (directory path : Text) (release : ReleaseDirectory directory)
    (outside : InNoRelease path) : exclusions.excludes (directory ++ path) = exclusions.excludes path := by
  rw [excludes, excludes, split_version_release directory path release, split_version_outside path outside]

theorem class_patterns_exclude :
    (∀ (exclusions : Exclusions) (pattern : Text),
      (exclusions.add? pattern).isSome = ClassPattern.isPattern pattern) ∧
    (∀ (patterns : List Text) (path : Text),
      (ofPatterns patterns).excludes path = true ↔ Excluded patterns path) ∧
    (∀ patterns : List Text, ofPatterns (patterns.filter ClassPattern.isPattern) = ofPatterns patterns) ∧
    ∀ (patterns : List Text) (directory path : Text), ReleaseDirectory directory → InNoRelease path →
      (ofPatterns patterns).excludes (directory ++ path) = (ofPatterns patterns).excludes path := by
  refine ⟨fun exclusions pattern => ?_, excludes_iff, rejected_left_out,
    fun patterns => release_ignored (ofPatterns patterns)⟩
  rw [add_pattern]
  cases ClassPattern.isPattern pattern <;> rfl

theorem versioned_class_excluded :
    ReleaseDirectory "META-INF/versions/9/".toList ∧ InNoRelease "com/acme/Tool.class".toList ∧
      ((ofPatterns ["com.acme.*".toList, "**-".toList]).excludes "META-INF/versions/9/com/acme/Tool.class".toList =
        (ofPatterns ["com.acme.*".toList, "**-".toList]).excludes "com/acme/Tool.class".toList) ∧
      Excluded ["com.acme.*".toList, "**-".toList] "com/acme/Tool.class".toList := by
  have release : ReleaseDirectory "META-INF/versions/9/".toList := ⟨['9'], by decide, by decide, by decide⟩
  have outside : InNoRelease "com/acme/Tool.class".toList := by
    rintro _ ⟨number, _, _, rfl⟩ ⟨rest, whole⟩
    have start : versionsDirectory <+: "com/acme/Tool.class".toList := by
      rw [← whole, List.append_assoc, List.append_assoc]
      exact List.prefix_append _ _
    exact absurd start (by decide)
  obtain ⟨_, excluded, _, ignored⟩ := class_patterns_exclude
  have listed : (ofPatterns ["com.acme.*".toList, "**-".toList]).excludes "com/acme/Tool.class".toList = true := by
    decide +kernel
  exact ⟨release, outside, ignored _ _ _ release outside, (excluded _ _).mp listed⟩

end Exclusions

end Shading
