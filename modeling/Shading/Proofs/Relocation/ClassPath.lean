import Mathlib.Data.List.Induction
import Shading.Assembly
import Shading.Proofs.Text

set_option autoImplicit false

namespace Shading

-- `META-INF/versions/<digits>/`
def ReleaseDirectory (directory : Text) : Prop :=
  ∃ number : Text, number ≠ [] ∧ number.all Char.isDigit = true ∧
    directory = versionsDirectory ++ number ++ ['/']

theorem slash_not_mem_digits (number : Text) (digits : number.all Char.isDigit = true) :
    '/' ∉ number := by
  intro member
  have digit := List.all_eq_true.mp digits '/' member
  contradiction

theorem split_version_release (directory rest : Text) (release : ReleaseDirectory directory) :
    splitVersion (directory ++ rest) = (directory, rest) := by
  obtain ⟨number, filled, digits, rfl⟩ := release
  have start : Text.dropStart? versionsDirectory (versionsDirectory ++ number ++ ['/'] ++ rest) =
      some (number ++ '/' :: rest) := by
    rw [Text.drop_start_some]
    simp
  have cut : Text.cutAt? '/' (number ++ '/' :: rest) = some (number, rest) :=
    (Text.cut_at_some _ _ _ _).mpr ⟨rfl, slash_not_mem_digits number digits⟩
  unfold splitVersion
  rw [start, Option.bind_some, cut]
  exact if_pos (by simp [filled, digits])

theorem split_version_outside (path : Text)
    (outside : ∀ directory, ReleaseDirectory directory → ¬ directory <+: path) :
    splitVersion path = ([], path) := by
  unfold splitVersion
  split
  · rename_i number rest found
    obtain ⟨tail, start, cut⟩ := Option.bind_eq_some_iff.mp found
    have whole := (Text.drop_start_some _ _ _).mp start
    obtain ⟨split, _⟩ := (Text.cut_at_some _ _ _ _).mp cut
    refine if_neg fun numbered => ?_
    obtain ⟨filled, digits⟩ := Bool.and_eq_true_iff.mp numbered
    refine outside _ ⟨number, of_decide_eq_true filled, digits, rfl⟩ ⟨rest, ?_⟩
    simp [whole, split]
  · rfl

-- The ending of class files has no slash, so no release directory reaches into it.
theorem class_entry_outside (n : Text) (outside : ∀ directory, ReleaseDirectory directory → ¬ directory <+: n)
    (directory : Text) (release : ReleaseDirectory directory) : ¬ directory <+: n ++ classSuffix := by
  rintro ⟨rest, same⟩
  rcases List.append_eq_append_iff.mp same with ⟨inside, name, _⟩ | ⟨reached, whole, ending⟩
  · exact outside directory release ⟨inside, name.symm⟩
  · obtain ⟨number, _, _, form⟩ := id release
    cases reached using List.reverseRecOn with
    | nil => exact outside directory release ⟨[], by simp [whole]⟩
    | append_singleton front last _ =>
        have slash : last = '/' := by
          have ends := whole.symm.trans form
          rw [← List.append_assoc] at ends
          exact (List.append_inj' ends rfl).2 |> List.singleton_inj.mp
        have member : '/' ∈ classSuffix := by simp [ending, slash]
        contradiction

-- The internal name of a class, which does not lie in a release directory itself.
structure ClassName (n : Text) : Prop where
  filled : n ≠ []
  plain : ∀ c ∈ n, c ∉ ['.', ';', '[', '<']
  outside : ∀ directory, ReleaseDirectory directory → ¬ directory <+: n

theorem ClassName.not_array {n : Text} (named : ClassName n) : Text.startsWith ['['] n = false := by
  cases n with
  | nil => rfl
  | cons c rest =>
      have other : c ≠ '[' := fun same => named.plain c (List.mem_cons_self ..) (by simp [same])
      simp [Text.startsWith, List.isPrefixOf, other.symm]

theorem stem_class_entry (n : Text) (plain : '.' ∉ n) : Chain.stem (n ++ classSuffix) = n := by
  unfold Chain.stem
  rw [List.takeWhile_append_of_pos (Text.differs_of_not_mem '.' n plain)]
  exact List.append_nil n

theorem map_class_path_of_split (chain : Chain) (directory path n : Text) (plain : '.' ∉ n)
    (split : splitVersion path = (directory, n ++ classSuffix)) :
    chain.mapClassPath path = directory ++ chain.mapPath n ++ classSuffix := by
  unfold Chain.mapClassPath
  rw [split]
  dsimp only
  rw [Chain.mapStem?, stem_class_entry n plain]
  rfl

theorem ClassName.map_class_path {n : Text} (named : ClassName n) (chain : Chain) (directory : Text)
    (release : directory = [] ∨ ReleaseDirectory directory) :
    chain.mapClassPath (directory ++ n ++ classSuffix) =
      directory ++ chain.mapPath n ++ classSuffix := by
  have plain : '.' ∉ n := fun member => named.plain '.' member (by simp)
  apply map_class_path_of_split chain directory _ n plain
  rcases release with rfl | release
  · exact split_version_outside _ (class_entry_outside n named.outside)
  · rw [List.append_assoc]
    exact split_version_release directory _ release

end Shading
