import Mathlib.Data.List.Find
import Shading.Proofs.Relocation.Eligibility
import Shading.Proofs.Relocation.FirstRule
import Shading.Signature

set_option autoImplicit false

namespace Shading

open SignaturePiece

namespace Text

-- What comes behind the mark of a nested class does not count for a text without that mark.
theorem prefix_nested (start outer name : Text) (plain : '$' ∉ start) :
    start <+: binaryName outer name ↔ start <+: outer := by
  refine prefix_before start outer ('$' :: name) fun c first => ?_
  cases first
  exact plain

end Text

namespace Relocation

variable {r : Relocation}

theorem relative_stem_nested (outer name : Text) (plain : '.' ∉ binaryName outer name) :
    relativeStem (binaryName outer name) = binaryName (relativeStem outer) name :=
  relative_stem_append outer ('$' :: name) plain (by simp)

theorem Unfiltered.applies_nested (free : r.Unfiltered) (unmarked : '$' ∉ r.pathPattern)
    (outer name : Text) (plain : '.' ∉ outer) (plain' : '.' ∉ name) :
    r.appliesToPath (binaryName outer name) = r.appliesToPath outer := by
  have both : '.' ∉ binaryName outer name := by simp [binaryName, plain, plain']
  rw [Bool.eq_iff_iff, free.applies_iff _ both, free.applies_iff _ plain,
    relative_stem_nested outer name both, Text.prefix_nested _ _ name unmarked]

theorem move_nested (r : Relocation) (outer name : Text) (applies : r.appliesToPath outer = true) :
    r.movePath (binaryName outer name) = binaryName (r.movePath outer) name :=
  Text.replace_first_append _ _ outer ('$' :: name) (r.pattern_within outer applies)

end Relocation

namespace Chain

theorem platform_nested (outer name : Text) :
    isPlatformName (binaryName outer name) = isPlatformName outer := by
  have plain : ∀ start ∈ platformPrefixes, '$' ∉ start := by decide
  unfold isPlatformName
  rw [Bool.eq_iff_iff, List.any_eq_true, List.any_eq_true]
  refine exists_congr fun start => and_congr_right fun listed => ?_
  show List.isPrefixOf start _ = true ↔ List.isPrefixOf start _ = true
  rw [List.isPrefixOf_iff_prefix, List.isPrefixOf_iff_prefix, Text.prefix_nested start outer name (plain start listed)]

theorem move_first_nested (chain : Chain) (free : ∀ r ∈ chain, r.Unfiltered ∧ '$' ∉ r.pathPattern)
    (outer name : Text) (plain : '.' ∉ outer) (plain' : '.' ∉ name) :
    chain.moveFirst (binaryName outer name) = binaryName (chain.moveFirst outer) name := by
  have found : chain.find? (fun r => r.appliesToPath (binaryName outer name)) =
      chain.find? fun r => r.appliesToPath outer := by
    refine List.find?_congr fun r listed => ?_
    obtain ⟨unfiltered, unmarked⟩ := free r listed
    rw [unfiltered.applies_nested unmarked outer name plain plain']
  unfold moveFirst
  rw [found]
  cases first : chain.find? fun r => r.appliesToPath outer with
  | none => rfl
  | some r => exact r.move_nested outer name (by simpa using List.find?_some first)

theorem map_path_nested (chain : Chain) (free : ∀ r ∈ chain, r.Unfiltered ∧ '$' ∉ r.pathPattern)
    (outer name : Text) (plain : '.' ∉ outer) (plain' : '.' ∉ name)
    (split : splitWrapper (binaryName outer name) =
      ((splitWrapper outer).1, binaryName (splitWrapper outer).2 name)) :
    chain.mapPath (binaryName outer name) = binaryName (chain.mapPath outer) name := by
  have inner : '.' ∉ (splitWrapper outer).2 := by
    intro dot
    rw [← split_wrapper_append outer] at plain
    exact plain (List.mem_append_right _ dot)
  have same := platform_nested outer name
  cases own : isPlatformName outer with
  | true => rw [map_path_platform chain _ (same.trans own), map_path_platform chain _ own]
  | false =>
      rw [map_path_own chain _ (same.trans own), map_path_own chain _ own, split,
        chain.move_first_nested free _ name inner plain']
      exact (List.append_assoc _ _ _).symm

end Chain

end Shading
