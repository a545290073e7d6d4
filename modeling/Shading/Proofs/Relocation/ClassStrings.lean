import Shading.Proofs.Relocation.FirstRule

set_option autoImplicit false

namespace Shading

namespace Chain

theorem slashed_char_iff (c d : Char) (other : d ≠ '.') (different : d ≠ '/') :
    (if c = '.' then '/' else c) = d ↔ c = d := by
  by_cases dot : c = '.'
  · simp [dot, other.symm, different.symm]
  · rw [if_neg dot]

theorem slashed_span (name : Text) :
    (Text.slashed name).span (· == '[') =
      ((name.span (· == '[')).1, Text.slashed (name.span (· == '[')).2) := by
  have alike : ((· == '[') : Char → Bool) ∘ (fun c => if c = '.' then '/' else c) = (· == '[') := by
    funext c
    have same := slashed_char_iff c '[' (by decide) (by decide)
    simp only [Function.comp_apply, beq_eq_beq, same]
  have brackets : ∀ c ∈ name.takeWhile (· == '['), (if c = '.' then '/' else c) = c := by
    intro c member
    have bracket : c = '[' := by simpa using List.mem_takeWhile_imp member
    simp [bracket]
  rw [List.span_eq_takeWhile_dropWhile, List.span_eq_takeWhile_dropWhile]
  unfold Text.slashed Text.exchange
  rw [List.takeWhile_map, List.dropWhile_map, alike, List.map_congr_left brackets, List.map_id']

theorem split_wrapper_slashed (name : Text) :
    splitWrapper (Text.slashed name) =
      ((splitWrapper name).1, Text.slashed (splitWrapper name).2) := by
  unfold splitWrapper
  rw [slashed_span]
  dsimp only
  cases (name.span (· == '[')).2 with
  | nil => rfl
  | cons c rest =>
      by_cases object : c = 'L'
      · subst object
        cases rest <;> rfl
      · have other : ¬ (if c = '.' then '/' else c) = 'L' := fun same =>
          object ((slashed_char_iff c 'L' (by decide) (by decide)).mp same)
        unfold Text.slashed Text.exchange
        rw [List.map_cons]
        grind

variable {chain : Chain}

theorem map_inner_of_agreeing (inner : Text)
    (agreeing : ∀ r ∈ chain, r.appliesToPath inner = true → r.appliesToClass inner = true) :
    chain.mapInner? inner =
      (chain.find? fun r => r.appliesToClass inner).map fun r => r.moveClass inner := by
  induction chain with
  | nil => rfl
  | cons r rest ih =>
      obtain ⟨first, others⟩ := List.forall_mem_cons.mp agreeing
      have tail := ih others
      unfold mapInner? at tail ⊢
      rw [List.findSome?_cons, List.find?_cons]
      by_cases fits : r.appliesToClass inner = true
      · simp [fits]
      · have free : ¬ r.appliesToPath inner = true := fun applies => fits (first applies)
        simp only [fits, free]
        simpa using tail

-- Where the first rule that applies to a dotted name moves it, or the name itself.
def moveClassFirst (chain : Chain) (name : Text) : Text :=
  ((chain.find? fun r => r.appliesToClass name).map fun r => r.moveClass name).getD name

theorem map_string_of_agreeing (c : Text)
    (agreeing : ∀ r ∈ chain, r.appliesToPath (splitWrapper c).2 = true →
      r.appliesToClass (splitWrapper c).2 = true) :
    chain.mapString c = (splitWrapper c).1 ++ chain.moveClassFirst (splitWrapper c).2 := by
  unfold mapString moveClassFirst
  dsimp only
  rw [map_inner_of_agreeing _ agreeing]
  cases chain.find? fun r => r.appliesToClass (splitWrapper c).2 with
  | none => exact (split_wrapper_append c).symm
  | some r => rfl

theorem move_first_slashed (coherent : ∀ r ∈ chain, r.Coherent) (name : Text) (plain : '/' ∉ name) :
    chain.moveFirst (Text.slashed name) = Text.slashed (chain.moveClassFirst name) := by
  have tests : (fun r : Relocation => r.appliesToPath (Text.slashed name)) =
      fun r => r.appliesToClass name := by
    funext r
    exact (Relocation.applies_to_class_plain r name plain).symm
  unfold moveFirst moveClassFirst
  rw [tests]
  cases found : chain.find? fun r => r.appliesToClass name with
  | none => rfl
  | some r => exact (coherent r (List.mem_of_find?_eq_some found)).move_path_slashed name plain

theorem move_class_first_plain (coherent : ∀ r ∈ chain, r.Coherent) (name : Text) (plain : '/' ∉ name) :
    '/' ∉ chain.moveClassFirst name := by
  unfold moveClassFirst
  cases found : chain.find? fun r => r.appliesToClass name with
  | none => exact plain
  | some r => exact (coherent r (List.mem_of_find?_eq_some found)).move_class_plain name plain

theorem slashed_opening (name : Text) : Text.slashed (splitWrapper name).1 = (splitWrapper name).1 := by
  have whole := split_wrapper_append (Text.slashed name)
  rw [split_wrapper_slashed] at whole
  have parts := congrArg Text.slashed (split_wrapper_append name)
  rw [Text.slashed_append] at parts
  exact List.append_cancel_right (parts.trans whole.symm)

theorem inner_plain (name : Text) (plain : '/' ∉ name) : '/' ∉ (splitWrapper name).2 := fun inside =>
  plain (split_wrapper_append name ▸ List.mem_append_right _ inside)

theorem map_name_of_agreeing (c : Text) (coherent : ∀ r ∈ chain, r.Coherent) (plain : '/' ∉ c)
    (own : isPlatformName (Text.slashed c) = false)
    (agreeing : ∀ r ∈ chain, r.appliesToPath (splitWrapper c).2 = true →
      r.appliesToClass (splitWrapper c).2 = true) :
    chain.mapName? (Text.slashed c) = some (Text.slashed (chain.mapString c)) := by
  rw [map_name_own chain _ own, split_wrapper_slashed, move_first_slashed coherent _ (inner_plain c plain),
    map_string_of_agreeing c agreeing, Text.slashed_append, slashed_opening]

theorem map_string_plain (c : Text) (coherent : ∀ r ∈ chain, r.Coherent) (plain : '/' ∉ c)
    (agreeing : ∀ r ∈ chain, r.appliesToPath (splitWrapper c).2 = true →
      r.appliesToClass (splitWrapper c).2 = true) : '/' ∉ chain.mapString c := by
  rw [map_string_of_agreeing c agreeing]
  intro member
  cases List.mem_append.mp member with
  | inl inside => exact plain (split_wrapper_append c ▸ List.mem_append_left _ inside)
  | inr inside => exact move_class_first_plain coherent _ (inner_plain c plain) inside

theorem strings_follow_classes (chain : Chain) (coherent : ∀ r ∈ chain, r.Coherent)
    (broad : ∀ r ∈ chain, r.Unfiltered ∨ '/' ∈ r.pathPattern) (c : Text) (plain : '/' ∉ c)
    (own : isPlatformName (Text.slashed c) = false) :
    (chain.mapName? (Text.slashed c)).map Text.dotted = some (chain.mapString c) ∧
      (chain.mapName? (Text.slashed c) = some (Text.slashed c) → chain.mapString c = c) := by
  have plainInner : '/' ∉ (splitWrapper c).2 := fun member =>
    plain (split_wrapper_append c ▸ List.mem_append_right _ member)
  have agreeing : ∀ r ∈ chain, r.appliesToPath (splitWrapper c).2 = true →
      r.appliesToClass (splitWrapper c).2 = true := fun r member =>
    (coherent r member).applies_to_class_of_path (broad r member) _ plainInner
  have follows : (chain.mapName? (Text.slashed c)).map Text.dotted = some (chain.mapString c) := by
    rw [map_name_of_agreeing c coherent plain own agreeing, Option.map_some,
      Text.dotted_slashed _ (map_string_plain c coherent plain agreeing)]
  refine ⟨follows, fun stays => ?_⟩
  rw [stays, Option.map_some, Text.dotted_slashed c plain] at follows
  exact (Option.some.inj follows).symm

theorem filtered_string_follows : ∃ r, Relocation.withFilters "org.antlr.v4".toList
      (some "com.acme".toList) [] ["org.antlr.v4.misc.**".toList] = .ok r ∧
    (mapName? [r] (Text.slashed "org.antlr.v4.Tool".toList)).map Text.dotted =
      some (mapString [r] "org.antlr.v4.Tool".toList) ∧
    mapString [r] "org.antlr.v4.Tool".toList = "com.acme.Tool".toList := by
  refine ⟨_, rfl, ?_, by decide +kernel⟩
  refine (strings_follow_classes _ ?_ ?_ _ (by decide) (by decide +kernel)).1
  · exact List.forall_mem_singleton.mpr (Relocation.with_filters_coherent "org.antlr.v4".toList
      (some "com.acme".toList) [] ["org.antlr.v4.misc.**".toList] _ rfl)
  · exact List.forall_mem_singleton.mpr (.inr (by decide +kernel))

-- The rule leaves the class alone, and yet it moves its name.
theorem carved_out_string_moves : ∃ r, Relocation.withFilters "org".toList (some "com".toList) []
      ["org.antlr.**".toList] = .ok r ∧
    mapName? [r] "org/antlr/Tool".toList = some "org/antlr/Tool".toList ∧
    mapString [r] "org.antlr.Tool".toList = "com.antlr.Tool".toList := by
  refine ⟨_, rfl, ?_, ?_⟩
  · decide +kernel
  · decide +kernel

end Chain

end Shading
