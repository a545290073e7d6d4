import Mathlib.Data.List.Find
import Shading.Proofs.Relocation.Rule

set_option autoImplicit false

namespace Shading.Chain

def FirstMoves (chain : Chain) (path moved : Text) : Prop :=
  (∃ (before : Chain) (r : Relocation) (after : Chain), chain = before ++ r :: after ∧
      (∀ q ∈ before, q.appliesToPath path = false) ∧ r.appliesToPath path = true ∧ moved = r.movePath path) ∨
    (∀ r ∈ chain, r.appliesToPath path = false) ∧ moved = path

def LooksWrapped (opening inner name : Text) : Prop :=
  name = opening ++ inner ∧ inner ≠ [] ∧ ∃ brackets, (∀ c ∈ brackets, c = '[') ∧ opening = brackets ++ ['L']

theorem split_of_wrapped (opening inner name : Text) (wrapped : LooksWrapped opening inner name) :
    splitWrapper name = (opening, inner) := by
  obtain ⟨rfl, filled, brackets, all, rfl⟩ := wrapped
  obtain ⟨c, rest, rfl⟩ := List.exists_cons_of_ne_nil filled
  rw [List.append_assoc]
  exact split_wrapper_object brackets (fun d member => beq_iff_eq.mpr (all d member)) c rest

theorem split_of_bare (name : Text) (bare : ∀ opening inner, ¬ LooksWrapped opening inner name) :
    splitWrapper name = ([], name) := by
  rcases split_wrapper_form name with ⟨brackets, c, rest, all, form, _⟩ | split
  · refine absurd ⟨?_, List.cons_ne_nil c rest, brackets, ?_, rfl⟩ (bare (brackets ++ ['L']) (c :: rest))
    · rw [form, List.append_assoc]
      rfl
    · exact fun d member => beq_iff_eq.mp (all d member)
  · exact split

def moveFirst (chain : Chain) (path : Text) : Text :=
  ((chain.find? fun r => r.appliesToPath path).map fun r => r.movePath path).getD path

variable {chain : Chain} {path : Text}

theorem find_none (idle : ∀ r ∈ chain, r.appliesToPath path = false) :
    chain.find? (fun r => r.appliesToPath path) = none :=
  List.find?_eq_none.mpr fun r listed => by simp [idle r listed]

theorem first_moves_iff (chain : Chain) (path moved : Text) :
    chain.FirstMoves path moved ↔ moved = chain.moveFirst path := by
  unfold moveFirst
  constructor
  · rintro (⟨before, r, after, whole, idle, applies, rfl⟩ | ⟨idle, rfl⟩)
    · have found : chain.find? (fun r => r.appliesToPath path) = some r :=
        List.find?_eq_some_iff_append.mpr ⟨applies, before, after, whole, fun q member => by simp [idle q member]⟩
      rw [found]
      rfl
    · rw [find_none idle]
      rfl
  · rintro rfl
    cases found : chain.find? fun r => r.appliesToPath path with
    | none =>
        refine .inr ⟨fun r listed => ?_, rfl⟩
        simpa using List.find?_eq_none.mp found r listed
    | some r =>
        obtain ⟨applies, before, after, whole, idle⟩ := List.find?_eq_some_iff_append.mp found
        refine .inl ⟨before, r, after, whole, fun q member => ?_, applies, rfl⟩
        simpa using idle q member

theorem move_first_cases (chain : Chain) (path : Text) :
    (∃ r ∈ chain, r.appliesToPath path = true ∧ chain.moveFirst path = r.movePath path) ∨
      (∀ r ∈ chain, r.appliesToPath path = false) ∧ chain.moveFirst path = path := by
  rcases (first_moves_iff chain path _).mpr rfl with ⟨before, r, after, whole, _, applies, moved⟩ | idle
  · exact .inl ⟨r, whole ▸ List.mem_append_right before List.mem_cons_self, applies, moved⟩
  · exact .inr idle

theorem move_first_idle (idle : ∀ r ∈ chain, r.appliesToPath path = false) : chain.moveFirst path = path :=
  ((first_moves_iff chain path path).mp (.inr ⟨idle, rfl⟩)).symm

theorem move_first_cons (r : Relocation) (chain : Chain) (path : Text) :
    moveFirst (r :: chain) path = if r.appliesToPath path then r.movePath path else chain.moveFirst path := by
  unfold moveFirst
  rw [List.find?_cons]
  cases r.appliesToPath path <;> rfl

theorem map_name_platform (chain : Chain) (name : Text) (platform : isPlatformName name = true) :
    chain.mapName? name = none := by
  unfold mapName?
  rw [if_pos platform]

theorem map_name_own (chain : Chain) (name : Text) (own : isPlatformName name = false) :
    chain.mapName? name = some ((splitWrapper name).1 ++ chain.moveFirst (splitWrapper name).2) := by
  have whole := split_wrapper_append name
  unfold mapName? moveFirst
  rw [own]
  dsimp only
  cases chain.find? fun r => r.appliesToPath (splitWrapper name).2 with
  | none => exact congrArg some whole.symm
  | some r => rfl

theorem map_path_platform (chain : Chain) (path : Text) (platform : isPlatformName path = true) :
    chain.mapPath path = path := by
  rw [mapPath, map_name_platform chain path platform, Option.getD_none]

theorem map_path_own (chain : Chain) (path : Text) (own : isPlatformName path = false) :
    chain.mapPath path = (splitWrapper path).1 ++ chain.moveFirst (splitWrapper path).2 := by
  rw [mapPath, map_name_own chain path own, Option.getD_some]

theorem first_rule_wins (chain : Chain) (name : Text) (own : isPlatformName name = false) :
    ∃ moved, chain.mapName? name = some moved ∧
      ((∀ opening inner, ¬ LooksWrapped opening inner name) → chain.FirstMoves name moved) ∧
      ∀ opening inner, LooksWrapped opening inner name →
        (∃ behind, chain.FirstMoves inner behind ∧ moved = opening ++ behind) ∧
          ((∀ r ∈ chain, r.appliesToPath name = false ∧ r.appliesToPath inner = false) →
            chain.FirstMoves name moved) := by
  refine ⟨_, map_name_own chain name own, fun bare => ?_, fun opening inner wrapped => ?_⟩
  · rw [split_of_bare name bare]
    exact (first_moves_iff chain name _).mpr rfl
  · rw [split_of_wrapped opening inner name wrapped]
    refine ⟨⟨_, (first_moves_iff chain inner _).mpr rfl, rfl⟩, fun idle => ?_⟩
    rw [move_first_idle fun r listed => (idle r listed).2, ← wrapped.1]
    exact .inr ⟨fun r listed => (idle r listed).1, rfl⟩

theorem second_rule_not_asked :
    isPlatformName "org/antlr/v4/Tool".toList = false ∧
      FirstMoves [Relocation.unfiltered "org.antlr".toList (some "com.acme".toList),
        Relocation.unfiltered "org.antlr.v4".toList none] "org/antlr/v4/Tool".toList "com/acme/v4/Tool".toList := by
  have own : isPlatformName "org/antlr/v4/Tool".toList = false := by decide
  have split : splitWrapper "org/antlr/v4/Tool".toList = ([], "org/antlr/v4/Tool".toList) := by decide
  obtain ⟨moved, mapped, moves, _⟩ := first_rule_wins [Relocation.unfiltered "org.antlr".toList (some "com.acme".toList),
    Relocation.unfiltered "org.antlr.v4".toList none] _ own
  have value : "com/acme/v4/Tool".toList = moved := Option.some.inj (Eq.trans (by decide) mapped)
  rw [value]
  refine ⟨own, moves fun opening inner wrapped => ?_⟩
  have empty := split.symm.trans (split_of_wrapped opening inner _ wrapped)
  obtain ⟨_, _, brackets, _, rfl⟩ := wrapped
  simp at empty

-- The rule applies to the name, but it is asked about `ib/Tool`.
theorem bare_name_taken_for_wrapped :
    isPlatformName "Lib/Tool".toList = false ∧
      FirstMoves [Relocation.unfiltered "Lib".toList (some "com".toList)] "Lib/Tool".toList "com/Tool".toList ∧
      mapName? [Relocation.unfiltered "Lib".toList (some "com".toList)] "Lib/Tool".toList =
        some "Lib/Tool".toList ∧
      ¬ FirstMoves [Relocation.unfiltered "Lib".toList (some "com".toList)] "Lib/Tool".toList "Lib/Tool".toList := by
  rw [first_moves_iff, first_moves_iff]
  decide

end Shading.Chain
