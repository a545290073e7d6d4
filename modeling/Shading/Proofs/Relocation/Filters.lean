import Shading.Proofs.PathPattern.Agreement
import Shading.Proofs.Relocation.Eligibility

set_option autoImplicit false

namespace Shading

open Fallible

namespace PathPattern

theorem parse_source (source : Text) (p : PathPattern) (read : parse source = .ok p) : p.source = source := by
  unfold parse parseWith at read
  split at read <;> split at read <;> cases read <;> rfl

theorem text_matches_iff (source path : Text) :
    textMatches source path = true ↔ ∃ p, parse source = .ok p ∧ p.isMatch path = true := by
  unfold textMatches textMatchesWith parse
  cases parseWith .standard source <;> simp

-- A glob for paths without a slash at the front.
def Relative (p : PathPattern) : Prop := ∃ g, p.matcher = .glob g ∧ g.rooted = false

theorem Relative.misses_slash {p : PathPattern} (relative : p.Relative) (path : Text) :
    p.isMatch ('/' :: path) = false := by
  obtain ⟨g, glob, rooted⟩ := relative
  unfold isMatch
  rw [glob]
  show (g.rooted == true && _) = false
  rw [rooted]
  rfl

end PathPattern

namespace Relocation

inductive StandsFor (filter : Text) : Text → Prop where
  | expression (regex : regexOpening <+: filter) : StandsFor filter filter
  | path (plain : ¬ regexOpening <+: filter) : StandsFor filter (Text.slashed filter)
  | directory (directory : Text) (plain : ¬ regexOpening <+: filter)
      (below : Text.slashed filter = directory ++ ['/', '*']) : StandsFor filter directory

theorem mem_filter_sources (filter source : Text) : source ∈ filterSources filter ↔ StandsFor filter source := by
  have opening : Text.startsWith regexOpening filter = true ↔ regexOpening <+: filter :=
    List.isPrefixOf_iff_prefix
  unfold filterSources
  by_cases regex : regexOpening <+: filter
  · rw [if_pos (opening.mpr regex), List.mem_singleton]
    constructor
    · rintro rfl
      exact .expression regex
    · intro stands
      cases stands with
      | expression => rfl
      | path plain => exact absurd regex plain
      | directory _ plain => exact absurd regex plain
  · rw [if_neg (mt opening.mp regex)]
    dsimp only
    cases cut : Text.dropEnd? ['/', '*'] (Text.slashed filter) with
    | some directory =>
        have below := (Text.drop_end_some _ _ _).mp cut
        dsimp only
        rw [List.mem_pair]
        constructor
        · rintro (rfl | rfl)
          · exact .path regex
          · exact .directory _ regex below
        · intro stands
          cases stands with
          | expression plain => exact absurd plain regex
          | path => exact .inl rfl
          | directory _ _ below' => exact .inr (List.append_cancel_right (below'.symm.trans below))
    | none =>
        dsimp only
        rw [List.mem_singleton]
        constructor
        · rintro rfl
          exact .path regex
        · intro stands
          cases stands with
          | expression plain => exact absurd plain regex
          | path => rfl
          | directory _ _ below =>
              rw [(Text.drop_end_some _ _ _).mpr below] at cut
              contradiction

-- Some pattern that one of the filters stands for matches the path.
def AnyMatches (filters : List Text) (path : Text) : Prop :=
  ∃ filter ∈ filters, ∃ source, StandsFor filter source ∧ PathPattern.textMatches source path = true

def allPatterns (filters : List Text) : Except IllFormedPattern (List PathPattern) :=
  (patternSources filters).mapM PathPattern.parse

variable {filters includes excludes : List Text} {patterns all : List PathPattern}

theorem any_matches_iff (read : allPatterns filters = .ok all) (path : Text) :
    all.any (fun p => p.isMatch path) = true ↔ AnyMatches filters path := by
  have listed := map_m_mem PathPattern.parse (patternSources filters) all read
  simp only [List.any_eq_true, listed, patternSources, List.mem_flatMap, mem_filter_sources, AnyMatches,
    PathPattern.text_matches_iff]
  constructor
  · rintro ⟨p, ⟨source, ⟨filter, member, stands⟩, parsed⟩, hit⟩
    exact ⟨filter, member, source, stands, p, parsed, hit⟩
  · rintro ⟨filter, member, source, stands, p, parsed, hit⟩
    exact ⟨p, ⟨source, ⟨filter, member, stands⟩, parsed⟩, hit⟩

theorem no_patterns_iff (read : allPatterns filters = .ok all) : all = [] ↔ filters = [] := by
  have filled (filter : Text) : filterSources filter ≠ [] := by
    unfold filterSources
    split
    · exact List.cons_ne_nil _ _
    · dsimp only
      split <;> exact List.cons_ne_nil _ _
  have count := (map_m_ok _ _ _ read).length_eq
  rw [← List.length_eq_zero_iff, ← count, List.length_eq_zero_iff, patternSources, List.flatMap_eq_nil_iff]
  constructor
  · intro none
    exact List.eq_nil_iff_forall_not_mem.mpr fun filter member => filled filter (none filter member)
  · rintro rfl filter member
    cases member

def keepOnce (patterns : List PathPattern) (p : PathPattern) : List PathPattern :=
  if patterns.any fun q => q.source == p.source then patterns else patterns ++ [p]

def AsRead (patterns : List PathPattern) : Prop := ∀ p ∈ patterns, PathPattern.parse p.source = .ok p

theorem add_pattern_keeps (read : AsRead patterns) (source : Text) :
    addPattern patterns source = (PathPattern.parse source).map (keepOnce patterns) := by
  unfold addPattern
  by_cases listed : (patterns.any fun q => q.source == source) = true
  · obtain ⟨q, member, same⟩ := List.any_eq_true.mp listed
    have parsed := read q member
    rw [beq_iff_eq.mp same] at parsed
    rw [if_pos listed, parsed]
    show _ = Except.ok (keepOnce patterns q)
    rw [keepOnce, beq_iff_eq.mp same, if_pos listed]
  · rw [if_neg listed]
    cases parsed : PathPattern.parse source with
    | error e => rfl
    | ok p =>
        show Except.ok (patterns ++ [p]) = Except.ok (keepOnce patterns p)
        rw [keepOnce, PathPattern.parse_source source p parsed, if_neg listed]

theorem mem_keep_once (read : AsRead patterns) (p : PathPattern) (parsed : PathPattern.parse p.source = .ok p)
    (q : PathPattern) : q ∈ keepOnce patterns p ↔ q ∈ patterns ∨ q = p := by
  unfold keepOnce
  split
  · rename_i listed
    obtain ⟨other, member, same⟩ := List.any_eq_true.mp listed
    have parsed' := read other member
    rw [beq_iff_eq.mp same, parsed] at parsed'
    cases parsed'
    refine ⟨.inl, ?_⟩
    rintro (kept | rfl)
    · exact kept
    · exact member
  · rw [List.mem_append, List.mem_singleton]

theorem AsRead.keep_once (read : AsRead patterns) (p : PathPattern) (parsed : PathPattern.parse p.source = .ok p) :
    AsRead (keepOnce patterns p) := by
  intro q member
  rcases (mem_keep_once read p parsed q).mp member with old | rfl
  · exact read q old
  · exact parsed

theorem mem_all_kept (read : AsRead patterns) (later : AsRead all) (q : PathPattern) :
    q ∈ all.foldl keepOnce patterns ↔ q ∈ patterns ∨ q ∈ all := by
  induction all generalizing patterns with
  | nil => simp
  | cons p rest ih =>
      obtain ⟨parsed, others⟩ := List.forall_mem_cons.mp later
      rw [List.foldl_cons, ih (read.keep_once p parsed) others, mem_keep_once read p parsed, List.mem_cons, or_assoc]

theorem add_patterns_keep (sources : List Text) (read : AsRead patterns) :
    sources.foldlM addPattern patterns =
      (sources.mapM PathPattern.parse).map fun all => all.foldl keepOnce patterns := by
  induction sources generalizing patterns with
  | nil => rfl
  | cons source rest ih =>
      rw [List.foldlM_cons, List.mapM_cons, add_pattern_keeps read]
      cases parsed : PathPattern.parse source with
      | error e => rfl
      | ok p =>
          have own : PathPattern.parse p.source = .ok p := by
            rw [PathPattern.parse_source source p parsed, parsed]
          refine (ih (read.keep_once p own)).trans ?_
          show _ = Except.map _ (rest.mapM PathPattern.parse >>= fun later => pure (p :: later))
          cases rest.mapM PathPattern.parse <;> rfl

theorem kept_same (read : allPatterns filters = .ok all) (q : PathPattern) :
    q ∈ all.foldl keepOnce [] ↔ q ∈ all := by
  have asRead : AsRead all := by
    intro p member
    obtain ⟨source, _, parsed⟩ := (map_m_mem _ _ _ read p).mp member
    rw [PathPattern.parse_source source p parsed, parsed]
  rw [mem_all_kept (fun _ none => absurd none List.not_mem_nil) asRead]
  exact or_iff_right List.not_mem_nil

-- The rule with every pattern that its filters stand for, one that comes again included.
def withAllPatterns (pattern : Text) (target? : Option Text) (includes excludes : List Text) :
    Except IllFormedPattern Relocation := do
  let included ← allPatterns includes
  let excluded ← allPatterns excludes
  return { unfiltered pattern target? with includes := included, excludes := excluded }

theorem any_same (some others : List PathPattern) (same : ∀ p, p ∈ some ↔ p ∈ others)
    (test : PathPattern → Bool) : some.any test = others.any test := by
  rw [Bool.eq_iff_iff, List.any_eq_true, List.any_eq_true]
  simp only [same]

theorem admits_same (r s : Relocation) (included : ∀ p, p ∈ r.includes ↔ p ∈ s.includes)
    (excluded : ∀ p, p ∈ r.excludes ↔ p ∈ s.excludes) (path : Text) : r.admits path = s.admits path := by
  have none : r.includes.isEmpty = s.includes.isEmpty := by
    rw [Bool.eq_iff_iff, List.isEmpty_iff, List.isEmpty_iff, List.eq_nil_iff_forall_not_mem,
      List.eq_nil_iff_forall_not_mem]
    simp only [included]
  unfold admits
  rw [none, any_same _ _ included, any_same _ _ excluded]

theorem admits_iff (r : Relocation) (included : allPatterns includes = .ok r.includes)
    (excluded : allPatterns excludes = .ok r.excludes) (path : Text) :
    r.admits path = true ↔ (includes = [] ∨ AnyMatches includes path) ∧ ¬ AnyMatches excludes path := by
  unfold admits
  rw [Bool.and_eq_true, Bool.or_eq_true, List.isEmpty_iff, no_patterns_iff included, any_matches_iff included,
    Bool.not_eq_true', ← Bool.not_eq_true, any_matches_iff excluded]

def once (r : Relocation) : Relocation :=
  { r with includes := r.includes.foldl keepOnce [], excludes := r.excludes.foldl keepOnce [] }

theorem with_filters_once (pattern : Text) (target? : Option Text) (includes excludes : List Text) :
    withFilters pattern target? includes excludes =
      (withAllPatterns pattern target? includes excludes).map once := by
  have nothing : AsRead [] := fun _ none => absurd none List.not_mem_nil
  rw [with_filters_steps, add_patterns_keep _ nothing, add_patterns_keep _ nothing]
  unfold withAllPatterns allPatterns
  cases (patternSources includes).mapM PathPattern.parse with
  | error e => rfl
  | ok included => cases (patternSources excludes).mapM PathPattern.parse <;> rfl

theorem with_all_patterns_ok (pattern : Text) (target? : Option Text) (includes excludes : List Text)
    (s : Relocation) (made : withAllPatterns pattern target? includes excludes = .ok s) :
    allPatterns includes = .ok s.includes ∧ allPatterns excludes = .ok s.excludes ∧
      s.pathPattern = Text.slashed pattern := by
  obtain ⟨included, first, later⟩ := bind_ok.mp made
  obtain ⟨excluded, second, last⟩ := bind_ok.mp later
  cases last
  exact ⟨first, second, rfl⟩

theorem once_applies (s : Relocation) (filled : s.pathPattern ≠ []) (included : allPatterns includes = .ok s.includes)
    (excluded : allPatterns excludes = .ok s.excludes) (path : Text) : s.once.appliesToPath path = s.fits path := by
  have admitted : s.once.admits (stem path) = s.admits (stem path) :=
    admits_same s.once s (kept_same included) (kept_same excluded) _
  rw [applies_of_filled (show s.once.pathPattern ≠ [] from filled), fits, fits, admitted]
  rfl

theorem eligible_paths (pattern : Text) (target? : Option Text) (includes excludes : List Text)
    (named : ∃ c tail, pattern = c :: tail ∧ c ≠ '.' ∧ c ≠ '/') (path : Text) :
    ((withFilters pattern target? includes excludes).map fun r => r.appliesToPath path) =
        ((withAllPatterns pattern target? includes excludes).map fun r => r.fits path) ∧
      ∀ r, withFilters pattern target? includes excludes = .ok r →
        (r.appliesToPath path = true ↔ r.pathPattern <+: relativeStem path ∧
          (includes = [] ∨ AnyMatches includes (stem path)) ∧ ¬ AnyMatches excludes (stem path)) ∧
        (r.appliesToPath path = true → ∃ lead rest, (lead = [] ∨ lead = ['/']) ∧
          path = lead ++ r.pathPattern ++ rest ∧ r.movePath path = lead ++ r.pathTarget ++ rest) := by
  have opening : ∃ c tail, Text.slashed pattern = c :: tail ∧ c ≠ '/' := by
    obtain ⟨c, tail, rfl, dot, slash⟩ := named
    exact ⟨c, Text.slashed tail, congrArg (· :: Text.slashed tail) (if_neg dot), slash⟩
  have filled : Text.slashed pattern ≠ [] := by
    obtain ⟨c, tail, same, _⟩ := opening
    rw [same]
    exact List.cons_ne_nil c tail
  rw [with_filters_once]
  constructor
  · cases made : withAllPatterns pattern target? includes excludes with
    | error e => rfl
    | ok s =>
        obtain ⟨included, excluded, form⟩ := with_all_patterns_ok pattern target? includes excludes s made
        exact congrArg Except.ok (once_applies s (form ▸ filled) included excluded path)
  · intro r built
    obtain ⟨s, made, rfl⟩ := map_ok.mp built
    obtain ⟨included, excluded, form⟩ := with_all_patterns_ok pattern target? includes excludes s made
    constructor
    · rw [once_applies s (form ▸ filled) included excluded, fits_iff, admits_iff s included excluded]
      rfl
    · intro applies
      obtain ⟨lead, rest, short, rfl⟩ := s.once.opens_of_applies path applies
      have named : ∃ c tail, s.once.pathPattern = c :: tail ∧ c ≠ '/' := form ▸ opening
      exact ⟨lead, rest, short, rfl, Text.replace_first_opens _ _ lead rest named short⟩

-- The pattern comes twice behind the slash, and only its first place counts.
theorem recurring_pattern_moves_once :
    ∃ r, withFilters "org.antlr.v4".toList (some "com.acme".toList) ["/org.antlr.**".toList, "/org.antlr.**".toList]
        ["%regex[.*/Test]".toList, "org.antlr.v4.*".toList] = .ok r ∧
      AnyMatches ["/org.antlr.**".toList, "/org.antlr.**".toList]
        (stem "/org/antlr/v4/org/antlr/v4/X.class".toList) ∧
      ∃ lead rest, "/org/antlr/v4/org/antlr/v4/X.class".toList = lead ++ r.pathPattern ++ rest ∧
        r.movePath "/org/antlr/v4/org/antlr/v4/X.class".toList = lead ++ r.pathTarget ++ rest := by
  have named : ∃ c tail, "org.antlr.v4".toList = c :: tail ∧ c ≠ '.' ∧ c ≠ '/' :=
    ⟨_, _, rfl, by decide, by decide⟩
  have found : (withFilters "org.antlr.v4".toList (some "com.acme".toList)
      ["/org.antlr.**".toList, "/org.antlr.**".toList] ["%regex[.*/Test]".toList, "org.antlr.v4.*".toList]).map
        (fun r => r.appliesToPath "/org/antlr/v4/org/antlr/v4/X.class".toList) = .ok true := by
    decide +kernel
  obtain ⟨r, built, applies⟩ := map_ok.mp found
  obtain ⟨test, moves⟩ := (eligible_paths _ _ _ _ named _).2 r built
  obtain ⟨_, included, _⟩ := test.mp applies
  obtain ⟨lead, rest, _, whole, moved⟩ := moves applies
  exact ⟨r, built, included.resolve_left (List.cons_ne_nil _ _), lead, rest, whole, moved⟩

variable {r : Relocation}

theorem applies_behind_slash (filled : r.pathPattern ≠ []) (path : Text) :
    r.appliesToPath ('/' :: path) = true ↔
      r.pathPattern <+: stem path ∧ r.admits ('/' :: stem path) = true := by
  rw [applies_of_filled filled, fits_iff, relative_stem_slash, stem_slash]

theorem applies_unrooted (filled : r.pathPattern ≠ []) (path : Text) (unrooted : ¬ Rooted path) :
    r.appliesToPath path = true ↔ r.pathPattern <+: stem path ∧ r.admits (stem path) = true := by
  rw [applies_of_filled filled, fits_iff, relative_stem_unrooted path fun rest whole => unrooted ⟨rest, whole⟩]

theorem admits_behind_slash (relative : ∀ p ∈ r.includes ++ r.excludes, p.Relative) (path : Text) :
    r.admits ('/' :: path) = true ↔ r.includes = [] := by
  have misses (patterns : List PathPattern) (listed : ∀ p ∈ patterns, p.Relative) :
      patterns.any (fun p => p.isMatch ('/' :: path)) = false := by
    rw [List.any_eq_false]
    intro p member
    rw [(listed p member).misses_slash]
    exact Bool.false_ne_true
  obtain ⟨included, excluded⟩ := List.forall_mem_append.mp relative
  unfold admits
  rw [misses _ included, misses _ excluded, Bool.or_false, Bool.not_false, Bool.and_true, List.isEmpty_iff]

theorem slash_left_to_filters (r : Relocation) (filled : r.pathPattern ≠ []) (path : Text)
    (unrooted : ¬ Rooted path) :
    (r.appliesToPath ('/' :: path) = r.appliesToPath path ↔
        (r.pathPattern <+: stem path → r.admits ('/' :: stem path) = r.admits (stem path))) ∧
      (r.Unfiltered → r.appliesToPath ('/' :: path) = r.appliesToPath path) ∧
      ((∀ p ∈ r.includes ++ r.excludes, p.Relative) →
        (r.appliesToPath ('/' :: path) = true ↔ r.pathPattern <+: stem path ∧ r.includes = [])) := by
  have same : r.appliesToPath ('/' :: path) = r.appliesToPath path ↔
      (r.pathPattern <+: stem path → r.admits ('/' :: stem path) = r.admits (stem path)) := by
    rw [Bool.eq_iff_iff, applies_behind_slash filled, applies_unrooted filled path unrooted, and_congr_right_iff,
      ← Bool.eq_iff_iff]
  refine ⟨same, fun free => same.mpr fun _ => ?_, fun relative => ?_⟩
  · rw [admits_unfiltered r free, admits_unfiltered r free]
  · rw [applies_behind_slash filled, admits_behind_slash relative]

theorem slash_before_tool : ∃ r, withFilters "org.antlr.v4".toList (some "com.acme".toList) []
      ["org.antlr.v4.runtime.**".toList] = .ok r ∧ r.pathPattern ≠ [] ∧ ¬ Rooted "org/antlr/v4/Tool.class".toList ∧
    r.appliesToPath "/org/antlr/v4/Tool.class".toList = r.appliesToPath "org/antlr/v4/Tool.class".toList := by
  have unrooted : ¬ Rooted "org/antlr/v4/Tool.class".toList := by
    rw [rooted_iff]
    decide
  have filled : Text.slashed "org.antlr.v4".toList ≠ [] := by decide
  refine ⟨_, rfl, filled, unrooted, ?_⟩
  exact (slash_left_to_filters _ filled _ unrooted).1.mpr fun _ => by decide +kernel

-- The filter is one for paths without a slash, so it does not see the other path.
theorem excluded_behind_slash_moves : ∃ r, withFilters "org.antlr.v4".toList (some "com.acme".toList) []
      ["org.antlr.v4.runtime.**".toList] = .ok r ∧
    r.appliesToPath "org/antlr/v4/runtime/Lexer".toList = false ∧
    r.appliesToPath "/org/antlr/v4/runtime/Lexer".toList = true := by
  refine ⟨_, rfl, ?_⟩
  decide +kernel

end Relocation

end Shading
