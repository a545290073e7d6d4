import Shading.Proofs.ModifiedUtf8
import Shading.Proofs.Relocation.Filters

set_option autoImplicit false

namespace Shading

open Fallible

namespace Text

theorem mem_segments (path : Text) (c : Char) (other : c ≠ '/') :
    (∃ segment ∈ segments path, c ∈ segment) ↔ c ∈ path := by
  have whole : join ['/'] (split '/' path) = path := List.intercalate_splitOn '/'
  have parts : (∃ segment ∈ segments path, c ∈ segment) ↔ ∃ part ∈ split '/' path, c ∈ part := by
    constructor
    · rintro ⟨segment, listed, inside⟩
      exact ⟨segment, List.mem_of_mem_filter listed, inside⟩
    · rintro ⟨part, listed, inside⟩
      exact ⟨part, List.mem_filter.mpr ⟨listed, by simpa using List.ne_nil_of_mem inside⟩, inside⟩
  rw [parts]
  obtain ⟨first, rest, form⟩ := List.exists_cons_of_ne_nil (List.splitOn_ne_nil '/' path)
  rw [split, form] at whole ⊢
  rw [← whole, join_cons]
  simp [other]

theorem mem_slashed (s : Text) (c : Char) (other : c ≠ '/') (member : c ∈ slashed s) : c ∈ s := by
  obtain ⟨d, listed, same⟩ := List.mem_map.mp member
  by_cases dot : d = '.'
  · rw [if_pos dot] at same
    exact absurd same.symm other
  · rwa [if_neg dot, ← same] at *

theorem prefix_slashed (start s : Text) (plain : '/' ∉ start) (begins : start <+: slashed s) : start <+: s := by
  obtain ⟨front, inside, rfl⟩ := List.prefix_map_iff.mp begins
  have undotted : '.' ∉ front := fun dot => plain (List.mem_map.mpr ⟨'.', dot, rfl⟩)
  rwa [show front.map _ = front from exchange_absent '.' '/' front undotted]

end Text

structure LiteralPath (path : Text) : Prop where
  stars : '*' ∉ path
  marks : '?' ∉ path
  expression : ¬ regexOpening <+: path
  wrapped : ¬ globOpening <+: path

-- Paths that differ in nothing but how many slashes there are in one place, or at the end.
def SamePath (a b : Text) : Prop := (Rooted a ↔ Rooted b) ∧ Text.segments a = Text.segments b

theorem LiteralPath.slashed {path : Text} (literal : LiteralPath path) : LiteralPath (Text.slashed path) where
  stars member := literal.stars (Text.mem_slashed path '*' (by decide) member)
  marks member := literal.marks (Text.mem_slashed path '?' (by decide) member)
  expression begins := literal.expression (Text.prefix_slashed _ path (by decide) begins)
  wrapped begins := literal.wrapped (Text.prefix_slashed _ path (by decide) begins)

namespace Glob

theorem matches_literal (segment : Text) (stars : '*' ∉ segment) (marks : '?' ∉ segment) (name : Bytes) :
    SegmentMatches segment name ↔ name = Text.utf8 segment := by
  induction segment generalizing name with
  | nil => exact matches_nil name
  | cons c rest ih =>
      obtain ⟨star, stars⟩ := List.ne_and_not_mem_of_not_mem_cons stars
      obtain ⟨mark, marks⟩ := List.ne_and_not_mem_of_not_mem_cons marks
      rw [matches_char c rest name star.symm mark.symm]
      simp only [ih stars marks, exists_eq_right]
      rfl

theorem match_literal (segments : List Text) (stars : ∀ segment ∈ segments, '*' ∉ segment)
    (marks : ∀ segment ∈ segments, '?' ∉ segment) (names : List Bytes) :
    SegmentsMatch segments names ↔ names = segments.map Text.utf8 := by
  induction segments generalizing names with
  | nil => exact match_nil names
  | cons segment rest ih =>
      obtain ⟨star, stars⟩ := List.forall_mem_cons.mp stars
      obtain ⟨mark, marks⟩ := List.forall_mem_cons.mp marks
      have single : segment ≠ anySegments := by
        rintro rfl
        exact star List.mem_cons_self
      rw [match_segment _ _ _ single]
      simp only [matches_literal segment star mark, ih stars marks, exists_eq_right_right, exists_eq_right]
      rfl

end Glob

theorem PathPattern.literal_matches {path : Text} (literal : LiteralPath path) :
    ∃ p, parse path = .ok p ∧ ∀ other, p.isMatch other = true ↔ SamePath path other := by
  have bare (opening : Text) (absent : ¬ opening <+: path) : unwrap? opening path = none := by
    rw [unwrap_none]
    rintro inner rfl
    exact absent ⟨inner ++ patternClosing, (List.append_assoc _ _ _).symm⟩
  have stars : ∀ segment ∈ Text.segments path, '*' ∉ segment := fun segment listed inside =>
    literal.stars ((Text.mem_segments path '*' (by decide)).mp ⟨segment, listed, inside⟩)
  have marks : ∀ segment ∈ Text.segments path, '?' ∉ segment := fun segment listed inside =>
    literal.marks ((Text.mem_segments path '?' (by decide)).mp ⟨segment, listed, inside⟩)
  have never : ¬ Glob.StarsAlone (Text.segments path) := by
    rintro ⟨segment, alone, all⟩
    have listed : segment ∈ Text.segments path := List.mem_of_mem_filter (alone ▸ List.mem_singleton_self segment)
    obtain ⟨c, rest, rfl⟩ := List.exists_cons_of_ne_nil (Text.segment_plain path segment listed).1
    rw [all c List.mem_cons_self] at listed
    exact stars _ listed List.mem_cons_self
  obtain ⟨g, read, rooted, matched⟩ := Glob.parsed path
  refine ⟨⟨path, .glob g⟩, ?_, fun other => ?_⟩
  · rw [parse, parseWith, bare _ literal.expression, bare _ literal.wrapped, Option.getD_none, read]
  · show g.isMatch other = true ↔ _
    rw [Glob.isMatch, Bool.and_eq_true, matched, Glob.segments_agree, Glob.match_literal _ stars marks, beq_iff_eq,
      rooted, SamePath, rooted_iff, rooted_iff, Bool.eq_iff_iff, or_iff_left fun both => never both.2,
      (List.map_injective_iff.mpr Text.Utf8.utf8_injective).eq_iff]
    exact and_congr_right fun _ => eq_comm

namespace Relocation

inductive Filtered (r : Relocation) : Relocation → Prop where
  | start : Filtered r r
  | included (s t : Relocation) (filter : Text) (before : Filtered r s) (added : s.addInclude filter = .ok t) :
      Filtered r t
  | excluded (s t : Relocation) (filter : Text) (before : Filtered r s) (added : s.addExclude filter = .ok t) :
      Filtered r t

variable {r s : Relocation} {patterns all : List PathPattern}

theorem add_filter_keeps (filter : Text) (added : addFilter patterns filter = .ok all) (p : PathPattern)
    (member : p ∈ patterns) : p ∈ all := by
  refine fold_invariant addPattern (fun _ all => p ∈ all) (fun _ state source next kept added => ?_) [] _ _ _ member
    added
  unfold addPattern at added
  split at added
  · cases added
    exact kept
  · obtain ⟨_, _, rfl⟩ := map_ok.mp added
    exact List.mem_append_left _ kept

theorem AsRead.add_filter (read : AsRead patterns) (filter : Text) (added : addFilter patterns filter = .ok all) :
    AsRead all := by
  refine fold_invariant addPattern (fun _ all => AsRead all) (fun _ state source next read added => ?_) [] _ _ _ read
    added
  rw [add_pattern_keeps read] at added
  obtain ⟨p, parsed, rfl⟩ := map_ok.mp added
  refine read.keep_once p ?_
  rw [PathPattern.parse_source source p parsed, parsed]

theorem Filtered.excludes_kept (filtered : Filtered r s) (p : PathPattern) (member : p ∈ r.excludes) :
    p ∈ s.excludes := by
  induction filtered with
  | start => exact member
  | included s t filter _ added ih =>
      obtain ⟨_, _, rfl⟩ := map_ok.mp added
      exact ih
  | excluded s t filter _ added ih =>
      obtain ⟨_, first, rfl⟩ := map_ok.mp added
      exact add_filter_keeps filter first p ih

theorem Filtered.excludes_as_read (filtered : Filtered r s) (read : AsRead r.excludes) : AsRead s.excludes := by
  induction filtered with
  | start => exact read
  | included s t filter _ added ih =>
      obtain ⟨_, _, rfl⟩ := map_ok.mp added
      exact ih
  | excluded s t filter _ added ih =>
      obtain ⟨_, first, rfl⟩ := map_ok.mp added
      exact ih.add_filter filter first

theorem excluded_stays_out (p : PathPattern) (member : p ∈ r.excludes) (path : Text)
    (hit : p.isMatch (stem path) = true) : r.appliesToPath path = false := by
  rw [← Bool.not_eq_true, applies_iff]
  rintro ⟨_, _, admitted⟩
  have excluded : r.excludes.any (fun p => p.isMatch (stem path)) = true := List.any_eq_true.mpr ⟨p, member, hit⟩
  rw [admits, excluded, Bool.not_true, Bool.and_false] at admitted
  contradiction

theorem literal_sources {filter : Text} (literal : LiteralPath filter) :
    filterSources filter = [Text.slashed filter] := by
  have below : Text.dropEnd? ['/', '*'] (Text.slashed filter) = none := by
    cases cut : Text.dropEnd? ['/', '*'] (Text.slashed filter) with
    | none => rfl
    | some directory =>
        have whole := (Text.drop_end_some _ _ _).mp cut
        exact absurd (whole ▸ List.mem_append_right directory (by simp)) literal.slashed.stars
  have plain : ¬ Text.startsWith regexOpening filter = true := mt List.isPrefixOf_iff_prefix.mp literal.expression
  rw [filterSources, if_neg plain]
  dsimp only
  rw [below]

theorem exclude_literal (q : Relocation) (read : AsRead q.excludes) {path : Text} (literal : LiteralPath path) :
    ∃ p, q.addExclude path = .ok { q with excludes := keepOnce q.excludes p } ∧
      (∀ d, d ∈ keepOnce q.excludes p ↔ d ∈ q.excludes ∨ d = p) ∧
      ∀ other, p.isMatch other = true ↔ SamePath (Text.slashed path) other := by
  obtain ⟨p, parsed, hits⟩ := PathPattern.literal_matches literal.slashed
  have own : PathPattern.parse p.source = .ok p := by
    rw [PathPattern.parse_source _ p parsed, parsed]
  refine ⟨p, ?_, mem_keep_once read p own, hits⟩
  rw [addExclude, addFilter, literal_sources literal, List.foldlM_cons, add_pattern_keeps read, parsed]
  rfl

theorem applies_narrowed (q : Relocation) {kept : List PathPattern} {p : PathPattern}
    (members : ∀ d, d ∈ kept ↔ d ∈ q.excludes ∨ d = p) (path : Text) :
    { q with excludes := kept }.appliesToPath path = true ↔
      q.appliesToPath path = true ∧ ¬ p.isMatch (stem path) = true := by
  have excluded : kept.any (fun d => d.isMatch (stem path)) =
      (q.excludes.any (fun d => d.isMatch (stem path)) || p.isMatch (stem path)) := by
    rw [any_same kept (q.excludes ++ [p]) fun d => by rw [members, List.mem_append, List.mem_singleton]]
    simp
  have admitted : { q with excludes := kept }.admits (stem path) =
      (q.admits (stem path) && !p.isMatch (stem path)) := by
    rw [admits, admits, excluded, Bool.not_or, Bool.and_assoc]
  rw [applies_iff, applies_iff, admitted, Bool.and_eq_true, Bool.not_eq_true', Bool.not_eq_true, and_assoc, and_assoc]

-- A dot stays in the path, or `class` is one segment more in the filter.
theorem dotted_not_excluded (path : Text) (dotted : '.' ∈ path) : ¬ SamePath (Text.slashed path) (stem path) := by
  rintro ⟨_, same⟩
  by_cases kept : '.' ∈ stem path
  · have segment := (Text.mem_segments (stem path) '.' (by decide)).mpr kept
    rw [← same, Text.mem_segments _ _ (by decide)] at segment
    exact Text.dot_not_mem_slashed path segment
  · cases cut : Text.dropEnd? classSuffix path with
    | none =>
        rw [stem, cut] at kept
        exact kept dotted
    | some front =>
        have whole := (Text.drop_end_some _ _ _).mp cut
        rw [stem, cut, Option.getD_some] at same kept
        have slashed : Text.slashed path = front ++ '/' :: "class".toList := by
          rw [whole, Text.slashed_append, show Text.slashed front = front from Text.exchange_absent _ _ _ kept]
          rfl
        rw [slashed, Text.segments_slash] at same
        exact absurd (List.append_right_eq_self.mp same) (by decide)

theorem literal_path_excluded (pattern : Text) (target? : Option Text) (q : Relocation)
    (before : Filtered (unfiltered pattern target?) q) (path : Text) (literal : LiteralPath path) :
    ∃ r, q.addExclude path = .ok r ∧
      (∀ other, r.appliesToPath other = true ↔
        q.appliesToPath other = true ∧ ¬ SamePath (Text.slashed path) (stem other)) ∧
      (∀ s, Filtered r s → ∀ other, SamePath (Text.slashed path) (stem other) → s.appliesToPath other = false) ∧
      ('.' ∉ path → ∀ s, Filtered r s → s.appliesToPath path = false) ∧
      ('.' ∈ path → r.appliesToPath path = q.appliesToPath path) := by
  have read : AsRead q.excludes := before.excludes_as_read fun _ none => absurd none List.not_mem_nil
  obtain ⟨p, added, members, hits⟩ := exclude_literal q read literal
  have narrowed := applies_narrowed q members
  have member : p ∈ keepOnce q.excludes p := (members p).mpr (.inr rfl)
  refine ⟨_, added, fun other => ?_, fun s after other same => ?_, fun plain s after => ?_, fun dotted => ?_⟩
  · rw [narrowed, hits]
  · exact excluded_stays_out p (after.excludes_kept p member) other ((hits _).mpr same)
  · have same : SamePath (Text.slashed path) (stem path) := by
      rw [stem_undotted path plain, show Text.slashed path = path from Text.exchange_absent _ _ _ plain]
      exact ⟨Iff.rfl, rfl⟩
    exact excluded_stays_out p (after.excludes_kept p member) path ((hits _).mpr same)
  · rw [Bool.eq_iff_iff, narrowed, hits]
    exact and_iff_left (dotted_not_excluded path dotted)

-- The path has slashes in front and twice, and characters that a glob would take for its own.
theorem bracketed_path_stays_out :
    Filtered (unfiltered "org.antlr".toList (some "com.acme".toList))
        (unfiltered "org.antlr".toList (some "com.acme".toList)) ∧
      LiteralPath "/org/antlr//{a,b}[1]".toList ∧
      ∃ r s, (unfiltered "org.antlr".toList (some "com.acme".toList)).addExclude "/org/antlr//{a,b}[1]".toList = .ok r ∧
        r.addInclude "/org/antlr/**".toList = .ok s ∧ s.appliesToPath "/org/antlr//{a,b}[1]".toList = false := by
  have literal : LiteralPath "/org/antlr//{a,b}[1]".toList :=
    ⟨by decide, by decide, by decide, by decide⟩
  obtain ⟨r, added, _, _, undotted, _⟩ := literal_path_excluded _ _ _ .start _ literal
  cases later : r.addInclude "/org/antlr/**".toList with
  | error e =>
      cases added
      contradiction
  | ok s =>
      exact ⟨.start, literal, r, s, added, later, undotted (by decide) s (.included r s _ .start later)⟩

-- The filter becomes `org/antlr/messages/properties`.
theorem excluded_resource_moves : LiteralPath "org/antlr/messages.properties".toList ∧
    ∃ r, (unfiltered "org.antlr".toList (some "com.acme".toList)).addExclude
        "org/antlr/messages.properties".toList = .ok r ∧
      r.appliesToPath "org/antlr/messages.properties".toList = true := by
  refine ⟨⟨by decide, by decide, by decide, by decide⟩, _, rfl, ?_⟩
  decide +kernel

end Relocation

end Shading
