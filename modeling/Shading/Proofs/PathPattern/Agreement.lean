import Shading.Proofs.PathPattern.Paths

set_option autoImplicit false

namespace Shading

namespace Glob

variable {segments : List Text}

theorem first_part (segment : Text) (rest : List Text) (filled : segment ≠ []) (single : segment ≠ anySegments) :
    ∃ part parts, partsFrom true (segment :: rest) = part :: parts ∧ part ≠ .segmentsBefore := by
  obtain ⟨c, others, rfl⟩ := List.exists_cons_of_ne_nil filled
  rw [partsFrom, if_neg single, segmentParts, if_pos rfl, if_neg Bool.false_ne_true]
  split_ifs
  · exact ⟨_, _, rfl, by simp⟩
  · exact ⟨_, _, rfl, by simp⟩
  · exact ⟨_, _, rfl, by simp⟩

-- The slash that is put in front is the one that the first segment comes after.
theorem glob_matches (collapsed : Collapsed segments) (filled : segments ≠ []) (proper : [] ∉ segments)
    (text : List Char) :
    (regex (globParts segments)).occursIn text = true ↔ CutInto (partsFrom false segments) ('/' :: text) := by
  obtain ⟨segment, rest, rfl⟩ := List.exists_cons_of_ne_nil filled
  rw [regex_matches, globParts]
  by_cases any : segment = anySegments
  · subst any
    by_cases none : rest = []
    · subst none
      simp [partsFrom, CutInto, Regex.Cut, Part.Stands]
    · obtain ⟨next, others, rfl⟩ := List.exists_cons_of_ne_nil none
      have other : next ≠ anySegments := fun same =>
        ((collapsed_cons _ _).mp collapsed).1 rfl (congrArg some same)
      obtain ⟨part, parts, form, _⟩ := first_part next others (fun empty => proper (by simp [empty])) other
      rw [if_pos rfl, parts_from_any _ none, form, cut_before]
      exact ⟨fun matched => matched.resolve_left (by simp), .inr⟩
  · obtain ⟨part, parts, form, other⟩ := first_part segment rest (fun empty => proper (by simp [empty])) any
    rw [if_neg any, ← cut_slash_read _ filled fun same => any (Option.some.inj same), form]
    exact ⟨fun matched => matched.resolve_left (by simp [other]), .inr⟩

def orEmpty {α : Type} (parts : List (List α)) : List (List α) := if parts = [] then [[]] else parts

theorem glob_compiled (collapsed : Collapsed segments) :
    compile? (Text.join ['/'] (segments.map segmentGlob)) = some (regex (globParts segments)) := by
  rw [compile?, read_glob collapsed, Option.map_some]

theorem nothing_before_last (few : segments.length ≤ 1) (text : List Char) :
    ¬ CutInto (partsFrom false segments.dropLast) ('/' :: text) := by
  have empty : segments.dropLast = [] := List.eq_nil_of_length_eq_zero (by rw [List.length_dropLast]; omega)
  rw [empty]
  exact List.cons_ne_nil '/' text

theorem globs_match (collapsed : Collapsed segments) (proper : [] ∉ segments) :
    ∃ compiled, (globs segments).mapM compile? = some compiled ∧
      ∀ text, (compiled.any fun r => r.occursIn text) = true ↔ TakenBehind (orEmpty segments) ('/' :: text) := by
  have shorter : Collapsed segments.dropLast := collapsed.prefix (List.dropLast_prefix segments)
  by_cases none : segments = []
  · subst none
    refine ⟨[regex []], rfl, fun text => ?_⟩
    have single : ([] : Text) ≠ anySegments := by decide
    simp [orEmpty, taken_segment [] [] _ single, taken_nil, regex_matches, segmentParts, CutInto, Regex.Cut]
  · have whole := glob_matches collapsed none proper
    rw [orEmpty, if_neg none]
    by_cases several : segments.length > 1 ∧ segments.getLast? = some anySegments
    · have filled : segments.dropLast ≠ [] := List.ne_nil_of_length_pos (by rw [List.length_dropLast]; omega)
      have front := glob_matches shorter filled fun empty => proper (List.mem_of_mem_dropLast empty)
      refine ⟨[regex (globParts segments), regex (globParts segments.dropLast)], ?_, fun text => ?_⟩
      · have second := glob_compiled shorter
        rw [List.map_dropLast] at second
        simp [globs, several, glob_compiled collapsed, second]
      · simp [TakenBehind, whole, front, several.2]
    · refine ⟨[regex (globParts segments)], ?_, fun text => ?_⟩
      · simp [globs, several, glob_compiled collapsed]
      · have alone : ¬ (segments.getLast? = some anySegments ∧
            CutInto (partsFrom false segments.dropLast) ('/' :: text)) := by
          intro before
          exact nothing_before_last (Nat.le_of_not_lt fun more => several ⟨more, before.1⟩) text before.2
        rw [TakenBehind, or_iff_left alone]
        simp [whole]

theorem collapse_proper (segments : List Text) : ∀ segment ∈ collapse segments, segment ∈ segments := by
  induction segments with
  | nil => nofun
  | cons first rest ih =>
      rw [collapse]
      split
      · exact fun segment member => List.mem_cons_of_mem first (ih segment member)
      · refine List.forall_mem_cons.mpr ⟨List.mem_cons_self, fun segment member => ?_⟩
        exact List.mem_cons_of_mem first (ih segment member)

theorem parsed (s : Text) : ∃ g, parse? s = some g ∧ g.rooted = Text.startsWith ['/'] s ∧
    ∀ text, (g.compiled.any fun r => r.occursIn text) = true ↔
      TakenBehind (orEmpty (collapse (Text.segments s))) ('/' :: text) := by
  have proper : [] ∉ collapse (Text.segments s) := fun member =>
    (Text.segment_plain s [] (collapse_proper _ _ member)).1 rfl
  obtain ⟨compiled, read, matched⟩ := globs_match (collapse_collapsed (Text.segments s)) proper
  exact ⟨⟨Text.startsWith ['/'] s, compiled⟩, by rw [parse?, read, Option.map_some], rfl, matched⟩

theorem path_behind (path : Text) : '/' :: octets (Text.join ['/'] (Text.segments path)) =
    behind (orEmpty ((Text.segments path).map Text.utf8)) := by
  generalize Text.segments path = names
  cases names with
  | nil => rfl
  | cons name names =>
      have later : octets (names.flatMap ('/' :: ·)) = behind (names.map Text.utf8) := by
        induction names with
        | nil => rfl
        | cons next others ih =>
            rw [List.flatMap_cons, octets_append, ih]
            rfl
      rw [Text.join_cons, octets_append, later]
      rfl

def StarsAlone (segments : List Text) : Prop :=
  ∃ stars, segments.filter (· ≠ anySegments) = [stars] ∧ ∀ c ∈ stars, c = '*'

theorem matches_nothing (segment : Text) : SegmentMatches segment [] ↔ ∀ c ∈ segment, c = '*' := by
  induction segment with
  | nil => simp [matches_nil]
  | cons c rest ih =>
      rw [List.forall_mem_cons, ← ih]
      by_cases star : c = '*'
      · subst star
        simp [matches_any_bytes]
      · by_cases mark : c = '?'
        · subst mark
          simp [matches_any_byte]
        · simp [matches_char c rest [] star mark, star, String.utf8EncodeChar_ne_nil]

theorem match_no_names (segments : List Text) :
    SegmentsMatch segments [] ↔ ∀ segment ∈ segments, segment = anySegments := by
  induction segments with
  | nil => simp [match_nil]
  | cons segment rest ih =>
      rw [List.forall_mem_cons, ← ih]
      by_cases any : segment = anySegments
      · subst any
        simp [match_any_segments]
      · simp [match_segment _ _ _ any, any]

theorem stars_alone_any (segments : List Text) : StarsAlone (anySegments :: segments) ↔ StarsAlone segments := by
  simp [StarsAlone]

theorem stars_alone_segment (segment : Text) (rest : List Text) (single : segment ≠ anySegments) :
    StarsAlone (segment :: rest) ↔ (∀ c ∈ segment, c = '*') ∧ ∀ other ∈ rest, other = anySegments := by
  simp only [StarsAlone, ne_eq, single, not_false_eq_true, decide_true, List.filter_cons_of_pos, List.cons.injEq,
    List.filter_eq_nil_iff, decide_eq_true_eq, not_not]
  constructor
  · rintro ⟨_, ⟨rfl, others⟩, stars⟩
    exact ⟨stars, others⟩
  · rintro ⟨stars, others⟩
    exact ⟨segment, ⟨rfl, others⟩, stars⟩

-- The name that is no bytes is skipped by a `**` or left to the segments behind it.
theorem match_any_empty_name (rest : List Text) : SegmentsMatch (anySegments :: rest) [[]] ↔
    SegmentsMatch rest [] ∨ SegmentsMatch rest [[]] := by
  rw [match_any_segments]
  constructor
  · rintro ⟨skipped, others, whole, later⟩
    rcases List.cons_eq_append_iff.mp whole with ⟨_, rfl⟩ | ⟨_, _, empty⟩
    · exact .inr later
    · rw [(List.nil_eq_append_iff.mp empty).2] at later
      exact .inl later
  · rintro (later | later)
    · exact ⟨[[]], [], rfl, later⟩
    · exact ⟨[], [[]], rfl, later⟩

theorem match_empty_name (segments : List Text) : SegmentsMatch segments [[]] ↔
    (segments ≠ [] ∧ SegmentsMatch segments []) ∨ StarsAlone segments := by
  induction segments with
  | nil => simp [match_nil, StarsAlone]
  | cons segment rest ih =>
      by_cases any : segment = anySegments
      · subst any
        rw [match_any_empty_name, ih, stars_alone_any, match_no_names, match_no_names, List.forall_mem_cons]
        tauto
      · simp [match_segment _ _ _ any, stars_alone_segment _ _ any, matches_nothing, match_no_names]

theorem match_or_empty (segments : List Text) (names : List Bytes) (proper : [] ∉ names) :
    SegmentsMatch (orEmpty segments) (orEmpty names) ↔
      SegmentsMatch segments names ∨ names = [] ∧ StarsAlone segments := by
  have empty (names : List Bytes) : SegmentsMatch [[]] names ↔ names = [[]] := by
    simp [match_segment [] [] names (by decide), matches_nil, match_nil]
  by_cases unnamed : names = []
  · subst unnamed
    rw [orEmpty, orEmpty, if_pos rfl]
    split
    · rename_i none
      subst none
      simp [empty, match_nil]
    · rename_i filled
      simp [match_empty_name, filled]
  · rw [orEmpty, orEmpty, if_neg unnamed]
    split
    · rename_i none
      subst none
      have other : names ≠ [[]] := by
        rintro rfl
        exact proper (List.mem_singleton_self [])
      simp [empty, match_nil, unnamed, other]
    · simp [unnamed]

theorem collapse_filter (segments : List Text) :
    (collapse segments).filter (· ≠ anySegments) = segments.filter (· ≠ anySegments) := by
  induction segments with
  | nil => rfl
  | cons segment rest ih =>
      rw [collapse]
      split
      · rename_i repeated
        have any : segment = anySegments := of_decide_eq_true (Bool.and_eq_true_iff.mp repeated).1
        rw [ih, List.filter_cons_of_neg (by simp [any])]
      · rw [List.filter_cons, List.filter_cons, ih]

theorem or_empty_of {α : Type} (holds : List α → Prop) (parts : List (List α)) (each : ∀ part ∈ parts, holds part)
    (empty : holds []) : ∀ part ∈ orEmpty parts, holds part := by
  rw [orEmpty]
  split
  · exact List.forall_mem_singleton.mpr empty
  · exact each

theorem segments_agree (s path : Text) :
    TakenBehind (orEmpty (collapse (Text.segments s))) ('/' :: octets (Text.join ['/'] (Text.segments path))) ↔
      SegmentsMatch (Text.segments s) ((Text.segments path).map Text.utf8) ∨
        Text.segments path = [] ∧ StarsAlone (Text.segments s) := by
  have collapsed : Collapsed (orEmpty (collapse (Text.segments s))) := by
    rw [orEmpty]
    split
    · exact .singleton []
    · exact collapse_collapsed _
  have free : ∀ segment ∈ orEmpty (collapse (Text.segments s)), '/' ∉ segment :=
    or_empty_of _ _ (fun segment member => (Text.segment_plain s segment (collapse_proper _ _ member)).2)
      List.not_mem_nil
  have plain : ∀ name ∈ orEmpty ((Text.segments path).map Text.utf8), Plain name := by
    refine or_empty_of _ _ (List.forall_mem_map.mpr fun name member => ?_) List.not_mem_nil
    exact slash_not_mem_octets name (Text.segment_plain path name member).2
  have proper : [] ∉ (Text.segments path).map Text.utf8 := by
    intro member
    obtain ⟨name, listed, empty⟩ := List.mem_map.mp member
    obtain ⟨c, rest, rfl⟩ := List.exists_cons_of_ne_nil (Text.segment_plain path name listed).1
    exact String.utf8EncodeChar_ne_nil (List.append_eq_nil_iff.mp empty).1
  rw [path_behind, taken_behind_names _ collapsed free _ plain, match_or_empty _ _ proper, match_collapsed,
    StarsAlone, collapse_filter, List.map_eq_nil_iff]
  rfl

end Glob

open Glob

-- The segments are what is inside of `%ant[…]`, or all of the pattern.
def SegmentsOf (source body : Text) : Prop :=
  source = globOpening ++ body ++ patternClosing ∨
    (∀ inner, source ≠ globOpening ++ inner ++ patternClosing) ∧ body = source

def Rooted (path : Text) : Prop := ∃ rest, path = '/' :: rest

theorem unwrap_some (opening source body : Text) :
    unwrap? opening source = some body ↔ source = opening ++ body ++ patternClosing := by
  rw [unwrap?, Option.bind_eq_some_iff]
  simp only [Text.drop_start_some, Text.drop_end_some]
  constructor
  · rintro ⟨_, rfl, rfl⟩
    exact (List.append_assoc _ _ _).symm
  · rintro rfl
    exact ⟨body ++ patternClosing, List.append_assoc _ _ _, rfl⟩

theorem unwrap_none (opening source : Text) :
    unwrap? opening source = none ↔ ∀ inner, source ≠ opening ++ inner ++ patternClosing := by
  rw [Option.eq_none_iff_forall_ne_some]
  simp only [ne_eq, unwrap_some]

theorem segments_of_iff (source body : Text) :
    SegmentsOf source body ↔ (unwrap? globOpening source).getD source = body := by
  rw [SegmentsOf, ← unwrap_some, ← unwrap_none]
  cases unwrap? globOpening source with
  | none => simp [eq_comm]
  | some inner => simp

theorem rooted_iff (path : Text) : Rooted path ↔ Text.startsWith ['/'] path = true := by
  rw [Text.startsWith, List.isPrefixOf_iff_prefix]
  exact ⟨fun ⟨rest, whole⟩ => ⟨rest, whole.symm⟩, fun ⟨rest, whole⟩ => ⟨rest, whole.symm⟩⟩

theorem match_same (g : Glob) (a b : Text) (rooted : Text.startsWith ['/'] a = Text.startsWith ['/'] b)
    (segments : Text.segments a = Text.segments b) : g.isMatch a = g.isMatch b := by
  rw [isMatch, isMatch, rooted, segments]

namespace PathPattern

theorem segments_pattern_matches (source : Text)
    (noRegex : ∀ inner, source ≠ regexOpening ++ inner ++ patternClosing) :
    ∃ body p, SegmentsOf source body ∧ parse source = .ok p ∧
      (∀ path, p.isMatch path = true ↔ (Rooted body ↔ Rooted path) ∧
        (SegmentsMatch (Text.segments body) ((Text.segments path).map Text.utf8) ∨
          Text.segments path = [] ∧ StarsAlone (Text.segments body))) ∧
      (∀ front back n, p.isMatch (front ++ List.replicate (n + 1) '/' ++ back) = p.isMatch (front ++ '/' :: back)) ∧
      ∀ path n, path ≠ [] → p.isMatch (path ++ List.replicate n '/') = p.isMatch path := by
  have inside := (segments_of_iff source _).mpr rfl
  obtain ⟨g, read, rooted, matched⟩ := parsed ((unwrap? globOpening source).getD source)
  refine ⟨_, ⟨source, .glob g⟩, inside, ?_, fun path => ?_, fun front back n => ?_, fun path n filled => ?_⟩
  · simp only [parse, parseWith, (unwrap_none _ _).mpr noRegex, read]
  · show g.isMatch path = true ↔ _
    rw [Glob.isMatch, Bool.and_eq_true, matched, segments_agree, beq_iff_eq, rooted, rooted_iff, rooted_iff,
      Bool.eq_iff_iff]
  · refine match_same g _ _ ?_ ?_
    · cases front <;> rfl
    · have form : front ++ List.replicate (n + 1) '/' ++ back = front ++ '/' :: (List.replicate n '/' ++ back) := by
        rw [List.append_assoc]
        rfl
      rw [form, Text.segments_slash, Text.segments_slash, Text.segments_slashes]
  · refine match_same g _ _ ?_ ?_
    · obtain ⟨c, rest, rfl⟩ := List.exists_cons_of_ne_nil filled
      rfl
    · exact Text.segments_slashes_behind n path

theorem wrapped_pattern_matches :
    (∀ inner, "%ant[lib/**/a?*]".toList ≠ regexOpening ++ inner ++ patternClosing) ∧
      SegmentsMatch ["lib".toList, anySegments, "a?*".toList] (["lib".toList, "x".toList, "ab".toList].map Text.utf8) ∧
      ∃ p, parse "%ant[lib/**/a?*]".toList = .ok p ∧ p.isMatch "lib//x/ab/".toList = true := by
  have noRegex := (unwrap_none regexOpening "%ant[lib/**/a?*]".toList).mp (by decide)
  obtain ⟨body, p, inside, read, matched, _⟩ := segments_pattern_matches _ noRegex
  have unwrapped : "lib/**/a?*".toList = body := by
    rw [← (segments_of_iff _ _).mp inside]
    decide
  subst unwrapped
  have hit : textMatches "%ant[lib/**/a?*]".toList "lib//x/ab/".toList = true := by decide +kernel
  rw [parse] at read
  rw [textMatches, textMatchesWith, read] at hit
  rcases ((matched _).mp hit).2 with agrees | ⟨none, _⟩
  · exact ⟨noRegex, agrees, p, read, hit⟩
  · exact absurd none (by decide)

-- A path without segments is tried as one empty segment, so `*` takes it.
theorem star_matches_no_segments : ∃ p, parse ['*'] = .ok p ∧ p.isMatch [] = true ∧
    ¬ SegmentsMatch (Text.segments ['*']) ((Text.segments []).map Text.utf8) := by
  have hit : textMatches ['*'] [] = true := by decide +kernel
  have single : Text.segments ['*'] = [['*']] := by decide
  refine ⟨_, rfl, hit, fun matched => ?_⟩
  rw [single] at matched
  obtain ⟨_, _, empty, _⟩ := (match_segment ['*'] [] _ (by decide)).mp matched
  contradiction

end PathPattern

end Shading
