import Mathlib.Data.List.Chain
import Shading.PathPattern
import Shading.Proofs.Regex.Denotation
import Shading.Proofs.Text

set_option autoImplicit false

namespace Shading.Glob

def Part.Stands : Part → List Char → Prop
  | literal c, span => span = octets [c]
  | anyByte, span => ∃ b, span = [b] ∧ b ≠ '/'
  | anyBytes, span => '/' ∉ span
  | segmentsBefore, span => span = [] ∨ ∃ front, span = front ++ ['/']
  | segmentsBetween, span => span = ['/'] ∨ ∃ inner, span = '/' :: inner ++ ['/']
  | segmentsBehind, span => ∃ rest, span = '/' :: rest

open Regex

theorem literal_denotes (cs : List Char) :
    Denotes (cs.foldr (fun c r => .cat (.chars (.single c)) r) .empty) (· = cs) := by
  induction cs with
  | nil => exact denotes_empty
  | cons c rest ih =>
      refine denotes_congr (denotes_cat (denotes_single c) ih) fun span => ?_
      simp

theorem part_denotes (part : Part) : Denotes part.regex part.Stands := by
  have slashed := denotes_single '/'
  have upToSlash := denotes_cat denotes_any slashed
  cases part with
  | literal c => exact literal_denotes (octets [c])
  | anyByte =>
      refine denotes_congr (denotes_class _) fun span => ?_
      simp [Part.Stands, mem_compl, mem_single]
  | anyBytes => exact denotes_without '/'
  | segmentsBefore =>
      refine denotes_congr (denotes_alt denotes_empty upToSlash) fun span => ?_
      simp [Part.Stands]
  | segmentsBetween =>
      refine denotes_congr (denotes_alt slashed (denotes_cat slashed upToSlash)) fun span => ?_
      simp [Part.Stands]
  | segmentsBehind =>
      refine denotes_congr (denotes_cat slashed denotes_any) fun span => ?_
      simp [Part.Stands]

def CutInto (parts : List Part) (text : List Char) : Prop := Cut (parts.map Part.Stands) text

theorem regex_matches (parts : List Part) (text : List Char) :
    (regex parts).occursIn text = true ↔ parts = [.segmentsBefore] ∨ CutInto parts text := by
  rw [regex]
  split
  · rename_i alone
    refine (occurs_whole [anything] _ (.cons denotes_any .nil)).trans ⟨fun _ => .inl alone, fun _ => ?_⟩
    exact ⟨text, [], (List.append_nil text).symm, trivial, rfl⟩
  · rename_i other
    rw [occurs_whole _ _ (List.forall₂_map_left_iff.mpr (List.forall₂_map_right_iff.mpr
      (List.forall₂_same.mpr fun part _ => part_denotes part)))]
    exact ⟨.inr, fun cases => cases.resolve_left other⟩

-- The parts of one segment; further stars after a star add none.
def segmentParts (afterStar : Bool) : Text → List Part
  | [] => []
  | c :: rest =>
      if c = '*' then
        if afterStar then segmentParts true rest else .anyBytes :: segmentParts true rest
      else if c = '?' then .anyByte :: segmentParts false rest
      else .literal c :: segmentParts false rest

-- The parts of the segments, where the slash before the first one may have been read.
def partsFrom (slashRead : Bool) : List Text → List Part
  | [] => []
  | segment :: rest =>
      if segment = anySegments then
        if rest = [] then [.segmentsBehind] else .segmentsBetween :: partsFrom true rest
      else (if slashRead then [] else [.literal '/']) ++ segmentParts false segment ++ partsFrom false rest

def globParts (segments : List Text) : List Part :=
  match segments with
  | [] => []
  | segment :: rest =>
      if segment = anySegments then .segmentsBefore :: partsFrom true rest else partsFrom true segments

theorem read_star (previous : Option Char) (parts : List Part) (rest : Text) (single : rest.head? ≠ some '*') :
    readParts? previous parts ('*' :: rest) = readParts? (some '*') (.anyBytes :: parts) rest := by
  rw [readParts?]
  · rintro rfl
    exact single rfl
  · rintro tail rfl
    exact single rfl
  · rintro tail rfl
    exact single rfl

theorem read_end (previous : Option Char) (parts : List Part) :
    readParts? previous parts [] = some parts.reverse := rfl

theorem read_mark (previous : Option Char) (parts : List Part) (rest : Text) :
    readParts? previous parts ('?' :: rest) = readParts? (some '?') (.anyByte :: parts) rest := rfl

theorem read_escaped (previous : Option Char) (parts : List Part) (c : Char) (rest : Text) :
    readParts? previous parts ('\\' :: c :: rest) = readParts? (some c) (.literal c :: parts) rest := rfl

theorem read_last_stars (previous : Option Char) (parts : List Part) :
    readParts? previous parts ['*', '*'] =
      if parts = [] || previous = some '/' then some (addSegments .segmentsBehind parts).reverse
      else some (.anyBytes :: .anyBytes :: parts).reverse := rfl

theorem read_stars_before_slash (previous : Option Char) (parts : List Part) (rest : Text) :
    readParts? previous parts ('*' :: '*' :: '/' :: rest) =
      if parts = [] || previous = some '/' then
        readParts? (some '/') (addSegments .segmentsBetween parts) rest
      else readParts? (some '/') (.literal '/' :: .anyBytes :: .anyBytes :: parts) rest := rfl

theorem read_literal (previous : Option Char) (parts : List Part) (c : Char) (rest : Text)
    (plain : c ∉ ['*', '?', '\\', '[', '{', '}']) :
    readParts? previous parts (c :: rest) = readParts? (some c) (.literal c :: parts) rest := by
  simp only [List.mem_cons, List.not_mem_nil, or_false, not_or] at plain
  obtain ⟨star, mark, escape, _, _, _⟩ := plain
  rw [readParts?]
  · exact if_neg (by simp [*])
  all_goals simp_all

theorem star_not_repeated (segment rest : Text) (other : rest.head? ≠ some '*') :
    (escapeSegment true segment ++ rest).head? ≠ some '*' := by
  induction segment with
  | nil => exact other
  | cons c segment ih =>
      by_cases star : c = '*'
      · rwa [escapeSegment, if_pos (by simp [star])]
      · rw [escapeSegment, if_neg (by simp [star])]
        split <;> simp [star]

theorem read_segment (afterStar : Bool) (segment rest : Text) (previous : Option Char) (parts : List Part)
    (other : rest.head? ≠ some '*') : ∃ last,
      readParts? previous parts (escapeSegment afterStar segment ++ rest) =
        readParts? last ((segmentParts afterStar segment).reverse ++ parts) rest := by
  induction segment generalizing afterStar previous parts with
  | nil => exact ⟨previous, rfl⟩
  | cons c segment ih =>
      by_cases star : c = '*'
      · subst star
        cases afterStar with
        | true => exact ih true previous parts
        | false =>
            obtain ⟨last, same⟩ := ih true (some '*') (.anyBytes :: parts)
            refine ⟨last, (read_star previous parts _ (star_not_repeated segment rest other)).trans ?_⟩
            rw [same, segmentParts, if_pos rfl, if_neg Bool.false_ne_true, List.reverse_cons, List.append_assoc]
            rfl
      · have plain : escapeSegment afterStar (c :: segment) =
            if ['[', ']', '{', '}', '\\'].contains c then '\\' :: c :: escapeSegment false segment
            else c :: escapeSegment false segment := by
          rw [escapeSegment, if_neg (by simp [star]), beq_false_of_ne star]
        rw [plain, segmentParts, if_neg star]
        by_cases mark : c = '?'
        · subst mark
          obtain ⟨last, same⟩ := ih false (some '?') (.anyByte :: parts)
          refine ⟨last, ?_⟩
          rw [if_neg (by decide), List.cons_append, read_mark, same, if_pos rfl, List.reverse_cons,
            List.append_assoc]
          rfl
        · obtain ⟨last, same⟩ := ih false (some c) (.literal c :: parts)
          refine ⟨last, ?_⟩
          rw [if_neg mark, List.reverse_cons, List.append_assoc]
          by_cases meaning : ['[', ']', '{', '}', '\\'].contains c = true
          · rw [if_pos meaning, List.cons_append, List.cons_append, read_escaped, same]
            rfl
          · rw [if_neg meaning, List.cons_append, read_literal _ _ _ _ (by simp_all), same]
            rfl

def Collapsed (segments : List Text) : Prop :=
  segments.IsChain fun a b => a = anySegments → b ≠ anySegments

theorem collapsed_cons (segment : Text) (rest : List Text) : Collapsed (segment :: rest) ↔
    (segment = anySegments → rest.head? ≠ some anySegments) ∧ Collapsed rest := by
  cases rest with
  | nil => simp [Collapsed]
  | cons next others => simp [Collapsed, List.isChain_cons_cons]

theorem collapse_collapsed (segments : List Text) : Collapsed (collapse segments) := by
  induction segments with
  | nil => exact .nil
  | cons segment rest ih =>
      rw [collapse]
      split
      · exact ih
      · rename_i other
        refine (collapsed_cons _ _).mpr ⟨fun any next => other ?_, ih⟩
        rw [any, next, decide_eq_true rfl, decide_eq_true rfl, Bool.and_self]

def globBehind (segments : List Text) : Text := segments.flatMap fun s => '/' :: segmentGlob s

theorem join_globs (segment : Text) (rest : List Text) :
    Text.join ['/'] ((segment :: rest).map segmentGlob) = segmentGlob segment ++ globBehind rest := by
  rw [List.map_cons, Text.join_cons, List.flatMap_map, globBehind]

theorem glob_behind_head (segments : List Text) : (globBehind segments).head? ≠ some '*' := by
  cases segments <;> simp [globBehind]

-- How the segments behind a `**` are read, when it is not in the middle of a segment itself.
theorem read_any_segments (previous : Option Char) (parts : List Part) (rest : List Text)
    (alone : parts = [] ∨ previous = some '/')
    (later : ∀ parts, readParts? (some '/') parts (Text.join ['/'] (rest.map segmentGlob)) =
      some (parts.reverse ++ partsFrom true rest)) :
    readParts? previous parts (anySegments ++ globBehind rest) =
      some ((addSegments (if rest = [] then .segmentsBehind else .segmentsBetween) parts).reverse ++
        partsFrom true rest) := by
  have holds : (decide (parts = []) || decide (previous = some '/')) = true := by simpa using alone
  cases rest with
  | nil =>
      show readParts? previous parts ['*', '*'] = _
      rw [read_last_stars, if_pos holds, if_pos rfl, partsFrom, List.append_nil]
  | cons segment others =>
      have form : anySegments ++ globBehind (segment :: others) =
          '*' :: '*' :: '/' :: Text.join ['/'] ((segment :: others).map segmentGlob) := by
        rw [join_globs]
        rfl
      rw [form, read_stars_before_slash, if_pos holds, later, if_neg (List.cons_ne_nil _ _)]

variable {segments : List Text}

theorem read_segments (collapsed : Collapsed segments) (previous : Option Char) (parts : List Part) :
    (segments.head? ≠ some anySegments →
      readParts? previous parts (Text.join ['/'] (segments.map segmentGlob)) =
        some (parts.reverse ++ partsFrom true segments)) ∧
    readParts? previous parts (globBehind segments) = some (parts.reverse ++ partsFrom false segments) := by
  induction segments generalizing previous parts with
  | nil => exact ⟨fun _ => by simp [read_end, partsFrom, Text.join], by simp [read_end, partsFrom, globBehind]⟩
  | cons segment rest ih =>
      obtain ⟨single, collapsed⟩ := (collapsed_cons _ _).mp collapsed
      have joined (plain : segment ≠ anySegments) (previous : Option Char) (parts : List Part) :
          readParts? previous parts (segmentGlob segment ++ globBehind rest) =
            some (parts.reverse ++ (segmentParts false segment ++ partsFrom false rest)) := by
        obtain ⟨last, same⟩ := read_segment false segment _ previous parts (glob_behind_head rest)
        rw [segmentGlob, if_neg plain, same, (ih collapsed last _).2, List.reverse_append, List.reverse_reverse,
          List.append_assoc]
      constructor
      · intro first
        have plain : segment ≠ anySegments := fun same => first (congrArg some same)
        rw [join_globs, joined plain, partsFrom, if_neg plain]
        rfl
      · have form : globBehind (segment :: rest) = '/' :: (segmentGlob segment ++ globBehind rest) := rfl
        rw [form, read_literal _ _ _ _ (by decide), partsFrom]
        by_cases any : segment = anySegments
        · have later (parts : List Part) := (ih collapsed (some '/') parts).1 (single any)
          have slashed (part : Part) : addSegments part (.literal '/' :: parts) = part :: parts := rfl
          rw [segmentGlob, if_pos any, if_pos any, any, read_any_segments _ _ _ (.inr rfl) later, slashed]
          split
          · rename_i none
            rw [none, List.reverse_cons, partsFrom, List.append_nil]
          · simp
        · rw [joined any, if_neg any]
          simp

theorem read_glob (collapsed : Collapsed segments) :
    readParts? none [] (Text.join ['/'] (segments.map segmentGlob)) = some (globParts segments) := by
  cases segments with
  | nil => rfl
  | cons segment rest =>
      rw [globParts]
      by_cases any : segment = anySegments
      · obtain ⟨single, collapsed⟩ := (collapsed_cons _ _).mp collapsed
        have later (parts : List Part) := (read_segments collapsed (some '/') parts).1 (single any)
        rw [join_globs, segmentGlob, if_pos any, if_pos any, any, read_any_segments _ _ _ (.inl rfl) later]
        rfl
      · rw [(read_segments collapsed none []).1 fun same => any (Option.some.inj same), if_neg any]
        rfl

end Shading.Glob
