import Shading.Proofs.ClassPattern.Expression
import Shading.Proofs.Regex.Denotation

set_option autoImplicit false

namespace Shading

namespace ClassPattern

inductive Matches : Text → Text → Prop where
  | finish : Matches [] []
  | anyText (rest span text : Text) (line : '\n' ∉ span) (later : Matches rest text) :
      Matches ('*' :: '*' :: rest) (span ++ text)
  | segmentText (rest span text : Text) (single : rest.head? ≠ some '*') (filled : span ≠ [])
      (segment : '/' ∉ span) (later : Matches rest text) : Matches ('*' :: rest) (span ++ text)
  | slash (rest text : Text) (later : Matches rest text) : Matches ('.' :: rest) ('/' :: text)
  | char (c : Char) (rest text : Text) (star : c ≠ '*') (dot : c ≠ '.') (later : Matches rest text) :
      Matches (c :: rest) (c :: text)

theorem matches_nil (text : Text) : Matches [] text ↔ text = [] := by
  constructor
  · rintro ⟨⟩
    rfl
  · rintro rfl
    exact .finish

theorem matches_any_text (rest text : Text) : Matches ('*' :: '*' :: rest) text ↔
    ∃ span behind, text = span ++ behind ∧ '\n' ∉ span ∧ Matches rest behind := by
  constructor
  · intro matched
    cases matched with
    | anyText _ span behind line later => exact ⟨span, behind, rfl, line, later⟩
    | segmentText _ _ _ single => exact absurd rfl single
    | char _ _ _ star => exact absurd rfl star
  · rintro ⟨span, behind, rfl, line, later⟩
    exact .anyText rest span behind line later

theorem matches_segment_text (rest text : Text) (single : rest.head? ≠ some '*') :
    Matches ('*' :: rest) text ↔
      ∃ span behind, text = span ++ behind ∧ (span ≠ [] ∧ '/' ∉ span) ∧ Matches rest behind := by
  constructor
  · intro matched
    cases matched with
    | anyText => exact absurd rfl single
    | segmentText _ span behind _ filled segment later => exact ⟨span, behind, rfl, ⟨filled, segment⟩, later⟩
    | char _ _ _ star => exact absurd rfl star
  · rintro ⟨span, behind, rfl, ⟨filled, segment⟩, later⟩
    exact .segmentText rest span behind single filled segment later

-- The character that a character of a pattern other than a star stands for.
def meant (c : Char) : Char := if c = '.' then '/' else c

theorem matches_char (c : Char) (rest text : Text) (star : c ≠ '*') : Matches (c :: rest) text ↔
    ∃ span behind, text = span ++ behind ∧ span = [meant c] ∧ Matches rest behind := by
  constructor
  · intro matched
    cases matched with
    | anyText => exact absurd rfl star
    | segmentText => exact absurd rfl star
    | slash _ behind later => exact ⟨_, behind, rfl, rfl, later⟩
    | char _ _ behind _ dot later => exact ⟨[c], behind, rfl, by rw [meant, if_neg dot], later⟩
  · rintro ⟨_, behind, rfl, rfl, later⟩
    by_cases dot : c = '.'
    · rw [meant, if_pos dot, dot]
      exact .slash rest behind later
    · rw [meant, if_neg dot]
      exact .char c rest behind star dot later

open Regex

def partTexts : Text → List (Text → Prop)
  | [] => []
  | '*' :: '*' :: rest => (fun span => '\n' ∉ span) :: partTexts rest
  | '*' :: rest => (fun span => span ≠ [] ∧ '/' ∉ span) :: partTexts rest
  | c :: rest => (fun span => span = [meant c]) :: partTexts rest

theorem cut_parts (pattern text : Text) : Cut (partTexts pattern) text ↔ Matches pattern text := by
  fun_induction partTexts pattern generalizing text with
  | case1 => exact (matches_nil text).symm
  | case2 rest ih => simp only [Cut, ih, matches_any_text]
  | case3 rest single ih =>
      have other : rest.head? ≠ some '*' := by
        intro star
        obtain ⟨tail, rfl⟩ := List.head?_eq_some_iff.mp star
        exact single tail rfl
      simp only [Cut, ih, matches_segment_text rest text other]
  | case4 c rest _ star ih => simp only [Cut, ih, matches_char c rest text star]

-- The question mark that may follow is itself a character of the line.
theorem any_text_denotes : Denotes anyText fun span => '\n' ∉ span := by
  have mark := denotes_alt denotes_empty (denotes_single '?')
  refine denotes_congr (denotes_cat (denotes_without '\n') mark) fun span => ?_
  constructor
  · rintro ⟨front, _, rfl, line, rfl | rfl⟩
    · rwa [List.append_nil]
    · simp [line]
  · intro line
    exact ⟨span, [], (List.append_nil span).symm, line, .inl rfl⟩

theorem mem_without_slash (d : Char) : (CharSet.compl (.union .empty (.single '/'))).mem d = true ↔ d ≠ '/' :=
  (mem_compl (.single '/') d).trans (mem_single '/' d).not

theorem segment_text_denotes :
    Denotes (.cat withoutSlash (.star withoutSlash)) fun span => span ≠ [] ∧ '/' ∉ span := by
  refine denotes_congr (denotes_cat (denotes_class _) (denotes_run _)) fun span => ?_
  simp only [mem_without_slash]
  constructor
  · rintro ⟨_, others, rfl, ⟨c, rfl, first⟩, segment⟩
    refine ⟨List.cons_ne_nil c others, fun slash => ?_⟩
    rcases List.mem_cons.mp slash with same | later
    · exact first same.symm
    · exact segment _ later rfl
  · rintro ⟨filled, segment⟩
    obtain ⟨c, others, rfl⟩ := List.exists_cons_of_ne_nil filled
    obtain ⟨first, segment⟩ := not_or.mp (List.mem_cons.not.mp segment)
    exact ⟨[c], others, rfl, ⟨c, rfl, Ne.symm first⟩, fun d member same => segment (same ▸ member)⟩

theorem parts_denote (pattern : Text) :
    List.Forall₂ Denotes ((partMembers pattern).map (·.regex)) (partTexts pattern) := by
  fun_induction partMembers pattern with
  | case1 => exact .nil
  | case2 rest ih => exact .cons any_text_denotes ih
  | case3 rest single ih =>
      have form : partTexts ('*' :: rest) = (fun span => span ≠ [] ∧ '/' ∉ span) :: partTexts rest := by
        rw [partTexts]
        exact single
      rw [form]
      exact .cons segment_text_denotes ih
  | case4 rest ih => exact .cons (denotes_single '/') ih
  | case5 c rest pair star dot ih =>
      have form : partTexts (c :: rest) = (fun span => span = [meant c]) :: partTexts rest := by
        rw [partTexts]
        · exact pair
        · exact star
      rw [form, meant, if_neg dot]
      exact .cons (denotes_single c) ih

theorem expression_matches (pattern text : Text) :
    (expression pattern).occursIn text = true ↔ Matches pattern text :=
  (occurs_whole _ _ (parts_denote pattern)).trans (cut_parts pattern text)

end ClassPattern

end Shading
