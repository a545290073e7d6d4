import Mathlib.Data.List.Basic
import Mathlib.Tactic.ByContra
import Shading.ClassPattern
import Shading.Proofs.Text

set_option autoImplicit false

namespace Shading.ClassPattern

open Regex

def Legal (c : Char) : Prop := c = '*' ∨ c = '.' ∨ isIdentifierPart c = true

-- The characters that mean something in an expression.
def special : Text := [')', '|', '(', '[', '?', '*', '+', '{', '.', '^', '$', '\\']

theorem part_ordinary (c : Char) (part : isIdentifierPart c = true) (other : c ≠ '$') : c ∉ special := by
  have none : special.all (fun d => d == '$' || !isIdentifierPart d) = true := by decide
  intro member
  have excluded := List.all_eq_true.mp none c member
  rw [part, Bool.not_true, Bool.or_false, beq_iff_eq] at excluded
  exact other excluded

theorem start_is_part (c : Char) (start : isIdentifierStart c = true) : isIdentifierPart c = true := by
  unfold isIdentifierStart at start
  unfold isIdentifierPart Unicode.isAlphanumeric
  simp only [Bool.or_eq_true] at start ⊢
  tauto

theorem identifier_parts (part : Text) (identifier : isIdentifier part = true) :
    ∀ c ∈ part, isIdentifierPart c = true := by
  cases part with
  | nil => nofun
  | cons first rest =>
      simp only [isIdentifier, Bool.and_eq_true, List.all_eq_true] at identifier
      exact List.forall_mem_cons.mpr ⟨start_is_part first identifier.1.2, identifier.2⟩

theorem name_chars (name : Text) (qualified : isQualifiedName name = true) :
    ∀ c ∈ name, c = '.' ∨ isIdentifierPart c = true := by
  intro c member
  have whole : Text.join ['.'] (Text.split '.' name) = name := List.intercalate_splitOn '.'
  rw [← whole] at member
  rcases Text.mem_join '.' _ c member with dot | ⟨part, listed, inside⟩
  · exact .inl dot
  · exact .inr (identifier_parts part (List.all_eq_true.mp qualified part listed) c inside)

theorem pattern_chars (pattern : Text) (accepted : isPattern pattern = true) : ∀ c ∈ pattern, Legal c := by
  rw [isPattern, Bool.and_eq_true] at accepted
  intro c member
  by_cases star : c = '*'
  · exact .inl star
  · have inside : c ∈ Text.exchange '*' 'X' pattern := List.mem_map.mpr ⟨c, member, if_neg star⟩
    exact .inr (name_chars _ accepted.2 c inside)

def anyText : Regex :=
  .cat (.star (.chars (.compl (.single '\n')))) (.alt .empty (.chars (.single '?')))

def withoutSlash : Regex := .chars (.compl (.union .empty (.single '/')))

-- What is read for a pattern between the start and the end of the text.
def partMembers : Text → List Regex.Member
  | [] => []
  | '*' :: '*' :: rest => ⟨anyText, 3, false⟩ :: partMembers rest
  | '*' :: rest => ⟨.cat withoutSlash (.star withoutSlash), 3, false⟩ :: partMembers rest
  | '.' :: rest => ⟨.chars (.single '/'), 0, false⟩ :: partMembers rest
  | c :: rest => ⟨.chars (.single c), 0, false⟩ :: partMembers rest

theorem part_depths (pattern : Text) : ∀ m ∈ partMembers pattern, m.depth ≤ 3 := by
  fun_induction partMembers pattern with
  | case1 => nofun
  | case2 rest ih => exact List.forall_mem_cons.mpr ⟨Nat.le_refl 3, ih⟩
  | case3 rest _ ih => exact List.forall_mem_cons.mpr ⟨Nat.le_refl 3, ih⟩
  | case4 rest ih => exact List.forall_mem_cons.mpr ⟨Nat.zero_le 3, ih⟩
  | case5 c rest _ _ _ ih => exact List.forall_mem_cons.mpr ⟨Nat.zero_le 3, ih⟩

def expression (pattern : Text) : Regex := Regex.whole ((partMembers pattern).map (·.regex))

-- The reader takes a piece of text as one member, whatever comes before and after it.
def Taken (piece : Text) (m : Regex.Member) : Prop := ∀ (members : List Regex.Member) (fuel : Nat) (rest : Text),
  (piece ++ rest).length ≤ fuel → takeAlternatives? false [] members (fuel + 1) ⟨piece ++ rest, {}, []⟩ =
    takeAlternatives? false [] (m :: members) fuel ⟨rest, {}, []⟩

theorem any_text_taken : Taken "(.*\\??)".toList ⟨anyText, 3, false⟩ := by
  intro members fuel rest enough
  obtain ⟨more, rfl⟩ := Nat.exists_eq_add_of_le (show 6 ≤ fuel from le_trans (by simp) enough)
  rw [Nat.add_comm 6 more]
  rfl

theorem segment_text_taken :
    Taken "([^/]+)".toList ⟨.cat withoutSlash (.star withoutSlash), 3, false⟩ := by
  intro members fuel rest enough
  obtain ⟨more, rfl⟩ := Nat.exists_eq_add_of_le (show 4 ≤ fuel from le_trans (by simp) enough)
  rw [Nat.add_comm 4 more]
  rfl

theorem dollar_taken : Taken "\\$".toList ⟨.chars (.single '$'), 0, false⟩ := fun _ _ _ _ => rfl

theorem ordinary_taken (c : Char) (ordinary : c ∉ special) : Taken [c] ⟨.chars (.single c), 0, false⟩ := by
  intro members fuel rest _
  simp only [special, List.mem_cons, List.not_mem_nil, or_false, not_or] at ordinary
  obtain ⟨_, _, _, _, _, _, _, _, _, _, _, _⟩ := ordinary
  rw [List.singleton_append, takeAlternatives?.eq_def]
  simp only [Flags.skip, Bool.false_eq_true, if_false]
  rfl

def TakenAll (text : Text) (ms : List Regex.Member) : Prop :=
  ∀ (members : List Regex.Member) (fuel : Nat) (rest : Text), (text ++ rest).length < fuel → ∃ left,
    rest.length < left ∧ takeAlternatives? false [] members fuel ⟨text ++ rest, {}, []⟩ =
      takeAlternatives? false [] (ms.reverse ++ members) left ⟨rest, {}, []⟩

theorem Taken.before {piece text : Text} {m : Regex.Member} {ms : List Regex.Member} (taken : Taken piece m)
    (filled : piece ≠ []) (later : TakenAll text ms) : TakenAll (piece ++ text) (m :: ms) := by
  intro members fuel rest enough
  rw [List.append_assoc] at enough ⊢
  obtain ⟨fuel, rfl⟩ := Nat.exists_eq_succ_of_ne_zero (Nat.ne_zero_of_lt enough)
  have shorter : (text ++ rest).length < fuel := by
    have positive := List.length_pos_iff.mpr filled
    rw [List.length_append] at enough
    omega
  obtain ⟨left, bound, same⟩ := later (m :: members) fuel rest shorter
  refine ⟨left, bound, ?_⟩
  rw [taken members fuel (text ++ rest) (Nat.le_of_lt_succ enough), same, List.reverse_cons, List.append_assoc]
  rfl

theorem parts_taken (pattern : Text) (legal : ∀ c ∈ pattern, Legal c) :
    TakenAll (regexParts pattern) (partMembers pattern) := by
  fun_induction regexParts pattern with
  | case1 => exact fun members fuel rest enough => ⟨fuel, enough, rfl⟩
  | case2 rest ih =>
      obtain ⟨_, legal⟩ := List.forall_mem_cons.mp legal
      obtain ⟨_, legal⟩ := List.forall_mem_cons.mp legal
      exact any_text_taken.before (by decide) (ih legal)
  | case3 rest single ih =>
      obtain ⟨_, legal⟩ := List.forall_mem_cons.mp legal
      have form : partMembers ('*' :: rest) =
          ⟨.cat withoutSlash (.star withoutSlash), 3, false⟩ :: partMembers rest := by
        rw [partMembers]
        exact single
      rw [form]
      exact segment_text_taken.before (by decide) (ih legal)
  | case4 rest ih =>
      obtain ⟨_, legal⟩ := List.forall_mem_cons.mp legal
      exact dollar_taken.before (by decide) (ih legal)
  | case5 rest ih =>
      obtain ⟨_, legal⟩ := List.forall_mem_cons.mp legal
      exact (ordinary_taken '/' (by decide)).before (by decide) (ih legal)
  | case6 c rest pair single dollar dot ih =>
      obtain ⟨first, legal⟩ := List.forall_mem_cons.mp legal
      have part : isIdentifierPart c = true := (first.resolve_left single).resolve_left dot
      have form : partMembers (c :: rest) = ⟨.chars (.single c), 0, false⟩ :: partMembers rest := by
        rw [partMembers]
        · exact pair
        · exact single
        · exact dot
      rw [form]
      exact (ordinary_taken c (part_ordinary c part dollar)).before (by simp) (ih legal)

theorem foldl_max_le (depths : List Nat) (first bound : Nat) (small : first ≤ bound)
    (each : ∀ d ∈ depths, d ≤ bound) : depths.foldl max first ≤ bound := by
  induction depths generalizing first with
  | nil => exact small
  | cons d rest ih =>
      obtain ⟨here, later⟩ := List.forall_mem_cons.mp each
      exact ih (max first d) (Nat.max_le.mpr ⟨small, here⟩) later

theorem alternate_one (members : List Regex.Member) : alternate [concatenate members] = concatenate members := by
  rw [concatenate]
  unfold joined
  split <;> rfl

theorem concatenate_between (first last : Regex.Member) (ms : List Regex.Member) :
    concatenate (first :: (ms ++ [last])) =
      ⟨.cat first.regex (ms.foldr (fun m r => .cat m.regex r) last.regex),
        ((first :: (ms ++ [last])).map (·.depth)).foldl max 0 + 1, false⟩ := by
  obtain ⟨second, others, form⟩ := List.exists_cons_of_ne_nil
    (List.append_ne_nil_of_right_ne_nil ms (List.cons_ne_nil last []))
  have front : (second :: others).dropLast = ms := by rw [← form, List.dropLast_concat]
  have back : (second :: others).getLast? = some last := by rw [← form, List.getLast?_concat]
  rw [form, concatenate, joined, List.dropLast_cons_of_ne_nil (List.cons_ne_nil _ _), front, List.getLast?_cons, back]
  · rfl
  · nofun
  · nofun

def startMember : Regex.Member := ⟨.look .textStart, 0, false⟩

def endMember : Regex.Member := ⟨.look .textEnd, 0, false⟩

theorem expression_concatenated (pattern : Text) :
    (concatenate (startMember :: (partMembers pattern ++ [endMember]))).regex = expression pattern ∧
      (concatenate (startMember :: (partMembers pattern ++ [endMember]))).depth ≤ nestLimit := by
  rw [concatenate_between]
  have shallow : ∀ d ∈ (startMember :: (partMembers pattern ++ [endMember])).map (·.depth), d ≤ 3 := by
    refine List.forall_mem_map.mpr (List.forall_mem_cons.mpr ⟨Nat.zero_le 3, fun m listed => ?_⟩)
    rcases List.mem_append.mp listed with part | last
    · exact part_depths pattern m part
    · rw [List.mem_singleton.mp last]
      exact Nat.zero_le 3
  constructor
  · rw [expression, Regex.whole, List.foldr_map]
    rfl
  · have small := foldl_max_le _ 0 3 (Nat.zero_le 3) shallow
    exact (Nat.succ_le_succ small).trans (by decide)

theorem regex_text_read (pattern : Text) (legal : ∀ c ∈ pattern, Legal c) :
    Regex.parse? (regexText pattern) = some (expression pattern) := by
  have form : regexText pattern = "\\A".toList ++ (regexParts pattern ++ "\\z".toList) := List.append_assoc _ _ _
  have length : (regexText pattern).length = (regexParts pattern).length + 4 := by
    rw [form, List.length_append, List.length_append]
    exact Nat.add_comm 2 _
  obtain ⟨left, bound, same⟩ := parts_taken pattern legal [startMember] ((regexParts pattern).length + 4)
    "\\z".toList (by simp)
  obtain ⟨fuel, rfl⟩ := Nat.exists_eq_add_of_le (show 3 ≤ left from bound)
  have start : takeAlternatives? false [] [] ((regexText pattern).length + 1) ⟨regexText pattern, {}, []⟩ =
      takeAlternatives? false [] [startMember] ((regexParts pattern).length + 4)
        ⟨regexParts pattern ++ "\\z".toList, {}, []⟩ := by
    rw [length, form]
    rfl
  have finish (members : List Regex.Member) : takeAlternatives? false [] members (3 + fuel) ⟨"\\z".toList, {}, []⟩ =
      some (concatenate (members.reverse ++ [endMember]), ⟨[], {}, []⟩) := by
    rw [Nat.add_comm 3 fuel, ← List.reverse_cons, ← alternate_one]
    rfl
  have members : ((partMembers pattern).reverse ++ [startMember]).reverse ++ [endMember] =
      startMember :: (partMembers pattern ++ [endMember]) := by simp
  obtain ⟨regex, shallow⟩ := expression_concatenated pattern
  show (takeAlternatives? false [] [] ((regexText pattern).length + 1) ⟨regexText pattern, {}, []⟩).bind _ = _
  rw [start, same, finish, members]
  show (if _ > nestLimit then none else some _) = _
  rw [if_neg (Nat.not_lt.mpr shallow), regex]

end Shading.ClassPattern
