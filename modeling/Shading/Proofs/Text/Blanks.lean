import Mathlib.Data.List.Induction
import Shading.Proofs.Text

set_option autoImplicit false

namespace Shading.Text

def Blank (s : Text) : Prop := ∀ c ∈ s, isBlank c = true

def Unblanked (s : Text) : Prop := ∀ c ∈ s, isBlank c = false

instance (s : Text) : Decidable (Blank s) := List.decidableBAll (fun c => isBlank c = true) s

instance (s : Text) : Decidable (Unblanked s) := List.decidableBAll (fun c => isBlank c = false) s

theorem blank_nil : Blank [] := fun _ member => absurd member List.not_mem_nil

theorem blank_append {a b : Text} (first : Blank a) (second : Blank b) : Blank (a ++ b) := by
  intro c member
  cases List.mem_append.mp member with
  | inl inside => exact first c inside
  | inr inside => exact second c inside

theorem empty_of_blank {s : Text} (blank : Blank s) (unblanked : Unblanked s) : s = [] := by
  cases s with
  | nil => rfl
  | cons c rest =>
      have one := blank c List.mem_cons_self
      rw [unblanked c List.mem_cons_self] at one
      contradiction

theorem trim_end_split (s : Text) : ∃ back, Blank back ∧ s = trimEnd s ++ back := by
  refine ⟨(s.reverse.takeWhile isBlank).reverse, ?_, ?_⟩
  · intro c member
    exact List.mem_takeWhile_imp (List.mem_reverse.mp member)
  · rw [trimEnd, ← List.reverse_append, List.takeWhile_append_dropWhile, List.reverse_reverse]

theorem trim_split (s : Text) : ∃ front back, Blank front ∧ Blank back ∧ s = front ++ trim s ++ back := by
  obtain ⟨back, blank, ending⟩ := trim_end_split (trimStart s)
  refine ⟨s.takeWhile isBlank, back, fun c => List.mem_takeWhile_imp, blank, ?_⟩
  have start : s.takeWhile isBlank ++ trimStart s = s := List.takeWhile_append_dropWhile
  rw [List.append_assoc, trim, ← ending, start]

theorem mem_trim (s : Text) (c : Char) (member : c ∈ trim s) : c ∈ s := by
  obtain ⟨front, back, _, _, whole⟩ := trim_split s
  rw [whole]
  exact List.mem_append_left back (List.mem_append_right front member)

theorem trim_length (s : Text) : (trim s).length ≤ s.length := by
  obtain ⟨front, back, _, _, whole⟩ := trim_split s
  have size := congrArg List.length whole
  simp only [List.length_append] at size
  omega

theorem trim_behind {front : Text} (blank : Blank front) (s : Text) : trim (front ++ s) = trim s := by
  rw [trim, trimStart, List.dropWhile_append_of_pos blank]
  rfl

theorem trim_end_before {back : Text} (blank : Blank back) (s : Text) : trimEnd (s ++ back) = trimEnd s := by
  have behind : ∀ c ∈ back.reverse, isBlank c = true := fun c member => blank c (List.mem_reverse.mp member)
  rw [trimEnd, List.reverse_append, List.dropWhile_append_of_pos behind]
  rfl

theorem trim_nil_iff (s : Text) : trim s = [] ↔ Blank s := by
  constructor
  · intro empty
    obtain ⟨front, back, first, second, whole⟩ := trim_split s
    rw [whole, empty, List.append_nil]
    exact blank_append first second
  · intro blank
    have same := trim_behind blank []
    rw [List.append_nil] at same
    exact same

theorem trim_before {back : Text} (blank : Blank back) (s : Text) : trim (s ++ back) = trim s := by
  by_cases all : Blank s
  · rw [(trim_nil_iff _).mpr (blank_append all blank), (trim_nil_iff s).mpr all]
  · have kept : (s.dropWhile isBlank).isEmpty = false := by
      rw [Bool.eq_false_iff, ne_eq, List.isEmpty_iff, List.dropWhile_eq_nil_iff]
      exact all
    rw [trim, trimStart, List.dropWhile_append, if_neg (by simp [kept]), trim_end_before blank]
    rfl

theorem trim_trim (s : Text) : trim (trim s) = trim s := by
  obtain ⟨front, back, first, second, whole⟩ := trim_split s
  have around : trim (front ++ trim s ++ back) = trim (trim s) := by
    rw [trim_before second, trim_behind first]
  rw [← around, ← whole]

theorem trimmed_iff (s : Text) : trim s = s ↔
    (∀ c, s.head? = some c → isBlank c = false) ∧ ∀ c, s.getLast? = some c → isBlank c = false := by
  have one (c : Char) (blank : ¬ isBlank c = false) : Blank [c] := by simpa [Blank] using blank
  constructor
  · intro same
    constructor
    · intro c first
      obtain ⟨rest, rfl⟩ := List.head?_eq_some_iff.mp first
      by_contra blank
      have shorter := trim_length rest
      rw [← trim_behind (one c blank) rest, List.singleton_append, same, List.length_cons] at shorter
      omega
    · intro c last
      obtain ⟨front, rfl⟩ := List.getLast?_eq_some_iff.mp last
      by_contra blank
      have shorter := trim_length front
      rw [← trim_before (one c blank) front, same, List.length_append, List.length_singleton] at shorter
      omega
  · intro ends
    obtain ⟨front, back, first, second, whole⟩ := trim_split s
    have nothing : front = [] := by
      cases front with
      | nil => rfl
      | cons c more =>
          have filled := ends.1 c (congrArg List.head? whole)
          rw [first c List.mem_cons_self] at filled
          cases filled
    have nothing' : back = [] := by
      cases back using List.reverseRecOn with
      | nil => rfl
      | append_singleton more c _ =>
          have last : s.getLast? = some c := by
            rw [whole, ← List.append_assoc, List.getLast?_concat]
          have filled := ends.2 c last
          rw [second c (List.mem_append_right more List.mem_cons_self)] at filled
          cases filled
    rw [nothing, nothing', List.append_nil] at whole
    exact whole.symm

theorem trim_opening (d : Char) (rest : Text) (filled : isBlank d = false) :
    ∃ tail, trim (d :: rest) = d :: tail := by
  obtain ⟨front, back, first, second, whole⟩ := trim_split (d :: rest)
  cases front with
  | cons c more =>
      rw [(List.cons.inj whole).1, first c List.mem_cons_self] at filled
      contradiction
  | nil =>
      cases trimmed : trim (d :: rest) with
      | nil =>
          have blank := (trim_nil_iff _).mp trimmed d List.mem_cons_self
          rw [filled] at blank
          contradiction
      | cons c tail =>
          rw [trimmed] at whole
          exact ⟨tail, by rw [(List.cons.inj whole).1]⟩

variable {pattern : Text}

theorem prefix_before_blanks (unblanked : Unblanked pattern) (s : Text) {back : Text} (blank : Blank back) :
    pattern <+: s ++ back ↔ pattern <+: s := by
  refine prefix_before pattern s back fun c first member => ?_
  have one := blank c (List.mem_of_mem_head? first)
  rw [unblanked c member] at one
  contradiction

theorem infix_before_blanks (filled : pattern ≠ []) (unblanked : Unblanked pattern) (s : Text) {back : Text}
    (blank : Blank back) (within : pattern <:+: s ++ back) : pattern <:+: s := by
  induction s with
  | nil => exact absurd (empty_of_blank (fun c member => blank c (within.subset member)) unblanked) filled
  | cons c rest ih =>
      cases List.infix_cons_iff.mp within with
      | inl begins => exact ((prefix_before_blanks unblanked (c :: rest) blank).mp begins).isInfix
      | inr later => exact List.infix_cons (ih later)

theorem not_prefix_of_blank (filled : pattern ≠ []) (unblanked : Unblanked pattern) (c : Char) (rest : Text)
    (blank : isBlank c = true) : ¬ pattern <+: c :: rest := by
  intro begins
  obtain ⟨d, more, rfl⟩ := List.exists_cons_of_ne_nil filled
  have one := unblanked d List.mem_cons_self
  rw [(List.cons_prefix_cons.mp begins).1, blank] at one
  contradiction

theorem infix_behind_blanks (filled : pattern ≠ []) (unblanked : Unblanked pattern) (s : Text) {front : Text}
    (blank : Blank front) (within : pattern <:+: front ++ s) : pattern <:+: s := by
  induction front with
  | nil => exact within
  | cons c rest ih =>
      have start := not_prefix_of_blank filled unblanked c (rest ++ s) (blank c List.mem_cons_self)
      exact ih (fun d member => blank d (List.mem_cons_of_mem c member))
        ((List.infix_cons_iff.mp within).resolve_left start)

theorem infix_trim_iff (filled : pattern ≠ []) (unblanked : Unblanked pattern) (s : Text) :
    pattern <:+: trim s ↔ pattern <:+: s := by
  obtain ⟨front, back, first, second, whole⟩ := trim_split s
  constructor
  · intro within
    rw [whole]
    exact within.trans ⟨front, back, rfl⟩
  · intro within
    rw [whole] at within
    exact infix_behind_blanks filled unblanked (trim s) first
      (infix_before_blanks filled unblanked (front ++ trim s) second within)

theorem replace_first_behind_blanks (filled : pattern ≠ []) (unblanked : Unblanked pattern)
    (replacement s : Text) {front : Text} (blank : Blank front) :
    replaceFirst pattern replacement (front ++ s) = front ++ replaceFirst pattern replacement s := by
  induction front with
  | nil => rfl
  | cons c rest ih =>
      have start := not_prefix_of_blank filled unblanked c (rest ++ s) (blank c List.mem_cons_self)
      rw [List.cons_append, replace_first_later _ _ _ _ start,
        ih fun d member => blank d (List.mem_cons_of_mem c member)]
      rfl

theorem replaced_trimmed (pattern replacement s : Text) (filled : replacement ≠ [])
    (unblanked : Unblanked replacement) (trimmed : trim s = s) :
    trim (replaceFirst pattern replacement s) = replaceFirst pattern replacement s := by
  rw [trimmed_iff] at trimmed ⊢
  constructor
  · intro c first
    cases replace_first_first pattern replacement s filled with
    | inl same => exact trimmed.1 c (same ▸ first)
    | inr new => exact unblanked c (List.mem_of_mem_head? (new ▸ first))
  · intro c last
    cases replace_first_last pattern replacement s filled with
    | inl same => exact trimmed.2 c (same ▸ last)
    | inr new => exact unblanked c (List.mem_of_mem_getLast? (new ▸ last))

theorem trim_replace_first (filled : pattern ≠ []) (unblanked : Unblanked pattern) (replacement s : Text)
    (filled' : replacement ≠ []) (unblanked' : Unblanked replacement) :
    trim (replaceFirst pattern replacement s) = replaceFirst pattern replacement (trim s) := by
  by_cases within : pattern <:+: trim s
  · obtain ⟨front, back, first, second, whole⟩ := trim_split s
    have moved : replaceFirst pattern replacement s =
        front ++ (replaceFirst pattern replacement (trim s) ++ back) := by
      rw [← replace_first_append _ _ _ back within, ← replace_first_behind_blanks filled unblanked _ _ first,
        ← List.append_assoc, ← whole]
    rw [moved, trim_behind first, trim_before second]
    exact replaced_trimmed pattern replacement (trim s) filled' unblanked' (trim_trim s)
  · have outside : ¬ pattern <:+: s := fun inside => within ((infix_trim_iff filled unblanked s).mpr inside)
    rw [replace_first_missing _ _ _ within, replace_first_missing _ _ _ outside]

end Shading.Text
