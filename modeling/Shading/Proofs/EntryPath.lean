import Shading.EntryPath
import Shading.Proofs.Text

set_option autoImplicit false

namespace Shading

namespace Text

theorem ends_with_last (c : Char) (s : Text) : endsWith [c] s = true ↔ s.getLast? = some c := by
  unfold endsWith
  rw [List.isSuffixOf_iff_suffix, List.getLast?_eq_some_iff]
  constructor
  · intro suffix
    obtain ⟨front, whole⟩ := suffix
    exact ⟨front, whole.symm⟩
  · intro some
    obtain ⟨front, whole⟩ := some
    exact ⟨front, whole.symm⟩

theorem split_plain (mark : Char) (s part : Text) (member : part ∈ split mark s) : mark ∉ part := by
  unfold split List.splitOn at member
  induction s generalizing part with
  | nil =>
      rw [List.splitOnP_nil, List.mem_singleton] at member
      simp [member]
  | cons c rest ih =>
      rw [List.splitOnP_cons_eq_if_modifyHead] at member
      by_cases same : (c == mark) = true
      · rw [if_pos same] at member
        cases List.mem_cons.mp member with
        | inl empty => simp [empty]
        | inr later => exact ih part later
      · rw [if_neg same] at member
        cases parts : List.splitOnP (fun x => x == mark) rest with
        | nil => simp [parts] at member
        | cons first others =>
            rw [parts] at member ih
            cases List.mem_cons.mp member with
            | inl begun =>
                have free := ih first (List.mem_cons_self ..)
                have other : mark ≠ c := fun equal => same (by simp [equal])
                simp [begun, other, free]
            | inr later => exact ih part (List.mem_cons_of_mem first later)

theorem segment_plain (name segment : Text) (member : segment ∈ segments name) :
    segment ≠ [] ∧ '/' ∉ segment := by
  obtain ⟨part, filled⟩ := List.mem_filter.mp member
  exact ⟨by simpa using filled, split_plain '/' name segment part⟩

theorem join_closed (parts : List Text) (filled : parts ≠ []) :
    join ['/'] (parts ++ [[]]) = join ['/'] parts ++ ['/'] := by
  induction parts with
  | nil => contradiction
  | cons first rest ih =>
      cases rest with
      | nil => simp [join]
      | cons second others =>
          have tail := ih (List.cons_ne_nil second others)
          unfold join at tail ⊢
          rw [List.cons_append, List.cons_append, List.intercalate_cons_cons,
            List.intercalate_cons_cons]
          rw [List.cons_append] at tail
          rw [tail]
          simp

theorem segments_of_closed (parts : List Text) (filled : parts ≠ [])
    (plain : ∀ part ∈ parts, part ≠ [] ∧ '/' ∉ part) :
    segments (join ['/'] parts ++ ['/']) = parts := by
  have free : ∀ part ∈ parts ++ [[]], '/' ∉ part := by
    intro part member
    cases List.mem_append.mp member with
    | inl inside => exact (plain part inside).2
    | inr last =>
        rw [List.mem_singleton.mp last]
        exact List.not_mem_nil
  have cut : split '/' (join ['/'] (parts ++ [[]])) = parts ++ [[]] :=
    List.splitOn_intercalate '/' free (by simp)
  have kept : parts.filter (fun part => !part.isEmpty) = parts :=
    List.filter_eq_self.mpr fun part member => by simpa using (plain part member).1
  unfold segments
  rw [← join_closed parts filled, cut, List.filter_append, kept]
  simp

theorem segments_slash (front back : Text) : segments (front ++ '/' :: back) = segments front ++ segments back := by
  rw [segments, segments, segments, split, List.splitOn_append_cons_self front back, List.filter_append]
  rfl

theorem segments_slashes (n : Nat) (back : Text) : segments (List.replicate n '/' ++ back) = segments back := by
  induction n with
  | zero => rfl
  | succ n ih =>
      have first := segments_slash [] (List.replicate n '/' ++ back)
      rw [ih] at first
      exact first

theorem segments_slashes_behind (n : Nat) (path : Text) :
    segments (path ++ List.replicate n '/') = segments path := by
  cases n with
  | zero => rw [List.replicate_zero, List.append_nil]
  | succ n =>
      have none := segments_slashes n []
      rw [List.append_nil] at none
      rw [List.replicate_succ, segments_slash, none]
      exact List.append_nil _

theorem split_ending (mark : Char) (s ending : Text) (plain : mark ∉ ending) :
    ∃ front last, split mark (s ++ ending) = front ++ [last ++ ending] := by
  unfold split
  induction s with
  | nil => exact ⟨[], [], List.splitOn_eq_singleton plain⟩
  | cons c rest ih =>
      obtain ⟨front, last, parts⟩ := ih
      rw [List.cons_append, List.splitOn_cons_eq_if_modifyHead, parts]
      by_cases same : (c == mark) = true
      · rw [if_pos same]
        exact ⟨[] :: front, last, rfl⟩
      · rw [if_neg same]
        cases front with
        | nil => exact ⟨[], c :: last, rfl⟩
        | cons first others => exact ⟨(c :: first) :: others, last, rfl⟩

end Text

namespace EntryPath

def NamesFile (name : Text) : Prop := (parse name).isFile = true

theorem names_file_iff (name : Text) : NamesFile name ↔ name.getLast? ≠ some '/' := by
  unfold NamesFile parse
  rw [Bool.not_eq_true', ← Bool.not_eq_true, Text.ends_with_last]

theorem class_entry_is_class_file (n : Text) : (parse (n ++ classSuffix)).isClassFile = true := by
  obtain ⟨front, last, parts⟩ := Text.split_ending '/' n classSuffix (by decide)
  have file : NamesFile (n ++ classSuffix) := by
    rw [names_file_iff, List.getLast?_append, show classSuffix.getLast? = some 's' from rfl]
    simp
  have name : (parse (n ++ classSuffix)).lastName = last ++ classSuffix := by
    unfold parse lastName Text.segments
    dsimp only
    have filled : last ++ classSuffix ≠ [] := List.append_ne_nil_of_right_ne_nil last (by decide)
    rw [parts, List.filter_append, List.filter_cons_of_pos (by simpa using filled), List.filter_nil,
      List.getLast?_concat, Option.getD_some]
  unfold isClassFile
  rw [name, show (parse (n ++ classSuffix)).isFile = true from file, Bool.true_and]
  exact List.isSuffixOf_iff_suffix.mpr (List.suffix_append last classSuffix)

theorem names_file_append (front back : Text) (first : NamesFile front) (second : NamesFile back) :
    NamesFile (front ++ back) := by
  rw [names_file_iff] at first second ⊢
  rw [List.getLast?_append]
  cases last : back.getLast? with
  | none => exact first
  | some c =>
      rw [last] at second
      exact second

theorem names_file_tail (front back : Text) (whole : NamesFile (front ++ back)) : NamesFile back := by
  rw [names_file_iff] at whole ⊢
  intro closed
  rw [List.getLast?_append, closed] at whole
  exact whole rfl

def directoryName (segments : List Text) : Text := entryName ⟨segments, false⟩

structure Surrounds (segments : List Text) (name : Text) : Prop where
  filled : segments ≠ []
  begins : segments <+: Text.segments name
  proper : segments ≠ Text.segments name

-- The directories around a name down to the given depth, from the outermost inwards.
def outward (name : Text) (depth : Nat) : List EntryPath :=
  (List.range depth).map fun n => ⟨(Text.segments name).take (n + 1), false⟩

theorem outward_succ (name : Text) (depth : Nat) :
    outward name (depth + 1) = outward name depth ++ [⟨(Text.segments name).take (depth + 1), false⟩] := by
  unfold outward
  rw [List.range_succ, List.map_append]
  rfl

theorem ancestors_outward (name : Text) :
    (parse name).ancestors.reverse = outward name ((Text.segments name).length - 1) := by
  unfold ancestors parse outward
  rw [List.map_reverse, List.reverse_reverse]

theorem surrounds_iff (segments : List Text) (name : Text) :
    Surrounds segments name ↔
      ∃ n < (Text.segments name).length - 1, segments = (Text.segments name).take (n + 1) := by
  constructor
  · intro surrounds
    have taken := List.prefix_iff_eq_take.mp surrounds.begins
    have positive : segments.length ≠ 0 := fun empty =>
      surrounds.filled (List.length_eq_zero_iff.mp empty)
    have shorter : segments.length < (Text.segments name).length := by
      by_contra full
      have same := surrounds.begins.eq_of_length_le (by omega)
      exact surrounds.proper same
    refine ⟨segments.length - 1, by omega, ?_⟩
    rw [show segments.length - 1 + 1 = segments.length by omega]
    exact taken
  · intro some
    obtain ⟨n, bound, rfl⟩ := some
    have length : ((Text.segments name).take (n + 1)).length = n + 1 := by
      rw [List.length_take]
      omega
    refine ⟨?_, List.take_prefix _ _, ?_⟩
    · intro empty
      simp [empty] at length
    · intro same
      rw [same] at length
      omega

theorem Surrounds.segments_of_name {segments : List Text} {name : Text}
    (surrounds : Surrounds segments name) : Text.segments (directoryName segments) = segments :=
  Text.segments_of_closed segments surrounds.filled fun part member =>
    Text.segment_plain name part (surrounds.begins.subset member)

end EntryPath

end Shading
