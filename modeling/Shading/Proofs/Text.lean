import Mathlib.Data.List.Basic
import Mathlib.Data.List.TakeDrop
import Mathlib.Data.List.TakeWhile
import Shading.Text

set_option autoImplicit false

namespace Shading.Text

theorem drop_start_some (start s rest : Text) : dropStart? start s = some rest ↔ s = start ++ rest := by
  rw [dropStart?, List.isPrefixOf?_eq_some_iff_append_eq]
  exact eq_comm

theorem drop_end_some (ending s front : Text) : dropEnd? ending s = some front ↔ s = front ++ ending := by
  rw [dropEnd?, List.isSuffixOf?_eq_some_iff_append_eq]
  exact eq_comm

theorem differs_of_not_mem (mark : Char) (s : Text) (free : mark ∉ s) : ∀ c ∈ s, (c != mark) = true := by
  intro c member
  simp only [bne_iff_ne, ne_eq]
  rintro rfl
  exact free member

theorem cut_at_some (mark : Char) (s front back : Text) :
    cutAt? mark s = some (front, back) ↔ s = front ++ mark :: back ∧ mark ∉ front := by
  unfold cutAt?
  rw [List.span_eq_takeWhile_dropWhile]
  constructor
  · intro cut
    split at cut
    · cases cut
    · rename_i before c after pair
      cases cut
      obtain ⟨first, second⟩ := Prod.mk.inj pair
      have found := List.head?_dropWhile_not (· != mark) s
      rw [second] at found
      have same : c = mark := by simpa using found
      refine ⟨?_, ?_⟩
      · rw [← List.takeWhile_append_dropWhile (p := (· != mark)) (l := s), first, second, same]
      · rw [← first]
        intro member
        simpa using List.mem_takeWhile_imp member
  · rintro ⟨rfl, free⟩
    have keep := differs_of_not_mem mark front free
    rw [List.takeWhile_append_of_pos keep, List.dropWhile_append_of_pos keep,
      List.takeWhile_cons_of_neg (by simp), List.dropWhile_cons_of_neg (by simp), List.append_nil]

theorem mem_join (mark : Char) (parts : List Text) (c : Char) (member : c ∈ join [mark] parts) :
    c = mark ∨ ∃ part ∈ parts, c ∈ part := by
  induction parts with
  | nil => cases member
  | cons first rest ih =>
      cases rest with
      | nil =>
          rw [join, List.intercalate_singleton] at member
          exact .inr ⟨first, List.mem_cons_self, member⟩
      | cons second others =>
          rw [join, List.intercalate_cons_cons] at member
          rcases List.mem_append.mp member with inside | later
          · rcases List.mem_append.mp inside with here | between
            · exact .inr ⟨first, List.mem_cons_self, here⟩
            · exact .inl (List.mem_singleton.mp between)
          · rcases ih later with same | ⟨part, listed, inside⟩
            · exact .inl same
            · exact .inr ⟨part, List.mem_cons_of_mem _ listed, inside⟩

theorem join_cons (mark : Char) (first : Text) (rest : List Text) :
    join [mark] (first :: rest) = first ++ rest.flatMap (mark :: ·) := by
  induction rest generalizing first with
  | nil => rw [join, List.intercalate_singleton, List.flatMap_nil, List.append_nil]
  | cons second others ih =>
      rw [join, List.intercalate_cons_cons, ← join, ih, List.flatMap_cons, List.append_assoc]
      rfl

theorem join_begins (mark : Char) (first : Text) (rest : List Text) :
    first <+: join [mark] (first :: rest) := ⟨_, (join_cons mark first rest).symm⟩

theorem slash_not_mem_dotted (s : Text) : '/' ∉ dotted s := by
  intro member
  obtain ⟨c, _, same⟩ := List.mem_map.mp member
  by_cases slash : c = '/'
  · simp [slash] at same
  · rw [if_neg slash] at same
    exact slash same

theorem dot_not_mem_slashed (s : Text) : '.' ∉ slashed s := by
  intro member
  obtain ⟨c, _, same⟩ := List.mem_map.mp member
  by_cases dot : c = '.'
  · simp [dot] at same
  · rw [if_neg dot] at same
    exact dot same

theorem exchange_absent (old new : Char) (s : Text) (free : old ∉ s) : exchange old new s = s := by
  induction s with
  | nil => rfl
  | cons c rest ih =>
      have other : c ≠ old := fun same => free (by simp [same])
      have later : old ∉ rest := fun member => free (List.mem_cons_of_mem c member)
      have tail := ih later
      unfold exchange at tail ⊢
      rw [List.map_cons, if_neg other, tail]

theorem dotted_slashed (s : Text) (free : '/' ∉ s) : dotted (slashed s) = s := by
  have same : ∀ c ∈ s, (fun c => if (if c = '.' then '/' else c) = '/' then '.'
      else if c = '.' then '/' else c) c = c := by
    intro c member
    have other : c ≠ '/' := fun slash => free (slash ▸ member)
    by_cases dot : c = '.'
    · simp [dot]
    · simp [dot, other]
  unfold dotted slashed exchange
  rw [List.map_map]
  exact (List.map_congr_left same).trans s.map_id

theorem slashed_dotted (s : Text) : slashed (dotted s) = slashed s := by
  unfold slashed dotted exchange
  rw [List.map_map]
  refine List.map_congr_left fun c _ => ?_
  by_cases slash : c = '/'
  · simp [slash]
  · simp [slash]

theorem slashed_append (a b : Text) : slashed (a ++ b) = slashed a ++ slashed b := List.map_append

theorem dotted_append (a b : Text) : dotted (a ++ b) = dotted a ++ dotted b := List.map_append

theorem slashed_char (a b : Char) (free : a ≠ '/') (free' : b ≠ '/') :
    ((if a = '.' then '/' else a) = if b = '.' then '/' else b) ↔ a = b := by
  by_cases dotA : a = '.' <;> by_cases dotB : b = '.' <;> grind

theorem drop_start_slashed (start s : Text) (free : '/' ∉ start) (plain : '/' ∉ s) :
    dropStart? (slashed start) (slashed s) = (dropStart? start s).map slashed := by
  induction start generalizing s with
  | nil => rfl
  | cons a start ih =>
      cases s with
      | nil => rfl
      | cons b s =>
          obtain ⟨first, others⟩ := List.ne_and_not_mem_of_not_mem_cons free
          obtain ⟨first', others'⟩ := List.ne_and_not_mem_of_not_mem_cons plain
          have tail := ih s others others'
          have alike := slashed_char a b first.symm first'.symm
          unfold dropStart? slashed exchange at tail ⊢
          simp only [List.map_cons, List.isPrefixOf?, beq_iff_eq, alike]
          by_cases same : a = b
          · rw [if_pos same, if_pos same]
            exact tail
          · rw [if_neg same, if_neg same]
            rfl

theorem replace_first_slashed (pattern replacement s : Text) (free : '/' ∉ pattern)
    (plain : '/' ∉ s) :
    replaceFirst (slashed pattern) (slashed replacement) (slashed s) =
      slashed (replaceFirst pattern replacement s) := by
  induction s with
  | nil =>
      cases pattern with
      | nil => rfl
      | cons c rest => rfl
  | cons c rest ih =>
      obtain ⟨_, later⟩ := List.ne_and_not_mem_of_not_mem_cons plain
      have start := drop_start_slashed pattern (c :: rest) free plain
      have tail := ih later
      unfold slashed exchange at start tail ⊢
      rw [List.map_cons] at start ⊢
      unfold replaceFirst
      rw [start]
      cases dropStart? pattern (c :: rest) with
      | none => exact congrArg _ tail
      | some after => exact List.map_append.symm

theorem replace_first_empty (replacement s : Text) : replaceFirst [] replacement s = replacement ++ s := by
  cases s with
  | nil => exact (List.append_nil replacement).symm
  | cons c rest => rfl

theorem replace_first_start (pattern replacement rest : Text) :
    replaceFirst pattern replacement (pattern ++ rest) = replacement ++ rest := by
  cases pattern with
  | nil => exact replace_first_empty replacement rest
  | cons c tail =>
      have start := (drop_start_some (c :: tail) (c :: (tail ++ rest)) rest).mpr rfl
      rw [List.cons_append, replaceFirst, start]

theorem replace_first_later (pattern replacement rest : Text) (c : Char) (other : ¬ pattern <+: c :: rest) :
    replaceFirst pattern replacement (c :: rest) = c :: replaceFirst pattern replacement rest := by
  have start : dropStart? pattern (c :: rest) = none := by
    cases start : dropStart? pattern (c :: rest) with
    | none => rfl
    | some after => exact absurd ⟨after, ((drop_start_some _ _ _).mp start).symm⟩ other
  rw [replaceFirst, start]

theorem replace_first_append (pattern replacement s more : Text) (within : pattern <:+: s) :
    replaceFirst pattern replacement (s ++ more) = replaceFirst pattern replacement s ++ more := by
  induction s with
  | nil =>
      rw [List.infix_nil.mp within, replace_first_empty, replace_first_empty, List.append_assoc]
  | cons c rest ih =>
      by_cases start : pattern <+: c :: rest
      · obtain ⟨after, whole⟩ := start
        rw [← whole, List.append_assoc, replace_first_start, replace_first_start, List.append_assoc]
      · have later := (List.infix_cons_iff.mp within).resolve_left start
        have start' : ¬ pattern <+: c :: (rest ++ more) := fun begins =>
          start (List.prefix_of_prefix_length_le begins (List.prefix_append (c :: rest) more)
            (later.length_le.trans (Nat.le_succ _)))
        rw [List.cons_append, replace_first_later _ _ _ _ start', replace_first_later _ _ _ _ start, ih later]
        rfl

theorem replace_first_missing (pattern replacement s : Text) (missing : ¬ pattern <:+: s) :
    replaceFirst pattern replacement s = s := by
  induction s with
  | nil =>
      have filled : pattern ≠ [] := fun empty => missing (List.infix_nil.mpr empty)
      rw [replaceFirst, if_neg filled]
  | cons c rest ih =>
      have start : ¬ pattern <+: c :: rest := fun begins => missing begins.isInfix
      have later : ¬ pattern <:+: rest := fun inside => missing (List.infix_cons inside)
      rw [replace_first_later _ _ _ _ start, ih later]

theorem replace_first_within (pattern s : Text) (within : pattern <:+: s) :
    ∃ front back, s = front ++ pattern ++ back ∧
      ∀ replacement, replaceFirst pattern replacement s = front ++ replacement ++ back := by
  induction s with
  | nil =>
      have empty := List.infix_nil.mp within
      subst empty
      exact ⟨[], [], rfl, fun replacement => replace_first_empty replacement []⟩
  | cons c rest ih =>
      by_cases start : pattern <+: c :: rest
      · obtain ⟨back, whole⟩ := start
        refine ⟨[], back, whole.symm, fun replacement => ?_⟩
        rw [← whole]
        exact replace_first_start pattern replacement back
      · have later := (List.infix_cons_iff.mp within).resolve_left start
        obtain ⟨front, back, whole, moved⟩ := ih later
        refine ⟨c :: front, back, congrArg (c :: ·) whole, fun replacement => ?_⟩
        rw [replace_first_later _ _ _ _ start, moved]
        rfl

theorem replace_first_same_iff (pattern replacement s : Text) (within : pattern <:+: s) :
    replaceFirst pattern replacement s = s ↔ replacement = pattern := by
  obtain ⟨front, back, whole, moved⟩ := replace_first_within pattern s within
  rw [moved, whole, List.append_left_inj, List.append_right_inj]

theorem prefix_before (start front back : Text) (apart : ∀ c, back.head? = some c → c ∉ start) :
    start <+: front ++ back ↔ start <+: front := by
  constructor
  · intro begins
    cases List.prefix_or_prefix_of_prefix begins (List.prefix_append front back) with
    | inl inside => exact inside
    | inr around =>
        obtain ⟨beyond, whole⟩ := around
        cases beyond with
        | nil => exact ⟨[], by rw [← whole, List.append_nil, List.append_nil]⟩
        | cons c beyond =>
            obtain ⟨rest, same⟩ := begins
            rw [← whole, List.append_assoc] at same
            have first : back.head? = some c := by
              rw [← List.append_cancel_left same]
              rfl
            rw [← whole] at apart
            exact absurd (List.mem_append_right front List.mem_cons_self) (apart c first)
  · intro begins
    exact begins.trans (List.prefix_append front back)

-- A pattern without the mark that does not occur before it is looked for behind it.
theorem replace_first_behind (mark : Char) (pattern replacement front back : Text) (free : mark ∉ pattern)
    (missing : ¬ pattern <:+: front) :
    replaceFirst pattern replacement (front ++ mark :: back) =
      front ++ mark :: replaceFirst pattern replacement back := by
  have apart : ∀ c, (mark :: back).head? = some c → c ∉ pattern := by
    intro c first
    cases first
    exact free
  induction front with
  | nil =>
      have start : ¬ pattern <+: mark :: back := fun begins =>
        missing ((prefix_before pattern [] (mark :: back) apart).mp begins).isInfix
      exact replace_first_later _ _ _ _ start
  | cons c rest ih =>
      have start : ¬ pattern <+: c :: (rest ++ mark :: back) := fun begins =>
        missing ((prefix_before pattern (c :: rest) (mark :: back) apart).mp begins).isInfix
      have later : ¬ pattern <:+: rest := fun inside => missing (List.infix_cons inside)
      rw [List.cons_append, replace_first_later _ _ _ _ start, ih later]
      rfl

theorem mem_replace_first (pattern replacement s : Text) (c : Char)
    (member : c ∈ replaceFirst pattern replacement s) : c ∈ replacement ∨ c ∈ s := by
  induction s with
  | nil =>
      unfold replaceFirst at member
      by_cases empty : pattern = []
      · rw [if_pos empty] at member
        exact .inl member
      · rw [if_neg empty] at member
        exact .inr member
  | cons d rest ih =>
      unfold replaceFirst at member
      cases start : dropStart? pattern (d :: rest) with
      | none =>
          rw [start] at member
          cases List.mem_cons.mp member with
          | inl same => exact .inr (by simp [same])
          | inr later => exact (ih later).imp_right (List.mem_cons_of_mem d)
      | some after =>
          rw [start] at member
          have whole := (drop_start_some _ _ _).mp start
          cases List.mem_append.mp member with
          | inl inside => exact .inl inside
          | inr behind =>
              rw [whole]
              exact .inr (List.mem_append_right pattern behind)

theorem replace_first_last (pattern replacement s : Text) (filled : replacement ≠ []) :
    (replaceFirst pattern replacement s).getLast? = s.getLast? ∨
      (replaceFirst pattern replacement s).getLast? = replacement.getLast? := by
  induction s with
  | nil =>
      unfold replaceFirst
      by_cases empty : pattern = []
      · rw [if_pos empty]
        exact .inr rfl
      · rw [if_neg empty]
        exact .inl rfl
  | cons c rest ih =>
      unfold replaceFirst
      cases start : dropStart? pattern (c :: rest) with
      | none =>
          dsimp only
          rw [List.getLast?_cons, List.getLast?_cons]
          cases ih with
          | inl same => exact .inl (by rw [same])
          | inr last =>
              refine .inr ?_
              rw [last, List.getLast?_eq_some_getLast filled]
              rfl
      | some after =>
          have whole := (drop_start_some _ _ _).mp start
          dsimp only
          rw [whole, List.getLast?_append, List.getLast?_append]
          cases after.getLast? with
          | none => exact .inr rfl
          | some d => exact .inl rfl

theorem replace_first_first (pattern replacement s : Text) (filled : replacement ≠ []) :
    (replaceFirst pattern replacement s).head? = s.head? ∨
      (replaceFirst pattern replacement s).head? = replacement.head? := by
  by_cases within : pattern <:+: s
  · obtain ⟨front, back, whole, moved⟩ := replace_first_within pattern s within
    rw [moved, whole]
    cases front with
    | nil =>
        obtain ⟨c, rest, same⟩ := List.exists_cons_of_ne_nil filled
        exact .inr (by rw [same]; rfl)
    | cons c rest => exact .inl rfl
  · rw [replace_first_missing _ _ _ within]
    exact .inl rfl

theorem utf8_size_append (a b : Text) : utf8Size (a ++ b) = utf8Size a + utf8Size b := by
  have sum (s : Text) (n : Nat) : s.foldl (fun n c => n + c.utf8Size) n = n + utf8Size s := by
    unfold utf8Size
    induction s generalizing n with
    | nil => rfl
    | cons c rest ih => rw [List.foldl_cons, List.foldl_cons, ih, ih (0 + c.utf8Size)]; omega
  rw [utf8Size, List.foldl_append, sum b]
  rfl

theorem utf8_size_infix (part s : Text) (within : part <:+: s) : utf8Size part ≤ utf8Size s := by
  obtain ⟨front, back, rfl⟩ := within
  rw [utf8_size_append, utf8_size_append]
  omega

theorem utf8_size_slashed (s : Text) : utf8Size (slashed s) = utf8Size s := by
  have width (c : Char) : (if c = '.' then '/' else c).utf8Size = c.utf8Size := by
    by_cases dot : c = '.'
    · rw [if_pos dot, dot]
      decide
    · rw [if_neg dot]
  unfold utf8Size slashed exchange
  rw [List.foldl_map]
  simp only [width]

end Shading.Text
