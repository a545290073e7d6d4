import Shading.Proofs.EntryPath
import Shading.Proofs.PathPattern.Segment

set_option autoImplicit false

namespace Shading

namespace Glob

inductive SegmentsMatch : List Text → List Bytes → Prop where
  | finish : SegmentsMatch [] []
  | anySegments (rest : List Text) (skipped names : List Bytes) (later : SegmentsMatch rest names) :
      SegmentsMatch (anySegments :: rest) (skipped ++ names)
  | segment (segment : Text) (rest : List Text) (name : Bytes) (names : List Bytes)
      (single : segment ≠ Glob.anySegments) (here : SegmentMatches segment name)
      (later : SegmentsMatch rest names) : SegmentsMatch (segment :: rest) (name :: names)

theorem match_nil (names : List Bytes) : SegmentsMatch [] names ↔ names = [] := by
  constructor
  · rintro ⟨⟩
    rfl
  · rintro rfl
    exact .finish

theorem match_any_segments (rest : List Text) (names : List Bytes) : SegmentsMatch (anySegments :: rest) names ↔
    ∃ skipped others, names = skipped ++ others ∧ SegmentsMatch rest others := by
  constructor
  · intro matched
    cases matched with
    | anySegments _ skipped others later => exact ⟨skipped, others, rfl, later⟩
    | segment _ _ _ _ single => exact absurd rfl single
  · rintro ⟨skipped, others, rfl, later⟩
    exact .anySegments rest skipped others later

theorem match_segment (segment : Text) (rest : List Text) (names : List Bytes) (single : segment ≠ anySegments) :
    SegmentsMatch (segment :: rest) names ↔
      ∃ name others, names = name :: others ∧ SegmentMatches segment name ∧ SegmentsMatch rest others := by
  constructor
  · intro matched
    cases matched with
    | anySegments => exact absurd rfl single
    | segment _ _ name others _ here later => exact ⟨name, others, rfl, here, later⟩
  · rintro ⟨name, others, rfl, here, later⟩
    exact .segment segment rest name others single here later

theorem match_any_twice (rest : List Text) (names : List Bytes) :
    SegmentsMatch (anySegments :: anySegments :: rest) names ↔ SegmentsMatch (anySegments :: rest) names := by
  simp only [match_any_segments]
  constructor
  · rintro ⟨first, _, rfl, second, others, rfl, later⟩
    exact ⟨first ++ second, others, (List.append_assoc _ _ _).symm, later⟩
  · rintro ⟨skipped, others, rfl, later⟩
    exact ⟨[], _, rfl, skipped, others, rfl, later⟩

theorem match_cons_congr (segment : Text) (rest rest' : List Text)
    (same : ∀ names, SegmentsMatch rest names ↔ SegmentsMatch rest' names) (names : List Bytes) :
    SegmentsMatch (segment :: rest) names ↔ SegmentsMatch (segment :: rest') names := by
  by_cases any : segment = anySegments
  · simp only [any, match_any_segments, same]
  · simp only [match_segment _ _ _ any, same]

theorem match_collapsed (segments : List Text) (names : List Bytes) :
    SegmentsMatch (collapse segments) names ↔ SegmentsMatch segments names := by
  induction segments generalizing names with
  | nil => exact Iff.rfl
  | cons segment rest ih =>
      have kept := match_cons_congr segment _ _ ih names
      rw [collapse]
      split
      · rename_i repeated
        obtain ⟨any, next⟩ := Bool.and_eq_true_iff.mp repeated
        obtain ⟨others, form⟩ := List.head?_eq_some_iff.mp (of_decide_eq_true next)
        rw [← kept, of_decide_eq_true any, form, match_any_twice]
      · exact kept

def behind (names : List Bytes) : List Char := names.flatMap fun name => '/' :: name.map byteChar

theorem behind_cons (name : Bytes) (names : List Bytes) :
    behind (name :: names) = '/' :: (name.map byteChar ++ behind names) := rfl

theorem behind_append (first second : List Bytes) : behind (first ++ second) = behind first ++ behind second :=
  List.flatMap_append

def Closed (text : List Char) : Prop := text = [] ∨ ∃ rest, text = '/' :: rest

theorem behind_closed (names : List Bytes) : Closed (behind names) := by
  cases names with
  | nil => exact .inl rfl
  | cons name names => exact .inr ⟨_, behind_cons name names⟩

theorem name_taken (name text : List Char) (plain : '/' ∉ name) (closed : Closed text) :
    (name ++ text).takeWhile (· != '/') = name := by
  rw [List.takeWhile_append_of_pos (Text.differs_of_not_mem '/' name plain)]
  rcases closed with rfl | ⟨rest, rfl⟩ <;> simp

theorem name_ends (name part text rest : List Char) (plain : '/' ∉ name) (plain' : '/' ∉ part)
    (closed : Closed text) (closed' : Closed rest) (same : name ++ text = part ++ rest) :
    name = part ∧ text = rest := by
  have names : name = part := by
    rw [← name_taken name text plain closed, same, name_taken part rest plain' closed']
  subst names
  exact ⟨rfl, List.append_cancel_left same⟩

theorem slash_inside (names : List Bytes) (plain : ∀ name ∈ names, Plain name) (front rest : List Char)
    (whole : behind names = front ++ '/' :: rest) :
    ∃ first second, names = first ++ second ∧ front = behind first ∧ behind second = '/' :: rest := by
  induction names generalizing front with
  | nil => simp [behind] at whole
  | cons name names ih =>
      obtain ⟨free, plain⟩ := List.forall_mem_cons.mp plain
      cases front with
      | nil => exact ⟨[], name :: names, rfl, rfl, whole⟩
      | cons c front =>
          obtain ⟨rfl, same⟩ := List.cons.inj whole
          rcases List.append_eq_append_iff.mp same with ⟨inside, rfl, later⟩ | ⟨inside, held, later⟩
          · obtain ⟨first, second, rfl, rfl, last⟩ := ih plain inside later
            exact ⟨name :: first, second, rfl, behind_cons name first, last⟩
          · cases inside with
            | nil => exact ⟨[name], names, rfl, by simp [behind, held], later.symm⟩
            | cons d inside =>
                obtain ⟨rfl, _⟩ := List.cons.inj later
                exact absurd (by simp [held]) free

theorem cut_slash (parts : List Part) (text : List Char) :
    CutInto (.literal '/' :: parts) text ↔ ∃ rest, text = '/' :: rest ∧ CutInto parts rest := by
  have single : octets ['/'] = ['/'] := by decide
  rw [cut_into_cons]
  constructor
  · rintro ⟨_, rest, rfl, rfl, cut⟩
    exact ⟨rest, congrArg (· ++ rest) single, cut⟩
  · rintro ⟨rest, rfl, cut⟩
    exact ⟨_, rest, rfl, single.symm, cut⟩

theorem cut_between (parts : List Part) (text : List Char) : CutInto (.segmentsBetween :: parts) text ↔
    ∃ skipped rest, text = skipped ++ '/' :: rest ∧ Closed skipped ∧ CutInto parts rest := by
  rw [cut_into_cons]
  constructor
  · rintro ⟨_, rest, rfl, rfl | ⟨inner, rfl⟩, cut⟩
    · exact ⟨[], rest, rfl, .inl rfl, cut⟩
    · exact ⟨'/' :: inner, rest, by simp, .inr ⟨inner, rfl⟩, cut⟩
  · rintro ⟨_, rest, rfl, rfl | ⟨inner, rfl⟩, cut⟩
    · exact ⟨['/'], rest, rfl, .inl rfl, cut⟩
    · exact ⟨'/' :: inner ++ ['/'], rest, by simp, .inr ⟨inner, rfl⟩, cut⟩

theorem cut_before (parts : List Part) (text : List Char) : CutInto (.segmentsBefore :: parts) text ↔
    CutInto (.segmentsBetween :: parts) ('/' :: text) := by
  rw [cut_into_cons, cut_between]
  constructor
  · rintro ⟨_, rest, rfl, rfl | ⟨front, rfl⟩, cut⟩
    · exact ⟨[], rest, rfl, .inl rfl, cut⟩
    · exact ⟨'/' :: front, rest, by simp, .inr ⟨front, rfl⟩, cut⟩
  · rintro ⟨_, rest, whole, rfl | ⟨front, rfl⟩, cut⟩
    · obtain ⟨_, rfl⟩ := List.cons.inj whole
      exact ⟨[], text, rfl, .inl rfl, cut⟩
    · obtain ⟨_, rfl⟩ := List.cons.inj whole
      exact ⟨front ++ ['/'], rest, by simp, .inr ⟨front, rfl⟩, cut⟩

-- The slash before the first segment is read on its own, unless it belongs to a `**`.
theorem cut_slash_read (segments : List Text) (filled : segments ≠ []) (single : segments.head? ≠ some anySegments)
    (text : List Char) : CutInto (partsFrom true segments) text ↔ CutInto (partsFrom false segments) ('/' :: text) := by
  obtain ⟨segment, rest, rfl⟩ := List.exists_cons_of_ne_nil filled
  have plain : segment ≠ anySegments := fun same => single (congrArg some same)
  rw [partsFrom, partsFrom, if_neg plain, if_neg plain]
  refine Iff.trans ?_ (cut_slash _ _).symm
  simp

def TakenBehind (segments : List Text) (text : List Char) : Prop :=
  CutInto (partsFrom false segments) text ∨
    segments.getLast? = some anySegments ∧ CutInto (partsFrom false segments.dropLast) text

theorem taken_nil (text : List Char) : TakenBehind [] text ↔ text = [] := by
  simp [TakenBehind, partsFrom, CutInto, Regex.Cut]

theorem taken_last_any (text : List Char) : TakenBehind [anySegments] text ↔ Closed text := by
  simp [TakenBehind, partsFrom, CutInto, Regex.Cut, Part.Stands, Closed, or_comm]

-- The last segment, and what is before it, where there are others behind the first one.
theorem taken_cons (segment : Text) (rest : List Text) (text : List Char) (others : segment = anySegments → rest ≠ []) :
    TakenBehind (segment :: rest) text ↔ CutInto (partsFrom false (segment :: rest)) text ∨
      rest.getLast? = some anySegments ∧ CutInto (partsFrom false (segment :: rest.dropLast)) text := by
  cases rest with
  | nil =>
      have single : segment ≠ anySegments := fun any => others any rfl
      simp [TakenBehind, single]
  | cons next rest => rw [TakenBehind, List.getLast?_cons_cons, List.dropLast_cons_cons]

theorem cut_from_segment (segment : Text) (rest : List Text) (text : List Char) (single : segment ≠ anySegments) :
    CutInto (partsFrom false (segment :: rest)) text ↔ ∃ part last, text = '/' :: (part ++ last) ∧
      CutInto (segmentParts false segment) part ∧ CutInto (partsFrom false rest) last := by
  have form : partsFrom false (segment :: rest) =
      .literal '/' :: (segmentParts false segment ++ partsFrom false rest) := by
    rw [partsFrom, if_neg single]
    rfl
  rw [form, cut_slash]
  simp only [CutInto, List.map_append, Regex.cut_append]
  constructor
  · rintro ⟨_, rfl, part, last, rfl, here, later⟩
    exact ⟨part, last, rfl, here, later⟩
  · rintro ⟨part, last, rfl, here, later⟩
    exact ⟨_, rfl, part, last, rfl, here, later⟩

theorem parts_from_any (rest : List Text) (filled : rest ≠ []) :
    partsFrom false (anySegments :: rest) = .segmentsBetween :: partsFrom true rest := by
  rw [partsFrom, if_pos rfl, if_neg filled]

theorem cut_from_any (rest : List Text) (text : List Char) (filled : rest ≠ [])
    (single : rest.head? ≠ some anySegments) : CutInto (partsFrom false (anySegments :: rest)) text ↔
      ∃ skipped last, text = skipped ++ '/' :: last ∧ Closed skipped ∧ CutInto (partsFrom false rest) ('/' :: last) := by
  rw [parts_from_any rest filled, cut_between]
  simp only [cut_slash_read rest filled single]

theorem taken_segment (segment : Text) (rest : List Text) (text : List Char) (single : segment ≠ anySegments) :
    TakenBehind (segment :: rest) text ↔ ∃ part last, text = '/' :: (part ++ last) ∧
      CutInto (segmentParts false segment) part ∧ TakenBehind rest last := by
  rw [taken_cons segment rest text fun any => absurd any single, cut_from_segment _ _ _ single,
    cut_from_segment _ _ _ single]
  constructor
  · rintro (⟨part, last, whole, here, later⟩ | ⟨ending, part, last, whole, here, later⟩)
    · exact ⟨part, last, whole, here, .inl later⟩
    · exact ⟨part, last, whole, here, .inr ⟨ending, later⟩⟩
  · rintro ⟨part, last, whole, here, later | ⟨ending, later⟩⟩
    · exact .inl ⟨part, last, whole, here, later⟩
    · exact .inr ⟨ending, part, last, whole, here, later⟩

theorem before_last_any (rest : List Text) (single : rest.head? ≠ some anySegments)
    (ending : rest.getLast? = some anySegments) : rest.dropLast ≠ [] ∧ rest.dropLast.head? ≠ some anySegments := by
  match rest with
  | [] => contradiction
  | [segment] => exact absurd ending single
  | segment :: next :: others => exact ⟨List.cons_ne_nil _ _, single⟩

theorem taken_any (rest : List Text) (text : List Char) (filled : rest ≠ [])
    (single : rest.head? ≠ some anySegments) : TakenBehind (anySegments :: rest) text ↔
      ∃ skipped last, text = skipped ++ '/' :: last ∧ Closed skipped ∧ TakenBehind rest ('/' :: last) := by
  rw [taken_cons anySegments rest text fun _ => filled, cut_from_any rest text filled single]
  constructor
  · rintro (⟨skipped, last, whole, closed, later⟩ | ⟨ending, cut⟩)
    · exact ⟨skipped, last, whole, closed, .inl later⟩
    · obtain ⟨filled', single'⟩ := before_last_any rest single ending
      obtain ⟨skipped, last, whole, closed, later⟩ := (cut_from_any _ text filled' single').mp cut
      exact ⟨skipped, last, whole, closed, .inr ⟨ending, later⟩⟩
  · rintro ⟨skipped, last, whole, closed, later | ⟨ending, later⟩⟩
    · exact .inl ⟨skipped, last, whole, closed, later⟩
    · obtain ⟨filled', single'⟩ := before_last_any rest single ending
      exact .inr ⟨ending, (cut_from_any _ text filled' single').mpr ⟨skipped, last, whole, closed, later⟩⟩

theorem taken_closed (segments : List Text) (collapsed : Collapsed segments) (text : List Char)
    (taken : TakenBehind segments text) : Closed text := by
  cases segments with
  | nil => exact .inl ((taken_nil text).mp taken)
  | cons segment rest =>
      by_cases any : segment = anySegments
      · subst any
        by_cases none : rest = []
        · rw [none] at taken
          exact (taken_last_any text).mp taken
        · have single := ((collapsed_cons _ _).mp collapsed).1 rfl
          obtain ⟨_, last, rfl, rfl | ⟨inner, rfl⟩, _⟩ := (taken_any rest text none single).mp taken
          · exact .inr ⟨last, rfl⟩
          · exact .inr ⟨_, rfl⟩
      · obtain ⟨part, last, rfl, _⟩ := (taken_segment segment rest text any).mp taken
        exact .inr ⟨_, rfl⟩

-- Over all names, because a `**` passes over any number of them.
def AgreesBehind (segments : List Text) : Prop :=
  ∀ names : List Bytes, (∀ name ∈ names, Plain name) →
    (TakenBehind segments (behind names) ↔ SegmentsMatch segments names)

theorem agrees_behind_nil : AgreesBehind [] := by
  intro names _
  rw [taken_nil, match_nil]
  cases names <;> simp [behind]

theorem agrees_behind_last_any : AgreesBehind [anySegments] := by
  intro names _
  rw [match_any_segments, taken_last_any]
  exact ⟨fun _ => ⟨names, [], (List.append_nil names).symm, .finish⟩, fun _ => behind_closed names⟩

theorem agrees_behind_any (rest : List Text) (filled : rest ≠ []) (single : rest.head? ≠ some anySegments)
    (later : AgreesBehind rest) : AgreesBehind (anySegments :: rest) := by
  intro names plain
  rw [match_any_segments, taken_any rest _ filled single]
  constructor
  · rintro ⟨skipped, last, whole, _, taken⟩
    obtain ⟨first, second, rfl, _, same⟩ := slash_inside names plain skipped last whole
    rw [← same] at taken
    obtain ⟨_, plain⟩ := List.forall_mem_append.mp plain
    exact ⟨first, second, rfl, (later second plain).mp taken⟩
  · rintro ⟨skipped, others, rfl, matched⟩
    obtain ⟨_, plain⟩ := List.forall_mem_append.mp plain
    have taken := (later others plain).mpr matched
    cases others with
    | nil =>
        obtain ⟨next, tail, rfl⟩ := List.exists_cons_of_ne_nil filled
        have other : next ≠ anySegments := fun same => single (congrArg some same)
        obtain ⟨_, _, empty, _⟩ := (match_segment next tail [] other).mp matched
        contradiction
    | cons name others =>
        exact ⟨behind skipped, _, behind_append _ _, behind_closed skipped, taken⟩

theorem agrees_behind_segment (segment : Text) (rest : List Text) (single : segment ≠ anySegments)
    (free : '/' ∉ segment) (collapsed : Collapsed rest) (later : AgreesBehind rest) :
    AgreesBehind (segment :: rest) := by
  intro names plain
  rw [taken_segment _ _ _ single, match_segment _ _ _ single]
  constructor
  · rintro ⟨part, last, whole, here, taken⟩
    cases names with
    | nil => contradiction
    | cons name names =>
        obtain ⟨namePlain, plain⟩ := List.forall_mem_cons.mp plain
        obtain ⟨_, same⟩ := List.cons.inj whole
        obtain ⟨rfl, rfl⟩ := name_ends _ _ _ _ namePlain (no_slash_in_segment false segment free part here)
          (behind_closed names) (taken_closed rest collapsed last taken) same
        exact ⟨name, names, rfl, (cut_segment segment namePlain).mp here, (later names plain).mp taken⟩
  · rintro ⟨name, others, rfl, here, matched⟩
    obtain ⟨namePlain, plain⟩ := List.forall_mem_cons.mp plain
    exact ⟨_, _, rfl, (cut_segment segment namePlain).mpr here, (later others plain).mpr matched⟩

theorem taken_behind_names (segments : List Text) (collapsed : Collapsed segments)
    (free : ∀ segment ∈ segments, '/' ∉ segment) : AgreesBehind segments := by
  induction segments with
  | nil => exact agrees_behind_nil
  | cons segment rest ih =>
      obtain ⟨single, collapsed⟩ := (collapsed_cons _ _).mp collapsed
      obtain ⟨segmentFree, free⟩ := List.forall_mem_cons.mp free
      have later := ih collapsed free
      by_cases any : segment = anySegments
      · subst any
        by_cases none : rest = []
        · subst none
          exact agrees_behind_last_any
        · exact agrees_behind_any rest none (single rfl) later
      · exact agrees_behind_segment segment rest any segmentFree collapsed later

end Glob

end Shading
