import Shading.Proofs.Regex.Spans

set_option autoImplicit false

namespace Shading.Regex

variable {text : List Char}

theorem mem_single (c d : Char) : (CharSet.single c).mem d = true ↔ d = c := by
  have bounds : (CharSet.single c).mem d = true ↔ c.toNat ≤ d.toNat ∧ d.toNat ≤ c.toNat := by
    simp [CharSet.single, CharSet.mem, Unicode.inRanges]
  rw [bounds, ← Char.toNat_inj]
  omega

theorem mem_compl (set : CharSet) (d : Char) : (CharSet.compl set).mem d = true ↔ ¬ set.mem d = true := by
  rw [CharSet.mem, Bool.not_eq_true', Bool.not_eq_true]

theorem mem_all (d : Char) : CharSet.all.mem d = true := rfl

def Between (text : List Char) (i j : Nat) (span : List Char) : Prop :=
  j = i + span.length ∧ text.drop i = span ++ text.drop j

theorem between_empty (i j : Nat) : Between text i j [] ↔ i = j := by
  constructor
  · rintro ⟨rfl, _⟩
    rfl
  · rintro rfl
    exact ⟨rfl, rfl⟩

theorem between_cons (i j : Nat) (c : Char) (span : List Char) :
    Between text i j (c :: span) ↔ text[i]? = some c ∧ Between text (i + 1) j span := by
  constructor
  · rintro ⟨rfl, whole⟩
    have inside : i < text.length := by
      by_contra beyond
      rw [List.drop_eq_nil_of_le (Nat.le_of_not_lt beyond)] at whole
      contradiction
    rw [List.drop_eq_getElem_cons inside, List.cons_append] at whole
    obtain ⟨here, later⟩ := List.cons.inj whole
    refine ⟨by rw [List.getElem?_eq_getElem inside, here], ?_, later⟩
    rw [List.length_cons]
    omega
  · rintro ⟨here, rfl, later⟩
    obtain ⟨inside, value⟩ := List.getElem?_eq_some_iff.mp here
    refine ⟨by rw [List.length_cons]; omega, ?_⟩
    rw [List.drop_eq_getElem_cons inside, value, later]
    rfl

theorem between_append (i j : Nat) (span behind : List Char) :
    Between text i j (span ++ behind) ↔ ∃ k, Between text i k span ∧ Between text k j behind := by
  induction span generalizing i with
  | nil => simp [between_empty]
  | cons c span ih => simp [between_cons, ih, and_assoc]

def Denotes (r : Regex) (stands : List Char → Prop) : Prop :=
  ∀ (text : List Char) (i j : Nat), Spans text r i j ↔ ∃ span, Between text i j span ∧ stands span

theorem denotes_congr {r : Regex} {stands stands' : List Char → Prop} (denotes : Denotes r stands)
    (same : ∀ span, stands span ↔ stands' span) : Denotes r stands' := by
  intro text i j
  rw [denotes]
  simp only [same]

theorem denotes_empty : Denotes .empty (· = []) := by
  intro text i j
  simp [spans_empty, between_empty]

theorem denotes_class (set : CharSet) : Denotes (.chars set) fun span => ∃ c, span = [c] ∧ set.mem c = true := by
  intro text i j
  rw [spans_chars]
  constructor
  · rintro ⟨rfl, c, here, member⟩
    exact ⟨[c], (between_cons _ _ _ _).mpr ⟨here, (between_empty _ _).mpr rfl⟩, c, rfl, member⟩
  · rintro ⟨_, between, c, rfl, member⟩
    obtain ⟨here, last⟩ := (between_cons _ _ _ _).mp between
    exact ⟨((between_empty _ _).mp last).symm, c, here, member⟩

theorem denotes_single (c : Char) : Denotes (.chars (.single c)) (· = [c]) := by
  refine denotes_congr (denotes_class _) fun span => ?_
  simp [mem_single]

theorem denotes_cat {a b : Regex} {stands stands' : List Char → Prop} (first : Denotes a stands)
    (second : Denotes b stands') :
    Denotes (.cat a b) fun span => ∃ front behind, span = front ++ behind ∧ stands front ∧ stands' behind := by
  intro text i j
  rw [spans_cat]
  constructor
  · rintro ⟨k, spans, spans'⟩
    obtain ⟨front, between, held⟩ := (first text i k).mp spans
    obtain ⟨behind, between', held'⟩ := (second text k j).mp spans'
    exact ⟨_, (between_append _ _ _ _).mpr ⟨k, between, between'⟩, front, behind, rfl, held, held'⟩
  · rintro ⟨_, between, front, behind, rfl, held, held'⟩
    obtain ⟨k, between, between'⟩ := (between_append _ _ _ _).mp between
    exact ⟨k, (first text i k).mpr ⟨front, between, held⟩, (second text k j).mpr ⟨behind, between', held'⟩⟩

theorem denotes_alt {a b : Regex} {stands stands' : List Char → Prop} (left : Denotes a stands)
    (right : Denotes b stands') : Denotes (.alt a b) fun span => stands span ∨ stands' span := by
  intro text i j
  rw [spans_alt, left, right]
  simp only [and_or_left, exists_or]

theorem denotes_run (set : CharSet) :
    Denotes (.star (.chars set)) fun span => ∀ c ∈ span, set.mem c = true := by
  intro text i j
  constructor
  · intro spans
    induction (spans_star _ _ _).mp spans using Relation.ReflTransGen.head_induction_on with
    | refl => exact ⟨[], (between_empty j j).mpr rfl, nofun⟩
    | head first steps ih =>
        obtain ⟨_, between, c, rfl, member⟩ := (denotes_class _ _ _ _).mp first
        obtain ⟨span, later, members⟩ := ih ((spans_star _ _ _).mpr steps)
        exact ⟨[c] ++ span, (between_append _ _ _ _).mpr ⟨_, between, later⟩,
          List.forall_mem_cons.mpr ⟨member, members⟩⟩
  · rintro ⟨span, between, members⟩
    induction span generalizing i with
    | nil =>
        rw [(between_empty _ _).mp between]
        exact .done _ _
    | cons c span ih =>
        obtain ⟨member, members⟩ := List.forall_mem_cons.mp members
        obtain ⟨here, later⟩ := (between_cons _ _ _ _).mp between
        exact .again _ i (i + 1) j (.chars set i c here member) (ih (i + 1) later members)

theorem denotes_without (c : Char) : Denotes (.star (.chars (.compl (.single c)))) fun span => c ∉ span := by
  refine denotes_congr (denotes_run _) fun span => ?_
  simp only [mem_compl, mem_single]
  exact ⟨fun other member => other c member rfl, fun absent d member same => absent (same ▸ member)⟩

theorem denotes_any : Denotes (.star (.chars .all)) fun _ => True :=
  denotes_congr (denotes_run _) fun _ => ⟨fun _ => trivial, fun _ d _ => mem_all d⟩

-- The text can be cut into one piece for each of the predicates.
def Cut : List (List Char → Prop) → List Char → Prop
  | [], text => text = []
  | stands :: rest, text => ∃ span behind, text = span ++ behind ∧ stands span ∧ Cut rest behind

theorem cut_append (first second : List (List Char → Prop)) (text : List Char) :
    Cut (first ++ second) text ↔ ∃ front behind, text = front ++ behind ∧ Cut first front ∧ Cut second behind := by
  induction first generalizing text with
  | nil => simp [Cut]
  | cons stands rest ih =>
      simp only [List.cons_append, Cut, ih]
      constructor
      · rintro ⟨span, _, rfl, held, front, behind, rfl, cut, cut'⟩
        exact ⟨span ++ front, behind, (List.append_assoc _ _ _).symm, ⟨span, front, rfl, held, cut⟩, cut'⟩
      · rintro ⟨_, behind, rfl, ⟨span, front, rfl, held, cut⟩, cut'⟩
        exact ⟨span, front ++ behind, List.append_assoc _ _ _, held, front, behind, rfl, cut, cut'⟩

theorem spans_end (i j : Nat) (inside : i ≤ text.length) :
    Spans text (.look .textEnd) i j ↔ j = text.length ∧ text.drop i = [] := by
  rw [spans_look, List.drop_eq_nil_iff]
  simp only [Look.holds, Option.isNone_iff_eq_none, List.getElem?_eq_none_iff]
  omega

theorem spans_sequence (parts : List Regex) (stands : List (List Char → Prop))
    (each : List.Forall₂ Denotes parts stands) (i j : Nat) (inside : i ≤ text.length) :
    Spans text (parts.foldr .cat (.look .textEnd)) i j ↔ j = text.length ∧ Cut stands (text.drop i) := by
  induction each generalizing i with
  | nil => exact spans_end i j inside
  | @cons part stands parts others first _ ih =>
      refine (spans_cat _ _ _ _).trans ?_
      constructor
      · rintro ⟨k, spans, spans'⟩
        obtain ⟨span, between, held⟩ := (first text i k).mp spans
        obtain ⟨finish, cut⟩ := (ih k (spans.inside inside)).mp spans'
        exact ⟨finish, span, text.drop k, between.2, held, cut⟩
      · rintro ⟨finish, span, behind, whole, held, cut⟩
        have length := congrArg List.length whole
        rw [List.length_drop, List.length_append] at length
        have left : text.drop (i + span.length) = behind := by
          rw [← List.drop_drop, whole, List.drop_left]
        have between : Between text i (i + span.length) span := ⟨rfl, by rw [left, whole]⟩
        refine ⟨i + span.length, (first text i _).mpr ⟨span, between, held⟩, (ih _ (by omega)).mpr ⟨finish, ?_⟩⟩
        rwa [left]

-- The search may begin anywhere, but such an expression only matches from the start.
theorem occurs_whole (parts : List Regex) (stands : List (List Char → Prop))
    (each : List.Forall₂ Denotes parts stands) :
    (whole parts).occursIn text = true ↔ Cut stands text := by
  rw [occurs_spans]
  constructor
  · rintro ⟨i, j, inside, spans⟩
    obtain ⟨k, start, spans⟩ := (spans_cat _ _ _ _).mp spans
    obtain ⟨rfl, _, first⟩ := (spans_look _ _ _).mp start
    obtain ⟨_, cut⟩ := (spans_sequence parts stands each i j inside).mp spans
    cases i with
    | zero => exact cut
    | succ i =>
        have before : text[i]? = some text[i] := List.getElem?_eq_getElem inside
        rw [charBefore, before] at first
        contradiction
  · intro cut
    refine ⟨0, text.length, Nat.zero_le _, .cat _ _ 0 0 _ (.look .textStart 0 (Nat.zero_le _) rfl) ?_⟩
    exact (spans_sequence parts stands each 0 _ (Nat.zero_le _)).mpr ⟨rfl, cut⟩

end Shading.Regex
