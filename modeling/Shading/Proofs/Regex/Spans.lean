import Mathlib.Data.Finset.Card
import Mathlib.Data.Finset.Range
import Mathlib.Logic.Relation
import Mathlib.Tactic.ByContra
import Shading.Regex.Basic

set_option autoImplicit false

namespace Shading.Regex

def charBefore (text : List Char) (i : Nat) : Option Char :=
  match i with
  | 0 => none
  | i + 1 => text[i]?

inductive Spans (text : List Char) : Regex → Nat → Nat → Prop where
  | empty (i : Nat) : Spans text .empty i i
  | chars (set : CharSet) (i : Nat) (c : Char) (here : text[i]? = some c) (member : set.mem c = true) :
      Spans text (.chars set) i (i + 1)
  | look (condition : Look) (i : Nat) (inside : i ≤ text.length)
      (holds : condition.holds (charBefore text i) text[i]? = true) : Spans text (.look condition) i i
  | cat (a b : Regex) (i k j : Nat) (first : Spans text a i k) (second : Spans text b k j) :
      Spans text (.cat a b) i j
  | left (a b : Regex) (i j : Nat) (matched : Spans text a i j) : Spans text (.alt a b) i j
  | right (a b : Regex) (i j : Nat) (matched : Spans text b i j) : Spans text (.alt a b) i j
  | done (a : Regex) (i : Nat) : Spans text (.star a) i i
  | again (a : Regex) (i k j : Nat) (first : Spans text a i k) (others : Spans text (.star a) k j) :
      Spans text (.star a) i j
  | timesDone (a : Regex) (i : Nat) : Spans text (.times 0 a) i i
  | timesAgain (a : Regex) (count i k j : Nat) (first : Spans text a i k)
      (others : Spans text (.times count a) k j) : Spans text (.times (count + 1) a) i j
  | upToDone (a : Regex) (count i : Nat) : Spans text (.upTo count a) i i
  | upToAgain (a : Regex) (count i k j : Nat) (first : Spans text a i k)
      (others : Spans text (.upTo count a) k j) : Spans text (.upTo (count + 1) a) i j

variable {text : List Char}

theorem Spans.inside {r : Regex} {i j : Nat} (spans : Spans text r i j) (start : i ≤ text.length) :
    j ≤ text.length := by
  induction spans with
  | empty i => exact start
  | chars set i c here member => exact (List.getElem?_eq_some_iff.mp here).1
  | look condition i inside holds => exact inside
  | cat a b i k j first second ih ih' => exact ih' (ih start)
  | left a b i j matched ih => exact ih start
  | right a b i j matched ih => exact ih start
  | done a i => exact start
  | again a i k j first others ih ih' => exact ih' (ih start)
  | timesDone a i => exact start
  | timesAgain a count i k j first others ih ih' => exact ih' (ih start)
  | upToDone a count i => exact start
  | upToAgain a count i k j first others ih ih' => exact ih' (ih start)

def Steps (leads : Nat → Nat → Prop) : Nat → Nat → Nat → Prop
  | 0, i, j => i = j
  | count + 1, i, j => ∃ k, leads i k ∧ Steps leads count k j

theorem steps_append (leads : Nat → Nat → Prop) (m n i j : Nat) :
    Steps leads (m + n) i j ↔ ∃ k, Steps leads m i k ∧ Steps leads n k j := by
  induction m generalizing i with
  | zero => simp [Steps]
  | succ m ih =>
      rw [Nat.succ_add]
      simp only [Steps, ih]
      constructor
      · rintro ⟨k, first, l, front, back⟩
        exact ⟨l, ⟨k, first, front⟩, back⟩
      · rintro ⟨l, ⟨k, first, front⟩, back⟩
        exact ⟨k, first, l, front, back⟩

-- The first steps are certain, and so many more are allowed.
theorem steps_behind (leads : Nat → Nat → Prop) (allowed : Nat → Prop) (n i j : Nat) :
    (∃ k, Steps leads n i k ∧ ∃ l, allowed l ∧ Steps leads l k j) ↔
      ∃ l, n ≤ l ∧ allowed (l - n) ∧ Steps leads l i j := by
  constructor
  · rintro ⟨k, front, l, fits, back⟩
    refine ⟨n + l, Nat.le_add_right n l, ?_, (steps_append _ _ _ _ _).mpr ⟨k, front, back⟩⟩
    rwa [Nat.add_sub_cancel_left]
  · rintro ⟨l, enough, fits, steps⟩
    rw [← Nat.add_sub_cancel' enough] at steps
    obtain ⟨k, front, back⟩ := (steps_append _ _ _ _ _).mp steps
    exact ⟨k, front, l - n, fits, back⟩

theorem steps_trans (leads : Nat → Nat → Prop) (i j : Nat) :
    Relation.ReflTransGen leads i j ↔ ∃ n, Steps leads n i j := by
  constructor
  · intro steps
    induction steps using Relation.ReflTransGen.head_induction_on with
    | refl => exact ⟨0, rfl⟩
    | head first _ ih =>
        obtain ⟨n, others⟩ := ih
        exact ⟨n + 1, _, first, others⟩
  · rintro ⟨n, steps⟩
    induction n generalizing i with
    | zero => exact steps ▸ .refl
    | succ n ih =>
        obtain ⟨k, first, others⟩ := steps
        exact .head first (ih k others)

theorem spans_empty (i j : Nat) : Spans text .empty i j ↔ i = j := by
  constructor
  · rintro ⟨⟩
    rfl
  · rintro rfl
    exact .empty i

theorem spans_chars (set : CharSet) (i j : Nat) :
    Spans text (.chars set) i j ↔ j = i + 1 ∧ ∃ c, text[i]? = some c ∧ set.mem c = true := by
  constructor
  · rintro ⟨⟩
    exact ⟨rfl, _, ‹_›, ‹_›⟩
  · rintro ⟨rfl, c, here, member⟩
    exact .chars set i c here member

theorem spans_look (condition : Look) (i j : Nat) : Spans text (.look condition) i j ↔
    i = j ∧ i ≤ text.length ∧ condition.holds (charBefore text i) text[i]? = true := by
  constructor
  · rintro ⟨⟩
    exact ⟨rfl, ‹_›, ‹_›⟩
  · rintro ⟨rfl, inside, holds⟩
    exact .look condition i inside holds

theorem spans_cat (a b : Regex) (i j : Nat) :
    Spans text (.cat a b) i j ↔ ∃ k, Spans text a i k ∧ Spans text b k j := by
  constructor
  · rintro ⟨⟩
    exact ⟨_, ‹_›, ‹_›⟩
  · rintro ⟨k, first, second⟩
    exact .cat a b i k j first second

theorem spans_alt (a b : Regex) (i j : Nat) :
    Spans text (.alt a b) i j ↔ Spans text a i j ∨ Spans text b i j := by
  constructor
  · intro spans
    cases spans with
    | left _ _ _ _ matched => exact .inl matched
    | right _ _ _ _ matched => exact .inr matched
  · rintro (matched | matched)
    · exact .left a b i j matched
    · exact .right a b i j matched

theorem spans_star (a : Regex) (i j : Nat) :
    Spans text (.star a) i j ↔ Relation.ReflTransGen (Spans text a) i j := by
  constructor
  · intro spans
    generalize whole : Regex.star a = r at spans
    induction spans with
    | done b i => exact .refl
    | again b i k j first others _ ih =>
        cases whole
        exact .head first (ih rfl)
    | _ => cases whole
  · intro steps
    induction steps using Relation.ReflTransGen.head_induction_on with
    | refl => exact .done a j
    | head first _ ih => exact .again a _ _ j first ih

theorem spans_times (a : Regex) (count i j : Nat) :
    Spans text (.times count a) i j ↔ Steps (Spans text a) count i j := by
  induction count generalizing i with
  | zero =>
      constructor
      · rintro ⟨⟩
        rfl
      · rintro rfl
        exact .timesDone a i
  | succ count ih =>
      constructor
      · rintro ⟨⟩
        exact ⟨_, ‹_›, (ih _).mp ‹_›⟩
      · rintro ⟨k, first, others⟩
        exact .timesAgain a count i k j first ((ih k).mpr others)

theorem spans_up_to (a : Regex) (count i j : Nat) :
    Spans text (.upTo count a) i j ↔ ∃ n ≤ count, Steps (Spans text a) n i j := by
  induction count generalizing i with
  | zero =>
      constructor
      · rintro ⟨⟩
        exact ⟨0, Nat.le_refl 0, rfl⟩
      · rintro ⟨n, none, steps⟩
        cases Nat.le_zero.mp none
        exact steps ▸ .upToDone a 0 i
  | succ count ih =>
      constructor
      · intro spans
        cases spans with
        | upToDone => exact ⟨0, Nat.zero_le _, rfl⟩
        | upToAgain _ _ _ k _ first others =>
            obtain ⟨n, few, steps⟩ := (ih k).mp others
            exact ⟨n + 1, Nat.succ_le_succ few, k, first, steps⟩
      · rintro ⟨n, few, steps⟩
        cases n with
        | zero => exact steps ▸ .upToDone a _ i
        | succ n =>
            obtain ⟨k, first, others⟩ := steps
            exact .upToAgain a count i k j first ((ih k).mpr ⟨n, Nat.le_of_succ_le_succ few, others⟩)

theorem spans_repeated (a : Regex) (least : Nat) (most : Option Nat) (proper : ∀ m ∈ most, least ≤ m) (i j : Nat) :
    Spans text (repeated least most a) i j ↔
      ∃ n, least ≤ n ∧ (∀ m ∈ most, n ≤ m) ∧ Steps (Spans text a) n i j := by
  have unbounded := steps_behind (Spans text a) (fun _ => True)
  have bounded (m : Nat) := steps_behind (Spans text a) (· ≤ m)
  unfold repeated
  split
  · simp [spans_star, steps_trans]
  · simpa [spans_cat, spans_star, steps_trans, Steps] using unbounded 1 i j
  · simpa [spans_cat, spans_star, spans_times, steps_trans] using unbounded _ i j
  · simp [spans_alt, spans_empty, Nat.le_one_iff_eq_zero_or_eq_one, or_and_right, exists_or, Steps]
  · simp [spans_up_to]
  · rename_i m _ _
    have enough : least ≤ m := proper m rfl
    split
    · rename_i same
      subst same
      simp [spans_times, ← and_assoc, ← Nat.le_antisymm_iff]
    · simpa [spans_cat, spans_times, spans_up_to, Nat.sub_le_sub_iff_right enough] using bounded (m - least) least i j

def Within (bound set : Nat) : Prop := ∀ i, set.testBit i = true → i ≤ bound

theorem test_bit_zero (n : Nat) (flag : Bool) : (2 * n + (if flag then 1 else 0)).testBit 0 = flag := by
  cases flag <;> simp [Nat.testBit_zero]

theorem test_bit_succ (n i : Nat) (flag : Bool) :
    (2 * n + (if flag then 1 else 0)).testBit (i + 1) = n.testBit i := by
  have half : (2 * n + (if flag then 1 else 0)) / 2 = n := by
    cases flag with
    | false => exact Nat.mul_div_cancel_left n (by decide)
    | true => exact (Nat.mul_add_div (by decide) n 1).trans (Nat.add_zero n)
  rw [Nat.testBit_succ, half]

theorem digits_push (d : Digits) (digit : Nat) : (d.push digit).value = 2 * d.value + digit := by
  rw [Digits.push]
  split
  · simp only [Digits.value, Nat.shiftLeft_succ]
    omega
  · simp only [Digits.value, Nat.shiftLeft_succ, Nat.shiftLeft_zero]
    omega

theorem positions_of_cons (set : CharSet) (c : Char) (rest : List Char) :
    positionsOf set (c :: rest) = 2 * positionsOf set rest + (if set.mem c then 1 else 0) := digits_push _ _

theorem positions_of_test (set : CharSet) (text : List Char) (i : Nat) :
    (positionsOf set text).testBit i = text[i]?.any set.mem := by
  induction text generalizing i with
  | nil => simp [positionsOf, Digits.value]
  | cons c rest ih =>
      cases i with
      | zero =>
          rw [positions_of_cons]
          exact test_bit_zero _ _
      | succ i => rw [positions_of_cons, test_bit_succ, ih, List.getElem?_cons_succ]

theorem positions_where_test (condition : Look) (previous : Option Char) (text : List Char) (i : Nat) :
    (positionsWhere condition previous text).testBit i = (decide (i ≤ text.length) &&
      condition.holds (match i with | 0 => previous | i + 1 => text[i]?) text[i]?) := by
  induction text generalizing i previous with
  | nil =>
      have form : positionsWhere condition previous [] =
          2 * 0 + (if condition.holds previous none then 1 else 0) := (Nat.zero_add _).symm
      cases i with
      | zero => rw [form, test_bit_zero, List.getElem?_nil, List.length_nil, decide_eq_true (Nat.le_refl 0), Bool.true_and]
      | succ i => rw [form, test_bit_succ, Nat.zero_testBit, List.length_nil, decide_eq_false (Nat.not_succ_le_zero i), Bool.false_and]
  | cons c rest ih =>
      cases i with
      | zero =>
          rw [positionsWhere, test_bit_zero]
          simp
      | succ i =>
          rw [positionsWhere, test_bit_succ, ih]
          cases i <;> simp

theorem all_positions_test (text : List Char) (i : Nat) :
    (allPositions text).testBit i = true ↔ i ≤ text.length := by
  rw [allPositions, Nat.one_shiftLeft, Nat.testBit_two_pow_sub_one, decide_eq_true_eq, Nat.lt_succ_iff]

def missing (bound set : Nat) : Finset Nat := (Finset.range (bound + 1)).filter fun i => set.testBit i = false

theorem missing_of_more (bound set other : Nat) (within : Within bound (set ||| other))
    (differs : set ||| other ≠ set) : (missing bound (set ||| other)).card < (missing bound set).card := by
  obtain ⟨i, fresh⟩ : ∃ i, (set ||| other).testBit i ≠ set.testBit i := by
    by_contra same
    rw [not_exists] at same
    exact differs (Nat.eq_of_testBit_eq fun i => Decidable.not_not.mp (same i))
  have absent : set.testBit i = false := by
    by_contra listed
    rw [Bool.not_eq_false] at listed
    rw [Nat.testBit_or, listed, Bool.true_or] at fresh
    exact fresh rfl
  have added : (set ||| other).testBit i = true := by
    rw [absent] at fresh
    exact Bool.not_eq_false _ ▸ fresh
  refine Finset.card_lt_card ⟨fun k listed => ?_, fun includes => ?_⟩
  · obtain ⟨bounded, empty⟩ := Finset.mem_filter.mp listed
    rw [Nat.testBit_or, Bool.or_eq_false_iff] at empty
    exact Finset.mem_filter.mpr ⟨bounded, empty.1⟩
  · have listed := includes (Finset.mem_filter.mpr
      ⟨Finset.mem_range.mpr (Nat.lt_succ_of_le (within i added)), absent⟩)
    rw [(Finset.mem_filter.mp listed).2] at added
    contradiction

theorem missing_bounded (bound set : Nat) : (missing bound set).card ≤ bound + 1 :=
  (Finset.card_filter_le _ _).trans (Finset.card_range _).le

-- A step that takes every position of a set to those it leads to.
structure Describes (bound : Nat) (step : Nat → Nat) (leads : Nat → Nat → Prop) : Prop where
  exact : ∀ set, Within bound set → ∀ j, (step set).testBit j = true ↔ ∃ i, set.testBit i = true ∧ leads i j
  inside : ∀ i j, leads i j → i ≤ bound → j ≤ bound

variable {bound : Nat} {step : Nat → Nat} {leads : Nat → Nat → Prop}

theorem Describes.nothing (describes : Describes bound step leads) : step 0 = 0 := by
  have empty : Within bound 0 := fun i listed => by simp at listed
  refine Nat.eq_of_testBit_eq fun j => ?_
  rw [Nat.zero_testBit, ← Bool.not_eq_true, describes.exact 0 empty j]
  simp

theorem Describes.within (describes : Describes bound step leads) (set : Nat) (within : Within bound set) :
    Within bound (step set) := by
  intro j reached
  obtain ⟨i, listed, leads⟩ := (describes.exact set within j).mp reached
  exact describes.inside i j leads (within i listed)

theorem Describes.within_more (describes : Describes bound step leads) (set : Nat)
    (within : Within bound set) : Within bound (set ||| step set) := by
  intro j reached
  rw [Nat.testBit_or, Bool.or_eq_true] at reached
  exact reached.elim (within j) (describes.within set within j)

theorem Describes.closed (describes : Describes bound step leads) (set : Nat) (within : Within bound set)
    (full : ∀ j, (step set).testBit j = true → set.testBit j = true) (i j : Nat)
    (listed : set.testBit i = true) (steps : Relation.ReflTransGen leads i j) : set.testBit j = true := by
  induction steps with
  | refl => exact listed
  | tail _ last ih => exact full _ ((describes.exact set within _).mpr ⟨_, ih, last⟩)

theorem Describes.stays (describes : Describes bound step leads) (set : Nat) (within : Within bound set)
    (full : ∀ j, (step set).testBit j = true → set.testBit j = true) (j : Nat) :
    set.testBit j = true ↔ ∃ i, set.testBit i = true ∧ Relation.ReflTransGen leads i j := by
  constructor
  · intro listed
    exact ⟨j, listed, .refl⟩
  · rintro ⟨i, listed, steps⟩
    exact describes.closed set within full i j listed steps

-- From what the step adds, as much is within reach as from what leads there.
theorem Describes.added (describes : Describes bound step leads) (set : Nat) (within : Within bound set)
    (good : Nat → Prop) : (∃ i, (set ||| step set).testBit i = true ∧ good i) ↔
      ∃ i, set.testBit i = true ∧ (good i ∨ ∃ k, leads i k ∧ good k) := by
  simp only [Nat.testBit_or, Bool.or_eq_true, describes.exact set within]
  constructor
  · rintro ⟨i, before | ⟨k, before, first⟩, holds⟩
    · exact ⟨i, before, .inl holds⟩
    · exact ⟨k, before, .inr ⟨i, first, holds⟩⟩
  · rintro ⟨i, before, holds | ⟨k, first, holds⟩⟩
    · exact ⟨i, .inl before, holds⟩
    · exact ⟨k, .inr ⟨i, before, first⟩, holds⟩

theorem Describes.saturate (describes : Describes bound step leads) (rounds set : Nat)
    (within : Within bound set) (enough : (missing bound set).card ≤ rounds) (j : Nat) :
    (saturate step rounds set).testBit j = true ↔
      ∃ i, set.testBit i = true ∧ Relation.ReflTransGen leads i j := by
  induction rounds generalizing set with
  | zero =>
      have none : missing bound set = ∅ := Finset.card_eq_zero.mp (Nat.le_zero.mp enough)
      refine describes.stays set within (fun k reached => ?_) j
      by_contra absent
      have listed : k ∈ missing bound set := by
        refine Finset.mem_filter.mpr ⟨Finset.mem_range.mpr ?_, Bool.not_eq_true _ ▸ absent⟩
        exact Nat.lt_succ_of_le (describes.within set within k reached)
      rw [none] at listed
      exact absurd listed (Finset.notMem_empty k)
  | succ rounds ih =>
      rw [Regex.saturate]
      by_cases same : set ||| step set = set
      · rw [if_pos same]
        refine describes.stays set within (fun k reached => ?_) j
        rw [← same, Nat.testBit_or, reached, Bool.or_true]
      · have within' := describes.within_more set within
        have fewer := missing_of_more bound set (step set) within' same
        have first (i : Nat) : (Relation.ReflTransGen leads i j ∨ ∃ k, leads i k ∧ Relation.ReflTransGen leads k j) ↔
            Relation.ReflTransGen leads i j :=
          or_iff_left_of_imp fun ⟨_, first, others⟩ => .head first others
        rw [if_neg same, ih _ within' (by omega), describes.added set within]
        simp only [first]

theorem Describes.saturate_within (describes : Describes bound step leads) (rounds set : Nat)
    (within : Within bound set) (j : Nat) : (Regex.saturate step rounds set).testBit j = true ↔
      ∃ i, set.testBit i = true ∧ ∃ n ≤ rounds, Steps leads n i j := by
  induction rounds generalizing set with
  | zero => simp [Regex.saturate, Steps]
  | succ rounds ih =>
      rw [Regex.saturate]
      by_cases same : set ||| step set = set
      · rw [if_pos same]
        constructor
        · intro listed
          exact ⟨j, listed, 0, Nat.zero_le _, rfl⟩
        · rintro ⟨i, listed, n, _, steps⟩
          refine describes.closed set within (fun k reached => ?_) i j listed ((steps_trans _ _ _).mpr ⟨n, steps⟩)
          rw [← same, Nat.testBit_or, reached, Bool.or_true]
      · have one (i : Nat) : ((∃ n ≤ rounds, Steps leads n i j) ∨
            ∃ k, leads i k ∧ ∃ n ≤ rounds, Steps leads n k j) ↔ ∃ n ≤ rounds + 1, Steps leads n i j := by
          constructor
          · rintro (⟨n, few, steps⟩ | ⟨k, first, n, few, steps⟩)
            · exact ⟨n, Nat.le_succ_of_le few, steps⟩
            · exact ⟨n + 1, Nat.succ_le_succ few, k, first, steps⟩
          · rintro ⟨n, few, steps⟩
            cases n with
            | zero => exact .inl ⟨0, Nat.zero_le _, steps⟩
            | succ n =>
                obtain ⟨k, first, steps⟩ := steps
                exact .inr ⟨k, first, n, Nat.le_of_succ_le_succ few, steps⟩
        rw [if_neg same, ih _ (describes.within_more set within), describes.added set within]
        simp only [one]

theorem iterate_steps (step : Nat → Nat) (rounds set : Nat) : iterate step rounds set = step^[rounds] set := by
  induction rounds generalizing set with
  | zero => rfl
  | succ rounds ih =>
      rw [iterate]
      by_cases same : step set = set
      · rw [if_pos same, Function.iterate_fixed same]
      · rw [if_neg same, ih, Function.iterate_succ_apply]

theorem Describes.iterate (describes : Describes bound step leads) (rounds set : Nat)
    (within : Within bound set) (j : Nat) : (Regex.iterate step rounds set).testBit j = true ↔
      ∃ i, set.testBit i = true ∧ Steps leads rounds i j := by
  rw [iterate_steps]
  induction rounds generalizing set with
  | zero => simp [Steps]
  | succ rounds ih =>
      rw [Function.iterate_succ_apply, ih _ (describes.within set within)]
      simp only [describes.exact set within, Steps]
      constructor
      · rintro ⟨k, ⟨i, listed, first⟩, others⟩
        exact ⟨i, listed, k, first, others⟩
      · rintro ⟨i, listed, k, first, others⟩
        exact ⟨k, ⟨i, listed, first⟩, others⟩

-- A class is repeated as any other expression is.
theorem ends_star (a : Regex) (set : Nat) :
    ends text (.star a) set = saturate (ends text a) (text.length + 1) set := by
  cases a <;> rfl

theorem describes_spans (r : Regex) (exact : ∀ set, Within text.length set →
      ∀ j, (ends text r set).testBit j = true ↔ ∃ i, set.testBit i = true ∧ Spans text r i j) :
    Describes text.length (ends text r) (Spans text r) :=
  ⟨exact, fun _ _ spans => spans.inside⟩

theorem ends_spans (r : Regex) : Describes text.length (ends text r) (Spans text r) := by
  induction r with
  | empty =>
      refine describes_spans _ fun set within j => ?_
      simp only [ends, spans_empty, exists_eq_right]
  | chars members =>
      refine describes_spans _ fun set within j => ?_
      rw [ends, Nat.testBit_shiftLeft, Bool.and_eq_true, decide_eq_true_eq, Nat.testBit_and, Bool.and_eq_true,
        positions_of_test, Option.any_eq_true]
      constructor
      · rintro ⟨later, listed, c, here, member⟩
        have step : j = j - 1 + 1 := by omega
        exact ⟨j - 1, listed, (spans_chars _ _ _).mpr ⟨step, c, here, member⟩⟩
      · rintro ⟨i, listed, spans⟩
        obtain ⟨rfl, c, here, member⟩ := (spans_chars _ _ _).mp spans
        exact ⟨Nat.le_add_left 1 i, listed, c, here, member⟩
  | look condition =>
      refine describes_spans _ fun set within j => ?_
      have bits : (positionsWhere condition none text).testBit j =
          (decide (j ≤ text.length) && condition.holds (charBefore text j) text[j]?) := by
        rw [positions_where_test]
        cases j <;> rfl
      rw [ends, Nat.testBit_and, Bool.and_eq_true, bits, Bool.and_eq_true, decide_eq_true_eq]
      constructor
      · rintro ⟨listed, inside, holds⟩
        exact ⟨j, listed, .look condition j inside holds⟩
      · rintro ⟨i, listed, spans⟩
        obtain ⟨rfl, inside, holds⟩ := (spans_look _ _ _).mp spans
        exact ⟨listed, inside, holds⟩
  | cat a b first second =>
      refine describes_spans _ fun set within j => ?_
      have through : (ends text b (ends text a set)).testBit j = true ↔
          ∃ i, set.testBit i = true ∧ Spans text (.cat a b) i j := by
        rw [second.exact _ (first.within set within)]
        constructor
        · rintro ⟨k, reached, later⟩
          obtain ⟨i, listed, before⟩ := (first.exact set within k).mp reached
          exact ⟨i, listed, .cat a b i k j before later⟩
        · rintro ⟨i, listed, spans⟩
          obtain ⟨k, before, later⟩ := (spans_cat _ _ _ _).mp spans
          exact ⟨k, (first.exact set within k).mpr ⟨i, listed, before⟩, later⟩
      rw [← through, ends]
      split
      · rename_i none
        rw [none, second.nothing]
      · exact Iff.rfl
  | alt a b left right =>
      refine describes_spans _ fun set within j => ?_
      simp only [ends, Nat.testBit_or, Bool.or_eq_true, left.exact set within, right.exact set within, spans_alt,
        and_or_left, exists_or]
  | star a body =>
      refine describes_spans _ fun set within j => ?_
      rw [ends_star, body.saturate _ set within (missing_bounded _ set)]
      simp only [spans_star]
  | times count a body =>
      refine describes_spans _ fun set within j => ?_
      rw [ends, body.iterate count set within]
      simp only [spans_times]
  | upTo count a body =>
      refine describes_spans _ fun set within j => ?_
      rw [ends, body.saturate_within count set within]
      simp only [spans_up_to]

theorem occurs_spans (r : Regex) (text : List Char) :
    r.occursIn text = true ↔ ∃ i j, i ≤ text.length ∧ Spans text r i j := by
  have within : Within text.length (allPositions text) := fun i => (all_positions_test text i).mp
  rw [occursIn, bne_iff_ne]
  constructor
  · intro some
    obtain ⟨j, reached⟩ := Nat.exists_testBit_of_ne_zero some
    obtain ⟨i, listed, spans⟩ := ((ends_spans r).exact _ within j).mp reached
    exact ⟨i, j, within i listed, spans⟩
  · rintro ⟨i, j, inside, spans⟩ none
    have reached := ((ends_spans r).exact _ within j).mpr ⟨i, (all_positions_test text i).mpr inside, spans⟩
    rw [none, Nat.zero_testBit] at reached
    contradiction

end Shading.Regex
