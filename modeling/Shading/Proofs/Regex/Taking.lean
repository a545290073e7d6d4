import Mathlib.Data.List.Basic
import Mathlib.Data.List.TakeWhile
import Shading.Regex.Parser

set_option autoImplicit false

namespace Shading.Regex

-- The second text begins like the first one up to a mark. There it has the mark too, or it ends.
inductive Alike (mark : Char) (ends : Bool) : Text → Text → Prop where
  | mark (old new : Text) : Alike mark ends (mark :: old) (mark :: new)
  | finish (old : Text) (allowed : ends = true) : Alike mark ends (mark :: old) []
  | char (c : Char) (s t : Text) (later : Alike mark ends s t) : Alike mark ends (c :: s) (c :: t)

variable {α β γ : Type} {mark : Char} {ends : Bool} {s t : Text}

theorem Alike.append (front : Text) (alike : Alike mark ends s t) : Alike mark ends (front ++ s) (front ++ t) := by
  induction front with
  | nil => exact alike
  | cons c rest ih => exact .char c _ _ ih

theorem Alike.first (c : Char) (alike : Alike mark ends (c :: s) t) :
    (t = [] ∧ ends = true) ∨ ∃ later, t = c :: later := by
  cases alike with
  | mark old new => exact .inr ⟨new, rfl⟩
  | finish old allowed => exact .inl ⟨rfl, allowed⟩
  | char _ _ later => exact .inr ⟨later, rfl⟩

theorem Alike.first_differs (c : Char) (alike : Alike mark ends s t) (other : s.head? ≠ some c) :
    t.head? ≠ some c := by
  cases alike with
  | mark => exact other
  | finish => nofun
  | char => exact other

theorem Alike.back (c : Char) (other : c ≠ mark) (alike : Alike mark ends s (c :: t)) :
    ∃ s', s = c :: s' ∧ Alike mark ends s' t := by
  cases alike with
  | mark => exact absurd rfl other
  | char _ s' _ later => exact ⟨s', rfl, later⟩

/-- What `take` makes of the text when it leaves `rest`, it makes in the same way of every text that is like
this one behind what was taken. Its fuel is enough for the length of the text. -/
def Takes (mark : Char) (ends : Bool) (take : Nat → Text → α) (s : Text) (give : Text → α) (rest : Text) : Prop :=
  ∃ front, s = front ++ rest ∧ ∀ t fuel, Alike mark ends rest t → (front ++ t).length ≤ fuel →
    take fuel (front ++ t) = give t

def Drops (mark : Char) (ends : Bool) (drop : Text → Text) (s : Text) : Prop :=
  Takes mark ends (fun _ => drop) s id (drop s)

namespace Takes

variable {take : Nat → Text → α} {give : Text → α} {next : Nat → Text → β} {give' : Text → β} {rest middle : Text}
  {whole : Nat → Text → γ} {result : Text → γ}

theorem suffix (taken : Takes mark ends take s give rest) : rest <:+ s := by
  obtain ⟨front, same, _⟩ := taken
  exact ⟨front, same.symm⟩

theorem nothing (same : ∀ fuel t, Alike mark ends s t → take fuel t = give t) : Takes mark ends take s give s :=
  ⟨[], rfl, fun t fuel alike _ => same fuel t alike⟩

theorem congr {take' : Nat → Text → α} (taken : Takes mark ends take s give rest)
    (agree : ∀ fuel t, Alike mark ends s t → take' fuel t = take fuel t) : Takes mark ends take' s give rest := by
  obtain ⟨front, rfl, same⟩ := taken
  exact ⟨front, rfl, fun t fuel alike enough => (agree fuel _ (alike.append front)).trans (same t fuel alike enough)⟩

theorem map (taken : Takes mark ends take s give rest)
    (step : ∀ fuel t later, Alike mark ends rest later → t.length ≤ fuel →
      (∀ fuel', t.length ≤ fuel' → take fuel' t = give later) → whole fuel t = result later) :
    Takes mark ends whole s result rest := by
  obtain ⟨front, rfl, same⟩ := taken
  exact ⟨front, rfl, fun t fuel alike enough =>
    step fuel (front ++ t) t alike enough fun fuel' => same t fuel' alike⟩

theorem cons (c : Char) (taken : Takes mark ends take s give rest)
    (step : ∀ fuel t later, t.length ≤ fuel → (∀ fuel', t.length ≤ fuel' → take fuel' t = give later) →
      whole (fuel + 1) (c :: t) = result later) :
    Takes mark ends whole (c :: s) result rest := by
  obtain ⟨front, rfl, same⟩ := taken
  refine ⟨c :: front, rfl, fun t fuel alike enough => ?_⟩
  obtain ⟨less, rfl⟩ : ∃ less, fuel = less + 1 := Nat.exists_eq_succ_of_ne_zero fun none => by simp [none] at enough
  exact step less (front ++ t) t (Nat.le_of_succ_le_succ enough) fun fuel' => same t fuel' alike

theorem bind (first : Takes mark ends take s give middle) (second : Takes mark ends next middle give' rest)
    (step : ∀ fuel t later last, Alike mark ends middle later → t.length ≤ fuel → later.length ≤ t.length →
      (∀ fuel', t.length ≤ fuel' → take fuel' t = give later) →
      (∀ fuel', later.length ≤ fuel' → next fuel' later = give' last) → whole fuel t = result last) :
    Takes mark ends whole s result rest := by
  obtain ⟨front, rfl, same⟩ := first
  obtain ⟨front', rfl, same'⟩ := second
  refine ⟨front ++ front', (List.append_assoc _ _ _).symm, fun t fuel alike enough => ?_⟩
  have middle := alike.append front'
  rw [List.append_assoc] at enough ⊢
  exact step fuel (front ++ (front' ++ t)) (front' ++ t) t middle enough (by simp)
    (fun fuel' => same _ fuel' middle) fun fuel' => same' t fuel' alike

theorem bind_cons (c : Char) (first : Takes mark ends take s give (c :: middle))
    (second : Takes mark ends next middle give' rest)
    (step : ∀ fuel t later last, Alike mark ends s t → t.length ≤ fuel → later.length ≤ t.length →
      (∀ fuel', t.length ≤ fuel' → take fuel' t = give (c :: later)) →
      (∀ fuel', later.length ≤ fuel' → next fuel' later = give' last) → whole fuel t = result last) :
    Takes mark ends whole s result rest := by
  obtain ⟨front, rfl, same⟩ := first
  obtain ⟨front', rfl, same'⟩ := second
  refine ⟨front ++ c :: front', by simp, fun t fuel alike enough => ?_⟩
  have middle := Alike.char c _ _ (alike.append front')
  rw [List.append_assoc, List.cons_append] at enough ⊢
  exact step fuel (front ++ c :: (front' ++ t)) (front' ++ t) t (middle.append front) enough (by simp; omega)
    (fun fuel' => same _ fuel' middle) fun fuel' => same' t fuel' alike

theorem drop {drop : Text → Text} (dropped : Drops mark ends drop s) (taken : Takes mark ends take (drop s) give rest)
    (step : ∀ fuel t later, t.length ≤ fuel → (∀ fuel', t.length ≤ fuel' → take fuel' (drop t) = give later) →
      whole fuel t = result later) :
    Takes mark ends whole s result rest := by
  refine dropped.bind taken fun fuel t later last _ enough short known known' => ?_
  refine step fuel t last enough fun fuel' enough' => ?_
  rw [known fuel' enough']
  exact known' fuel' (Nat.le_trans short enough')

theorem cons_drop {drop : Text → Text} (c : Char) (dropped : Drops mark ends drop s)
    (taken : Takes mark ends take (drop s) give rest)
    (step : ∀ fuel t later, t.length ≤ fuel → (∀ fuel', t.length ≤ fuel' → take fuel' (drop t) = give later) →
      whole (fuel + 1) (c :: t) = result later) :
    Takes mark ends whole (c :: s) result rest := by
  have behind : Takes mark ends (fun fuel t => whole (fuel + 1) (c :: t)) s result rest := taken.drop dropped step
  exact behind.cons c fun fuel _ _ enough known => known fuel enough

end Takes

theorem Drops.shorter {drop : Text → Text} (dropped : Drops mark ends drop s) : (drop s).length ≤ s.length :=
  dropped.suffix.length_le

theorem Drops.none {drop : Text → Text} (same : drop [] = []) : Drops mark ends drop [] := by
  refine ⟨[], by rw [same]; rfl, fun t _ alike => ?_⟩
  rw [same] at alike
  cases alike

theorem Drops.still {drop : Text → Text} (c : Char) (same : drop [] = []) (stays : ∀ t, drop (c :: t) = c :: t) :
    Drops mark ends drop (c :: s) := by
  refine ⟨[], by rw [stays]; rfl, fun t _ alike _ => ?_⟩
  rw [stays] at alike
  rcases alike.first c with ⟨rfl, _⟩ | ⟨later, rfl⟩
  · exact same
  · exact stays later

theorem Drops.cons {drop drop' : Text → Text} (c : Char) (later : Drops mark ends drop' s)
    (same : ∀ t, drop (c :: t) = drop' t) : Drops mark ends drop (c :: s) := by
  unfold Drops
  rw [same]
  exact Takes.cons c later fun fuel t _ enough known => (same t).trans (known fuel enough)

theorem blanks_dropped (comment : Bool) (s : Text) : Drops mark ends (dropBlanks comment) s := by
  induction s generalizing comment with
  | nil => exact .none rfl
  | cons c rest ih =>
      by_cases inside : comment = true
      · exact (ih (c != '\n')).cons c fun t => by rw [dropBlanks, if_pos inside]
      · by_cases blank : Text.isBlank c = true
        · exact (ih false).cons c fun t => by rw [dropBlanks, if_neg inside, if_pos blank]
        · by_cases hash : (c == '#') = true
          · exact (ih true).cons c fun t => by rw [dropBlanks, if_neg inside, if_neg blank, if_pos hash]
          · exact .still c rfl fun t => by rw [dropBlanks, if_neg inside, if_neg blank, if_neg hash]

theorem skip_dropped (flags : Flags) (s : Text) : Drops mark ends flags.skip s := by
  unfold Flags.skip
  by_cases verbose : flags.verbose = true
  · simpa only [if_pos verbose] using blanks_dropped false s
  · simp only [if_neg verbose]
    exact .nothing fun _ _ _ => rfl

-- Where blanks end in front of something solid they do so before every text that is alike behind that.
theorem skip_append (flags : Flags) (front solid old new : Text) (skipped : flags.skip (front ++ old) = solid ++ old)
    (alike : Alike mark ends old new) : flags.skip (front ++ new) = solid ++ new := by
  have dropped : Drops mark ends flags.skip (front ++ old) := skip_dropped flags _
  obtain ⟨blanks, whole, same⟩ := dropped
  rw [skipped] at whole same
  rw [← List.append_assoc] at whole
  rw [List.append_cancel_right whole, List.append_assoc]
  exact same _ _ (alike.append solid) (Nat.le_refl _)

theorem drop_while_dropped (p : Char → Bool) (s : Text) : Drops mark ends (List.dropWhile p) s := by
  induction s with
  | nil => exact .none rfl
  | cons c rest ih =>
      by_cases holds : p c = true
      · exact ih.cons c fun t => List.dropWhile_cons_of_pos holds
      · exact .still c rfl fun t => List.dropWhile_cons_of_neg holds

theorem lazy_mark_dropped (s : Text) : Drops mark ends skipLazyMark s := by
  cases s with
  | nil => exact .none rfl
  | cons c rest =>
      by_cases lazy : c = '?'
      · have behind : Drops mark ends id rest := .nothing fun _ _ _ => rfl
        exact behind.cons c fun t => by rw [lazy]; rfl
      · refine .still c rfl fun t => ?_
        unfold skipLazyMark
        split
        · rename_i same
          exact absurd (List.cons.inj same).1 lazy
        · rfl

theorem digits_taken (flags : Flags) (digits : Text) (fuel : Nat) (s : Text) (enough : s.length ≤ fuel) :
    Takes mark ends (takeDigits flags digits) s (fun t => ((takeDigits flags digits fuel s).1, t))
      (takeDigits flags digits fuel s).2 := by
  have ended (fuel : Nat) (digits : Text) : takeDigits flags digits fuel [] = (digits.reverse, []) := by
    cases fuel <;> rfl
  induction fuel generalizing digits s with
  | zero =>
      rw [List.eq_nil_of_length_eq_zero (Nat.le_zero.mp enough)]
      refine .nothing fun fuel t alike => ?_
      cases alike
  | succ fuel ih =>
      cases s with
      | nil =>
          refine .nothing fun fuel t alike => ?_
          cases alike
      | cons c rest =>
          by_cases digit : c.isDigit = true
          · have dropped : Drops mark ends flags.skip rest := skip_dropped flags rest
            have shorter := Nat.le_trans dropped.shorter (Nat.le_of_succ_le_succ enough)
            rw [takeDigits, if_pos digit]
            refine (ih (c :: digits) _ shorter).cons_drop c dropped fun fuel t later enough known => ?_
            rw [takeDigits, if_pos digit, known fuel enough]
          · rw [takeDigits, if_neg digit]
            refine .nothing fun fuel t alike => ?_
            rcases alike.first c with ⟨rfl, _⟩ | ⟨t', rfl⟩
            · exact ended fuel digits
            · cases fuel with
              | zero => rfl
              | succ fuel => rw [takeDigits, if_neg digit]

theorem count_taken (flags : Flags) (s rest : Text) (n : Nat) (read : takeCount? flags s = some (n, rest)) :
    Takes mark ends (fun _ => takeCount? flags) s (fun t => some (n, t)) rest := by
  have blanks : Drops mark ends (List.dropWhile Text.isBlank) s := drop_while_dropped _ s
  unfold takeCount? at read
  dsimp only at read
  split at read
  · contradiction
  · rename_i proper
    cases read
    have digits : Takes mark ends (fun _ t => takeDigits flags [] t.length (t.dropWhile Text.isBlank)) s _ _ :=
      (digits_taken flags [] s.length _ blanks.shorter).drop blanks fun _ t _ _ known => known _ (Nat.le_refl _)
    refine digits.bind (drop_while_dropped Text.isBlank _) fun fuel t later last _ enough _ known known' => ?_
    unfold takeCount?
    dsimp only
    rw [known fuel enough, if_neg proper]
    exact congrArg (fun rest => some (_, rest)) (known' _ (Nat.le_refl _))

theorem closing_dropped (flags : Flags) (s : Text) : Drops mark ends (fun t => skipLazyMark (flags.skip t)) s :=
  Takes.drop (skip_dropped flags s) (lazy_mark_dropped _) fun fuel _ _ enough known => known fuel enough

def secondBound? (flags : Flags) (least : Nat) (s : Text) : Option (Nat × Option Nat × Text) :=
  match s with
  | [] => none
  | '}' :: rest => some (least, none, skipLazyMark (flags.skip rest))
  | rest => do
      let (most, rest) ← takeCount? flags rest
      match rest with
      | '}' :: rest => if least ≤ most then some (least, some most, skipLazyMark (flags.skip rest)) else none
      | _ => none

theorem second_bound_taken (flags : Flags) (n least : Nat) (most : Option Nat) (s rest : Text)
    (read : secondBound? flags n s = some (least, most, rest)) :
    Takes mark ends (fun _ => secondBound? flags n) s (fun t => some (least, most, t)) rest := by
  unfold secondBound? at read
  split at read
  · contradiction
  · cases read
    refine Takes.cons '}' (closing_dropped flags _) fun fuel t later enough known => ?_
    exact congrArg (fun rest => some (n, none, rest)) (known fuel enough)
  · rename_i needed open'
    obtain ⟨c, tail, rfl⟩ := List.exists_cons_of_ne_nil needed
    obtain ⟨⟨m, middle⟩, counted, read⟩ := Option.bind_eq_some_iff.mp read
    dsimp only at read
    split at read
    · split at read
      · rename_i order
        cases read
        refine (count_taken flags _ _ m counted).bind_cons '}' (closing_dropped flags _)
          fun fuel t later last alike enough _ known known' => ?_
        have counted' := known fuel enough
        rcases alike.first c with ⟨rfl, _⟩ | ⟨t, rfl⟩
        · contradiction
        · unfold secondBound?
          split
          · contradiction
          · rename_i same
            exact absurd (congrArg (· :: tail) (List.cons.inj same).1) (open' tail)
          · rw [counted']
            refine (if_pos order).trans ?_
            exact congrArg (fun rest => some (n, some m, rest)) (known' _ (Nat.le_refl _))
      · contradiction
    · contradiction

theorem bounds_steps (flags : Flags) (s : Text) : takeBounds? flags s =
    (takeCount? flags (flags.skip s)).bind fun (n, rest) =>
      match rest with
      | '}' :: rest => some (n, some n, skipLazyMark (flags.skip rest))
      | ',' :: rest => secondBound? flags n (flags.skip rest)
      | _ => none := rfl

theorem bounds_taken (flags : Flags) (s rest : Text) (least : Nat) (most : Option Nat)
    (read : takeBounds? flags s = some (least, most, rest)) :
    Takes mark ends (fun _ => takeBounds? flags) s (fun t => some (least, most, t)) rest := by
  obtain ⟨⟨n, middle⟩, counted, behind⟩ := Option.bind_eq_some_iff.mp ((bounds_steps flags s).symm.trans read)
  have first : Takes mark ends (fun _ t => takeCount? flags (flags.skip t)) s (fun t => some (n, t)) middle :=
    (count_taken flags _ _ n counted).drop (skip_dropped flags s) fun fuel _ _ enough known => known fuel enough
  dsimp only at behind
  split at behind
  · cases behind
    refine first.bind_cons '}' (closing_dropped flags _) fun fuel t later last _ enough _ known known' => ?_
    rw [bounds_steps, known fuel enough]
    exact congrArg (fun rest => some (least, some least, rest)) (known' _ (Nat.le_refl _))
  · have second : Takes mark ends (fun _ t => secondBound? flags n (flags.skip t)) _ _ rest :=
      (second_bound_taken flags n least most _ rest behind).drop (skip_dropped flags _)
        fun fuel _ _ enough known => known fuel enough
    refine first.bind_cons ',' second fun fuel t later last _ enough _ known known' => ?_
    rw [bounds_steps, known fuel enough]
    exact known' _ (Nat.le_refl _)
  · contradiction

theorem bounds_behind (flags : Flags) (s rest : Text) (least : Nat) (most : Option Nat)
    (read : takeBounds? flags s = some (least, most, rest)) : rest <:+ (flags.skip s).tail := by
  obtain ⟨⟨n, middle⟩, counted, behind⟩ := Option.bind_eq_some_iff.mp ((bounds_steps flags s).symm.trans read)
  have count : Takes '}' false _ _ _ _ := count_taken flags _ _ n counted
  suffices mark : ∃ c later, middle = c :: later ∧ rest <:+ later by
    obtain ⟨c, later, rfl, shorter⟩ := mark
    obtain ⟨front, whole⟩ := count.suffix
    rw [← whole]
    refine shorter.trans ?_
    cases front with
    | nil => exact List.suffix_refl later
    | cons d front => exact ⟨front ++ [c], by simp⟩
  dsimp only at behind
  split at behind
  · rename_i later
    cases behind
    have dropped : Drops '}' false (fun t => skipLazyMark (flags.skip t)) later := closing_dropped flags later
    exact ⟨'}', later, rfl, dropped.suffix⟩
  · rename_i later
    have second : Takes '}' false _ _ _ _ := second_bound_taken flags n least most _ rest behind
    have dropped : Drops '}' false flags.skip later := skip_dropped flags later
    exact ⟨',', later, rfl, second.suffix.trans dropped.suffix⟩
  · contradiction

end Shading.Regex
