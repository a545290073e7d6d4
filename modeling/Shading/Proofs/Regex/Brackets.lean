import Shading.Proofs.Regex.Escapes
import Shading.Proofs.Text

set_option autoImplicit false

namespace Shading.Regex

variable {mark : Char} {s t : Text}

theorem Alike.keeps_first (alike : Alike mark false s t) : t.head? = s.head? := by
  cases alike with
  | mark => rfl
  | finish _ allowed => contradiction
  | char => rfl

theorem Alike.begins (c : Char) (alike : Alike mark false (c :: s) t) : ∃ later, t = c :: later :=
  (alike.first c).resolve_left fun ended => Bool.false_ne_true ended.2

theorem skip_plain (flags : Flags) (c : Char) (tail : Text) (solid : Text.isBlank c = false) (other : c ≠ '#') :
    flags.skip (c :: tail) = c :: tail := by
  unfold Flags.skip
  split
  · rw [dropBlanks, if_neg Bool.false_ne_true, if_neg (by rw [solid]; exact Bool.false_ne_true),
      if_neg (by simpa using other)]
  · rfl

theorem hyphens_taken (flags : Flags) (items : CharSet) (found : Bool) (fuel : Nat) (s : Text)
    (enough : s.length ≤ fuel) :
    Takes mark false (takeHyphens flags items found) s
      (fun t => ((takeHyphens flags items found fuel s).1, (takeHyphens flags items found fuel s).2.1, t))
      (takeHyphens flags items found fuel s).2.2 := by
  have still (fuel : Nat) (items : CharSet) (found : Bool) (t : Text) (other : t.head? ≠ some '-') :
      takeHyphens flags items found fuel t = (items, found, t) := by
    unfold takeHyphens
    split
    · contradiction
    · rfl
  have plain (fuel : Nat) (items : CharSet) (found : Bool) (s : Text) (other : s.head? ≠ some '-') :
      Takes mark false (takeHyphens flags items found) s
        (fun t => ((takeHyphens flags items found fuel s).1, (takeHyphens flags items found fuel s).2.1, t))
        (takeHyphens flags items found fuel s).2.2 := by
    rw [still fuel items found s other]
    exact .nothing fun fuel t alike => still fuel items found t (alike.keeps_first.symm ▸ other)
  induction fuel generalizing items found s with
  | zero =>
      rw [List.eq_nil_of_length_eq_zero (Nat.le_zero.mp enough)]
      exact plain 0 items found [] nofun
  | succ fuel ih =>
      by_cases hyphen : s.head? = some '-'
      · obtain ⟨tail, rfl⟩ := List.head?_eq_some_iff.mp hyphen
        have dropped : Drops mark false flags.skip tail := skip_dropped flags tail
        have shorter := Nat.le_trans dropped.shorter (Nat.le_of_succ_le_succ enough)
        exact (ih (.union items (.single '-')) true _ shorter).cons_drop '-' dropped
          fun fuel t later enough known => known fuel enough
      · exact plain (fuel + 1) items found s hyphen

def takeCaret (flags : Flags) (s : Text) : Bool × Text :=
  match flags.skip s with
  | '^' :: rest => (true, flags.skip rest)
  | other => (false, other)

theorem caret_taken (flags : Flags) (s : Text) :
    Takes mark false (fun _ => takeCaret flags) s (fun t => ((takeCaret flags s).1, t)) (takeCaret flags s).2 := by
  have skipped : Drops mark false flags.skip s := skip_dropped flags s
  unfold Drops at skipped
  by_cases caret : (flags.skip s).head? = some '^'
  · obtain ⟨tail, form⟩ := List.head?_eq_some_iff.mp caret
    have inside (s tail : Text) (form : flags.skip s = '^' :: tail) : takeCaret flags s = (true, flags.skip tail) := by
      rw [takeCaret, form]
      rfl
    rw [inside s tail form]
    rw [form] at skipped
    refine skipped.bind_cons '^' (skip_dropped flags tail) fun fuel t later last _ enough _ known known' => ?_
    rw [inside t later (known fuel enough), known' _ (Nat.le_refl _)]
    rfl
  · have outside (s : Text) (caret : (flags.skip s).head? ≠ some '^') : takeCaret flags s = (false, flags.skip s) := by
      unfold takeCaret
      split
      · rename_i form
        exact absurd (by rw [form]; rfl) caret
      · rfl
    rw [outside s caret]
    refine skipped.map fun fuel t later alike enough known => ?_
    have form : flags.skip t = later := known fuel enough
    rw [outside t (by rw [form, alike.keeps_first]; exact caret), form]

def takeLead (flags : Flags) (s : Text) : Bool × CharSet × Bool × Text :=
  ((takeCaret flags s).1, takeHyphens flags .empty false (takeCaret flags s).2.length (takeCaret flags s).2)

theorem lead_taken (flags : Flags) (s : Text) : Takes mark false (fun _ => takeLead flags) s
    (fun t => ((takeLead flags s).1, (takeLead flags s).2.1, (takeLead flags s).2.2.1, t))
    (takeLead flags s).2.2.2 := by
  have caret : Takes mark false _ _ _ _ := caret_taken flags s
  refine caret.bind (hyphens_taken flags .empty false _ _ (Nat.le_refl _))
    fun fuel t later last _ enough _ known known' => ?_
  rw [takeLead, known fuel enough, known' _ (Nat.le_refl _)]
  rfl

-- A bracket that comes first does not end the class.
def afterLead (flags : Flags) (negated : Bool) (items : CharSet) (found : Bool) (s : Text) : Bool × CharSet × Text :=
  match s with
  | ']' :: rest => if found then (negated, items, s) else (negated, .single ']', flags.skip rest)
  | _ => (negated, items, s)

theorem open_class_lead (flags : Flags) (s : Text) : openClass flags s =
    let (negated, items, found, rest) := takeLead flags s
    afterLead flags negated items found rest := by
  unfold openClass takeLead takeCaret afterLead
  rfl

theorem after_lead_taken (flags : Flags) (negated negated' found : Bool) (items items' : CharSet) (s rest : Text)
    (read : afterLead flags negated items found s = (negated', items', rest)) :
    Takes mark false (fun _ => afterLead flags negated items found) s (fun t => (negated', items', t)) rest := by
  by_cases bracket : s.head? = some ']'
  · obtain ⟨tail, rfl⟩ := List.head?_eq_some_iff.mp bracket
    have inside (t : Text) : afterLead flags negated items found (']' :: t) =
        if found then (negated, items, ']' :: t) else (negated, .single ']', flags.skip t) := rfl
    rw [inside] at read
    by_cases hyphens : found = true
    · rw [if_pos hyphens] at read
      cases read
      refine .nothing fun fuel t alike => ?_
      obtain ⟨later, rfl⟩ := alike.begins ']'
      rw [inside, if_pos hyphens]
    · rw [if_neg hyphens] at read
      cases read
      refine Takes.cons ']' (skip_dropped flags tail) fun fuel t later enough known => ?_
      rw [inside, if_neg hyphens, known fuel enough]
      rfl
  · have outside (t : Text) (other : t.head? ≠ some ']') :
        afterLead flags negated items found t = (negated, items, t) := by
      unfold afterLead
      split
      · contradiction
      · rfl
    rw [outside s bracket] at read
    cases read
    exact .nothing fun fuel t alike => outside t (alike.keeps_first ▸ bracket)

theorem open_class_taken (flags : Flags) (s rest : Text) (negated : Bool) (items : CharSet)
    (read : openClass flags s = (negated, items, rest)) :
    Takes mark false (fun _ => openClass flags) s (fun t => (negated, items, t)) rest := by
  rw [open_class_lead] at read
  have lead : Takes mark false _ _ _ _ := lead_taken flags s
  refine lead.bind (after_lead_taken flags _ _ _ _ _ _ _ read) fun fuel t later last _ enough _ known known' => ?_
  rw [open_class_lead, known fuel enough]
  exact known' _ (Nat.le_refl _)

theorem span_at (mark : Char) (front back : Text) (free : mark ∉ front) :
    (front ++ mark :: back).span (· != mark) = (front, mark :: back) := by
  have keep := Text.differs_of_not_mem mark front free
  rw [List.span_eq_takeWhile_dropWhile, List.takeWhile_append_of_pos keep, List.dropWhile_append_of_pos keep,
    List.takeWhile_cons_of_neg (by simp), List.dropWhile_cons_of_neg (by simp), List.append_nil]

theorem span_cut (mark : Char) (s front back : Text) (cut : s.span (· != mark) = (front, back)) :
    s = front ++ back ∧ mark ∉ front := by
  rw [List.span_eq_takeWhile_dropWhile] at cut
  obtain ⟨rfl, rfl⟩ := Prod.mk.inj cut
  refine ⟨List.takeWhile_append_dropWhile.symm, fun member => ?_⟩
  have differs := List.mem_takeWhile_imp member
  simp at differs

-- The first bracket in the text is the one that is taken last.
def EndsInBracket (take : Text → Option (CharSet × Text)) (s : Text) (set : CharSet) (rest : Text) : Prop :=
  ∃ front, ']' ∉ front ∧ s = front ++ ']' :: rest ∧ ∀ t, take (front ++ ']' :: t) = some (set, t)

def posixBehind? (flags : Flags) (negated : Bool) (s : Text) : Option (CharSet × Text) := do
  let (name, rest) := s.span (· != ':')
  match rest with
  | ':' :: ']' :: rest =>
      let (_, spans) ← posixClasses.find? fun entry => entry.1.toList == name
      some (negateIf negated (flags.fold (.ranges spans)), rest)
  | _ => none

theorem posix_behind_taken (flags : Flags) (negated : Bool) (s rest : Text) (set : CharSet)
    (read : posixBehind? flags negated s = some (set, rest)) :
    EndsInBracket (posixBehind? flags negated) s set rest := by
  have unbracketed : ∀ entry ∈ posixClasses, ']' ∉ entry.1.toList := by decide
  unfold posixBehind? at read
  generalize cut : s.span (· != ':') = parts at read
  obtain ⟨name, behind⟩ := parts
  dsimp only at read
  split at read
  · obtain ⟨entry, found, same⟩ := Option.bind_eq_some_iff.mp read
    cases same
    obtain ⟨rfl, free⟩ := span_cut ':' _ _ _ cut
    have named : entry.1.toList = name := by simpa using List.find?_some found
    have plain := unbracketed entry (List.mem_of_find?_eq_some found)
    refine ⟨name ++ [':'], ?_, by simp, fun t => ?_⟩
    · simp [← named, plain]
    · rw [List.append_assoc]
      unfold posixBehind?
      rw [List.singleton_append, span_at ':' name _ free]
      dsimp only
      rw [found]
      rfl
  · contradiction

def takeNegation (s : Text) : Bool × Text :=
  match s with
  | '^' :: rest => (true, rest)
  | rest => (false, rest)

theorem negation_plain (s : Text) (plain : s.head? ≠ some '^') : takeNegation s = (false, s) := by
  unfold takeNegation
  split
  · contradiction
  · rfl

theorem posix_steps (flags : Flags) (tail : Text) : takePosixClass? flags (':' :: tail) =
    posixBehind? flags (takeNegation tail).1 (takeNegation tail).2 := by
  unfold takePosixClass? posixBehind? takeNegation
  rfl

theorem EndsInBracket.cons {take outer : Text → Option (CharSet × Text)} {set : CharSet} {rest : Text} (c : Char)
    (other : c ≠ ']') (ends : EndsInBracket take s set rest)
    (step : ∀ t, t.head? = s.head? → outer (c :: t) = take t) : EndsInBracket outer (c :: s) set rest := by
  obtain ⟨front, free, rfl, same⟩ := ends
  refine ⟨c :: front, by simp [other.symm, free], rfl, fun t => ?_⟩
  exact (step (front ++ ']' :: t) (by cases front <;> rfl)).trans (same t)

theorem posix_taken (flags : Flags) (s rest : Text) (set : CharSet)
    (read : takePosixClass? flags s = some (set, rest)) : EndsInBracket (takePosixClass? flags) s set rest := by
  by_cases colon : s.head? = some ':'
  · obtain ⟨tail, rfl⟩ := List.head?_eq_some_iff.mp colon
    by_cases caret : tail.head? = some '^'
    · obtain ⟨tail, rfl⟩ := List.head?_eq_some_iff.mp caret
      rw [posix_steps] at read
      have behind := posix_behind_taken flags true tail rest set read
      have inner : EndsInBracket (fun t => takePosixClass? flags (':' :: t)) ('^' :: tail) set rest :=
        behind.cons '^' (by decide) fun t _ => posix_steps flags ('^' :: t)
      exact inner.cons ':' (by decide) fun t _ => rfl
    · have step (t : Text) (same : t.head? = tail.head?) :
          takePosixClass? flags (':' :: t) = posixBehind? flags false t := by
        rw [posix_steps, negation_plain t (same ▸ caret)]
      rw [step tail rfl] at read
      exact (posix_behind_taken flags false tail rest set read).cons ':' (by decide) step
  · unfold takePosixClass? at read
    split at read
    · contradiction
    · contradiction

theorem EndsInBracket.taken {take : Text → Option (CharSet × Text)} {set : CharSet} {rest : Text} {ends : Bool}
    (closed : EndsInBracket take s set rest) :
    Takes mark ends (fun _ => take) s (fun t => some (set, t)) rest := by
  obtain ⟨front, _, rfl, same⟩ := closed
  refine ⟨front ++ [']'], by simp, fun t _ _ _ => ?_⟩
  rw [List.append_assoc]
  exact same t

-- Whether there is a named class is told by the text up to its first bracket.
theorem EndsInBracket.alike {take : Text → Option (CharSet × Text)} {set : CharSet} {rest : Text}
    (ends : EndsInBracket take t set rest) (alike : Alike ']' false s t) :
    ∃ rest', take s = some (set, rest') := by
  obtain ⟨front, free, whole, same⟩ := ends
  suffices form : ∃ rest', s = front ++ ']' :: rest' by
    obtain ⟨rest', rfl⟩ := form
    exact ⟨rest', same rest'⟩
  clear same
  induction front generalizing s t with
  | nil =>
      subst whole
      cases alike with
      | mark old => exact ⟨old, rfl⟩
      | char _ s => exact ⟨s, rfl⟩
  | cons c front ih =>
      obtain ⟨other, plain⟩ := List.ne_and_not_mem_of_not_mem_cons free
      cases alike with
      | mark old new => exact absurd (List.cons.inj whole).1 other
      | finish old allowed => contradiction
      | char d s t later =>
          obtain ⟨rfl, behind⟩ := List.cons.inj whole
          obtain ⟨rest', rfl⟩ := ih later plain behind
          exact ⟨rest', rfl⟩

-- A member other than the condition of a place, which no class has.
theorem class_atom_taken (flags : Flags) (s rest : Text) (a : Atom) (read : takeClassAtom? flags s = some (a, rest))
    (member : ∀ condition, a ≠ .look condition) :
    ∃ c tail, s = c :: tail ∧
      Takes mark false (fun _ t => takeClassAtom? flags (c :: t)) tail (fun t => some (a, t)) rest := by
  cases s with
  | nil => contradiction
  | cons c tail =>
      refine ⟨c, tail, rfl, ?_⟩
      by_cases escape : c = '\\'
      · subst escape
        rcases escape_taken flags tail rest a read with ⟨_, _, _, _, place, _⟩ | taken
        · exact absurd place (member _)
        · exact taken
      · have plain (t : Text) : takeClassAtom? flags (c :: t) = some (.literal c, t) := by
          unfold takeClassAtom?
          split
          · contradiction
          · rename_i same
            exact absurd (List.cons.inj same).1 escape
          · rename_i same
            cases same
            rfl
        rw [plain] at read
        cases read
        exact .nothing fun fuel t _ => plain t

theorem literal_of_member (flags : Flags) (a : Atom) (c : Char) (known : a.literal? flags = some c)
    (condition : Look) : a ≠ .look condition := by
  rintro rfl
  contradiction

def rangeEnd? (flags : Flags) (first : Atom) (s : Text) : Option (CharSet × Text) := do
  let low ← first.literal? flags
  let (second, rest) ← takeClassAtom? flags s
  let high ← second.literal? flags
  if low ≤ high then some (.span low high, rest) else none

theorem range_end_taken (flags : Flags) (first : Atom) (s rest : Text) (set : CharSet)
    (read : rangeEnd? flags first s = some (set, rest)) :
    Takes mark false (fun _ => rangeEnd? flags first) s (fun t => some (set, t)) rest := by
  obtain ⟨low, lowKnown, read⟩ := Option.bind_eq_some_iff.mp read
  obtain ⟨⟨second, behind⟩, atom, read⟩ := Option.bind_eq_some_iff.mp read
  obtain ⟨high, highKnown, read⟩ := Option.bind_eq_some_iff.mp read
  split at read
  · rename_i order
    cases read
    obtain ⟨c, tail, rfl, taken⟩ :=
      class_atom_taken flags s rest second atom (literal_of_member flags second high highKnown)
    refine taken.cons c fun fuel t later enough known => ?_
    rw [rangeEnd?, lowKnown, Option.bind_eq_bind, Option.bind_some, known fuel enough, Option.bind_eq_bind,
      Option.bind_some]
    dsimp only
    rw [highKnown, Option.bind_some, if_pos order]
  · contradiction

def itemBehind? (flags : Flags) (first : Atom) (s : Text) : Option (CharSet × Text) :=
  match s with
  | [] => none
  | '-' :: afterHyphen =>
      match flags.skip afterHyphen with
      | [] => none
      | ']' :: _ | '-' :: _ => (first.set? flags).map fun set => (set, s)
      | next => rangeEnd? flags first next
  | rest => (first.set? flags).map fun set => (set, rest)

theorem class_item_steps (flags : Flags) (s : Text) : takeClassItem? flags s =
    (takeClassAtom? flags s).bind fun (first, rest) => itemBehind? flags first (flags.skip rest) := by
  unfold takeClassItem? itemBehind? rangeEnd?
  rfl

theorem item_behind_hyphen (flags : Flags) (first : Atom) (tail : Text) : itemBehind? flags first ('-' :: tail) =
    match flags.skip tail with
    | [] => none
    | c :: later =>
        if c = ']' ∨ c = '-' then (first.set? flags).map fun set => (set, '-' :: tail)
        else rangeEnd? flags first (c :: later) := by
  rw [itemBehind?]
  cases flags.skip tail with
  | nil => rfl
  | cons c later =>
      dsimp only
      by_cases bracket : c = ']'
      · rw [bracket, if_pos (.inl rfl)]
        rfl
      · by_cases hyphen : c = '-'
        · rw [hyphen, if_pos (.inr rfl)]
          rfl
        · rw [if_neg (not_or.mpr ⟨bracket, hyphen⟩)]
          split
          · contradiction
          · rename_i same
            exact absurd (List.cons.inj same).1 bracket
          · rename_i same
            exact absurd (List.cons.inj same).1 hyphen
          · rfl

theorem item_behind_other (flags : Flags) (first : Atom) (c : Char) (tail : Text) (other : c ≠ '-') :
    itemBehind? flags first (c :: tail) = (first.set? flags).map fun set => (set, c :: tail) := by
  rw [itemBehind?]
  · nofun
  · exact fun _ same => other (List.cons.inj same).1

theorem item_range_taken (flags : Flags) (first : Atom) (c : Char) (tail later rest : Text) (set : CharSet)
    (form : flags.skip tail = c :: later) (open' : ¬ (c = ']' ∨ c = '-'))
    (read : rangeEnd? flags first (c :: later) = some (set, rest)) :
    Takes mark false (fun _ t => itemBehind? flags first ('-' :: t)) tail (fun t => some (set, t)) rest := by
  have skipped : Drops mark false flags.skip tail := skip_dropped flags tail
  unfold Drops at skipped
  rw [form] at skipped
  refine skipped.bind (range_end_taken flags first _ rest set read)
    fun fuel t middle last alike enough _ known known' => ?_
  obtain ⟨later', rfl⟩ := alike.begins c
  have form' : flags.skip t = c :: later' := known fuel enough
  rw [item_behind_hyphen, form']
  dsimp only
  rw [if_neg open']
  exact known' _ (Nat.le_refl _)

-- A hyphen that opens no range is left, and so is told by what comes behind it.
theorem item_behind_taken (flags : Flags) (first : Atom) (s rest : Text) (set : CharSet)
    (read : itemBehind? flags first s = some (set, rest)) :
    (∃ tail, s = '-' :: tail ∧ rest = s ∧ ∀ tail', (flags.skip tail').head? = (flags.skip tail).head? →
        itemBehind? flags first ('-' :: tail') = some (set, '-' :: tail')) ∨
      Takes mark false (fun _ => itemBehind? flags first) s (fun t => some (set, t)) rest := by
  cases s with
  | nil => contradiction
  | cons c tail =>
      by_cases hyphen : c = '-'
      · subst hyphen
        rw [item_behind_hyphen] at read
        cases form : flags.skip tail with
        | nil =>
            rw [form] at read
            contradiction
        | cons d later =>
            rw [form] at read
            dsimp only at read
            by_cases ending : d = ']' ∨ d = '-'
            · rw [if_pos ending] at read
              obtain ⟨set, known, same⟩ := Option.map_eq_some_iff.mp read
              cases same
              refine .inl ⟨tail, rfl, rfl, fun tail' same => ?_⟩
              obtain ⟨later', form'⟩ := List.head?_eq_some_iff.mp (same.trans (by rw [form]; rfl))
              rw [item_behind_hyphen, form']
              dsimp only
              rw [if_pos ending, known]
              rfl
            · rw [if_neg ending] at read
              exact .inr ((item_range_taken flags first d tail later rest set form ending read).cons '-'
                fun fuel t later enough known => known fuel enough)
      · rw [item_behind_other flags first c tail hyphen] at read
        obtain ⟨set, known, same⟩ := Option.map_eq_some_iff.mp read
        cases same
        refine .inr (.nothing fun fuel t alike => ?_)
        obtain ⟨later, rfl⟩ := alike.begins c
        rw [item_behind_other flags first c later hyphen, known]
        rfl

theorem item_behind_member (flags : Flags) (condition : Look) (s : Text) :
    itemBehind? flags (.look condition) s = none := by
  unfold itemBehind? rangeEnd?
  split
  · rfl
  · split <;> rfl
  · rfl

/-- An item takes what it takes of a text that is like this one up to a bracket. A hyphen that is left
also has to be followed by the same character. -/
theorem class_item_taken (flags : Flags) (s rest : Text) (set : CharSet)
    (read : takeClassItem? flags s = some (set, rest)) :
    ∃ c tail front, s = c :: tail ∧ tail = front ++ rest ∧ ∀ t, Alike ']' false rest t →
      (∀ r r', rest = '-' :: r → t = '-' :: r' → (flags.skip r').head? = (flags.skip r).head?) →
        takeClassItem? flags (c :: (front ++ t)) = some (set, t) := by
  rw [class_item_steps] at read
  obtain ⟨⟨first, behind⟩, atom, item⟩ := Option.bind_eq_some_iff.mp read
  dsimp only at item
  have member (condition : Look) : first ≠ .look condition := by
    rintro rfl
    rw [item_behind_member] at item
    contradiction
  obtain ⟨c, tail, rfl, taken⟩ : ∃ c tail, s = c :: tail ∧
      Takes ']' false (fun _ t => takeClassAtom? flags (c :: t)) tail (fun t => some (first, t)) behind :=
    class_atom_taken flags s behind first atom member
  have next : _ ∨ Takes ']' false _ _ _ _ := item_behind_taken flags first _ rest set item
  rcases next with ⟨r, form, rfl, left⟩ | next
  · have start : Takes ']' false (fun _ t => (takeClassAtom? flags (c :: t)).map fun (a, t) => (a, flags.skip t)) tail
        (fun t => some (first, t)) (flags.skip behind) :=
      taken.bind (skip_dropped flags behind) fun fuel t later last _ enough short known known' => by
        rw [known fuel enough, Option.map_some]
        exact congrArg (fun rest => some (first, rest)) (known' fuel (Nat.le_trans short enough))
    obtain ⟨front, rfl, same⟩ := start
    refine ⟨c, _, front, rfl, rfl, fun t alike agree => ?_⟩
    rw [form] at alike
    obtain ⟨r', rfl⟩ := alike.begins '-'
    obtain ⟨⟨a, middle⟩, atom', skipped⟩ := Option.map_eq_some_iff.mp (same _ _ (form ▸ alike) (Nat.le_refl _))
    obtain ⟨rfl, skipped'⟩ := Prod.mk.inj skipped
    rw [class_item_steps, atom', Option.bind_some]
    dsimp only
    rw [skipped']
    exact left r' (agree r r' form rfl)
  · have whole : Takes ']' false (fun _ t => takeClassItem? flags (c :: t)) tail (fun t => some (set, t)) rest := by
      refine taken.bind (next.drop (skip_dropped flags behind) fun fuel t later enough known => known fuel enough)
        fun fuel t later last _ enough short known known' => ?_
      rw [class_item_steps, known fuel enough]
      exact known' fuel (Nat.le_trans short enough)
    obtain ⟨front, rfl, same⟩ := whole
    exact ⟨c, _, front, rfl, rfl, fun t alike _ => same t _ alike (Nat.le_refl _)⟩

theorem class_item_hyphen (flags : Flags) (tail rest : Text) (set : CharSet)
    (read : takeClassItem? flags ('-' :: tail) = some (set, rest)) : rest <:+ flags.skip tail := by
  rw [class_item_steps] at read
  change itemBehind? flags (.literal '-') (flags.skip tail) = _ at read
  have next : _ ∨ Takes ']' false _ _ _ _ := item_behind_taken flags _ _ rest set read
  rcases next with ⟨_, _, same, _⟩ | taken
  · exact same ▸ List.suffix_refl _
  · exact taken.suffix

def classItems? (flags : Flags) (negated : Bool) (pending : Pending) (items : CharSet) (fuel : Nat) (s : Text) :
    Option (CharSet × Text) := do
  let (set, rest) ← takeClassItem? flags s
  takeClass? flags negated pending (.union items set) fuel rest

def classNested? (flags : Flags) (negated : Bool) (pending : Pending) (items : CharSet) (fuel : Nat) (s : Text) :
    Option (CharSet × Text) := do
  let (innerNegated, start, rest) := openClass flags s
  let (set, rest) ← takeClass? flags innerNegated none start fuel rest
  takeClass? flags negated pending (.union items set) fuel rest

def classBehind? (flags : Flags) (negated : Bool) (pending : Pending) (items : CharSet) (fuel : Nat) (s : Text) :
    Option (CharSet × Text) :=
  match fuel with
  | 0 => none
  | fuel + 1 =>
      let operator (kind : SetOperator) (rest : Text) :=
        takeClass? flags negated (some (kind, pending.apply flags items)) .empty fuel rest
      match s with
      | [] => none
      | ']' :: rest => some (negateIf negated (flags.fold (pending.apply flags items)), rest)
      | '[' :: rest =>
          match takePosixClass? flags rest with
          | some (set, rest) => takeClass? flags negated pending (.union items set) fuel rest
          | none => classNested? flags negated pending items fuel rest
      | '&' :: '&' :: rest => operator .intersection rest
      | '-' :: '-' :: rest => operator .difference rest
      | '~' :: '~' :: rest => operator .symmetricDifference rest
      | rest => classItems? flags negated pending items fuel rest

theorem class_behind_blanks (flags : Flags) (negated : Bool) (pending : Pending) (items : CharSet) (fuel : Nat)
    (s : Text) : takeClass? flags negated pending items fuel s =
      classBehind? flags negated pending items fuel (flags.skip s) := by
  cases fuel with
  | zero => rfl
  | succ fuel =>
      rw [takeClass?]
      unfold classBehind? classNested? classItems?
      rfl

theorem class_behind_item (flags : Flags) (negated : Bool) (pending : Pending) (items : CharSet) (fuel : Nat)
    (c : Char) (tail : Text) (bracket : c ≠ ']') (opening : c ≠ '[')
    (single : ∀ d ∈ ['&', '-', '~'], ¬ (c = d ∧ tail.head? = some d)) :
    classBehind? flags negated pending items (fuel + 1) (c :: tail) =
      classItems? flags negated pending items fuel (c :: tail) := by
  rw [classBehind?]
  · exact List.cons_ne_nil c tail
  · exact fun _ same => bracket (List.cons.inj same).1
  · exact fun _ same => opening (List.cons.inj same).1
  · rintro _ ⟨⟩
    exact single '&' (by decide) ⟨rfl, rfl⟩
  · rintro _ ⟨⟩
    exact single '-' (by decide) ⟨rfl, rfl⟩
  · rintro _ ⟨⟩
    exact single '~' (by decide) ⟨rfl, rfl⟩

-- A class takes a text up to its bracket. When it starts with a hyphen the bracket is behind the blanks
-- that follow.
structure ClassRead (flags : Flags) (take : Nat → Text → Option (CharSet × Text)) (s : Text) (set : CharSet)
    (rest : Text) : Prop where
  taken : Takes ']' false take s (fun t => some (set, t.tail)) (']' :: rest)
  hyphen : ∀ tail, s = '-' :: tail → (']' :: rest) <:+ flags.skip tail

theorem skip_keeps_first (flags : Flags) (front old new : Text) (closing : old <:+ flags.skip (front ++ old))
    (alike : Alike mark false old new) : (flags.skip (front ++ new)).head? = (flags.skip (front ++ old)).head? := by
  obtain ⟨solid, closed⟩ := closing
  rw [skip_append flags front solid old new closed.symm alike, ← closed]
  exact (alike.append solid).keeps_first

section

variable {flags : Flags} {fuel : Nat}
  (inner : ∀ negated pending items s rest set, takeClass? flags negated pending items fuel s = some (set, rest) →
    ClassRead flags (takeClass? flags negated pending items) s set rest)

include inner

theorem class_items_taken (negated : Bool) (pending : Pending) (items : CharSet) (c : Char) (tail rest : Text)
    (set : CharSet) (read : classItems? flags negated pending items fuel (c :: tail) = some (set, rest)) :
    Takes ']' false (fun fuel t => classItems? flags negated pending items fuel (c :: t)) tail
        (fun t => some (set, t.tail)) (']' :: rest) ∧
      (c = '-' → (']' :: rest) <:+ flags.skip tail) := by
  obtain ⟨⟨first, middle⟩, item, behind⟩ := Option.bind_eq_some_iff.mp read
  obtain ⟨⟨front', form, again⟩, hyphen⟩ := inner _ _ _ _ _ _ behind
  constructor
  · obtain ⟨d, tail', front, whole, split, taken⟩ := class_item_taken flags _ middle first item
    obtain ⟨rfl, rfl⟩ := List.cons.inj whole
    refine ⟨front ++ front', by rw [split, form, List.append_assoc], fun t fuel alike enough => ?_⟩
    rw [List.append_assoc] at enough ⊢
    have item' := taken (front' ++ t) (form ▸ alike.append front') fun r r' old new => by
      have closing := hyphen r old
      rw [form] at old
      cases front' with
      | nil => exact absurd (List.cons.inj old).1 (by decide)
      | cons e others =>
          obtain ⟨rfl, rfl⟩ := List.cons.inj old
          obtain ⟨-, rfl⟩ := List.cons.inj new
          exact skip_keeps_first flags others _ t closing alike
    show (takeClassItem? flags _).bind _ = _
    rw [item', Option.bind_some]
    exact again t fuel alike (Nat.le_trans (by simp) enough)
  · rintro rfl
    exact List.IsSuffix.trans ⟨front', form.symm⟩ (class_item_hyphen flags tail middle first item)

theorem class_nested_taken (negated : Bool) (pending : Pending) (items : CharSet) (s rest : Text) (set : CharSet)
    (read : classNested? flags negated pending items fuel s = some (set, rest)) :
    Takes ']' false (classNested? flags negated pending items) s (fun t => some (set, t.tail)) (']' :: rest) := by
  generalize opened : openClass flags s = start at read
  obtain ⟨innerNegated, first, middle⟩ := start
  rw [classNested?, opened] at read
  obtain ⟨⟨nested, behind⟩, closed, others⟩ := Option.bind_eq_some_iff.mp read
  have inside := (inner _ _ _ _ _ _ closed).taken
  have contents : Takes ']' false (fun fuel t => (takeClass? flags innerNegated none first fuel t).bind
      fun (nested, rest) => takeClass? flags negated pending (.union items nested) fuel rest) middle
      (fun t => some (set, t.tail)) (']' :: rest) :=
    inside.bind_cons ']' (inner _ _ _ _ _ _ others).taken fun fuel t later last _ enough short known known' => by
      rw [known fuel enough]
      exact known' fuel (Nat.le_trans short enough)
  refine (open_class_taken flags s middle innerNegated first opened).bind contents
    fun fuel t later last _ enough short known known' => ?_
  rw [classNested?, known fuel enough]
  exact known' fuel (Nat.le_trans short enough)

theorem class_opening_taken (negated : Bool) (pending : Pending) (items : CharSet) (tail rest : Text) (set : CharSet)
    (read : classBehind? flags negated pending items (fuel + 1) ('[' :: tail) = some (set, rest)) :
    Takes ']' false (fun fuel t => classBehind? flags negated pending items (fuel + 1) ('[' :: t)) tail
      (fun t => some (set, t.tail)) (']' :: rest) := by
  have step (fuel : Nat) (t : Text) : classBehind? flags negated pending items (fuel + 1) ('[' :: t) =
      match takePosixClass? flags t with
      | some (set, rest) => takeClass? flags negated pending (.union items set) fuel rest
      | none => classNested? flags negated pending items fuel t := rfl
  rw [step] at read
  cases named : takePosixClass? flags tail with
  | some class' =>
      rw [named] at read
      refine (posix_taken flags tail class'.2 class'.1 named).taken.bind (inner _ _ _ _ _ _ read).taken
        fun fuel t later last _ enough short known known' => ?_
      rw [step, known fuel enough]
      exact known' fuel (Nat.le_trans short enough)
  | none =>
      rw [named] at read
      refine (class_nested_taken inner negated pending items tail rest set read).congr fun fuel t alike => ?_
      rw [step]
      cases named' : takePosixClass? flags t with
      | none => rfl
      | some class' =>
          obtain ⟨rest', found⟩ := (posix_taken flags t class'.2 class'.1 named').alike alike
          rw [named] at found
          contradiction

theorem class_operator_taken (negated : Bool) (pending : Pending) (items : CharSet) (c : Char) (tail rest : Text)
    (set : CharSet) (operator : c ∈ ['&', '-', '~'])
    (read : classBehind? flags negated pending items (fuel + 1) (c :: c :: tail) = some (set, rest)) :
    Takes ']' false (fun fuel t => classBehind? flags negated pending items (fuel + 1) (c :: c :: t)) tail
      (fun t => some (set, t.tail)) (']' :: rest) := by
  obtain ⟨kind, step⟩ : ∃ kind, ∀ fuel t, classBehind? flags negated pending items (fuel + 1) (c :: c :: t) =
      takeClass? flags negated (some (kind, pending.apply flags items)) .empty fuel t := by
    simp only [List.mem_cons, List.not_mem_nil, or_false] at operator
    rcases operator with rfl | rfl | rfl
    · exact ⟨.intersection, fun _ _ => rfl⟩
    · exact ⟨.difference, fun _ _ => rfl⟩
    · exact ⟨.symmetricDifference, fun _ _ => rfl⟩
  rw [step] at read
  exact (inner _ _ _ _ _ _ read).taken.congr fun fuel t _ => step fuel t

theorem class_behind_taken (negated : Bool) (pending : Pending) (items : CharSet) (s rest : Text) (set : CharSet)
    (read : classBehind? flags negated pending items (fuel + 1) s = some (set, rest)) :
    ClassRead flags (classBehind? flags negated pending items) s set rest := by
  cases s with
  | nil => contradiction
  | cons c tail =>
      by_cases bracket : c = ']'
      · subst bracket
        cases read
        refine ⟨⟨[], rfl, fun t fuel' alike enough => ?_⟩, fun _ same => absurd (List.cons.inj same).1 (by decide)⟩
        obtain ⟨later, rfl⟩ := alike.begins ']'
        cases fuel' with
        | zero => contradiction
        | succ fuel' => rfl
      · by_cases opening : c = '['
        · subst opening
          refine ⟨?_, fun _ same => absurd (List.cons.inj same).1 (by decide)⟩
          exact (class_opening_taken inner negated pending items tail rest set read).cons '['
            fun fuel t later enough known => known fuel enough
        · by_cases operator : c ∈ ['&', '-', '~'] ∧ tail.head? = some c
          · obtain ⟨listed, twice⟩ := operator
            obtain ⟨tail, rfl⟩ := List.head?_eq_some_iff.mp twice
            have behind := class_operator_taken inner negated pending items c tail rest set listed read
            have once : Takes ']' false (fun fuel t => classBehind? flags negated pending items (fuel + 1) (c :: t))
                (c :: tail) (fun t => some (set, t.tail)) (']' :: rest) :=
              behind.cons c fun fuel t later enough known => known (fuel + 1) (Nat.le_succ_of_le enough)
            refine ⟨once.cons c fun fuel t later enough known => known fuel enough, ?_⟩
            rintro _ ⟨⟩
            rw [skip_plain flags '-' tail (by decide) (by decide)]
            exact behind.suffix.trans (List.suffix_cons _ _)
          · have item (fuel : Nat) (t : Text) (same : t.head? = tail.head?) :
                classBehind? flags negated pending items (fuel + 1) (c :: t) =
                  classItems? flags negated pending items fuel (c :: t) := by
              refine class_behind_item flags negated pending items fuel c t bracket opening ?_
              rintro d listed ⟨rfl, twice⟩
              exact operator ⟨listed, same.symm.trans twice⟩
            rw [item fuel tail rfl] at read
            obtain ⟨taken, hyphen⟩ := class_items_taken inner negated pending items c tail rest set read
            have behind := taken.congr fun fuel t alike => item fuel t alike.keeps_first
            refine ⟨behind.cons c fun fuel t later enough known => known fuel enough, ?_⟩
            rintro _ ⟨⟩
            exact hyphen rfl

end

theorem class_taken (flags : Flags) (negated : Bool) (pending : Pending) (items : CharSet) (fuel : Nat)
    (s rest : Text) (set : CharSet) (read : takeClass? flags negated pending items fuel s = some (set, rest)) :
    ClassRead flags (takeClass? flags negated pending items) s set rest := by
  induction fuel generalizing negated pending items s rest set with
  | zero => contradiction
  | succ fuel ih =>
      rw [class_behind_blanks] at read
      have behind := class_behind_taken (fun negated pending items s rest set => ih negated pending items s rest set)
        negated pending items _ rest set read
      refine ⟨behind.taken.drop (skip_dropped flags s) fun fuel t later enough known => ?_, ?_⟩
      · rw [class_behind_blanks]
        exact known fuel enough
      · rintro tail rfl
        exact behind.hyphen tail (skip_plain flags '-' tail (by decide) (by decide))

theorem bracket_taken {ends : Bool} (flags : Flags) (s rest : Text) (set : CharSet)
    (read : takeBracket? flags s = some (set, rest)) :
    Takes mark ends (fun _ => takeBracket? flags) s (fun t => some (set, t)) rest := by
  generalize opened : openClass flags s = start at read
  obtain ⟨negated, first, middle⟩ := start
  rw [takeBracket?, opened] at read
  obtain ⟨⟨set', behind⟩, closed, read⟩ := Option.bind_eq_some_iff.mp read
  dsimp only at read
  split at read
  · rename_i allowed
    cases read
    have whole : Takes ']' false (fun _ => takeBracket? flags) s (fun t => some (set, t.tail)) (']' :: rest) := by
      refine (open_class_taken flags s middle negated first opened).bind (class_taken _ _ _ _ _ _ _ _ closed).taken
        fun fuel t later last _ enough short known known' => ?_
      rw [takeBracket?, known fuel enough]
      dsimp only
      rw [known' (t.length + 1) (Nat.le_succ_of_le short), Option.bind_eq_bind, Option.bind_some]
      exact if_pos allowed
    obtain ⟨front, rfl, same⟩ := whole
    refine ⟨front ++ [']'], by simp, fun t fuel _ _ => ?_⟩
    rw [List.append_assoc]
    exact same (']' :: t) _ (.mark rest t) (Nat.le_refl _)
  · contradiction

end Shading.Regex
