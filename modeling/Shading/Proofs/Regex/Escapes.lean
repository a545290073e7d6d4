import Shading.Proofs.Regex.Taking

set_option autoImplicit false

namespace Shading.Regex

variable {α : Type} {mark : Char} {ends : Bool}

theorem hex_digits_taken (flags : Flags) (value count n : Nat) (s rest : Text)
    (read : takeHexDigits? flags value count s = some (n, rest)) :
    Takes mark ends (fun _ => takeHexDigits? flags value count) s (fun t => some (n, t)) rest := by
  induction count generalizing value s with
  | zero =>
      cases read
      exact .nothing fun _ _ _ => rfl
  | succ count ih =>
      cases s with
      | nil => contradiction
      | cons c tail =>
          obtain ⟨digit, digits, later⟩ := Option.bind_eq_some_iff.mp read
          refine (ih _ _ later).cons_drop c (skip_dropped flags tail) fun fuel t later enough known => ?_
          rw [takeHexDigits?, digits]
          exact known fuel enough

theorem Takes.braced {σ : Type} (flags : Flags) (take : σ → Nat → Text → Option α) (close : σ → Text → Option α)
    (next : σ → Char → Option σ) (closed : ∀ state fuel t, take state fuel ('}' :: t) = close state t)
    (opened : ∀ state fuel c t, c ≠ '}' →
      take state (fuel + 1) (c :: t) = (next state c).bind fun state => take state fuel (flags.skip t))
    (stuck : ∀ state c t, c ≠ '}' → take state 0 (c :: t) = none) (nothing : ∀ state fuel, take state fuel [] = none)
    (a : α) (give : Text → Option α) (rest : Text)
    (ended : ∀ state t, close state t = some a → Takes mark ends (fun _ => close state) t give rest)
    (state : σ) (fuel : Nat) (s : Text) (read : take state fuel s = some a) :
    Takes mark ends (take state) s give rest := by
  have behind (state : σ) (fuel : Nat) (t : Text) (read : take state fuel ('}' :: t) = some a) :
      Takes mark ends (take state) ('}' :: t) give rest := by
    rw [closed] at read
    exact (ended state t read).cons '}' fun fuel t _ enough known => (closed state _ t).trans (known fuel enough)
  induction fuel generalizing state s with
  | zero =>
      cases s with
      | nil => rw [nothing] at read; contradiction
      | cons c tail =>
          by_cases brace : c = '}'
          · subst brace
            exact behind state 0 tail read
          · rw [stuck state c tail brace] at read
            contradiction
  | succ fuel ih =>
      cases s with
      | nil => rw [nothing] at read; contradiction
      | cons c tail =>
          by_cases brace : c = '}'
          · subst brace
            exact behind state (fuel + 1) tail read
          · rw [opened state fuel c tail brace] at read
            obtain ⟨state', found, read⟩ := Option.bind_eq_some_iff.mp read
            refine (ih state' _ read).cons_drop c (skip_dropped flags tail) fun fuel t later enough known => ?_
            rw [opened state fuel c t brace, found]
            exact known fuel enough

theorem hex_brace_taken (flags : Flags) (value? : Option Nat) (fuel n : Nat) (s rest : Text)
    (read : takeHexBrace? flags value? fuel s = some (n, rest)) :
    Takes mark ends (takeHexBrace? flags value?) s (fun t => some (n, t)) rest := by
  refine .braced flags (takeHexBrace? flags) (fun value? t => value?.map fun value => (value, flags.skip t))
    (fun value? c => (hexDigit? c).map fun digit => some (16 * value?.getD 0 + digit)) (fun value? fuel t => ?_)
    (fun value? fuel c t other => ?_) (fun value? c t other => ?_) (fun value? fuel => ?_) (n, rest) _ _
    (fun value? t read => ?_) value? fuel s read
  · cases fuel <;> rfl
  · rw [takeHexBrace?, Option.bind_map]
    · rfl
    · exact fun same => other same
  · rw [takeHexBrace?]
    · exact fun _ same => other (List.cons.inj same).1
    · nofun
  · cases fuel <;> rfl
  · obtain ⟨value, known, same⟩ := Option.map_eq_some_iff.mp read
    cases same
    rw [known]
    refine Takes.map (skip_dropped flags t) fun fuel t later _ enough known => ?_
    exact congrArg (fun rest => some (n, rest)) (known fuel enough)

theorem braced_name_taken (allowed : Char → Bool) (flags : Flags) (name : Text) (fuel : Nat) (s found rest : Text)
    (read : takeBracedName? allowed flags name fuel s = some (found, rest)) :
    Takes mark ends (takeBracedName? allowed flags name) s (fun t => some (found, t)) rest := by
  refine .braced flags (takeBracedName? allowed flags) (fun name t => some (name.reverse, t))
    (fun name c => if allowed c then some (c :: name) else none)
    (fun name fuel t => ?_) (fun name fuel c t other => ?_) (fun name c t other => ?_) (fun name fuel => ?_)
    (found, rest) _ _ (fun name t read => ?_) name fuel s read
  · cases fuel <;> rfl
  · rw [takeBracedName?]
    · split <;> rfl
    · exact fun same => other same
  · rw [takeBracedName?]
    · exact fun _ same => other (List.cons.inj same).1
    · nofun
  · cases fuel <;> rfl
  · cases read
    exact .nothing fun _ _ _ => rfl

def hexPlain? (flags : Flags) (kind : Char) (s : Text) : Option (Atom × Text) := do
  let (value, rest) ← takeHexDigits? flags 0 (if kind = 'x' then 2 else if kind = 'u' then 4 else 8) s
  let c ← charOf? value
  if kind = 'x' && !flags.unicode && value ≥ 128 then some (.byte, rest) else some (.literal c, rest)

theorem hex_plain_taken (flags : Flags) (kind : Char) (s rest : Text) (a : Atom)
    (read : hexPlain? flags kind s = some (a, rest)) :
    Takes mark ends (fun _ => hexPlain? flags kind) s (fun t => some (a, t)) rest := by
  obtain ⟨⟨value, middle⟩, digits, read⟩ := Option.bind_eq_some_iff.mp read
  obtain ⟨c, known, read⟩ := Option.bind_eq_some_iff.mp read
  have step (t later : Text) (taken : takeHexDigits? flags 0 (if kind = 'x' then 2 else if kind = 'u' then 4 else 8) t =
      some (value, later)) : hexPlain? flags kind t =
        if kind = 'x' && !flags.unicode && value ≥ 128 then some (.byte, later) else some (.literal c, later) := by
    rw [hexPlain?, taken, Option.bind_eq_bind, Option.bind_some]
    dsimp only
    rw [known]
    rfl
  split at read
  · rename_i byte
    cases read
    exact (hex_digits_taken flags 0 _ value _ _ digits).map fun fuel t later _ enough taken =>
      (step t later (taken fuel enough)).trans (if_pos byte)
  · rename_i character
    cases read
    exact (hex_digits_taken flags 0 _ value _ _ digits).map fun fuel t later _ enough taken =>
      (step t later (taken fuel enough)).trans (if_neg character)

-- Without blanks in front.
def hexBehind? (flags : Flags) (kind : Char) (s : Text) : Option (Atom × Text) :=
  match s with
  | [] => none
  | '{' :: rest => do
      let (value, rest) ← takeHexBrace? flags none rest.length (flags.skip rest)
      let c ← charOf? value
      some (.literal c, rest)
  | digits => hexPlain? flags kind digits

theorem hex_behind_plain (flags : Flags) (kind : Char) (s : Text) (other : s.head? ≠ some '{') :
    hexBehind? flags kind s = hexPlain? flags kind s := by
  unfold hexBehind?
  split
  · unfold hexPlain?
    split_ifs <;> rfl
  · contradiction
  · rfl

theorem hex_behind_taken (flags : Flags) (kind : Char) (s rest : Text) (a : Atom)
    (read : hexBehind? flags kind s = some (a, rest)) :
    Takes mark ends (fun _ => hexBehind? flags kind) s (fun t => some (a, t)) rest := by
  by_cases brace : s.head? = some '{'
  · obtain ⟨tail, rfl⟩ := List.head?_eq_some_iff.mp brace
    obtain ⟨⟨value, _⟩, braced, read⟩ := Option.bind_eq_some_iff.mp read
    obtain ⟨c, known, same⟩ := Option.bind_eq_some_iff.mp read
    cases same
    have inner : Takes mark ends (fun _ t => takeHexBrace? flags none t.length (flags.skip t)) tail _ rest :=
      (hex_brace_taken flags none tail.length value _ rest braced).drop (skip_dropped flags tail)
        fun fuel t later _ known => known _ (Nat.le_refl _)
    refine inner.cons '{' fun fuel t later enough inside => ?_
    rw [hexBehind?, inside fuel enough, Option.bind_eq_bind, Option.bind_some]
    dsimp only
    rw [known]
    rfl
  · rw [hex_behind_plain flags kind s brace] at read
    exact (hex_plain_taken flags kind s rest a read).congr fun fuel t alike =>
      hex_behind_plain flags kind t (alike.first_differs '{' brace)

theorem hex_taken (flags : Flags) (kind : Char) (s rest : Text) (a : Atom)
    (read : takeHex? flags kind s = some (a, rest)) :
    Takes mark ends (fun _ => takeHex? flags kind) s (fun t => some (a, t)) rest := by
  have step (t : Text) : takeHex? flags kind t = hexBehind? flags kind (flags.skip t) := rfl
  rw [step] at read
  exact (hex_behind_taken flags kind _ rest a read).drop (skip_dropped flags s)
    fun fuel t later enough known => (step t).trans (known fuel enough)

def unicodeClassBehind? (flags : Flags) (negated : Bool) (s : Text) : Option (Atom × Text) :=
  match s with
  | [] | '\\' :: _ => none
  | '{' :: rest => do
      let (name, rest) ← takeBracedName? (fun _ => true) flags [] rest.length (flags.skip rest)
      let set ← propertyClass? flags negated name
      some (.class set, rest)
  | c :: rest => do
      let set ← propertyClass? flags negated [c]
      some (.class set, flags.skip rest)

theorem unicode_class_behind (flags : Flags) (negated : Bool) (s : Text) : takeUnicodeClass? flags negated s =
    if flags.unicode then unicodeClassBehind? flags negated (flags.skip s) else none := by
  unfold takeUnicodeClass? unicodeClassBehind?
  generalize flags.skip s = behind
  cases flags.unicode with
  | false => split <;> rfl
  | true => rfl

theorem unicode_class_behind_taken (flags : Flags) (negated : Bool) (s rest : Text) (a : Atom)
    (read : unicodeClassBehind? flags negated s = some (a, rest)) :
    Takes mark ends (fun _ => unicodeClassBehind? flags negated) s (fun t => some (a, t)) rest := by
  unfold unicodeClassBehind? at read
  split at read
  · contradiction
  · contradiction
  · rename_i tail
    obtain ⟨⟨name, _⟩, named, read⟩ := Option.bind_eq_some_iff.mp read
    obtain ⟨set, known, same⟩ := Option.bind_eq_some_iff.mp read
    cases same
    have inner : Takes mark ends (fun _ t => takeBracedName? (fun _ => true) flags [] t.length (flags.skip t)) tail _ rest :=
      (braced_name_taken _ flags [] tail.length _ name rest named).drop (skip_dropped flags tail)
        fun fuel t later _ known => known _ (Nat.le_refl _)
    refine inner.cons '{' fun fuel t later enough inside => ?_
    have final := inside _ (Nat.le_refl _)
    show (takeBracedName? (fun _ => true) flags [] t.length (flags.skip t)).bind _ = _
    rw [final, Option.bind_some]
    show (propertyClass? flags negated name).bind _ = _
    rw [known, Option.bind_some]
  · rename_i c tail escape brace
    obtain ⟨set, known, same⟩ := Option.bind_eq_some_iff.mp read
    cases same
    refine Takes.cons c (skip_dropped flags tail) fun fuel t later enough inside => ?_
    rw [unicodeClassBehind?]
    · rw [known, Option.bind_eq_bind, Option.bind_some, inside fuel enough]
      rfl
    · exact fun same => escape same
    · exact fun same => brace same

theorem unicode_class_taken (flags : Flags) (negated : Bool) (s rest : Text) (a : Atom)
    (read : takeUnicodeClass? flags negated s = some (a, rest)) :
    Takes mark ends (fun _ => takeUnicodeClass? flags negated) s (fun t => some (a, t)) rest := by
  rw [unicode_class_behind] at read
  by_cases unicode : flags.unicode = true
  · rw [if_pos unicode] at read
    refine (unicode_class_behind_taken flags negated _ rest a read).drop (skip_dropped flags s)
      fun fuel t later enough known => ?_
    rw [unicode_class_behind, if_pos unicode]
    exact known fuel enough
  · rw [if_neg unicode] at read
    contradiction

def boundaryNamed? (ascii : Bool) (name : Text) : Option Look :=
  if name = "start".toList then some (.wordStart ascii)
  else if name = "end".toList then some (.wordEnd ascii)
  else if name = "start-half".toList then some (.noWordBefore ascii)
  else if name = "end-half".toList then some (.noWordAfter ascii)
  else none

theorem boundary_braces (flags : Flags) (tail : Text) : takeBoundary? flags ('{' :: tail) =
    match flags.skip tail with
    | [] => none
    | c :: later =>
        if isBoundaryLetter c then
          (takeBracedName? isBoundaryLetter flags [] tail.length (c :: later)).bind fun (name, rest) =>
            (boundaryNamed? (!flags.unicode) name).map fun condition => (.look condition, rest)
        else some (.look (.wordBoundary (!flags.unicode)), '{' :: tail) := by
  rw [takeBoundary?]
  cases flags.skip tail with
  | nil => rfl
  | cons c later =>
      dsimp only
      refine if_congr Iff.rfl (congrArg _ (funext fun (name, rest) => ?_)) rfl
      unfold boundaryNamed?
      split_ifs <;> rfl

theorem boundary_plain (flags : Flags) (s : Text) (other : s.head? ≠ some '{') :
    takeBoundary? flags s = some (.look (.wordBoundary (!flags.unicode)), s) := by
  unfold takeBoundary?
  split
  · contradiction
  · rfl

theorem boundary_named_taken (flags : Flags) (c : Char) (tail later rest : Text) (a : Atom)
    (form : flags.skip tail = c :: later) (letter : isBoundaryLetter c = true)
    (read : takeBoundary? flags ('{' :: tail) = some (a, rest)) :
    Takes mark ends (fun _ t => takeBoundary? flags ('{' :: t)) tail (fun t => some (a, t)) rest := by
  rw [boundary_braces, form] at read
  dsimp only at read
  rw [if_pos letter] at read
  obtain ⟨⟨name, behind⟩, named, read⟩ := Option.bind_eq_some_iff.mp read
  obtain ⟨condition, known, same⟩ := Option.map_eq_some_iff.mp read
  cases same
  have skipped : Drops mark ends flags.skip tail := skip_dropped flags tail
  unfold Drops at skipped
  rw [form] at skipped
  refine skipped.bind (braced_name_taken _ flags [] tail.length _ name behind named)
    fun fuel t middle last alike enough short begun inside => ?_
  have final := inside _ short
  rcases alike.first c with ⟨rfl, _⟩ | ⟨others, rfl⟩
  · cases t <;> contradiction
  · have form' : flags.skip t = c :: others := begun fuel enough
    rw [boundary_braces, form']
    dsimp only
    rw [if_pos letter, final, Option.bind_some]
    show (boundaryNamed? _ name).map _ = _
    rw [known]
    rfl

-- Behind a word boundary braces are looked at, but they may be left.
theorem boundary_taken (flags : Flags) (s rest : Text) (a : Atom) (read : takeBoundary? flags s = some (a, rest)) :
    (∃ tail c, s = '{' :: tail ∧ rest = s ∧ a = .look (.wordBoundary (!flags.unicode)) ∧
        (flags.skip tail).head? = some c ∧ ¬ isBoundaryLetter c = true) ∨
      Takes mark ends (fun _ => takeBoundary? flags) s (fun t => some (a, t)) rest := by
  by_cases braces : s.head? = some '{'
  · obtain ⟨tail, rfl⟩ := List.head?_eq_some_iff.mp braces
    cases form : flags.skip tail with
    | nil =>
        rw [boundary_braces, form] at read
        contradiction
    | cons c later =>
        by_cases letter : isBoundaryLetter c = true
        · exact .inr ((boundary_named_taken flags c tail later rest a form letter read).cons '{'
            fun fuel t later enough known => known fuel enough)
        · rw [boundary_braces, form] at read
          dsimp only at read
          rw [if_neg letter] at read
          cases read
          exact .inl ⟨tail, c, rfl, rfl, rfl, by rw [form]; rfl, letter⟩
  · rw [boundary_plain flags s braces] at read
    cases read
    exact .inr (.nothing fun fuel t alike => boundary_plain flags t (alike.first_differs '{' braces))

theorem escape_plain (flags : Flags) (c : Char) (tail : Text) (hex : c ∉ ['x', 'u', 'U']) (unicode : c ∉ ['p', 'P'])
    (boundary : c ≠ 'b') : takeEscape? flags (c :: tail) = (takeEscape? flags [c]).map fun (a, _) => (a, tail) := by
  have hex' : ¬ (c = 'x' || c = 'u' || c = 'U') = true := by simpa [or_assoc] using hex
  have unicode' : ¬ (c = 'p' || c = 'P') = true := by simpa using unicode
  unfold takeEscape?
  simp only [if_neg hex', if_neg unicode']
  split_ifs
  · rfl
  · rw [Option.map_map]
    rfl
  all_goals split <;> first | rfl | contradiction

-- A boundary in front of braces is left out here.
theorem escape_taken (flags : Flags) (s rest : Text) (a : Atom) (read : takeEscape? flags s = some (a, rest)) :
    (∃ tail c, s = 'b' :: rest ∧ rest = '{' :: tail ∧ a = .look (.wordBoundary (!flags.unicode)) ∧
        (flags.skip tail).head? = some c ∧ ¬ isBoundaryLetter c = true) ∨
      Takes mark ends (fun _ => takeEscape? flags) s (fun t => some (a, t)) rest := by
  cases s with
  | nil => contradiction
  | cons c tail =>
      by_cases hex : c ∈ ['x', 'u', 'U']
      · have eq (t : Text) : takeEscape? flags (c :: t) = takeHex? flags c t := by
          simp only [List.mem_cons, List.not_mem_nil, or_false] at hex
          rcases hex with rfl | rfl | rfl <;> rfl
        rw [eq] at read
        exact .inr ((hex_taken flags c tail rest a read).cons c fun fuel t later enough known =>
          (eq t).trans (known fuel enough))
      · by_cases unicode : c ∈ ['p', 'P']
        · have eq (t : Text) : takeEscape? flags (c :: t) = takeUnicodeClass? flags (c = 'P') t := by
            simp only [List.mem_cons, List.not_mem_nil, or_false] at unicode
            rcases unicode with rfl | rfl <;> rfl
          rw [eq] at read
          exact .inr ((unicode_class_taken flags _ tail rest a read).cons c fun fuel t later enough known =>
            (eq t).trans (known fuel enough))
        · by_cases boundary : c = 'b'
          · subst boundary
            rcases boundary_taken flags tail rest a read with ⟨inner, d, rfl, rfl, rfl, ahead, other⟩ | taken
            · exact .inl ⟨inner, d, rfl, rfl, rfl, ahead, other⟩
            · exact .inr (taken.cons 'b' fun fuel t later enough known => known fuel enough)
          · rw [escape_plain flags c tail hex unicode boundary] at read
            obtain ⟨⟨atom, _⟩, known, same⟩ := Option.map_eq_some_iff.mp read
            cases same
            have behind : Takes mark ends (fun _ t => t) rest id rest := .nothing fun _ _ _ => rfl
            refine .inr (behind.cons c fun fuel t later enough same => ?_)
            rw [escape_plain flags c t hex unicode boundary, known, same fuel enough]
            rfl

end Shading.Regex
