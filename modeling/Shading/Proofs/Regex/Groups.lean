import Shading.Proofs.Regex.Brackets

set_option autoImplicit false

namespace Shading.Regex

variable {mark : Char} {ends : Bool}

theorem flags_taken (flags flags' : Flags) (seen s rest : Text) (read : takeFlags? flags seen s = some (flags', rest)) :
    ∃ front c later, s = front ++ c :: later ∧ rest = c :: later ∧ (c = ':' ∨ c = ')') ∧
      ∀ t, takeFlags? flags seen (front ++ c :: t) = some (flags', c :: t) := by
  induction s generalizing flags seen with
  | nil => contradiction
  | cons c tail ih =>
      by_cases closing : (c = ':' || c = ')') = true
      · rw [takeFlags?, if_pos closing] at read
        split at read
        · contradiction
        · rename_i proper
          cases read
          refine ⟨[], c, tail, rfl, rfl, by simpa using closing, fun t => ?_⟩
          rw [List.nil_append, takeFlags?, if_pos closing, if_neg proper]
      · rw [takeFlags?, if_neg closing] at read
        split at read
        · contradiction
        · rename_i fresh
          by_cases hyphen : c = '-'
          · rw [if_pos hyphen] at read
            obtain ⟨front, d, later, rfl, rfl, closed, same⟩ := ih flags (c :: seen) read
            refine ⟨c :: front, d, later, rfl, rfl, closed, fun t => ?_⟩
            rw [List.cons_append, takeFlags?, if_neg closing, if_neg fresh, if_pos hyphen, same t]
          · rw [if_neg hyphen] at read
            cases set' : flags.set? c (!seen.contains '-') with
            | none =>
                rw [set'] at read
                contradiction
            | some flags'' =>
                rw [set'] at read
                obtain ⟨front, d, later, rfl, rfl, closed, same⟩ := ih flags'' (c :: seen) read
                refine ⟨c :: front, d, later, rfl, rfl, closed, fun t => ?_⟩
                rw [List.cons_append, takeFlags?, if_neg closing, if_neg fresh, if_neg hyphen, set']
                exact same t

theorem group_name_taken (s name rest : Text) (read : takeGroupName? s = some (name, rest)) :
    Takes mark ends (fun _ => takeGroupName?) s (fun t => some (name, t)) rest := by
  unfold takeGroupName? at read
  generalize cut : s.span (· != '>') = parts at read
  obtain ⟨found, behind⟩ := parts
  dsimp only at read
  split at read
  · rename_i c more later
    split at read
    · rename_i proper
      cases read
      obtain ⟨rfl, free⟩ := span_cut '>' _ _ _ cut
      refine ⟨c :: more ++ ['>'], by simp, fun t _ _ _ => ?_⟩
      show takeGroupName? (c :: more ++ ['>'] ++ t) = _
      unfold takeGroupName?
      rw [List.append_assoc, List.singleton_append, span_at '>' _ _ free]
      exact if_pos proper
    · contradiction
  · contradiction

def namedGroup? (flags : Flags) (names : List Text) (s : Text) : Option (Opening × Text) := do
  let (name, rest) ← takeGroupName? s
  if names.contains name then none else some (.group flags (name :: names), rest)

theorem named_group_taken (flags : Flags) (names : List Text) (s rest : Text) (opening : Opening)
    (read : namedGroup? flags names s = some (opening, rest)) :
    Takes mark ends (fun _ => namedGroup? flags names) s (fun t => some (opening, t)) rest := by
  obtain ⟨⟨name, behind⟩, named, read⟩ := Option.bind_eq_some_iff.mp read
  dsimp only at read
  split at read
  · contradiction
  · rename_i fresh
    cases read
    refine (group_name_taken s name rest named).map fun fuel t later _ enough known => ?_
    rw [namedGroup?, known fuel enough]
    exact if_neg fresh

def flagGroup? (flags : Flags) (names : List Text) (s : Text) : Option (Opening × Text) := do
  let (flags, after) ← takeFlags? flags [] s
  match after with
  | ')' :: after => if s.head? = some ')' then none else some (.directive flags, after)
  | _ :: after => some (.group flags names, after)
  | [] => none

theorem flag_group_taken (flags : Flags) (names : List Text) (s rest : Text) (opening : Opening)
    (read : flagGroup? flags names s = some (opening, rest)) :
    Takes mark ends (fun _ => flagGroup? flags names) s (fun t => some (opening, t)) rest := by
  obtain ⟨⟨flags', behind⟩, found, _⟩ := Option.bind_eq_some_iff.mp read
  obtain ⟨front, c, later, rfl, rfl, closed, same⟩ := flags_taken flags flags' [] s behind found
  have keep (t : Text) : (front ++ c :: t).head? = (front ++ c :: later).head? := by cases front <;> rfl
  have step (t : Text) : flagGroup? flags names (front ++ c :: t) =
      if c = ')' then if (front ++ c :: later).head? = some ')' then none else some (.directive flags', t)
      else some (.group flags' names, t) := by
    rw [flagGroup?, same t, keep t]
    rcases closed with rfl | rfl <;> rfl
  rw [step] at read
  split_ifs at read with directive bare
  · cases read
    refine ⟨front ++ [c], by simp, fun t _ _ _ => ?_⟩
    rw [List.append_assoc]
    exact (step t).trans ((if_pos directive).trans (if_neg bare))
  · cases read
    refine ⟨front ++ [c], by simp, fun t _ _ _ => ?_⟩
    rw [List.append_assoc]
    exact (step t).trans (if_neg directive)

def questioned? (flags : Flags) (names : List Text) (s : Text) : Option (Opening × Text) :=
  match s with
  | '=' :: _ | '!' :: _ => none
  | 'P' :: '<' :: rest => namedGroup? flags names rest
  | '<' :: rest => if rest.head? ∈ [some '=', some '!'] then none else namedGroup? flags names rest
  | rest => flagGroup? flags names rest

theorem questioned_short (flags : Flags) (names : List Text) (s : Text) (plain : s.head? ∉ [some '=', some '!']) :
    questioned? flags names ('<' :: s) = namedGroup? flags names s := by
  rw [questioned?, if_neg plain]

theorem questioned_flags (flags : Flags) (names : List Text) (s : Text)
    (other : s.head? ∉ [some '=', some '!', some '<']) (named : ∀ tail, s ≠ 'P' :: '<' :: tail) :
    questioned? flags names s = flagGroup? flags names s := by
  unfold questioned?
  split
  · simp at other
  · simp at other
  · exact absurd rfl (named _)
  · simp at other
  · rfl

theorem opening_steps (scan : Scan) : takeOpening? scan =
    match scan.flags.skip scan.rest with
    | '?' :: rest => questioned? scan.flags scan.names rest
    | rest => some (.group scan.flags scan.names, rest) := by
  have first (s : Text) (c : Char) (other : ∀ tail, s = c :: tail → False) : s.head? ≠ some c := by
    cases s with
    | nil => nofun
    | cons d tail =>
        intro same
        cases same
        exact other tail rfl
  unfold takeOpening?
  generalize scan.flags.skip scan.rest = s
  split
  · rfl
  · rfl
  · rfl
  · rfl
  · rfl
  · rename_i rest equals bang
    have plain : rest.head? ∉ [some '=', some '!'] := by simp [first _ _ equals, first _ _ bang]
    exact (questioned_short _ _ rest plain).symm
  · rename_i rest equals bang _ _ named short
    have other : rest.head? ∉ [some '=', some '!', some '<'] := by
      simp [first _ _ equals, first _ _ bang, first _ _ short]
    exact (questioned_flags _ _ rest other fun tail => named tail).symm
  · rename_i question
    split
    · exact (question _ rfl).elim
    · rfl

-- What opens a group is told by the characters that are taken with it.
theorem questioned_taken (flags : Flags) (names : List Text) (s rest : Text) (opening : Opening)
    (read : questioned? flags names s = some (opening, rest)) :
    Takes ')' true (fun _ => questioned? flags names) s (fun t => some (opening, t)) rest := by
  unfold questioned? at read
  split at read
  · contradiction
  · contradiction
  · rename_i tail
    have named : Takes ')' true _ _ _ _ := named_group_taken flags names tail rest opening read
    have behind : Takes ')' true (fun _ t => questioned? flags names ('P' :: t)) ('<' :: tail)
        (fun t => some (opening, t)) rest := named.cons '<' fun fuel t later enough known => known fuel enough
    exact behind.cons 'P' fun fuel t later enough known => known fuel enough
  · rename_i tail
    split at read
    · contradiction
    · rename_i plain
      have behind : Takes ')' true (fun _ t => questioned? flags names ('<' :: t)) tail
          (fun t => some (opening, t)) rest := by
        refine (named_group_taken flags names tail rest opening read).congr fun fuel t alike => ?_
        refine questioned_short flags names t fun listed => plain ?_
        cases t with
        | nil => simp at listed
        | cons c others =>
            obtain ⟨later, rfl, _⟩ := alike.back c (by rintro rfl; simp at listed)
            exact listed
      exact behind.cons '<' fun fuel t later enough known => known fuel enough
  · rename_i equals bang named short
    refine (flag_group_taken flags names s rest opening read).congr fun fuel t alike => ?_
    cases t with
    | nil => rfl
    | cons c others =>
        refine questioned_flags flags names _ (fun listed => ?_) ?_
        · simp only [List.head?_cons, List.mem_cons, Option.some.injEq, List.not_mem_nil, or_false] at listed
          obtain ⟨later, rfl, _⟩ := alike.back c (by rcases listed with rfl | rfl | rfl <;> decide)
          rcases listed with rfl | rfl | rfl
          · exact equals later rfl
          · exact bang later rfl
          · exact short later rfl
        · rintro tail ⟨⟩
          obtain ⟨later, rfl, alike'⟩ := alike.back 'P' (by decide)
          obtain ⟨later, rfl, _⟩ := alike'.back '<' (by decide)
          exact named later rfl

theorem opening_taken (scan : Scan) (rest : Text) (opening : Opening)
    (read : takeOpening? scan = some (opening, rest)) :
    Takes ')' true (fun _ t => takeOpening? { scan with rest := t }) scan.rest (fun t => some (opening, t)) rest := by
  rw [opening_steps] at read
  have step (t : Text) := opening_steps { scan with rest := t }
  have behind : Takes ')' true (fun _ s => match s with
      | '?' :: rest => questioned? scan.flags scan.names rest
      | rest => some (.group scan.flags scan.names, rest)) (scan.flags.skip scan.rest)
      (fun t => some (opening, t)) rest := by
    generalize scan.flags.skip scan.rest = s at read ⊢
    split at read
    · exact (questioned_taken scan.flags scan.names _ rest opening read).cons '?'
        fun fuel t later enough known => known fuel enough
    · rename_i plain
      cases read
      refine .nothing fun fuel t alike => ?_
      split
      · obtain ⟨later, rfl, _⟩ := alike.back '?' (by decide)
        exact (plain later rfl).elim
      · rfl
  exact behind.drop (skip_dropped scan.flags scan.rest) fun fuel t later enough known =>
    (step t).trans (known fuel enough)

-- One more member, or the repetition of the last one.
def takeMember? (flags : Flags) (members : List Member) (c : Char) (s : Text) : Option (List Member × Text) :=
  let push (r : Regex) (depth : Nat) (rest : Text) : List Member × Text := (⟨r, depth, false⟩ :: members, rest)
  match c with
  | '[' => (takeBracket? flags s).map fun (set, rest) => push (.chars set) 1 rest
  | '?' => (repeatLast? 0 (some 1) members).map fun members => (members, skipLazyMark s)
  | '*' => (repeatLast? 0 none members).map fun members => (members, skipLazyMark s)
  | '+' => (repeatLast? 1 none members).map fun members => (members, skipLazyMark s)
  | '{' => do
      let (least, most, rest) ← takeBounds? flags s
      (repeatLast? least most members).map fun members => (members, rest)
  | '.' => (dot? flags).map fun r => push r 0 s
  | '^' => some (push (.look (startAnchor flags)) 0 s)
  | '$' => some (push (.look (endAnchor flags)) 0 s)
  | '\\' => do
      let (atom, rest) ← takeEscape? flags s
      (atom.regex? flags).map fun r => push r 0 rest
  | c => (Atom.regex? flags (.literal c)).map fun r => push r 0 s

theorem member_steps (nested : Bool) (branches members : List Member) (fuel : Nat) (scan : Scan) (c : Char)
    (rest : Text) (form : scan.flags.skip scan.rest = c :: rest) (member : c ∉ [')', '|', '(']) :
    takeAlternatives? nested branches members (fuel + 1) scan =
      (takeMember? scan.flags members c rest).bind fun (members, rest) =>
        takeAlternatives? nested branches members fuel { scan with rest } := by
  rw [takeAlternatives?, form]
  split
  · contradiction
  all_goals
    rename_i same
    cases same
  · exact absurd (by decide) member
  · exact absurd (by decide) member
  · exact absurd (by decide) member
  all_goals simp only [takeMember?, Option.bind_map, Option.bind_eq_bind, Option.bind_assoc, Function.comp_def,
    Option.bind_some]

theorem repetition_taken (members members' : List Member) (least : Nat) (most : Option Nat) (s rest : Text)
    (read : ((repeatLast? least most members).map fun members => (members, skipLazyMark s)) = some (members', rest)) :
    Takes mark ends (fun _ t => (repeatLast? least most members).map fun members => (members, skipLazyMark t)) s
      (fun t => some (members', t)) rest := by
  obtain ⟨repeated, known, same⟩ := Option.map_eq_some_iff.mp read
  cases same
  rw [known]
  exact Takes.map (lazy_mark_dropped s) fun fuel t later _ enough dropped =>
    congrArg (fun rest => some (members', rest)) (dropped fuel enough)

-- A boundary in front of braces is told by what comes behind the brace.
theorem escape_member_taken (flags : Flags) (members members' : List Member) (s rest : Text)
    (read : takeMember? flags members '\\' s = some (members', rest)) :
    (∃ tail, s = 'b' :: rest ∧ rest = '{' :: tail ∧
        ∀ tail', (flags.skip tail').head? = (flags.skip tail).head? →
          takeMember? flags members '\\' ('b' :: '{' :: tail') = some (members', '{' :: tail')) ∨
      Takes mark ends (fun _ => takeMember? flags members '\\') s (fun t => some (members', t)) rest := by
  obtain ⟨⟨atom, behind⟩, escape, read⟩ := Option.bind_eq_some_iff.mp read
  obtain ⟨r, known, same⟩ := Option.map_eq_some_iff.mp read
  cases same
  have step (t later : Text) (taken : takeEscape? flags t = some (atom, later)) :
      takeMember? flags members '\\' t = some (⟨r, 0, false⟩ :: members, later) := by
    rw [takeMember?, taken, Option.bind_eq_bind, Option.bind_some]
    dsimp only
    rw [known, Option.map_some]
  have next : _ ∨ Takes mark ends _ _ _ _ := escape_taken flags s rest atom escape
  rcases next with ⟨tail, d, rfl, rfl, rfl, ahead, other⟩ | taken
  · refine .inl ⟨tail, rfl, rfl, fun tail' same => step _ _ ?_⟩
    obtain ⟨later, form⟩ := List.head?_eq_some_iff.mp (same.trans ahead)
    show takeBoundary? flags ('{' :: tail') = _
    rw [boundary_braces, form]
    exact if_neg other
  · exact .inr (taken.map fun fuel t later _ enough taken => step t later (taken fuel enough))

theorem single_member_taken (flags : Flags) (members members' : List Member) (c : Char) (added : Option Regex)
    (s rest : Text) (step : ∀ t, takeMember? flags members c t = added.map fun r => (⟨r, 0, false⟩ :: members, t))
    (read : takeMember? flags members c s = some (members', rest)) :
    Takes mark ends (fun _ => takeMember? flags members c) s (fun t => some (members', t)) rest := by
  rw [step] at read
  obtain ⟨r, known, same⟩ := Option.map_eq_some_iff.mp read
  cases same
  exact .nothing fun fuel t _ => by rw [step, known, Option.map_some]

theorem bounds_member_taken (flags : Flags) (members members' : List Member) (s rest : Text)
    (read : takeMember? flags members '{' s = some (members', rest)) :
    Takes mark ends (fun _ => takeMember? flags members '{') s (fun t => some (members', t)) rest := by
  obtain ⟨⟨least, most, behind⟩, bounds, read⟩ := Option.bind_eq_some_iff.mp read
  obtain ⟨repeated, known, same⟩ := Option.map_eq_some_iff.mp read
  cases same
  refine (bounds_taken flags s rest least most bounds).map fun fuel t later _ enough taken => ?_
  rw [takeMember?, taken fuel enough, Option.bind_eq_bind, Option.bind_some]
  dsimp only
  rw [known, Option.map_some]

theorem bracket_member_taken (flags : Flags) (members members' : List Member) (s rest : Text)
    (read : takeMember? flags members '[' s = some (members', rest)) :
    Takes mark ends (fun _ => takeMember? flags members '[') s (fun t => some (members', t)) rest := by
  obtain ⟨⟨set, behind⟩, known, same⟩ := Option.map_eq_some_iff.mp read
  cases same
  refine (bracket_taken flags s rest set known).map fun fuel t later _ enough known => ?_
  rw [takeMember?, known fuel enough, Option.map_some]

theorem member_taken (flags : Flags) (members members' : List Member) (c : Char) (s rest : Text)
    (read : takeMember? flags members c s = some (members', rest)) :
    (∃ tail, c = '\\' ∧ s = 'b' :: rest ∧ rest = '{' :: tail ∧
        ∀ tail', (flags.skip tail').head? = (flags.skip tail).head? →
          takeMember? flags members '\\' ('b' :: '{' :: tail') = some (members', '{' :: tail')) ∨
      Takes mark ends (fun _ => takeMember? flags members c) s (fun t => some (members', t)) rest := by
  by_cases escape : c = '\\'
  · subst escape
    have next : _ ∨ Takes mark ends _ _ _ _ := escape_member_taken flags members members' s rest read
    rcases next with ⟨tail, boundary⟩ | taken
    · exact .inl ⟨tail, rfl, boundary⟩
    · exact .inr taken
  · refine .inr ?_
    have whole := read
    unfold takeMember? at read
    split at read
    · exact bracket_member_taken flags members members' s rest whole
    · exact repetition_taken members members' 0 (some 1) s rest read
    · exact repetition_taken members members' 0 none s rest read
    · exact repetition_taken members members' 1 none s rest read
    · exact bounds_member_taken flags members members' s rest whole
    · exact single_member_taken flags members members' '.' (dot? flags) s rest (fun _ => rfl) read
    · exact single_member_taken flags members members' '^' (some _) s rest (fun _ => rfl) read
    · exact single_member_taken flags members members' '$' (some _) s rest (fun _ => rfl) read
    · contradiction
    · refine single_member_taken flags members members' c (Atom.regex? flags (.literal c)) s rest (fun t => ?_) whole
      rw [takeMember?] <;> assumption

-- What is left of the text behind a group or an expression that ends where the given text begins.
def closed (nested : Bool) (m : Member) (after : Scan) (s : Text) : Option (Member × Scan) :=
  match s with
  | [] => if nested then none else some (m, { after with rest := [] })
  | _ :: rest => if nested then some (m, { after with rest }) else none

-- A group takes a text up to its parenthesis. When it starts with a brace something stands between the
-- blanks behind that and the parenthesis.
structure GroupRead (flags : Flags) (take : Bool → Nat → Text → Option (Member × Scan)) (s : Text) (m : Member)
    (after : Scan) : Prop where
  taken : ∀ nested, Takes ')' true (take nested) s (closed nested m after) (')' :: after.rest)
  brace : ∀ tail, s = '{' :: tail → (')' :: after.rest) <:+ (flags.skip tail).tail

def alternativesBehind? (nested : Bool) (branches members : List Member) (flags : Flags) (names : List Text)
    (fuel : Nat) (s : Text) : Option (Member × Scan) :=
  match s with
  | [] => closed nested (alternate (concatenate members.reverse :: branches).reverse) ⟨[], flags, names⟩ []
  | ')' :: rest =>
      closed nested (alternate (concatenate members.reverse :: branches).reverse) ⟨rest, flags, names⟩ (')' :: rest)
  | '|' :: rest =>
      takeAlternatives? nested (concatenate members.reverse :: branches) [] fuel ⟨rest, flags, names⟩
  | '(' :: rest => do
      let (opening, rest) ← takeOpening? ⟨rest, flags, names⟩
      match opening with
      | .directive flags =>
          takeAlternatives? nested branches (⟨.empty, 0, true⟩ :: members) fuel ⟨rest, flags, names⟩
      | .group inner names =>
          let (body, after) ← takeAlternatives? true [] [] fuel ⟨rest, inner, names⟩
          takeAlternatives? nested branches (⟨body.regex, body.depth + 1, false⟩ :: members) fuel { after with flags }
  | c :: rest =>
      (takeMember? flags members c rest).bind fun (members, rest) =>
        takeAlternatives? nested branches members fuel ⟨rest, flags, names⟩

theorem alternatives_behind_blanks (nested : Bool) (branches members : List Member) (fuel : Nat) (s : Text)
    (flags : Flags) (names : List Text) : takeAlternatives? nested branches members (fuel + 1) ⟨s, flags, names⟩ =
      alternativesBehind? nested branches members flags names fuel (flags.skip s) := by
  unfold alternativesBehind?
  split
  · rename_i form
    rw [takeAlternatives?, form]
    rfl
  · rename_i form
    rw [takeAlternatives?, form]
    rfl
  · rename_i form
    rw [takeAlternatives?, form]
    rfl
  · rename_i form
    rw [takeAlternatives?, form]
    rfl
  · rename_i c rest closing bar opening form
    exact member_steps nested branches members fuel ⟨s, flags, names⟩ c rest form
      (by simpa using ⟨closing, bar, opening⟩)

theorem alternatives_behind_member (nested : Bool) (branches members : List Member) (flags : Flags)
    (names : List Text) (fuel : Nat) (c : Char) (s : Text) (member : c ∉ [')', '|', '(']) :
    alternativesBehind? nested branches members flags names fuel (c :: s) =
      (takeMember? flags members c s).bind fun (members, rest) =>
        takeAlternatives? nested branches members fuel ⟨rest, flags, names⟩ := by
  rw [alternativesBehind?] <;> (rintro rfl; exact absurd (by decide) member)

theorem skip_keeps_character (flags : Flags) (front old new : Text)
    (ahead : (')' :: old) <:+ (flags.skip (front ++ ')' :: old)).tail) (alike : Alike ')' true (')' :: old) new) :
    (flags.skip (front ++ new)).head? = (flags.skip (front ++ ')' :: old)).head? := by
  obtain ⟨solid, whole⟩ := ahead
  cases form : flags.skip (front ++ ')' :: old) with
  | nil =>
      rw [form] at whole
      simp at whole
  | cons c later =>
      rw [form] at whole
      obtain rfl : solid ++ ')' :: old = later := whole
      rw [skip_append flags front (c :: solid) _ new form alike]
      rfl

section

variable {fuel : Nat}
  (inner : ∀ branches members s flags names m after,
    takeAlternatives? true branches members fuel ⟨s, flags, names⟩ = some (m, after) →
      GroupRead flags (fun nested fuel t => takeAlternatives? nested branches members (fuel + 1) ⟨t, flags, names⟩)
        s m after)

include inner

theorem nested_taken (branches members : List Member) (flags : Flags) (names : List Text) (s : Text) (m : Member)
    (after : Scan) (nested : Bool)
    (read : alternativesBehind? true branches members flags names fuel ('(' :: s) = some (m, after)) :
    Takes ')' true (fun fuel t => alternativesBehind? nested branches members flags names (fuel + 1) ('(' :: t)) s
      (closed nested m after) (')' :: after.rest) := by
  obtain ⟨⟨opening, behind⟩, opened, read⟩ := Option.bind_eq_some_iff.mp read
  have start := opening_taken ⟨s, flags, names⟩ behind opening opened
  cases opening with
  | directive flags' =>
      refine start.bind ((inner _ _ _ _ _ _ _ read).taken nested) fun fuel t later last _ enough short known known' => ?_
      rw [alternativesBehind?, known fuel enough]
      exact known' fuel (Nat.le_trans short enough)
  | group flags' names' =>
      obtain ⟨⟨body, middle⟩, ended, read⟩ := Option.bind_eq_some_iff.mp read
      have contents : Takes ')' true (fun fuel t =>
          (takeAlternatives? true [] [] (fuel + 1) ⟨t, flags', names'⟩).bind fun (body, after) =>
            takeAlternatives? nested branches (⟨body.regex, body.depth + 1, false⟩ :: members) (fuel + 1)
              { after with flags }) behind (closed nested m after) (')' :: after.rest) :=
        ((inner _ _ _ _ _ _ _ ended).taken true).bind_cons ')' ((inner _ _ _ _ _ _ _ read).taken nested)
          fun fuel t later last _ enough short known known' => by
            rw [known fuel enough]
            exact known' fuel (Nat.le_trans short enough)
      refine start.bind contents fun fuel t later last _ enough short known known' => ?_
      rw [alternativesBehind?, known fuel enough]
      exact known' fuel (Nat.le_trans short enough)

theorem members_taken (branches members : List Member) (flags : Flags) (names : List Text) (c : Char) (s : Text)
    (m : Member) (after : Scan) (nested : Bool) (member : c ∉ [')', '|', '('])
    (read : alternativesBehind? true branches members flags names fuel (c :: s) = some (m, after)) :
    Takes ')' true (fun fuel t => alternativesBehind? nested branches members flags names (fuel + 1) (c :: t)) s
      (closed nested m after) (')' :: after.rest) := by
  have step (nested : Bool) (fuel : Nat) (t : Text) :=
    alternatives_behind_member nested branches members flags names fuel c t member
  rw [step] at read
  obtain ⟨⟨members', behind⟩, added, read⟩ := Option.bind_eq_some_iff.mp read
  have others := inner _ _ _ _ _ _ _ read
  have next : _ ∨ Takes ')' true _ _ _ _ := member_taken flags members members' c s behind added
  rcases next with ⟨tail, rfl, rfl, rfl, boundary⟩ | next
  · obtain ⟨front, whole, same⟩ := others.taken nested
    cases front with
    | nil => exact absurd (List.cons.inj whole).1 (by decide)
    | cons e front =>
        obtain ⟨rfl, rfl⟩ := List.cons.inj whole
        refine ⟨'b' :: '{' :: front, rfl, fun t fuel alike enough => ?_⟩
        have again := same t fuel alike (Nat.le_of_succ_le enough)
        have boundary' := boundary (front ++ t) (skip_keeps_character flags front _ t (others.brace _ rfl) alike)
        refine (step nested (fuel + 1) _).trans ?_
        rw [List.cons_append, List.cons_append, boundary', Option.bind_some]
        exact again
  · refine next.bind (others.taken nested) fun fuel t later last _ enough short known known' => ?_
    rw [step, known fuel enough]
    exact known' fuel (Nat.le_trans short enough)

theorem alternatives_behind_taken (branches members : List Member) (flags : Flags) (names : List Text) (s : Text)
    (m : Member) (after : Scan) (nested : Bool)
    (read : alternativesBehind? true branches members flags names fuel s = some (m, after)) :
    Takes ')' true (alternativesBehind? nested branches members flags names) s (closed nested m after)
      (')' :: after.rest) := by
  cases s with
  | nil => contradiction
  | cons c tail =>
      by_cases closing : c = ')'
      · subst closing
        cases read
        refine ⟨[], rfl, fun t fuel alike _ => ?_⟩
        rcases alike.first ')' with ⟨rfl, _⟩ | ⟨later, rfl⟩
        · rfl
        · rfl
      · by_cases bar : c = '|'
        · subst bar
          exact ((inner _ _ _ _ _ _ _ read).taken nested).cons '|' fun fuel t later enough known => known fuel enough
        · by_cases opening : c = '('
          · subst opening
            exact (nested_taken inner branches members flags names tail m after nested read).cons '('
              fun fuel t later enough known => known fuel enough
          · have member : c ∉ [')', '|', '('] := by simpa using ⟨closing, bar, opening⟩
            exact (members_taken inner branches members flags names c tail m after nested member read).cons c
              fun fuel t later enough known => known fuel enough

theorem alternatives_behind_brace (branches members : List Member) (flags : Flags) (names : List Text) (tail : Text)
    (m : Member) (after : Scan)
    (read : alternativesBehind? true branches members flags names fuel ('{' :: tail) = some (m, after)) :
    (')' :: after.rest) <:+ (flags.skip tail).tail := by
  rw [alternatives_behind_member true branches members flags names fuel '{' tail (by decide)] at read
  obtain ⟨⟨members', behind⟩, added, read⟩ := Option.bind_eq_some_iff.mp read
  obtain ⟨⟨least, most, middle⟩, bounds, repeated⟩ := Option.bind_eq_some_iff.mp added
  obtain ⟨_, _, same⟩ := Option.map_eq_some_iff.mp repeated
  cases same
  exact ((inner _ _ _ _ _ _ _ read).taken true).suffix.trans (bounds_behind flags tail behind least most bounds)

end

/-- A group is taken up to its parenthesis, and its text is read in the same way as one that ends there. -/
theorem group_taken (branches members : List Member) (fuel : Nat) (s : Text) (flags : Flags) (names : List Text)
    (m : Member) (after : Scan)
    (read : takeAlternatives? true branches members fuel ⟨s, flags, names⟩ = some (m, after)) :
    GroupRead flags (fun nested fuel t => takeAlternatives? nested branches members (fuel + 1) ⟨t, flags, names⟩)
      s m after := by
  induction fuel generalizing branches members s flags names m after with
  | zero => contradiction
  | succ fuel ih =>
      rw [alternatives_behind_blanks] at read
      constructor
      · intro nested
        refine (alternatives_behind_taken ih branches members flags names _ m after nested read).drop
          (skip_dropped flags s) fun fuel t later enough known => ?_
        rw [alternatives_behind_blanks]
        exact known fuel enough
      · rintro tail rfl
        rw [skip_plain flags '{' tail (by decide) (by decide)] at read
        exact alternatives_behind_brace ih branches members flags names tail m after read

/-- The text of a group is an expression by itself. With a parenthesis behind it that no other one opens, no
text is an expression. -/
theorem group_text (fuel : Nat) (s : Text) (flags : Flags) (names : List Text) (m : Member) (after : Scan)
    (read : takeAlternatives? true [] [] fuel ⟨s, flags, names⟩ = some (m, after)) :
    ∃ front, s = front ++ ')' :: after.rest ∧
      takeAlternatives? false [] [] (front.length + 1) ⟨front, flags, names⟩ = some (m, { after with rest := [] }) ∧
      ∀ back, takeAlternatives? false [] [] ((front ++ ')' :: back).length + 1) ⟨front ++ ')' :: back, flags, names⟩ =
        none := by
  obtain ⟨front, whole, same⟩ := (group_taken [] [] fuel s flags names m after read).taken false
  refine ⟨front, whole, ?_, fun back => same (')' :: back) _ (.mark _ _) (Nat.le_refl _)⟩
  have ended := same [] _ (.finish _ rfl) (Nat.le_refl _)
  rw [List.append_nil] at ended
  exact ended

theorem le_greatest (n : Nat) (depths : List Nat) (start : Nat) (among : n ≤ start ∨ n ∈ depths) :
    n ≤ depths.foldl max start := by
  induction depths generalizing start with
  | nil => simpa using among
  | cons d rest ih =>
      refine ih (max start d) ?_
      rcases among with under | listed
      · exact .inl (Nat.le_trans under (Nat.le_max_left start d))
      · rcases List.mem_cons.mp listed with rfl | later
        · exact .inl (Nat.le_max_right start n)
        · exact .inr later

theorem joined_depth (join : Regex → Regex → Regex) (members : List Member) (x : Member) (listed : x ∈ members) :
    x.depth ≤ (joined join members).depth := by
  have greatest := le_greatest x.depth (members.map (·.depth)) 0 (.inr (List.mem_map_of_mem listed))
  unfold joined
  split
  · contradiction
  · rw [List.mem_singleton.mp listed]
  · exact Nat.le_succ_of_le greatest

def NoDeeper (members members' : List Member) : Prop := ∀ x ∈ members, ∃ y ∈ members', x.depth ≤ y.depth

theorem NoDeeper.push (x : Member) (members : List Member) : NoDeeper members (x :: members) :=
  fun y listed => ⟨y, List.mem_cons_of_mem x listed, Nat.le_refl _⟩

theorem repeat_depth (least : Nat) (most : Option Nat) (members members' : List Member)
    (repeated : repeatLast? least most members = some members') : NoDeeper members members' := by
  cases members with
  | nil => contradiction
  | cons last before =>
      rw [repeatLast?] at repeated
      by_cases refused : last.directive = true
      · rw [if_pos refused] at repeated
        contradiction
      · rw [if_neg refused] at repeated
        cases repeated
        intro x listed
        rcases List.mem_cons.mp listed with rfl | earlier
        · exact ⟨_, List.mem_cons_self, Nat.le_succ _⟩
        · exact ⟨x, List.mem_cons_of_mem _ earlier, Nat.le_refl _⟩

theorem member_depth (flags : Flags) (members members' : List Member) (c : Char) (s rest : Text)
    (read : takeMember? flags members c s = some (members', rest)) : NoDeeper members members' := by
  have repetition (least : Nat) (most : Option Nat) (rest' : Text)
      (read : ((repeatLast? least most members).map fun members => (members, rest')) = some (members', rest)) :
      NoDeeper members members' := by
    obtain ⟨repeated, known, same⟩ := Option.map_eq_some_iff.mp read
    cases same
    exact repeat_depth least most members members' known
  unfold takeMember? at read
  split at read
  · obtain ⟨_, _, same⟩ := Option.map_eq_some_iff.mp read
    cases same
    exact .push _ members
  · exact repetition _ _ _ read
  · exact repetition _ _ _ read
  · exact repetition _ _ _ read
  · obtain ⟨⟨least, most, behind⟩, _, read⟩ := Option.bind_eq_some_iff.mp read
    exact repetition least most behind read
  · obtain ⟨_, _, same⟩ := Option.map_eq_some_iff.mp read
    cases same
    exact .push _ members
  · cases read
    exact .push _ members
  · cases read
    exact .push _ members
  · obtain ⟨_, _, read⟩ := Option.bind_eq_some_iff.mp read
    obtain ⟨_, _, same⟩ := Option.map_eq_some_iff.mp read
    cases same
    exact .push _ members
  · obtain ⟨_, _, same⟩ := Option.map_eq_some_iff.mp read
    cases same
    exact .push _ members

theorem closed_depth (nested : Bool) (branches members : List Member) (after after' : Scan) (s : Text) (m : Member)
    (read : closed nested (alternate (concatenate members.reverse :: branches).reverse) after s = some (m, after'))
    (x : Member) (listed : x ∈ members ++ branches) : x.depth ≤ m.depth := by
  have whole : m = alternate (concatenate members.reverse :: branches).reverse := by
    unfold closed at read
    split at read <;> split at read <;> first | contradiction | (cases read; rfl)
  rw [whole]
  rcases List.mem_append.mp listed with member | branch
  · exact (joined_depth _ members.reverse x (List.mem_reverse.mpr member)).trans
      (joined_depth _ _ _ (List.mem_reverse.mpr List.mem_cons_self))
  · exact joined_depth _ _ _ (List.mem_reverse.mpr (List.mem_cons_of_mem _ branch))

theorem members_depth (nested : Bool) (branches members : List Member) (fuel : Nat) (s : Text) (flags : Flags)
    (names : List Text) (m : Member) (after : Scan)
    (read : takeAlternatives? nested branches members fuel ⟨s, flags, names⟩ = some (m, after)) (x : Member)
    (listed : x ∈ members ++ branches) : x.depth ≤ m.depth := by
  induction fuel generalizing branches members s flags names m after x with
  | zero => contradiction
  | succ fuel ih =>
      have onward (members' : List Member) (s' : Text) (flags' : Flags) (names' : List Text)
          (kept : NoDeeper members members')
          (read : takeAlternatives? nested branches members' fuel ⟨s', flags', names'⟩ = some (m, after)) :
          x.depth ≤ m.depth := by
        rcases List.mem_append.mp listed with member | branch
        · obtain ⟨y, member', deeper⟩ := kept x member
          exact deeper.trans (ih _ _ _ _ _ _ _ read y (List.mem_append_left _ member'))
        · exact ih _ _ _ _ _ _ _ read x (List.mem_append_right _ branch)
      rw [alternatives_behind_blanks] at read
      unfold alternativesBehind? at read
      split at read
      · exact closed_depth _ _ _ _ _ _ _ read x listed
      · exact closed_depth _ _ _ _ _ _ _ read x listed
      · have joined := ih _ _ _ _ _ _ _ read
        rcases List.mem_append.mp listed with member | branch
        · exact (joined_depth _ members.reverse x (List.mem_reverse.mpr member)).trans
            (joined _ List.mem_cons_self)
        · exact joined x (List.mem_cons_of_mem _ branch)
      · obtain ⟨⟨opening, behind⟩, _, read⟩ := Option.bind_eq_some_iff.mp read
        cases opening with
        | directive flags' => exact onward _ _ _ _ (.push _ members) read
        | group flags' names' =>
            obtain ⟨_, _, read⟩ := Option.bind_eq_some_iff.mp read
            exact onward _ _ _ _ (.push _ members) read
      · obtain ⟨_, added, read⟩ := Option.bind_eq_some_iff.mp read
        exact onward _ _ _ _ (member_depth flags members _ _ _ _ added) read

end Shading.Regex
