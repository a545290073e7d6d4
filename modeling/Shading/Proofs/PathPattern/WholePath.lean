import Shading.Proofs.PathPattern.Agreement
import Shading.Proofs.Regex.Groups
import Shading.Proofs.Regex.Spans

set_option autoImplicit false

namespace Shading.PathPattern

open Regex

variable {properties : Text → Option (Bool × CharSet)}

-- An expression followed by a parenthesis of no group.
def ClosesEarly (properties : Text → Option (Bool × CharSet)) (body : Text) : Prop :=
  ∃ front back, body = front ++ ')' :: back ∧ (Regex.read? properties front).isSome = true

def regexSource (body : Text) : Text := regexOpening ++ body ++ patternClosing

theorem anchored_read (body : Text) :
    takeAlternatives? false [] [] ((anchored body).length + 1) ⟨anchored body, { properties }, []⟩ =
      (takeAlternatives? true [] [] (body.length + 5) ⟨body ++ ")$".toList, { properties }, []⟩).bind fun (m, after) =>
        takeAlternatives? false [] [⟨m.regex, m.depth + 1, false⟩, ⟨.look .textStart, 0, false⟩] (body.length + 5)
          { after with flags := { properties } } := by
  have length : (anchored body).length + 1 = body.length + 7 := by
    simp [anchored]
  have form : anchored body = '^' :: '(' :: '?' :: ':' :: (body ++ ")$".toList) := rfl
  rw [length, form]
  rfl

theorem end_read (m : Regex.Member) (names : List Text) (fuel : Nat) :
    takeAlternatives? false [] [m, ⟨.look .textStart, 0, false⟩] (fuel + 5)
        ⟨"$".toList, { properties }, names⟩ =
      some (concatenate [⟨.look .textStart, 0, false⟩, m, ⟨.look .textEnd, 0, false⟩],
        ⟨[], { properties }, names⟩) := rfl

theorem read_iff (s : Text) (r : Regex) : Regex.read? properties s = some r ↔ ∃ m after,
    takeAlternatives? false [] [] (s.length + 1) ⟨s, { properties }, []⟩ = some (m, after) ∧
      m.depth ≤ nestLimit ∧ m.regex = r := by
  rw [Regex.read?, Option.bind_eq_bind, Option.bind_eq_some_iff]
  simp only [Prod.exists, Option.ite_none_left_eq_some, Option.some.injEq, not_lt]

theorem closing_split (body front rest : Text) (split : body ++ ")$".toList = front ++ ')' :: rest) :
    (front = body ∧ rest = "$".toList) ∨ ∃ back, body = front ++ ')' :: back := by
  rcases List.append_eq_append_iff.mp split with ⟨more, rfl, ending⟩ | ⟨more, rfl, ending⟩
  · match more with
    | [] => exact .inl ⟨List.append_nil body, (List.cons.inj ending).2.symm⟩
    | [_] => exact absurd (List.cons.inj (List.cons.inj ending).2).1 (by decide)
    | _ :: _ :: _ => simp at ending
  · match more with
    | [] => exact .inl ⟨(List.append_nil front).symm, (List.cons.inj ending).2⟩
    | c :: back =>
        obtain ⟨rfl, -⟩ := List.cons.inj ending
        exact .inr ⟨back, rfl⟩

theorem anchored_parsed (body : Text) (r : Regex) (read : Regex.read? properties (anchored body) = some r) :
    (∃ inner, Regex.read? properties body = some inner ∧ r = .cat (.look .textStart) (.cat inner (.look .textEnd))) ∨
      (Regex.read? properties body = none ∧ ClosesEarly properties body) := by
  obtain ⟨whole, final, run, shallow, rfl⟩ := (read_iff _ _).mp read
  rw [anchored_read] at run
  obtain ⟨⟨m, after⟩, group, others⟩ := Option.bind_eq_some_iff.mp run
  obtain ⟨front, split, alone, closing⟩ := group_text _ _ _ _ m after group
  have depth : m.depth ≤ nestLimit := by
    have deeper := members_depth _ _ _ _ _ _ _ _ _ others ⟨m.regex, m.depth + 1, false⟩ List.mem_cons_self
    exact Nat.le_of_succ_le (deeper.trans shallow)
  have parsed : Regex.read? properties front = some m.regex := (read_iff _ _).mpr ⟨m, _, alone, depth, rfl⟩
  rcases closing_split body front after.rest split with ⟨rfl, ending⟩ | ⟨back, rfl⟩
  · refine .inl ⟨m.regex, parsed, ?_⟩
    dsimp only at others
    rw [ending, end_read] at others
    cases others
    rfl
  · have unread : Regex.read? properties (front ++ ')' :: back) = none := by
      rw [Regex.read?, closing back]
      rfl
    exact .inr ⟨unread, front, back, rfl, by rw [parsed]; rfl⟩

theorem anchored_spans (r : Regex) (path : Text) :
    Regex.occursIn (.cat (.look .textStart) (.cat r (.look .textEnd))) path = true ↔ Spans path r 0 path.length := by
  rw [occurs_spans]
  constructor
  · rintro ⟨i, j, _, spans⟩
    obtain ⟨_, start, spans⟩ := (spans_cat _ _ _ _).mp spans
    obtain ⟨k, inside, stop⟩ := (spans_cat _ _ _ _).mp spans
    obtain ⟨rfl, _, first⟩ := (spans_look _ _ _).mp start
    obtain ⟨rfl, bounded, last⟩ := (spans_look _ _ _).mp stop
    have begins : i = 0 := by
      cases i with
      | zero => rfl
      | succ i =>
          have outside := List.getElem?_eq_none_iff.mp (Option.isNone_iff_eq_none.mp first)
          omega
    have ends : path.length ≤ k := List.getElem?_eq_none_iff.mp (Option.isNone_iff_eq_none.mp last)
    rw [begins, Nat.le_antisymm bounded ends] at inside
    exact inside
  · intro spans
    refine ⟨0, path.length, Nat.zero_le _, .cat _ _ 0 0 _ ?_ (.cat _ _ 0 path.length _ spans ?_)⟩
    · exact .look .textStart 0 (Nat.zero_le _) rfl
    · refine .look .textEnd _ (Nat.le_refl _) ?_
      rw [List.getElem?_eq_none (Nat.le_refl _)]
      rfl

theorem regex_parsed (engine : Regex.Engine) (body : Text) : parseWith engine (regexSource body) =
    match engine.compile? (anchored body) with
    | some r => .ok ⟨regexSource body, .regex r⟩
    | none => .error ⟨regexSource body⟩ := by
  have unwrapped : unwrap? regexOpening (regexSource body) = some body :=
    (unwrap_some regexOpening _ body).mpr rfl
  cases read : engine.compile? (anchored body) with
  | none => simp only [parseWith, unwrapped, read]
  | some r => simp only [parseWith, unwrapped, read]

theorem compiled_read (engine : Regex.Engine) (s : Text) (r : Regex) (compiled : engine.compile? s = some r) :
    Regex.read? engine.properties s = some r := by
  rw [Regex.Engine.compile?] at compiled
  split at compiled
  · exact compiled
  · contradiction

-- For any table of properties and any bound on the size of a program.
theorem regex_matches_whole_path (engine : Regex.Engine) (body : Text) :
    (∀ p, parseWith engine (regexSource body) = .ok p →
      (∃ r, Regex.read? engine.properties body = some r ∧
          ∀ path, p.isMatch path = true ↔ Spans path r 0 path.length) ∨
        (Regex.read? engine.properties body = none ∧ ClosesEarly engine.properties body)) ∧
    (Regex.read? engine.properties body = none → ¬ ClosesEarly engine.properties body →
      parseWith engine (regexSource body) = .error ⟨regexSource body⟩ ∧
        ∀ path, textMatchesWith engine (regexSource body) path = false) := by
  have form := regex_parsed engine body
  cases compiled : engine.compile? (anchored body) with
  | none =>
      rw [compiled] at form
      have nothing (path : Text) : textMatchesWith engine (regexSource body) path = false := by
        rw [textMatchesWith, form]
      rw [form]
      refine ⟨?_, fun _ _ => ⟨rfl, nothing⟩⟩
      rintro p ⟨⟩
  | some r =>
      rw [compiled] at form
      rw [form]
      have parts := anchored_parsed body r (compiled_read engine _ r compiled)
      refine ⟨?_, fun unread inside => ?_⟩
      · rintro p ⟨⟩
        rcases parts with ⟨inner, known, rfl⟩ | early
        · exact .inl ⟨inner, known, fun path => anchored_spans inner path⟩
        · exact .inr early
      · rcases parts with ⟨inner, known, _⟩ | ⟨_, early⟩
        · rw [unread] at known
          contradiction
        · exact absurd early inside

-- The parenthesis in brackets closes nothing, and the other body opens a group that it does not close.
theorem bracketed_parenthesis_stays :
    (∃ p r, parse (regexSource "(?:com|org)/[)a-z]+\\p{Emoji}{2,3}".toList) = .ok p ∧
      Regex.read? CharSet.ofName? "(?:com|org)/[)a-z]+\\p{Emoji}{2,3}".toList = some r ∧
      p.isMatch "org/a)b☕☕".toList = true ∧ Spans "org/a)b☕☕".toList r 0 9) ∧
    Regex.read? CharSet.ofName? "(a".toList = none ∧
      ∀ path, textMatches (regexSource "(a".toList) path = false := by
  constructor
  · generalize body : "(?:com|org)/[)a-z]+\\p{Emoji}{2,3}".toList = b
    have matched : textMatches (regexSource b) "org/a)b☕☕".toList = true := by
      rw [← body]
      decide +kernel
    have valid : (Regex.read? CharSet.ofName? b).isSome = true := by
      rw [← body]
      decide +kernel
    cases form : parseWith .standard (regexSource b) with
    | error e =>
        rw [textMatches, textMatchesWith, form] at matched
        contradiction
    | ok p =>
        rw [textMatches, textMatchesWith, form] at matched
        rcases (regex_matches_whole_path .standard b).1 p form with ⟨r, read, whole⟩ | ⟨unread, _⟩
        · exact ⟨p, r, form, read, matched, (whole _).mp matched⟩
        · have none : Regex.read? CharSet.ofName? b = none := unread
          rw [none] at valid
          contradiction
  · have unread : Regex.read? CharSet.ofName? "(a".toList = none := by decide +kernel
    have inside : ¬ ClosesEarly CharSet.ofName? "(a".toList := by
      rintro ⟨front, back, split, _⟩
      have closing : ')' ∈ "(a".toList := split ▸ List.mem_append_right front List.mem_cons_self
      exact absurd closing (by decide)
    exact ⟨unread, ((regex_matches_whole_path .standard "(a".toList).2 unread inside).2⟩

-- The text becomes `^(?:a)|(?:b)$`, which asks for no more than an `a` at the front.
theorem closed_group_matches_part : Regex.parse? "a)|(?:b".toList = none ∧
    (parse (regexSource "a)|(?:b".toList)).toBool = true ∧
    textMatches (regexSource "a)|(?:b".toList) "axyz".toList = true := by
  decide +kernel

end Shading.PathPattern
