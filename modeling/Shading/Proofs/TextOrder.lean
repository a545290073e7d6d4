import Mathlib.Data.List.Lex
import Mathlib.Tactic.SplitIfs
import Shading.Text

set_option autoImplicit false

namespace Shading

def Bytes.Before (a b : Bytes) : Prop := List.Lex (fun x y => x.toNat < y.toNat) a b

namespace Text

theorem before_cons (x y : Char) (xs ys : Text) :
    before (x :: xs) (y :: ys) = true ↔ x.toNat < y.toNat ∨ x = y ∧ before xs ys = true := by
  rw [before]
  by_cases same : x = y
  · rw [if_pos same, same]
    constructor
    · intro later
      exact .inr ⟨rfl, later⟩
    · rintro (less | ⟨_, later⟩)
      · omega
      · exact later
  · rw [if_neg same, decide_eq_true_iff]
    constructor
    · exact .inl
    · rintro (less | ⟨equal, _⟩)
      · exact less
      · exact absurd equal same

theorem before_nil (s : Text) : before s [] = false := by cases s <;> rfl

theorem before_trans (a b c : Text) (first : before a b = true) (second : before b c = true) :
    before a c = true := by
  induction a generalizing b c with
  | nil =>
      cases c with
      | nil =>
          rw [before_nil] at second
          contradiction
      | cons z zs => rfl
  | cons x xs ih =>
      cases b with
      | nil => contradiction
      | cons y ys =>
          cases c with
          | nil => contradiction
          | cons z zs =>
              rw [before_cons] at first second ⊢
              rcases first with less | ⟨rfl, later⟩
              · rcases second with more | ⟨rfl, _⟩
                · exact .inl (Nat.lt_trans less more)
                · exact .inl less
              · rcases second with more | ⟨rfl, last⟩
                · exact .inl more
                · exact .inr ⟨rfl, ih ys zs later last⟩

theorem before_total (a b : Text) (differs : a ≠ b) (late : before a b ≠ true) : before b a = true := by
  induction a generalizing b with
  | nil =>
      cases b with
      | nil => exact absurd rfl differs
      | cons y ys => exact absurd rfl late
  | cons x xs ih =>
      cases b with
      | nil => rfl
      | cons y ys =>
          rw [ne_eq, before_cons] at late
          rw [before_cons]
          by_cases same : x = y
          · subst same
            have others : xs ≠ ys := fun equal => differs (by rw [equal])
            exact .inr ⟨rfl, ih ys others fun later => late (.inr ⟨rfl, later⟩)⟩
          · have apart : x.toNat ≠ y.toNat := fun equal => same (Char.toNat_inj.mp equal)
            have notLess : ¬ x.toNat < y.toNat := fun less => late (.inl less)
            exact .inl (by omega)

theorem before_irrefl (s : Text) : before s s = false := by
  induction s with
  | nil => rfl
  | cons c rest ih =>
      rw [before, if_pos rfl]
      exact ih

theorem code_point_limit (c : Char) : c.toNat < 0x110000 := by
  have valid := c.valid
  unfold UInt32.isValidChar Nat.isValidChar at valid
  show c.val.toNat < 0x110000
  omega

-- Forms of four bytes are compared by the digits of the code points, of which every byte holds one.
theorem digits_of_less (m n : Nat) (less : m < n) :
    m / 262144 < n / 262144 ∨ m / 262144 = n / 262144 ∧ (m / 4096 % 64 < n / 4096 % 64 ∨
      m / 4096 % 64 = n / 4096 % 64 ∧ (m / 64 % 64 < n / 64 % 64 ∨
        m / 64 % 64 = n / 64 % 64 ∧ m % 64 < n % 64)) := by
  have whole (k : Nat) : k = 262144 * (k / 262144) + 4096 * (k / 4096 % 64) + 64 * (k / 64 % 64) + k % 64 := by
    omega
  have first := whole m
  have second := whole n
  have small : n % 64 < 64 ∧ n / 64 % 64 < 64 ∧ n / 4096 % 64 < 64 := by omega
  generalize m / 262144 = m3, m / 4096 % 64 = m2, m / 64 % 64 = m1, m % 64 = m0 at *
  generalize n / 262144 = n3, n / 4096 % 64 = n2, n / 64 % 64 = n1, n % 64 = n0 at *
  omega

theorem bytes_of_less (x y : Char) (less : x.toNat < y.toNat) (s t : Bytes) :
    Bytes.Before (String.utf8EncodeChar x ++ s) (String.utf8EncodeChar y ++ t) := by
  have limit : y.val.toNat < 0x110000 := code_point_limit y
  have less : x.val.toNat < y.val.toNat := less
  have value (k : Nat) : (UInt8.ofNat k).toNat = k % 256 := rfl
  have same (j k : Nat) : UInt8.ofNat j = UInt8.ofNat k ↔ j % 256 = k % 256 := by
    rw [← UInt8.toNat_inj, value, value]
  have digits := digits_of_less _ _ less
  have first (k : Nat) (small : k < 0x110000) : (k / 262144 % 8 + 240) % 256 = k / 262144 + 240 := by omega
  have other (k : Nat) : (k % 64 + 128) % 256 = k % 64 + 128 := by omega
  have small := Nat.lt_trans less limit
  unfold String.utf8EncodeChar Bytes.Before
  dsimp only
  split_ifs <;>
    simp only [List.cons_append, List.nil_append, List.cons_lex_cons_iff, value, same, first _ limit,
      first _ small, other] <;>
    omega

theorem utf8_of_before (a b : Text) (earlier : before a b = true) : Bytes.Before (utf8 a) (utf8 b) := by
  induction a generalizing b with
  | nil =>
      cases b with
      | nil => contradiction
      | cons y ys =>
          have filled : utf8 (y :: ys) ≠ [] :=
            List.append_ne_nil_of_left_ne_nil (String.utf8EncodeChar_ne_nil) _
          obtain ⟨first, rest, same⟩ := List.exists_cons_of_ne_nil filled
          rw [same]
          exact .nil
  | cons x xs ih =>
      cases b with
      | nil => contradiction
      | cons y ys =>
          rcases (before_cons x y xs ys).mp earlier with less | ⟨rfl, later⟩
          · exact bytes_of_less x y less _ _
          · exact List.Lex.append_left _ (ih ys later) _

end Text

end Shading
