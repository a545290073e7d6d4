import Mathlib.Data.List.Forall2

set_option autoImplicit false

namespace Shading.Fallible

variable {α β σ ε : Type}

theorem bind_ok {x : Except ε α} {f : α → Except ε β} {b : β} :
    (x >>= f) = .ok b ↔ ∃ a, x = .ok a ∧ f a = .ok b := by
  cases x with
  | error e =>
      constructor
      · intro failed
        contradiction
      · rintro ⟨a, failed, _⟩
        contradiction
  | ok a =>
      constructor
      · intro done
        exact ⟨a, rfl, done⟩
      · rintro ⟨b, same, done⟩
        cases same
        exact done

theorem bind_error {x : Except ε α} {f : α → Except ε β} {e : ε} :
    (x >>= f) = .error e ↔ x = .error e ∨ ∃ a, x = .ok a ∧ f a = .error e := by
  cases x with
  | error d =>
      constructor
      · intro failed
        cases failed
        exact .inl rfl
      · rintro (same | ⟨a, same, _⟩)
        · cases same
          rfl
        · cases same
  | ok a =>
      constructor
      · intro failed
        exact .inr ⟨a, rfl, failed⟩
      · rintro (same | ⟨b, same, failed⟩)
        · cases same
        · cases same
          exact failed

theorem map_ok {x : Except ε α} {f : α → β} {b : β} :
    x.map f = .ok b ↔ ∃ a, x = .ok a ∧ f a = b := by
  cases x with
  | error e =>
      constructor
      · intro failed
        contradiction
      · rintro ⟨a, failed, _⟩
        contradiction
  | ok a =>
      constructor
      · intro done
        exact ⟨a, rfl, Except.ok.inj done⟩
      · rintro ⟨b, same, done⟩
        cases same
        exact congrArg Except.ok done

theorem map_error_ok {φ : Type} {x : Except ε α} {f : ε → φ} {a : α} :
    x.mapError f = .ok a ↔ x = .ok a := by
  cases x <;> simp [Except.mapError]

theorem map_error_error {φ : Type} {x : Except ε α} {f : ε → φ} {e : φ} :
    x.mapError f = .error e ↔ ∃ d, x = .error d ∧ f d = e := by
  cases x <;> simp [Except.mapError]

theorem map_m_ok (f : α → Except ε β) (items : List α) (results : List β)
    (done : items.mapM f = .ok results) : List.Forall₂ (fun a b => f a = .ok b) items results := by
  induction items generalizing results with
  | nil =>
      cases done
      exact .nil
  | cons a tail ih =>
      rw [List.mapM_cons] at done
      obtain ⟨b, first, rest⟩ := bind_ok.mp done
      obtain ⟨bs, others, final⟩ := bind_ok.mp rest
      cases final
      exact .cons first (ih bs others)

theorem map_m_mem (f : α → Except ε β) (items : List α) (results : List β) (done : items.mapM f = .ok results)
    (b : β) : b ∈ results ↔ ∃ a ∈ items, f a = .ok b := by
  have each := map_m_ok f items results done
  clear done
  induction each with
  | nil => simp
  | cons first _ ih => simp [ih, first, eq_comm]

theorem map_m_error (f : α → Except ε β) (items : List α) (e : ε) (failed : items.mapM f = .error e) :
    ∃ a ∈ items, f a = .error e := by
  induction items with
  | nil => cases failed
  | cons a tail ih =>
      rw [List.mapM_cons] at failed
      rcases bind_error.mp failed with first | ⟨b, _, later⟩
      · exact ⟨a, List.mem_cons_self, first⟩
      · rcases bind_error.mp later with others | ⟨_, _, final⟩
        · obtain ⟨d, member, last⟩ := ih others
          exact ⟨d, List.mem_cons_of_mem a member, last⟩
        · cases final

theorem map_m_of_ok (f : α → Except ε β) (g : α → β) (items : List α)
    (each : ∀ a ∈ items, f a = .ok (g a)) : items.mapM f = .ok (items.map g) := by
  induction items with
  | nil => rfl
  | cons a tail ih =>
      obtain ⟨first, others⟩ := List.forall_mem_cons.mp each
      rw [List.mapM_cons, first, ih others]
      rfl

theorem fold_still (step : σ → α → Except ε σ) (items : List α) (state : σ)
    (each : ∀ a ∈ items, step state a = .ok state) : items.foldlM step state = .ok state := by
  induction items with
  | nil => rfl
  | cons a tail ih =>
      obtain ⟨first, others⟩ := List.forall_mem_cons.mp each
      rw [List.foldlM_cons, first]
      exact ih others

theorem fold_without (step : σ → α → Except ε σ) (before after : List α) (a : α) (state : σ)
    (still : ∀ middle, before.foldlM step state = .ok middle → step middle a = .ok middle) :
    (before ++ a :: after).foldlM step state = (before ++ after).foldlM step state := by
  rw [List.foldlM_append, List.foldlM_append]
  cases past : before.foldlM step state with
  | error e => rfl
  | ok middle =>
      show (a :: after).foldlM step middle = after.foldlM step middle
      rw [List.foldlM_cons, still middle past]
      rfl

-- The invariant also speaks of the items that have been taken, so that it can say what each of
-- them has left behind.
theorem fold_invariant (step : σ → α → Except ε σ) (inv : List α → σ → Prop)
    (each : ∀ taken state a next, inv taken state → step state a = .ok next →
      inv (taken ++ [a]) next)
    (taken items : List α) (state final : σ) (holds : inv taken state)
    (done : items.foldlM step state = .ok final) : inv (taken ++ items) final := by
  induction items generalizing taken state with
  | nil =>
      cases done
      simpa using holds
  | cons a tail ih =>
      rw [List.foldlM_cons] at done
      obtain ⟨next, first, rest⟩ := bind_ok.mp done
      simpa using ih (taken ++ [a]) next (each taken state a next holds first) rest

theorem fold_error (step : σ → α → Except ε σ) (items : List α) (state : σ) (e : ε)
    (failed : items.foldlM step state = .error e) :
    ∃ before a after middle, items = before ++ a :: after ∧ before.foldlM step state = .ok middle ∧
      step middle a = .error e := by
  induction items generalizing state with
  | nil => cases failed
  | cons a tail ih =>
      rw [List.foldlM_cons] at failed
      cases bind_error.mp failed with
      | inl first => exact ⟨[], a, tail, state, rfl, rfl, first⟩
      | inr later =>
          obtain ⟨next, first, rest⟩ := later
          obtain ⟨before, b, after, middle, rfl, past, last⟩ := ih next rest
          refine ⟨a :: before, b, after, middle, rfl, ?_, last⟩
          rw [List.foldlM_cons]
          exact bind_ok.mpr ⟨next, first, past⟩

theorem fold_flat_map (step : σ → β → Except ε σ) (inner : α → List β) (items : List α) (state : σ) :
    (items.flatMap inner).foldlM step state =
      items.foldlM (fun state a => (inner a).foldlM step state) state := by
  induction items generalizing state with
  | nil => rfl
  | cons a tail ih =>
      rw [List.flatMap_cons, List.foldlM_append, List.foldlM_cons]
      exact congrArg _ (funext ih)

theorem fold_part {τ : Type} (outer : τ → α → Except ε τ) (inner : σ → α → Except ε σ) (put : σ → τ)
    (each : ∀ part a, outer (put part) a = (inner part a).map put) (items : List α) (part : σ) :
    items.foldlM outer (put part) = (items.foldlM inner part).map put := by
  induction items generalizing part with
  | nil => rfl
  | cons a tail ih =>
      rw [List.foldlM_cons, List.foldlM_cons, each]
      cases inner part a with
      | error e => rfl
      | ok next => exact ih next

end Shading.Fallible
