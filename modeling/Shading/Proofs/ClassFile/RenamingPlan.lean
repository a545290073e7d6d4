import Shading.ClassFile.Renaming
import Shading.Proofs.ClassFile.PoolTexts

set_option autoImplicit false

namespace Shading

open Fallible

def Constant.Alike (k l : Constant) : Prop := k = l ∨ ∃ a b, k = .utf8 a ∧ l = .utf8 b

theorem Constant.Alike.trans {k l m : Constant} (first : k.Alike l) (second : l.Alike m) :
    k.Alike m := by
  rcases first with rfl | ⟨a, b, rfl, rfl⟩
  · exact second
  · rcases second with rfl | ⟨_, d, _, rfl⟩
    · exact .inr ⟨a, b, rfl, rfl⟩
    · exact .inr ⟨a, d, rfl, rfl⟩

theorem Constant.Alike.uses {k l : Constant} (alike : k.Alike l) : l.uses = k.uses := by
  rcases alike with rfl | ⟨a, b, rfl, rfl⟩ <;> rfl

namespace Wish

def ofTargets (targets : List (Option Text)) (w : Wish) : Wish := targets.foldl add w

theorem add_none (w : Wish) : w.add none = { w with keeps := true } := rfl

theorem mem_add_some (w : Wish) (s t : Text) : t ∈ (w.add (some s)).texts ↔ t ∈ w.texts ∨ t = s := by
  unfold add
  dsimp only
  split
  · rename_i present
    constructor
    · exact .inl
    · rintro (old | rfl)
      · exact old
      · exact present
  · simp

theorem keeps_add_some (w : Wish) (s : Text) : (w.add (some s)).keeps = w.keeps := by
  unfold add
  dsimp only
  split <;> rfl

theorem keeps_of_targets (targets : List (Option Text)) (w : Wish) :
    (ofTargets targets w).keeps = true ↔ w.keeps = true ∨ none ∈ targets := by
  induction targets generalizing w with
  | nil => simp [ofTargets]
  | cons target tail ih =>
      have step := ih (w.add target)
      cases target with
      | none => simpa [ofTargets, add_none] using step
      | some s => simpa [ofTargets, keeps_add_some] using step

theorem mem_of_targets (targets : List (Option Text)) (w : Wish) (t : Text) :
    t ∈ (ofTargets targets w).texts ↔ t ∈ w.texts ∨ some t ∈ targets := by
  induction targets generalizing w with
  | nil => simp [ofTargets]
  | cons target tail ih =>
      have step := ih (w.add target)
      cases target with
      | none => simpa [ofTargets, add_none] using step
      | some s => simpa [ofTargets, mem_add_some, or_assoc] using step

theorem in_place_of_keeps (w : Wish) (keeps : w.keeps = true) : w.inPlace? = none := by
  unfold inPlace?
  rw [keeps]

theorem in_place_texts (w : Wish) (s : Text) (place : w.inPlace? = some s) : w.texts = [s] := by
  unfold inPlace? at place
  split at place
  · rename_i t _ texts
    cases place
    exact texts
  · contradiction

theorem in_place_or_split (w : Wish) (s : Text) (wanted : s ∈ w.texts) :
    w.inPlace? = some s ∧ w.isSplit = false ∨ w.inPlace? = none ∧ w.isSplit = true := by
  cases place : w.inPlace? with
  | none =>
      have some : w.texts.isEmpty = false := by
        cases texts : w.texts with
        | nil => simp [texts] at wanted
        | cons t tail => rfl
      exact .inr ⟨rfl, by simp [isSplit, place, some]⟩
  | some t =>
      have texts := in_place_texts w t place
      have same : s = t := by simpa [texts] using wanted
      exact .inl ⟨by rw [same], by simp [isSplit, place]⟩

theorem not_split_of_no_texts (w : Wish) (none : w.texts = []) : w.isSplit = false := by
  simp [isSplit, none]

end Wish

namespace RenamingPlan

def targetsAt (targets : List (Use × Option Text)) (index : Nat) : List (Option Text) :=
  (targets.filter fun entry => entry.1.index.toNat == index).map Prod.snd

theorem mem_targets_at (targets : List (Use × Option Text)) (index : Nat) (target : Option Text) :
    target ∈ targetsAt targets index ↔ ∃ u, (u, target) ∈ targets ∧ u.index.toNat = index := by
  simp only [targetsAt, List.mem_map, List.mem_filter, beq_iff_eq]
  constructor
  · rintro ⟨⟨u, t⟩, ⟨member, place⟩, rfl⟩
    exact ⟨u, member, place⟩
  · rintro ⟨u, member, place⟩
    exact ⟨(u, target), ⟨member, place⟩, rfl⟩

theorem collect_from (targets : List (Use × Option Text)) (wishes : Array Wish) (index : Nat) :
    (targets.foldl (fun wishes (u, target) => wishes.modify u.index.toNat fun w => w.add target)
        wishes)[index]? =
      wishes[index]?.map (Wish.ofTargets (targetsAt targets index)) := by
  induction targets generalizing wishes with
  | nil =>
      show wishes[index]? = wishes[index]?.map id
      simp
  | cons entry tail ih =>
      cases entry with
      | mk u target =>
          rw [List.foldl_cons, ih]
          by_cases here : u.index.toNat = index
          · have split : targetsAt ((u, target) :: tail) index = target :: targetsAt tail index := by
              simp [targetsAt, here]
            rw [split, Array.getElem?_modify, if_pos here, Option.map_map]
            rfl
          · have same : targetsAt ((u, target) :: tail) index = targetsAt tail index := by
              simp [targetsAt, here]
            rw [same, Array.getElem?_modify, if_neg here]

theorem collect_at (size : Nat) (targets : List (Use × Option Text)) (index : Nat)
    (inside : index < size) :
    (collect size targets)[index]? = some (Wish.ofTargets (targetsAt targets index) {}) := by
  rw [collect, collect_from, Array.getElem?_replicate, if_pos inside]
  rfl

theorem collect_size (size : Nat) (targets : List (Use × Option Text)) :
    (collect size targets).size = size := by
  have steps : ∀ wishes : Array Wish,
      (targets.foldl (fun wishes (u, target) => wishes.modify u.index.toNat fun w => w.add target)
        wishes).size = wishes.size := by
    induction targets with
    | nil => intro wishes; rfl
    | cons entry tail ih =>
        intro wishes
        rw [List.foldl_cons, ih, Array.size_modify]
  rw [collect, steps, Array.size_replicate]

structure Answers (plan : RenamingPlan) (chain : Chain) (c : ClassFile) : Prop where
  targets : List.Forall₂ (fun u entry => entry.1 = u ∧ u.target chain c.pool = .ok entry.2)
    c.uses plan.targets
  wishes : plan.wishes = collect c.pool.size plan.targets

theorem make_answers (chain : Chain) (c : ClassFile) (plan : RenamingPlan)
    (made : make chain c = .ok plan) : plan.Answers chain c := by
  obtain ⟨targets, answered, rest⟩ := bind_ok.mp made
  cases rest
  refine ⟨(map_m_ok _ _ _ answered).imp ?_, rfl⟩
  intro u entry answer
  obtain ⟨target, wanted, rfl⟩ := map_ok.mp answer
  exact ⟨rfl, wanted⟩

variable {plan : RenamingPlan} {chain : Chain} {c : ClassFile}

theorem Answers.target_of_use (answers : plan.Answers chain c) (u : Use) (used : u ∈ c.uses) :
    ∃ target, u.target chain c.pool = .ok target ∧ (u, target) ∈ plan.targets := by
  obtain ⟨k, inside, rfl⟩ := List.getElem_of_mem used
  have within : k < plan.targets.length := answers.targets.length_eq ▸ inside
  obtain ⟨first, wanted⟩ := answers.targets.get inside within
  have entry : plan.targets.get ⟨k, within⟩ = (c.uses[k], (plan.targets.get ⟨k, within⟩).2) :=
    Prod.ext first rfl
  have member := List.get_mem plan.targets ⟨k, within⟩
  rw [entry] at member
  exact ⟨_, wanted, member⟩

theorem Answers.wish_of_entry (answers : plan.Answers chain c) (u : Use) (target : Option Text)
    (entry : (u, target) ∈ plan.targets) (inside : u.index.toNat < c.pool.size) :
    ∃ w, plan.wishes[u.index.toNat]? = some w ∧
      (target = none → w.keeps = true) ∧ ∀ s, target = some s → s ∈ w.texts := by
  have here := (mem_targets_at plan.targets u.index.toNat target).mpr ⟨u, entry, rfl⟩
  refine ⟨_, answers.wishes ▸ collect_at _ _ _ inside, ?_, ?_⟩
  · rintro rfl
    exact (Wish.keeps_of_targets _ _).mpr (.inr here)
  · rintro s rfl
    exact (Wish.mem_of_targets _ _ s).mpr (.inr here)

-- A slot without a use has no wish, so the indices of the edits are those of uses.
theorem Answers.edited_is_used (answers : plan.Answers chain c) (index : Nat) (w : Wish) (s : Text)
    (wish : plan.wishes[index]? = some w) (place : w.inPlace? = some s) : index < 0x10000 := by
  have inside : index < c.pool.size := by
    rw [← collect_size c.pool.size plan.targets, ← answers.wishes]
    exact (Array.getElem?_eq_some_iff.mp wish).1
  have found := collect_at c.pool.size plan.targets index inside
  rw [answers.wishes, found] at wish
  cases wish
  have wanted : s ∈ (Wish.ofTargets (targetsAt plan.targets index) {}).texts := by
    rw [Wish.in_place_texts _ s place]
    exact List.mem_singleton_self s
  rcases (Wish.mem_of_targets _ _ s).mp wanted with old | target
  · contradiction
  · obtain ⟨u, _, rfl⟩ := (mem_targets_at _ _ _).mp target
    exact u.index.toNat_lt

structure Edited (wishes : List Wish) (first : Nat) (before after : Pool) : Prop where
  size : after.slots.size = before.slots.size
  edited : ∀ k w s, wishes[k]? = some w → w.inPlace? = some s →
    after.slots[first + k]? = some (.utf8 (ModifiedUtf8.encodeAll s))
  kept : ∀ index, (∀ k w s, wishes[k]? = some w → w.inPlace? = some s → first + k ≠ index) →
    after.slots[index]? = before.slots[index]?
  alike : ∀ (index : Nat) (k : Constant), before.slots[index]? = some k →
    ∃ l, after.slots[index]? = some l ∧ k.Alike l

theorem Edited.nil (first : Nat) (pool : Pool) : Edited [] first pool pool where
  size := rfl
  edited := by
    intro k w s wish
    contradiction
  kept := fun _ _ => rfl
  alike := fun _ k found => ⟨k, found, .inl rfl⟩

theorem set_text_alike (pool after : Pool) (index : UInt16) (s : Text)
    (done : pool.setText index s = .ok after) (i : Nat) (k : Constant)
    (found : pool.slots[i]? = some k) : ∃ l, after.slots[i]? = some l ∧ k.Alike l := by
  obtain ⟨⟨bytes, old⟩, _, changed⟩ := Pool.set_text_ok _ _ _ _ done
  by_cases same : index.toNat = i
  · subst same
    have inside := (Array.getElem?_eq_some_iff.mp old).1
    cases old.symm.trans found
    exact ⟨_, by rw [changed, Array.getElem?_setIfInBounds_self_of_lt inside], .inr ⟨_, _, rfl, rfl⟩⟩
  · exact ⟨k, by rw [changed, Array.getElem?_setIfInBounds_ne same, found], .inl rfl⟩

theorem only_item {α : Type} (w v : α) (k : Nat) (found : [w][k]? = some v) : k = 0 ∧ v = w := by
  rw [List.getElem?_singleton] at found
  split at found
  · rename_i first
    exact ⟨first, (Option.some.inj found).symm⟩
  · contradiction

theorem Edited.one (w : Wish) (first : Nat) (before after : Pool)
    (small : w.inPlace? ≠ none → first < 0x10000)
    (step : (match w.inPlace? with
      | some s => before.setText first.toUInt16 s
      | none => .ok before) = .ok after) : Edited [w] first before after := by
  split at step
  · rename_i s place
    obtain ⟨⟨bytes, found⟩, _, changed⟩ := Pool.set_text_ok _ _ _ _ step
    have index : first.toUInt16.toNat = first :=
      UInt16.toNat_ofNat_of_lt' (small (by simp [place]))
    rw [index] at found changed
    have inside : first < before.slots.size := (Array.getElem?_eq_some_iff.mp found).1
    refine ⟨by rw [changed, Array.size_setIfInBounds], ?_, ?_, set_text_alike _ _ _ _ step⟩
    · intro k v t wish placed
      obtain ⟨rfl, rfl⟩ := only_item w _ _ wish
      cases place.symm.trans placed
      rw [Nat.add_zero, changed, Array.getElem?_setIfInBounds_self_of_lt inside]
    · intro index untouched
      have other : first ≠ index := untouched 0 w s rfl place
      rw [changed, Array.getElem?_setIfInBounds_ne other]
  · rename_i keeps
    cases step
    refine ⟨rfl, ?_, fun _ _ => rfl, fun _ k found => ⟨k, found, .inl rfl⟩⟩
    intro k v t wish placed
    obtain ⟨rfl, rfl⟩ := only_item w _ _ wish
    rw [keeps] at placed
    contradiction

-- The later edits are at later slots, so the first one stays.
theorem Edited.cons (w : Wish) (wishes : List Wish) (first : Nat) (before middle after : Pool)
    (here : Edited [w] first before middle) (later : Edited wishes (first + 1) middle after) :
    Edited (w :: wishes) first before after where
  size := later.size.trans here.size
  edited := by
    intro k v t wish placed
    cases k with
    | zero =>
        rw [Nat.add_zero, later.kept first fun k _ _ _ _ => by omega]
        exact here.edited 0 v t wish placed
    | succ k =>
        rw [show first + (k + 1) = first + 1 + k by omega]
        exact later.edited k v t wish placed
  kept := by
    intro index untouched
    have apart : ∀ k v t, wishes[k]? = some v → v.inPlace? = some t → first + 1 + k ≠ index := by
      intro k v t wish placed
      have := untouched (k + 1) v t wish placed
      omega
    rw [later.kept index apart]
    apply here.kept
    intro k v t wish placed
    obtain ⟨rfl, rfl⟩ := only_item w _ _ wish
    exact untouched 0 _ t rfl placed
  alike := by
    intro index k found
    obtain ⟨l, changed, one⟩ := here.alike index k found
    obtain ⟨m, final, others⟩ := later.alike index l changed
    exact ⟨m, final, one.trans others⟩

theorem edited_from (wishes : List Wish) (first : Nat) (before after : Pool)
    (small : ∀ k w, wishes[k]? = some w → w.inPlace? ≠ none → first + k < 0x10000)
    (done : (wishes.zipIdx first).foldlM (fun pool (w, index) =>
      match w.inPlace? with
      | some s => Pool.setText pool index.toUInt16 s
      | none => Except.ok pool) before = .ok after) :
    Edited wishes first before after := by
  induction wishes generalizing first before with
  | nil =>
      cases done
      exact Edited.nil first after
  | cons w tail ih =>
      rw [List.zipIdx_cons, List.foldlM_cons] at done
      obtain ⟨middle, step, rest⟩ := bind_ok.mp done
      have here := Edited.one w first before middle (small 0 w rfl) step
      refine Edited.cons w tail first before middle after here ?_
      apply ih (first + 1) middle _ rest
      intro k v wish placed
      have := small (k + 1) v wish placed
      omega

theorem Answers.edit_ok (answers : plan.Answers chain c) (before after : Pool)
    (done : plan.edit before = .ok after) : Edited plan.wishes.toList 0 before after := by
  apply edited_from plan.wishes.toList 0 before after _ done
  intro k w wish placed
  obtain ⟨s, place⟩ := Option.ne_none_iff_exists'.mp placed
  rw [Nat.zero_add]
  exact answers.edited_is_used k w s (by simpa using wish) place

structure Grown (plan : RenamingPlan) (before : Pool) (taken : List (Use × Option Text))
    (state : Pool × Appended) (texts : List Text) : Prop where
  slots : state.1.slots.toList =
    before.slots.toList ++ texts.map fun s => .utf8 (ModifiedUtf8.encodeAll s)
  distinct : texts.Nodup
  wanted : ∀ s ∈ texts, ∃ u, (u, some s) ∈ taken ∧ plan.isSplit u.index = true
  found : ∀ (k : Nat) (s : Text), texts[k]? = some s → ∃ index,
    state.2[String.ofList s]? = some index ∧ index.toNat = before.size + k
  known : ∀ key, state.2.contains key = true → key.toList ∈ texts
  complete : ∀ u s, (u, some s) ∈ taken → plan.isSplit u.index = true → s ∈ texts

variable {before after : Pool} {taken : List (Use × Option Text)} {state : Pool × Appended}
  {texts : List Text}

theorem Grown.start (plan : RenamingPlan) (pool : Pool) : plan.Grown pool [] (pool, ∅) [] where
  slots := by simp
  distinct := .nil
  wanted := nofun
  found := nofun
  known := by
    intro key present
    simp at present
  complete := nofun

theorem Grown.pass (grown : plan.Grown before taken state texts) (entry : Use × Option Text)
    (present : ∀ s, entry.2 = some s → plan.isSplit entry.1.index = true → s ∈ texts) :
    plan.Grown before (taken ++ [entry]) state texts where
  slots := grown.slots
  distinct := grown.distinct
  wanted := by
    intro s member
    obtain ⟨u, old, split⟩ := grown.wanted s member
    exact ⟨u, List.mem_append_left _ old, split⟩
  found := grown.found
  known := grown.known
  complete := by
    intro u s member split
    rcases List.mem_append.mp member with old | new
    · exact grown.complete u s old split
    · cases List.mem_singleton.mp new
      exact present s rfl split

theorem Grown.absent (grown : plan.Grown before taken state texts) (s : Text)
    (missing : state.2.contains (String.ofList s) = false) : s ∉ texts := by
  intro member
  obtain ⟨k, inside, same⟩ := List.getElem_of_mem member
  obtain ⟨index, present, _⟩ := grown.found k s (List.getElem?_eq_some_iff.mpr ⟨inside, same⟩)
  rw [Std.HashMap.contains_eq_isSome_getElem?, present] at missing
  contradiction

theorem Grown.size (grown : plan.Grown before taken state texts) :
    state.1.size = before.size + texts.length := by
  have size := congrArg List.length grown.slots
  rw [List.length_append, List.length_map, Array.length_toList, Array.length_toList] at size
  exact size

theorem Grown.found_new (grown : plan.Grown before taken state texts) (s : Text) (index : UInt16)
    (missing : state.2.contains (String.ofList s) = false) (last : index.toNat = before.size + texts.length)
    (k : Nat) (t : Text) (found : (texts ++ [s])[k]? = some t) :
    ∃ place, (state.2.insert (String.ofList s) index)[String.ofList t]? = some place ∧
      place.toNat = before.size + k := by
  rw [Std.HashMap.getElem?_insert]
  by_cases inside : k < texts.length
  · rw [List.getElem?_append_left inside] at found
    have other : ¬ (String.ofList s == String.ofList t) = true := by
      intro same
      have text : s = t := String.ofList_injective (eq_of_beq same)
      exact grown.absent s missing (text ▸ List.mem_of_getElem? found)
    rw [if_neg other]
    exact grown.found k t found
  · rw [List.getElem?_append_right (by omega)] at found
    obtain ⟨here, rfl⟩ := only_item s t _ found
    refine ⟨index, if_pos (beq_self_eq_true _), ?_⟩
    omega

theorem Grown.push (grown : plan.Grown before taken state texts) (u : Use) (s : Text) (index : UInt16)
    (split : plan.isSplit u.index = true) (missing : state.2.contains (String.ofList s) = false)
    (pushed : state.1.pushText s = .ok (index, after)) :
    plan.Grown before (taken ++ [(u, some s)]) (after, state.2.insert (String.ofList s) index)
      (texts ++ [s]) := by
  obtain ⟨_, place, _, slots⟩ := Pool.push_text_ok _ _ _ _ pushed
  have new := grown.absent s missing
  refine ⟨?_, ?_, ?_, ?_, ?_, ?_⟩
  · dsimp only
    rw [slots, Array.toList_push, grown.slots, List.map_append, List.append_assoc]
    rfl
  · refine List.nodup_append.mpr ⟨grown.distinct, by simp, ?_⟩
    intro t old other one same
    rw [← List.mem_singleton.mp one, ← same] at new
    exact new old
  · intro t member
    rcases List.mem_append.mp member with old | one
    · obtain ⟨v, entry, other⟩ := grown.wanted t old
      exact ⟨v, List.mem_append_left _ entry, other⟩
    · rw [List.mem_singleton.mp one]
      exact ⟨u, List.mem_append_right _ (List.mem_singleton_self _), split⟩
  · exact grown.found_new s index missing (place.trans grown.size)
  · intro key present
    dsimp only at present
    rw [Std.HashMap.contains_insert, Bool.or_eq_true] at present
    rcases present with same | old
    · rw [← eq_of_beq same, String.toList_ofList]
      exact List.mem_append_right _ (List.mem_singleton_self s)
    · exact List.mem_append_left _ (grown.known key old)
  · intro v t member other
    rcases List.mem_append.mp member with old | one
    · exact List.mem_append_left _ (grown.complete v t old other)
    · cases List.mem_singleton.mp one
      exact List.mem_append_right _ (List.mem_singleton_self s)

theorem append_one_ok (plan : RenamingPlan) (state next : Pool × Appended) (u : Use) (target : Option Text)
    (done : plan.appendOne state (u, target) = .ok next) :
    (next = state ∧ ∀ s, target = some s → plan.isSplit u.index = true →
        state.2.contains (String.ofList s) = true) ∨
      ∃ s index after, target = some s ∧ plan.isSplit u.index = true ∧
        state.2.contains (String.ofList s) = false ∧ state.1.pushText s = .ok (index, after) ∧
        next = (after, state.2.insert (String.ofList s) index) := by
  cases target with
  | none =>
      cases done
      exact .inl ⟨rfl, nofun⟩
  | some s =>
      simp only [appendOne] at done
      split at done
      · rename_i new
        rw [Bool.and_eq_true, Bool.not_eq_true'] at new
        obtain ⟨⟨index, after⟩, pushed, rest⟩ := bind_ok.mp done
        cases rest
        exact .inr ⟨s, index, after, rfl, new.1, new.2, pushed, rfl⟩
      · rename_i old
        rw [Bool.and_eq_true, Bool.not_eq_true'] at old
        cases done
        refine .inl ⟨rfl, fun t wanted split => ?_⟩
        cases wanted
        exact eq_true_of_ne_false fun missing => old ⟨split, missing⟩

-- What every text that is pushed leaves as it is holds of the pool in the end.
theorem append_keeps (plan : RenamingPlan) (holds : Pool → Prop)
    (keeps : ∀ pool s index after, holds pool → pool.pushText s = .ok (index, after) → holds after)
    (before : Pool) (state : Pool × Appended) (start : holds before) (done : plan.append before = .ok state) :
    holds state.1 := by
  refine fold_invariant _ (fun _ state => holds state.1) ?_ [] _ (before, ∅) state start done
  rintro _ state ⟨u, target⟩ next held step
  rcases plan.append_one_ok state next u target step with ⟨rfl, _⟩ | ⟨s, index, after, _, _, _, pushed, rfl⟩
  · exact held
  · exact keeps state.1 s index after held pushed

theorem append_one_grows (before : Pool) (taken : List (Use × Option Text))
    (state : Pool × Appended) (entry : Use × Option Text) (next : Pool × Appended)
    (grown : ∃ texts, plan.Grown before taken state texts) (done : plan.appendOne state entry = .ok next) :
    ∃ texts, plan.Grown before (taken ++ [entry]) next texts := by
  obtain ⟨texts, grown⟩ := grown
  obtain ⟨u, target⟩ := entry
  rcases plan.append_one_ok state next u target done with
    ⟨rfl, present⟩ | ⟨s, index, after, rfl, split, missing, pushed, rfl⟩
  · refine ⟨texts, grown.pass _ fun s wanted split => ?_⟩
    have known := grown.known _ (present s wanted split)
    rwa [String.toList_ofList] at known
  · exact ⟨texts ++ [s], grown.push u s index split missing pushed⟩

theorem grown_after (before : Pool) (taken : List (Use × Option Text)) (state : Pool × Appended)
    (done : taken.foldlM plan.appendOne (before, ∅) = .ok state) : ∃ texts, plan.Grown before taken state texts := by
  simpa using fold_invariant plan.appendOne (fun taken state => ∃ texts, plan.Grown before taken state texts)
    (append_one_grows before) [] taken (before, ∅) state ⟨[], Grown.start plan before⟩ done

theorem append_grows (before : Pool) (state : Pool × Appended)
    (done : plan.append before = .ok state) : ∃ texts, plan.Grown before plan.targets state texts :=
  grown_after before plan.targets state done

theorem Grown.slot_of_text (grown : plan.Grown before taken state texts) (s : Text) (member : s ∈ texts) :
    ∃ index, state.2[String.ofList s]? = some index ∧
      state.1.slots[index.toNat]? = some (.utf8 (ModifiedUtf8.encodeAll s)) := by
  obtain ⟨k, inside, same⟩ := List.getElem_of_mem member
  have found := List.getElem?_eq_some_iff.mpr ⟨inside, same⟩
  obtain ⟨index, present, place⟩ := grown.found k s found
  have behind : before.slots.toList.length + k = index.toNat := place.symm
  refine ⟨index, present, ?_⟩
  rw [← Array.getElem?_toList, grown.slots, ← behind, List.getElem?_append_right (Nat.le_add_right _ _),
    Nat.add_sub_cancel_left, List.getElem?_map, found]
  rfl

end RenamingPlan

end Shading
