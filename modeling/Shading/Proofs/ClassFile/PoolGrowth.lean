import Mathlib.Data.List.Dedup
import Mathlib.Data.List.Perm.Subperm
import Shading.Proofs.ClassFile.HiddenNames
import Shading.Proofs.ClassFile.Unchanged

set_option autoImplicit false

namespace Shading

open Fallible

theorem ModifiedUtf8.encode_short (s : Text) (short : (encodeAll s).length < 0x10000) :
    encode s = .ok (encodeAll s) := if_pos short

namespace Pool

theorem set_text_short (pool : Pool) (index : UInt16) (s : Text) (bytes : Bytes)
    (found : pool.slots[index.toNat]? = some (.utf8 bytes)) (short : (ModifiedUtf8.encodeAll s).length < 0x10000) :
    pool.setText index s = .ok ⟨pool.slots.setIfInBounds index.toNat (.utf8 (ModifiedUtf8.encodeAll s))⟩ := by
  refine bind_ok.mpr ⟨_, ModifiedUtf8.encode_short s short, ?_⟩
  rw [get?, found]

theorem push_text_error (pool : Pool) (s : Text) (e : FormatError)
    (short : (ModifiedUtf8.encodeAll s).length < 0x10000) (failed : pool.pushText s = .error e) :
    e = .poolOverflow ∧ 0xFFFF ≤ pool.size := by
  unfold pushText at failed
  split at failed
  · rw [ModifiedUtf8.encode_short s short] at failed
    cases failed
  · rename_i full
    cases failed
    exact ⟨rfl, Nat.le_of_not_lt full⟩

end Pool

namespace ClassFile

-- The new text that a use wants, if other uses of the same constant do not want it.
def splitText? (chain : Chain) (c : ClassFile) (u : Use) : Option Text :=
  match u.target chain c.pool with
  | .ok (some s) =>
      if ∀ v ∈ c.uses, v.index = u.index → v.target chain c.pool = .ok (some s) then none else some s
  | _ => none

def splitTexts (chain : Chain) (c : ClassFile) : List Text := (c.uses.filterMap (c.splitText? chain)).dedup

variable {chain : Chain} {c : ClassFile}

theorem agreed_of_use (u : Use) (used : u ∈ c.uses) (s : Text) : c.Agreed chain u.index.toNat s ↔
    ∀ v ∈ c.uses, v.index = u.index → v.target chain c.pool = .ok (some s) := by
  unfold Agreed
  simp only [UInt16.toNat_inj]
  exact and_iff_right ⟨u, used, rfl⟩

theorem mem_split_texts (s : Text) : s ∈ c.splitTexts chain ↔
    ∃ u ∈ c.uses, u.target chain c.pool = .ok (some s) ∧ ¬ c.Agreed chain u.index.toNat s := by
  rw [splitTexts, List.mem_dedup, List.mem_filterMap]
  refine exists_congr fun u => and_congr_right fun used => ?_
  rw [agreed_of_use u used, splitText?]
  split
  · rename_i t wanted
    rw [wanted, Except.ok.injEq, Option.some.injEq]
    split
    · rename_i agreed
      constructor
      · intro absent
        contradiction
      · rintro ⟨rfl, split⟩
        exact absurd agreed split
    · rename_i split
      rw [Option.some.injEq]
      refine ⟨?_, And.left⟩
      rintro rfl
      exact ⟨rfl, split⟩
  · rename_i other
    constructor
    · intro absent
      contradiction
    · rintro ⟨wanted, _⟩
      exact absurd wanted (other s)

end ClassFile

namespace RenamingPlan

variable {plan : RenamingPlan} {chain : Chain} {c : ClassFile}

def Editable (wishes : List Wish) (first : Nat) (pool : Pool) : Prop :=
  ∀ k w s, wishes[k]? = some w → w.inPlace? = some s →
    first + k < 0x10000 ∧ (ModifiedUtf8.encodeAll s).length < 0x10000 ∧
      ∃ bytes, pool.slots[first + k]? = some (.utf8 bytes)

theorem edits_succeed (wishes : List Wish) (first : Nat) (pool : Pool) (editable : Editable wishes first pool) :
    ∃ after, (wishes.zipIdx first).foldlM (fun pool (w, index) =>
      match w.inPlace? with
      | some s => Pool.setText pool index.toUInt16 s
      | none => Except.ok pool) pool = .ok after := by
  induction wishes generalizing first pool with
  | nil => exact ⟨pool, rfl⟩
  | cons w tail ih =>
      have later (middle : Pool) (alike : ∀ (index : Nat) (k : Constant), pool.slots[index]? = some k →
          ∃ l, middle.slots[index]? = some l ∧ k.Alike l) : Editable tail (first + 1) middle := by
        intro k v t wish placed
        obtain ⟨small, short, bytes, found⟩ := editable (k + 1) v t wish placed
        obtain ⟨l, now, same⟩ := alike _ _ found
        rw [show first + (k + 1) = first + 1 + k by omega] at small now
        rcases same with rfl | ⟨_, other, _, rfl⟩
        · exact ⟨small, short, bytes, now⟩
        · exact ⟨small, short, other, now⟩
      rw [List.zipIdx_cons]
      simp only [List.foldlM_cons, bind_ok]
      cases place : w.inPlace? with
      | none =>
          obtain ⟨after, done⟩ := ih (first + 1) pool (later pool fun _ k found => ⟨k, found, .inl rfl⟩)
          exact ⟨after, pool, rfl, done⟩
      | some s =>
          obtain ⟨small, short, bytes, found⟩ := editable 0 w s rfl place
          rw [Nat.add_zero] at small found
          have index : first.toUInt16.toNat = first := UInt16.toNat_ofNat_of_lt' small
          have changed := pool.set_text_short first.toUInt16 s bytes (by rw [index, found]) short
          obtain ⟨after, done⟩ := ih (first + 1) _ (later _ (set_text_alike _ _ _ _ changed))
          exact ⟨after, _, changed, done⟩

def ShortTexts (chain : Chain) (c : ClassFile) : Prop :=
  ∀ u ∈ c.uses, ∀ s, u.target chain c.pool = .ok (some s) → (ModifiedUtf8.encodeAll s).length < 0x10000

theorem slot_of_target (u : Use) (s : Text) (wanted : u.target chain c.pool = .ok (some s)) :
    ∃ bytes, c.pool.slots[u.index.toNat]? = some (.utf8 bytes) := by
  have free : u.role ≠ .fixed := by
    intro fixed
    rw [Use.target, if_pos fixed] at wanted
    cases wanted
  obtain ⟨payload, found⟩ := u.payload_of_target chain c.pool free _ wanted
  exact ⟨payload, (Pool.payload_ok _ _ _).mp found⟩

theorem Answers.edit_succeeds (answers : plan.Answers chain c) (short : ShortTexts chain c) :
    ∃ edited, plan.edit c.pool = .ok edited := by
  refine edits_succeed plan.wishes.toList 0 c.pool fun k w s wish place => ?_
  rw [Array.getElem?_toList] at wish
  obtain ⟨⟨u, used, here⟩, all⟩ := answers.agreed_of_place k w s wish place
  have wanted := all u used here
  subst here
  rw [Nat.zero_add]
  exact ⟨u.index.toNat_lt, short u used s wanted, slot_of_target u s wanted⟩

theorem Answers.split_iff (answers : plan.Answers chain c) (u : Use) (used : u ∈ c.uses) (s : Text)
    (wanted : u.target chain c.pool = .ok (some s)) :
    plan.isSplit u.index = true ↔ ¬ c.Agreed chain u.index.toNat s := by
  obtain ⟨_, found⟩ := slot_of_target u s wanted
  have inside : u.index.toNat < c.pool.size := (Array.getElem?_eq_some_iff.mp found).1
  constructor
  · intro split agreed
    rw [c.not_split_of_agreed plan answers u.index s inside agreed] at split
    contradiction
  · intro open'
    obtain ⟨target, answer, entry⟩ := answers.target_of_use u used
    cases wanted.symm.trans answer
    obtain ⟨w, wish, _, wants⟩ := answers.wish_of_entry u _ entry inside
    rcases Wish.in_place_or_split w s (wants s rfl) with ⟨place, _⟩ | ⟨_, split⟩
    · exact absurd (answers.agreed_of_place _ w s wish place) open'
    · simp [isSplit, wish, split]

variable {before : Pool} {taken later : List (Use × Option Text)} {state : Pool × Appended} {texts : List Text}

theorem Answers.taken_texts (answers : plan.Answers chain c) (whole : plan.targets = taken ++ later)
    (grown : plan.Grown before taken state texts) : texts ⊆ c.splitTexts chain := by
  intro s member
  obtain ⟨u, entry, split⟩ := grown.wanted s member
  obtain ⟨used, wanted⟩ := answers.use_of_target u _ (whole ▸ List.mem_append_left later entry)
  exact (ClassFile.mem_split_texts s).mpr ⟨u, used, wanted, (answers.split_iff u used s wanted).mp split⟩

theorem Answers.all_texts (answers : plan.Answers chain c) (grown : plan.Grown before plan.targets state texts) :
    texts.length = (c.splitTexts chain).length := by
  have some := answers.taken_texts (List.append_nil _).symm grown
  refine Nat.le_antisymm (List.subperm_of_subset grown.distinct some).length_le
    (List.subperm_of_subset (List.nodup_dedup _) fun s member => ?_).length_le
  obtain ⟨u, used, wanted, split⟩ := (ClassFile.mem_split_texts s).mp member
  obtain ⟨target, answer, entry⟩ := answers.target_of_use u used
  cases wanted.symm.trans answer
  exact grown.complete u s entry ((answers.split_iff u used s wanted).mpr split)

theorem append_one_error (plan : RenamingPlan) (state : Pool × Appended) (u : Use) (target : Option Text)
    (e : FormatError) (failed : plan.appendOne state (u, target) = .error e) :
    ∃ s, target = some s ∧ plan.isSplit u.index = true ∧ state.2.contains (String.ofList s) = false ∧
      state.1.pushText s = .error e := by
  unfold appendOne at failed
  dsimp only at failed
  split at failed
  · cases failed
  · rename_i s
    split at failed
    · rename_i new
      rw [Bool.and_eq_true, Bool.not_eq_true'] at new
      rcases bind_error.mp failed with full | ⟨_, _, rest⟩
      · exact ⟨s, rfl, new.1, new.2, full⟩
      · cases rest
    · cases failed

-- The text for which there is no room is one more than those that have been appended.
theorem Answers.append_error (answers : plan.Answers chain c) (short : ShortTexts chain c) (e : FormatError)
    (failed : plan.append before = .error e) :
    e = .poolOverflow ∧ 0xFFFF < before.size + (c.splitTexts chain).length := by
  obtain ⟨taken, ⟨u, target⟩, later, middle, whole, past, last⟩ := fold_error _ _ _ _ failed
  obtain ⟨s, rfl, split, missing, full⟩ := append_one_error plan middle u target e last
  obtain ⟨texts, grown⟩ := grown_after before taken middle past
  have entry : (u, some s) ∈ plan.targets := whole ▸ List.mem_append_right taken List.mem_cons_self
  obtain ⟨used, wanted⟩ := answers.use_of_target u _ entry
  have listed := (ClassFile.mem_split_texts s).mpr ⟨u, used, wanted, (answers.split_iff u used s wanted).mp split⟩
  have distinct : (s :: texts).Nodup := List.nodup_cons.mpr ⟨grown.absent s missing, grown.distinct⟩
  have more := (List.subperm_of_subset distinct (List.cons_subset.mpr ⟨listed, answers.taken_texts whole grown⟩)).length_le
  obtain ⟨overflow, size⟩ := Pool.push_text_error middle.1 s e (short u used s wanted) full
  rw [grown.size] at size
  rw [List.length_cons] at more
  exact ⟨overflow, by omega⟩

theorem append_room (plan : RenamingPlan) (before : Pool) (state : Pool × Appended) (room : before.size ≤ 0xFFFF)
    (done : plan.append before = .ok state) : state.1.size ≤ 0xFFFF := by
  refine plan.append_keeps (·.size ≤ 0xFFFF) (fun pool s index after _ pushed => ?_) before state room done
  obtain ⟨small, _, _, slots⟩ := Pool.push_text_ok _ _ _ _ pushed
  show after.slots.size ≤ 0xFFFF
  rw [slots, Array.size_push]
  exact small

theorem Grown.repoint (grown : plan.Grown before taken state texts) (chain : Chain) (pool : Pool) (u : Use) :
    plan.repoint chain pool state.2 u.index u.role = u.index ∨
      ∃ k < texts.length, (plan.repoint chain pool state.2 u.index u.role).toNat = before.size + k := by
  unfold RenamingPlan.repoint
  split
  · split
    · rename_i s _
      cases present : state.2.get? (String.ofList s) with
      | none => exact .inl rfl
      | some index =>
          have known := grown.known (String.ofList s) (by
            rw [Std.HashMap.contains_eq_isSome_getElem?, ← Std.HashMap.get?_eq_getElem?, present]
            rfl)
          rw [String.toList_ofList] at known
          obtain ⟨k, inside, same⟩ := List.getElem_of_mem known
          obtain ⟨place, found, number⟩ := grown.found k s (List.getElem?_eq_some_iff.mpr ⟨inside, same⟩)
          rw [Std.HashMap.get?_eq_getElem?, found] at present
          cases present
          exact .inr ⟨k, inside, number⟩
    · exact .inl rfl
  · exact .inl rfl

end RenamingPlan

namespace ClassFile

variable {chain : Chain} {c : ClassFile}

theorem make_succeeds (chain : Chain) (c : ClassFile)
    (answered : ∀ u ∈ c.uses, ∃ target, u.target chain c.pool = .ok target) :
    ∃ plan, RenamingPlan.make chain c = .ok plan := by
  cases made : RenamingPlan.make chain c with
  | ok plan => exact ⟨plan, rfl⟩
  | error e =>
      rcases bind_error.mp made with failed | ⟨_, _, rest⟩
      · obtain ⟨u, used, failed⟩ := map_m_error _ _ _ failed
        obtain ⟨target, answer⟩ := answered u used
        rw [answer] at failed
        cases failed
      · cases rest

theorem rename_of_edit (chain : Chain) (c : ClassFile) (plan : RenamingPlan) (edited : Pool)
    (made : RenamingPlan.make chain c = .ok plan) (editing : plan.edit c.pool = .ok edited) :
    c.rename chain = (plan.append edited).map fun state =>
      { c with pool := state.1 }.mapUses (plan.repoint chain c.pool state.2) := by
  show (RenamingPlan.make chain c >>= _) = _
  rw [made]
  show (plan.edit c.pool >>= _) = _
  rw [editing]
  show (plan.append edited >>= _) = _
  cases plan.append edited <;> rfl

theorem renaming_grows_or_overflows (chain : Chain) (c : ClassFile) (room : c.pool.size ≤ 0xFFFF)
    (answered : ∀ u ∈ c.uses, ∃ target, u.target chain c.pool = .ok target)
    (short : RenamingPlan.ShortTexts chain c) :
    (c.rename chain = .error .poolOverflow ↔ 0xFFFF < c.pool.size + (c.splitTexts chain).length) ∧
    (c.pool.size + (c.splitTexts chain).length ≤ 0xFFFF → ∃ after, c.rename chain = .ok after ∧
      after.pool.size = c.pool.size + (c.splitTexts chain).length ∧
      List.Forall₂ (fun u v => v.index = u.index ∨ c.pool.size ≤ v.index.toNat ∧ v.index.toNat ≤ 0xFFFE)
        c.uses after.uses) := by
  obtain ⟨plan, made⟩ := make_succeeds chain c answered
  have answers := RenamingPlan.make_answers chain c plan made
  obtain ⟨edited, editing⟩ := answers.edit_succeeds short
  have size : edited.size = c.pool.size := (answers.edit_ok c.pool edited editing).size
  have appends := rename_of_edit chain c plan edited made editing
  cases appending : plan.append edited with
  | error e =>
      obtain ⟨rfl, many⟩ := answers.append_error short e appending
      rw [size] at many
      rw [appends, appending]
      exact ⟨iff_of_true rfl many, fun fits => absurd many (Nat.not_lt.mpr fits)⟩
  | ok state =>
      obtain ⟨pool, appended⟩ := state
      obtain ⟨texts, grown⟩ := RenamingPlan.append_grows edited (pool, appended) appending
      have total := grown.size
      have count := answers.all_texts grown
      rw [count, size] at total
      have fits : c.pool.size + (c.splitTexts chain).length ≤ 0xFFFF :=
        total ▸ plan.append_room edited (pool, appended) (size ▸ room) appending
      have renamed := renamed_of_steps chain c plan edited pool appended made editing appending
      rw [appends, appending]
      refine ⟨iff_of_false nofun (Nat.not_lt.mpr fits), fun _ => ⟨_, rfl, ?_, ?_⟩⟩
      · show (pool.slots.map _).size = _
        rw [Array.size_map]
        exact total
      · rw [renamed.uses_after, List.forall₂_map_right_iff, List.forall₂_same]
        intro u _
        rcases grown.repoint chain c.pool u with stays | ⟨k, inside, place⟩
        · exact .inl stays
        · have number : (u.repoint (plan.repoint chain c.pool appended)).index.toNat = edited.size + k := place
          rw [count] at inside
          rw [number, size]
          exact .inr (by omega)

-- The class with a name that has to be split, and with `n` numbers behind its six slots.
def padded (n : Nat) : ClassFile :=
  { sharedName with pool := ⟨sharedName.pool.slots ++ Array.replicate n (.integer 0)⟩ }

theorem padded_size (n : Nat) : (padded n).pool.size = 6 + n := by
  show (sharedName.pool.slots ++ Array.replicate n (Constant.integer 0)).size = 6 + n
  rw [Array.size_append, Array.size_replicate]
  rfl

theorem padded_uses (n : Nat) : (padded n).uses = sharedName.uses := by
  have silent : (List.replicate n (Constant.integer 0)).flatMap Constant.uses = [] :=
    List.flatMap_eq_nil_iff.mpr fun k member => by rw [List.eq_of_mem_replicate member]; rfl
  show (sharedName.pool.slots ++ Array.replicate n (Constant.integer 0)).toList.flatMap Constant.uses ++ _ ++ _ ++ _ = _
  rw [Array.toList_append, Array.toList_replicate, List.flatMap_append, silent, List.append_nil]
  rfl

theorem padded_target (n : Nat) (u : Use) (used : u ∈ sharedName.uses) :
    u.target letterMoved (padded n).pool = u.target letterMoved sharedName.pool := by
  have inside : ∀ u ∈ sharedName.uses, u.index.toNat < sharedName.pool.slots.size := by decide
  have slot : (padded n).pool.get? u.index = sharedName.pool.get? u.index :=
    Array.getElem?_append_left (inside u used)
  have same : (padded n).pool.payload u.index = sharedName.pool.payload u.index := by
    rw [Pool.payload, Pool.payload, slot]
  rw [Use.target, Use.target, same]

theorem padded_split_texts (n : Nat) : (padded n).splitTexts letterMoved = [['b', '/', 'B']] := by
  have same : (padded n).splitTexts letterMoved = sharedName.splitTexts letterMoved := by
    unfold splitTexts
    rw [padded_uses]
    refine congrArg List.dedup (List.filterMap_congr fun u used => ?_)
    rw [splitText?, splitText?, padded_target n u used, padded_uses]
    split
    · exact if_congr (forall₂_congr fun v listed => by rw [padded_target n v listed]) rfl rfl
    · rfl
  rw [same]
  decide

-- One slot is left for the one text, or none is.
theorem last_slot_is_taken :
    (padded 65529).pool.size = 0xFFFF ∧ (padded 65529).rename letterMoved = .error .poolOverflow ∧
      ∃ after, (padded 65528).rename letterMoved = .ok after ∧ after.pool.size = 0xFFFF := by
  have made : RenamingPlan.make letterMoved sharedName = .ok sharedNamePlan := by rfl
  have answers := RenamingPlan.make_answers letterMoved sharedName sharedNamePlan made
  have answered (n : Nat) : ∀ u ∈ (padded n).uses, ∃ target, u.target letterMoved (padded n).pool = .ok target := by
    intro u used
    rw [padded_uses] at used
    rw [padded_target n u used]
    obtain ⟨target, wanted, _⟩ := answers.target_of_use u used
    exact ⟨target, wanted⟩
  have short (n : Nat) : RenamingPlan.ShortTexts letterMoved (padded n) := by
    intro u used s wanted
    rw [padded_uses] at used
    rw [padded_target n u used] at wanted
    obtain ⟨target, answer, entry⟩ := answers.target_of_use u used
    cases wanted.symm.trans answer
    have all : ∀ entry ∈ sharedNamePlan.targets,
        (entry.2.all fun s => (ModifiedUtf8.encodeAll s).length < 0x10000) = true := by decide
    simpa using all _ entry
  have count (n : Nat) : (padded n).pool.size + ((padded n).splitTexts letterMoved).length = 7 + n := by
    rw [padded_size, padded_split_texts, List.length_singleton]
    omega
  refine ⟨padded_size 65529, ?_, ?_⟩
  · refine (renaming_grows_or_overflows letterMoved (padded 65529) ?_ (answered _) (short _)).1.mpr ?_
    · rw [padded_size]
    · rw [count]
      decide
  · obtain ⟨after, renamed, size, _⟩ := (renaming_grows_or_overflows letterMoved (padded 65528)
      (by rw [padded_size]; decide) (answered _) (short _)).2 (by rw [count])
    exact ⟨after, renamed, size.trans (count _)⟩

end ClassFile

end Shading
