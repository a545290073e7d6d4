import Shading.Proofs.ClassFile.PoolGrowth
import Shading.Proofs.ClassFile.ReadBack

set_option autoImplicit false

namespace Shading

open Fallible

namespace Pool

inductive Edit where
  | set (index : UInt16) (s : Text)
  | push (s : Text)
deriving DecidableEq, Repr

namespace Edit

def text : Edit → Text
  | set _ s => s
  | push s => s

def call (pool : Pool) : Edit → Except FormatError (UInt16 × Pool)
  | set index s => (pool.setText index s).map fun after => (index, after)
  | push s => pool.pushText s

def Refused (pool : Pool) : Edit → Prop
  | set index s => 0xFFFF < (ModifiedUtf8.encodeAll s).length ∨
      ∀ payload, pool.slots[index.toNat]? ≠ some (.utf8 payload)
  | push s => 0xFFFF < (ModifiedUtf8.encodeAll s).length ∨ 0xFFFF ≤ pool.size

end Edit

def SameOthers (before after : Pool) : Prop :=
  ∀ (index : Nat) (k : Constant), (∀ payload, k ≠ .utf8 payload) →
    (after.slots[index]? = some k ↔ before.slots[index]? = some k)

-- One slot, which had a text or no constant at all, has a new text.
structure Writes (before : Pool) (index : UInt16) (s : Text) (after : Pool) : Prop where
  free : ∀ k, before.slots[index.toNat]? = some k → ∃ payload, k = .utf8 payload
  written : after.slots[index.toNat]? = some (.utf8 (ModifiedUtf8.encodeAll s))
  apart : ∀ other : Nat, other ≠ index.toNat → after.slots[other]? = before.slots[other]?

variable {before after : Pool} {index : UInt16}

theorem call_ok (e : Edit) (done : e.call before = .ok (index, after)) :
    (∃ s, e = .set index s ∧ before.setText index s = .ok after) ∨
      ∃ s, e = .push s ∧ before.pushText s = .ok (index, after) := by
  cases e with
  | set place s =>
      obtain ⟨next, setting, same⟩ := map_ok.mp done
      cases same
      exact .inl ⟨s, rfl, setting⟩
  | push s => exact .inr ⟨s, rfl, done⟩

theorem call_writes (e : Edit) (done : e.call before = .ok (index, after)) :
    Writes before index e.text after := by
  rcases call_ok e done with ⟨s, rfl, setting⟩ | ⟨s, rfl, pushing⟩
  · obtain ⟨⟨payload, found⟩, _, slots⟩ := set_text_ok before after index s setting
    have inside := (Array.getElem?_eq_some_iff.mp found).1
    constructor
    · intro k slot
      exact ⟨payload, Option.some.inj (slot.symm.trans found)⟩
    · rw [slots, Array.getElem?_setIfInBounds_self_of_lt inside]
      rfl
    · intro other different
      rw [slots, Array.getElem?_setIfInBounds_ne different.symm]
  · obtain ⟨_, place, _, slots⟩ := push_text_ok before after index s pushing
    constructor
    · intro k slot
      have inside := (Array.getElem?_eq_some_iff.mp slot).1
      omega
    · rw [slots, place, Array.getElem?_push_size]
      rfl
    · intro other different
      rw [slots, Array.getElem?_push, if_neg (place ▸ different)]

theorem call_writable (e : Edit) (writable : before.Writable) (done : e.call before = .ok (index, after)) :
    after.Writable := by
  rcases call_ok e done with ⟨s, rfl, setting⟩ | ⟨s, rfl, pushing⟩
  · exact writable.set_text index s setting
  · exact writable.push_text index s pushing

-- A text that is pushed comes behind all slots, so only a set changes one of them.
theorem call_at_slot (e : Edit) (done : e.call before = .ok (index, after)) (k : Constant)
    (found : before.slots[index.toNat]? = some k) :
    ∃ s, e = .set index s ∧ before.setText index s = .ok after := by
  rcases call_ok e done with setting | ⟨s, rfl, pushing⟩
  · exact setting
  · obtain ⟨_, place, _⟩ := push_text_ok before after index s pushing
    have inside := (Array.getElem?_eq_some_iff.mp found).1
    omega

theorem call_refused (e : Edit) (refused : e.Refused before) : ∃ fault, e.call before = .error fault := by
  cases result : e.call before with
  | error fault => exact ⟨fault, rfl⟩
  | ok done =>
      obtain ⟨index, after⟩ := done
      rcases call_ok e result with ⟨s, rfl, setting⟩ | ⟨s, rfl, pushing⟩
      · obtain ⟨⟨payload, found⟩, short, _⟩ := set_text_ok before after index s setting
        cases refused with
        | inl long => omega
        | inr other => exact absurd found (other payload)
      · obtain ⟨room, _, short, _⟩ := push_text_ok before after index s pushing
        cases refused with
        | inl long => omega
        | inr full => exact absurd room (Nat.not_lt.mpr full)

theorem call_accepted (e : Edit) (accepted : ¬ e.Refused before) :
    ∃ index after, e.call before = .ok (index, after) := by
  cases e with
  | set index s =>
      obtain ⟨short, text⟩ := not_or.mp accepted
      obtain ⟨payload, found⟩ := not_forall_not.mp text
      have setting := before.set_text_short index s payload found (by omega)
      exact ⟨index, _, map_ok.mpr ⟨_, setting, rfl⟩⟩
  | push s =>
      obtain ⟨short, room⟩ := not_or.mp accepted
      cases pushing : before.pushText s with
      | ok done => exact ⟨done.1, done.2, pushing⟩
      | error fault => exact absurd (push_text_error before s fault (by omega) pushing).2 room

theorem Writes.same_others (s : Text) (writes : Writes before index s after) : SameOthers before after := by
  intro place k other
  by_cases here : place = index.toNat
  · subst here
    constructor
    · intro found
      exact absurd (Option.some.inj (found.symm.trans writes.written)) (other _)
    · intro found
      obtain ⟨payload, same⟩ := writes.free k found
      exact absurd same (other payload)
  · rw [writes.apart place here]

theorem SameOthers.well_formed (same : SameOthers before after) (valid : before.WellFormed) :
    after.WellFormed := by
  have wide (index : Nat) (k : Constant) (double : k.isWide = true) :
      after.slots[index]? = some k ↔ before.slots[index]? = some k := by
    apply same
    intro payload text
    subst text
    contradiction
  constructor
  · exact (same 0 .unusable nofun).mpr valid.first
  · intro index
    rw [same (index + 1) .unusable nofun, valid.others index]
    exact exists_congr fun k => and_congr_left fun double => (wide index k double).symm

-- A call that fails leaves the pool as it is.
def edit (pool : Pool) (e : Edit) : Pool :=
  match e.call pool with
  | .ok (_, after) => after
  | .error _ => pool

def edited (pool : Pool) (edits : List Edit) : Pool := edits.foldl edit pool

def Sets (pool : Pool) (index : UInt16) (edits : List Edit) : Prop :=
  ∃ front s back after, edits = front ++ .set index s :: back ∧
    (pool.edited front).setText index s = .ok after

theorem edit_ok (e : Edit) (done : e.call before = .ok (index, after)) : before.edit e = after := by
  show (match e.call before with | .ok (_, after) => after | .error _ => before) = after
  rw [done]

theorem edit_failed (e : Edit) (fault : FormatError) (failed : e.call before = .error fault) :
    before.edit e = before := by
  show (match e.call before with | .ok (_, after) => after | .error _ => before) = before
  rw [failed]

theorem edit_keeps (e : Edit) (writable : before.Writable) :
    (before.edit e).Writable ∧ SameOthers before (before.edit e) := by
  cases result : e.call before with
  | ok done =>
      rw [edit_ok e result]
      exact ⟨call_writable e writable result, (call_writes e result).same_others⟩
  | error fault =>
      rw [edit_failed e fault result]
      exact ⟨writable, fun _ _ _ => Iff.rfl⟩

theorem edited_keeps (edits : List Edit) (writable : before.Writable) :
    (before.edited edits).Writable ∧ SameOthers before (before.edited edits) := by
  induction edits generalizing before with
  | nil => exact ⟨writable, fun _ _ _ => Iff.rfl⟩
  | cons e rest ih =>
      obtain ⟨first, same⟩ := edit_keeps e writable
      obtain ⟨final, others⟩ := ih first
      exact ⟨final, fun index k other => (others index k other).trans (same index k other)⟩

theorem slot_stays (edits : List Edit) (k : Constant) (found : before.slots[index.toNat]? = some k)
    (unset : ¬ before.Sets index edits) : (before.edited edits).slots[index.toNat]? = some k := by
  induction edits generalizing before with
  | nil => exact found
  | cons e rest ih =>
      have later : ¬ (before.edit e).Sets index rest := by
        intro sets
        obtain ⟨front, s, back, after, split, setting⟩ := sets
        apply unset
        exact ⟨e :: front, s, back, after, congrArg (List.cons e) split, setting⟩
      apply ih _ later
      cases result : e.call before with
      | error fault => rw [edit_failed e fault result, found]
      | ok done =>
          obtain ⟨place, after⟩ := done
          have other : index.toNat ≠ place.toNat := by
            intro same
            cases UInt16.toNat_inj.mp same
            obtain ⟨s, rfl, setting⟩ := call_at_slot e result k found
            exact unset ⟨[], s, rest, after, rfl, setting⟩
          rw [edit_ok e result, (call_writes e result).apart _ other, found]

theorem text_stays (front back : List Edit) (e : Edit)
    (done : e.call (before.edited front) = .ok (index, after)) (unset : ¬ after.Sets index back) :
    (before.edited (front ++ e :: back)).text index = .ok e.text := by
  have split : before.edited (front ++ e :: back) = after.edited back := by
    show (front ++ e :: back).foldl edit before = _
    rw [List.foldl_append, List.foldl_cons]
    exact congrArg (fun pool => edited pool back) (edit_ok e done)
  have slot := slot_stays back _ (call_writes e done).written unset
  rw [split, text_ok]
  exact ⟨_, (payload_ok _ _ _).mpr slot, ModifiedUtf8.decode_encoded e.text⟩

def next? (index : UInt16) : Option UInt16 :=
  if index.toNat + 1 < 0x10000 then some (index + 1) else none

theorem next_of_room (index : UInt16) (room : index.toNat + 1 < 0x10000) :
    next? index = some (index + 1) := if_pos room

theorem next_number (index next : UInt16) (found : next? index = some next) :
    next.toNat = index.toNat + 1 := by
  by_cases room : index.toNat + 1 < 0x10000
  · rw [next_of_room index room] at found
    rw [← Option.some.inj found, UInt16.toNat_add]
    exact Nat.mod_eq_of_lt room
  · have overflow : next? index = none := if_neg room
    rw [overflow] at found
    contradiction

theorem below_iff (index count : UInt16) (n : Nat) (number : index.toNat = n) :
    index < count ↔ n < count.toNat := by
  rw [UInt16.lt_iff_toNat_lt, number]

theorem next_fits (index count : UInt16) (below : index < count) : next? index ≠ none := by
  have inside := (below_iff index count _ rfl).mp below
  have small := count.toNat_lt
  rw [next_of_room index (by omega)]
  exact Option.some_ne_none _

-- Reads constants as `readSlots` does, with the number of the slot in a counter of 16 bits. The outer
-- `none` is an overflow of this counter.
def readSlotsChecked (count index : UInt16) (slots : Array Constant) (c : Cursor) :
    Option (Except FormatError (Array Constant × Cursor)) :=
  if _missing : index < count then
    match Constant.read index.toNat c with
    | .error e => some (.error e)
    | .ok (constant, c) =>
        match _first : next? index with
        | none => none
        | some behind =>
            if constant.isWide then
              if behind < count then
                match _second : next? behind with
                | none => none
                | some next => readSlotsChecked count next ((slots.push constant).push .unusable) c
              else some (.error (.badConstant (behind - 1).toNat .wideInsidePool))
            else readSlotsChecked count behind (slots.push constant) c
  else some (.ok (slots, c))
termination_by count.toNat - index.toNat
decreasing_by
  · have inside := (below_iff index count _ rfl).mp _missing
    have first := next_number index behind _first
    have second := next_number behind next _second
    omega
  · have inside := (below_iff index count _ rfl).mp _missing
    have first := next_number index behind _first
    omega

theorem read_slots_checked (count index : UInt16) (fuel : Nat) (slots : Array Constant) (c : Cursor)
    (place : index.toNat = slots.size) (enough : count.toNat ≤ slots.size + fuel) :
    readSlotsChecked count index slots c = some (readSlots count.toNat fuel slots c) := by
  induction fuel generalizing index slots c with
  | zero =>
      have full : ¬ index < count := by
        rw [below_iff index count _ place]
        omega
      rw [readSlotsChecked, dif_neg full, readSlots]
  | succ fuel ih =>
      rw [readSlotsChecked, readSlots]
      by_cases missing : slots.size < count.toNat
      · have inside := (below_iff index count _ place).mpr missing
        rw [dif_pos inside, if_pos missing, place]
        cases Constant.read slots.size c with
        | error e => rfl
        | ok read =>
            obtain ⟨constant, after⟩ := read
            dsimp only
            split
            · rename_i overflow
              exact absurd overflow (next_fits index count inside)
            · rename_i behind first
              have number : behind.toNat = slots.size + 1 := place ▸ next_number index behind first
              by_cases wide : constant.isWide = true
              · rw [if_pos wide, if_pos wide]
                by_cases room : slots.size + 1 < count.toNat
                · have within := (below_iff behind count _ number).mpr room
                  rw [if_pos within, if_pos room]
                  split
                  · rename_i overflow
                    exact absurd overflow (next_fits behind count within)
                  · rename_i next second
                    have last := next_number behind next second
                    exact ih next _ after (by simp; omega) (by simp; omega)
                · have outside := mt (below_iff behind count _ number).mp room
                  have one : (1 : UInt16) ≤ behind := by
                    simp [UInt16.le_iff_toNat_le, number]
                  have same : (behind - 1).toNat = slots.size := by
                    simp [UInt16.toNat_sub_of_le behind 1 one, number]
                  rw [if_neg outside, if_neg room, same]
              · rw [if_neg wide, if_neg wide]
                exact ih behind _ after (by simp; omega) (by simp; omega)
      · rw [dif_neg (mt (below_iff index count _ place).mp missing), if_neg missing]

def readChecked (c : Cursor) : Option (Except FormatError (Pool × Cursor)) :=
  match c.u16 with
  | .error e => some (.error e)
  | .ok (count, c) =>
      (readSlotsChecked count 1 #[.unusable] c).map (Except.map fun (slots, c) => (⟨slots⟩, c))

theorem read_checked (c : Cursor) : readChecked c = some (Pool.read c) := by
  have steps : Pool.read c = (c.u16 >>= fun (count, c) =>
      readSlots count.toNat count.toNat #[.unusable] c >>= fun (slots, c) =>
        .ok ((⟨slots⟩ : Pool), c)) := rfl
  rw [steps, readChecked]
  cases c.u16 with
  | error e => rfl
  | ok counted =>
      obtain ⟨count, after⟩ := counted
      dsimp only
      rw [read_slots_checked count 1 count.toNat #[.unusable] after rfl (Nat.le_add_left _ _)]
      show some _ = some (readSlots count.toNat count.toNat #[.unusable] after >>= _)
      cases readSlots count.toNat count.toNat #[.unusable] after <;> rfl

theorem Encoded.writable (bytes : Bytes) (pool : Pool) (encoded : Encoded bytes pool) : pool.Writable := by
  cases encoded.2 with
  | inl written =>
      rw [writable_iff]
      exact (pool.measured.written bytes written).2
  | inr alone =>
      constructor
      · simp [alone.1]
      · simp [alone.1]

theorem read_back (pool : Pool) (valid : pool.WellFormed) (writable : pool.Writable) :
    ∃ bytes, pool.write = .ok bytes ∧ ∀ rest offset,
      Pool.read ⟨bytes ++ rest, offset⟩ = .ok (pool, ⟨rest, offset + bytes.length⟩) := by
  cases result : pool.write with
  | error e =>
      obtain ⟨k, member, exceeds, _⟩ := pool.measured.failed e result
      exact absurd ⟨k, member, exceeds⟩ (pool.writable_iff.mp writable)
  | ok bytes =>
      refine ⟨bytes, rfl, fun rest offset => ?_⟩
      exact read_codec.complete bytes pool rest offset ⟨valid, .inl result⟩ (Nat.le_refl _)

structure EditedTo (before : Pool) (edits : List Edit) (after : Pool) : Prop where
  shape : after.WellFormed
  others : SameOthers before after
  room : after.size ≤ 0xFFFF
  kept : ∀ (index : UInt16) (k : Constant), before.slots[index.toNat]? = some k →
    ¬ before.Sets index edits → after.slots[index.toNat]? = some k
  texts : ∀ front e back index middle, edits = front ++ e :: back →
    e.call (before.edited front) = .ok (index, middle) → ¬ middle.Sets index back →
      after.text index = .ok e.text
  refused : ∀ e : Edit, e.Refused after → (∃ fault, e.call after = .error fault) ∧ after.edit e = after
  accepted : ∀ e : Edit, ¬ e.Refused after → ∃ index, e.call after = .ok (index, after.edit e)
  readBack : ∃ bytes, after.write = .ok bytes ∧ ∀ rest offset,
    Pool.read ⟨bytes ++ rest, offset⟩ = .ok (after, ⟨rest, offset + bytes.length⟩)

theorem edited_to (pool : Pool) (edits : List Edit) (valid : pool.WellFormed) (writable : pool.Writable) :
    pool.EditedTo edits (pool.edited edits) := by
  obtain ⟨final, same⟩ := edited_keeps edits writable
  have shape := same.well_formed valid
  constructor
  · exact shape
  · exact same
  · exact Nat.le_of_lt_succ final.size
  · intro index k found unset
    exact slot_stays edits k found unset
  · intro front e back index middle split done unset
    subst split
    exact text_stays front back e done unset
  · intro e refused
    obtain ⟨fault, failed⟩ := call_refused e refused
    exact ⟨⟨fault, failed⟩, edit_failed e fault failed⟩
  · intro e accepted
    obtain ⟨index, after, done⟩ := call_accepted e accepted
    exact ⟨index, edit_ok e done ▸ done⟩
  · exact read_back _ shape final

theorem edits_keep_pools_readable (c last : Cursor) (pool : Pool) (reads : Pool.read c = .ok (pool, last)) :
    readChecked c = some (.ok (pool, last)) ∧ pool.WellFormed ∧
    (∃ count middle, c.u16 = .ok (count, middle) ∧ pool.size = max 1 count.toNat) ∧
    ∀ edits, pool.EditedTo edits (pool.edited edits) := by
  obtain ⟨bytes, encoded, _⟩ := (@read_codec 0).sound c pool last reads
  obtain ⟨⟨count, middle⟩, counted, rest⟩ := bind_ok.mp reads
  obtain ⟨_, ⟨_, _, _, size⟩, _⟩ := (@slots_codec 0 count.toNat).sound middle pool last rest
  refine ⟨?_, encoded.1, ⟨count, middle, counted, ?_⟩, ?_⟩
  · rw [read_checked, reads]
  · exact size.trans (Nat.max_comm _ _)
  · intro edits
    exact pool.edited_to edits encoded.1 (encoded.writable bytes pool)

def longFirst : Bytes := [0, 5, 5, 0, 0, 0, 0, 0, 0, 0, 42, 1, 0, 3, 70, 111, 111, 7, 0, 3]

def longFirstPool : Pool := ⟨#[.unusable, .long 42, .unusable, .utf8 [70, 111, 111], .classRef 3]⟩

-- The slot of the long takes no text, and the class gets another name.
theorem long_first_stays_readable :
    let after : Pool := ⟨#[.unusable, .long 42, .unusable, .utf8 [66], .classRef 3, .utf8 [97]]⟩
    Pool.read ⟨longFirst, 0⟩ = .ok (longFirstPool, ⟨[], 20⟩) ∧
    readChecked ⟨longFirst, 0⟩ = some (.ok (longFirstPool, ⟨[], 20⟩)) ∧ longFirstPool.WellFormed ∧
    (∃ count middle, Cursor.u16 ⟨longFirst, 0⟩ = .ok (count, middle) ∧ longFirstPool.size = max 1 count.toNat) ∧
    longFirstPool.EditedTo [.push ['a'], .set 1 ['x'], .set 3 ['B']] after ∧ after.text 5 = .ok ['a'] := by
  have reads : Pool.read ⟨longFirst, 0⟩ = .ok (longFirstPool, ⟨[], 20⟩) := by rfl
  obtain ⟨counted, shape, size, edits⟩ := edits_keep_pools_readable _ _ _ reads
  have edited := edits [.push ['a'], .set 1 ['x'], .set 3 ['B']]
  refine ⟨reads, counted, shape, size, edited, ?_⟩
  apply edited.texts [] (.push ['a']) [.set 1 ['x'], .set 3 ['B']] 5 _ rfl rfl
  intro sets
  obtain ⟨front, s, back, _, split, _⟩ := sets
  have member : Edit.set 5 s ∈ [Edit.set 1 ['x'], .set 3 ['B']] := by
    rw [split]
    simp
  simp at member

end Pool

end Shading
