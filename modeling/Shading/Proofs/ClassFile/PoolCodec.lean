import Shading.ClassFile.Pool
import Shading.Proofs.ClassFile.Codec

set_option autoImplicit false

namespace Shading

open Fallible

namespace Constant

def tag : Constant → UInt8
  | unusable => 0
  | utf8 _ => 1
  | integer _ => 3
  | float _ => 4
  | long _ => 5
  | double _ => 6
  | classRef _ => 7
  | string _ => 8
  | fieldRef _ _ => 9
  | methodRef _ _ => 10
  | interfaceMethodRef _ _ => 11
  | nameAndType _ _ => 12
  | methodHandle _ _ => 15
  | methodType _ => 16
  | dynamic _ _ => 17
  | invokeDynamic _ _ => 18
  | module _ => 19
  | package _ => 20

theorem utf8_written (payload bytes : Bytes) :
    (utf8 payload).write = .ok bytes ↔ payload.length < 0x10000 ∧
      bytes = 1 :: Bytes.ofU16 payload.length.toUInt16 ++ payload := by
  constructor
  · intro written
    obtain ⟨count, counting, rest⟩ := bind_ok.mp written
    obtain ⟨small, rfl⟩ := (Writer.count16_ok _ _ _).mp counting
    exact ⟨small, (Except.ok.inj rest).symm⟩
  · rintro ⟨small, rfl⟩
    exact bind_ok.mpr ⟨_, (Writer.count16_ok _ _ _).mpr ⟨small, rfl⟩, rfl⟩

theorem tag_written (k : Constant) (t : UInt8) (bytes : Bytes)
    (written : k.write = .ok (t :: bytes)) : k.tag = t ∧ k ≠ .unusable := by
  cases k with
  | unusable => cases written
  | utf8 payload =>
      obtain ⟨_, same⟩ := (utf8_written _ _).mp written
      cases same
      exact ⟨rfl, nofun⟩
  | _ =>
      cases written
      exact ⟨rfl, nofun⟩

theorem written_filled (k : Constant) : ¬ Form.written write (· ≠ .unusable) [] k := by
  rintro ⟨usable, written⟩
  cases k with
  | unusable => exact usable rfl
  | utf8 payload => cases ((utf8_written _ _).mp written).2
  | _ => cases written

abbrev Body (t : UInt8) : Form Constant := fun bytes => Form.written write (· ≠ .unusable) (t :: bytes)

variable {α β : Type} {fuel : Nat}

theorem single {item : Reader α} {encode : α → Bytes}
    (codec : Codec fuel item fun bytes a => bytes = encode a) (make : α → Constant)
    (written : ∀ a, (make a).write = .ok ((make a).tag :: encode a)) (t : UInt8)
    (only : ∀ k, k.tag = t ↔ ∃ a, k = make a) :
    Codec fuel (do return make (← item)) (Body t) := by
  refine (codec.bind fun a => .pure (make a)).conv ?_ ?_
  · rintro _ _ ⟨a, _, _, rfl, ⟨rfl, rfl⟩, rfl⟩
    have tagged := (only (make a)).mpr ⟨a, rfl⟩
    rw [List.append_nil, ← tagged]
    exact ⟨(tag_written _ _ _ (written a)).2, written a⟩
  · rintro bytes k ⟨_, formed⟩ _
    obtain ⟨a, rfl⟩ := (only k).mp (tag_written _ _ _ formed).1
    cases formed.symm.trans (written a)
    exact ⟨a, encode a, [], rfl, ⟨rfl, rfl⟩, (List.append_nil _).symm⟩

theorem pair {first : Reader α} {second : Reader β} {encode : α → Bytes} {encodeSecond : β → Bytes}
    (codec : Codec fuel first fun bytes a => bytes = encode a)
    (codecSecond : Codec fuel second fun bytes b => bytes = encodeSecond b) (make : α → β → Constant)
    (written : ∀ a b, (make a b).write = .ok ((make a b).tag :: (encode a ++ encodeSecond b)))
    (t : UInt8) (only : ∀ k, k.tag = t ↔ ∃ a b, k = make a b) :
    Codec fuel (do return make (← first) (← second)) (Body t) := by
  refine (codec.bind fun a => codecSecond.bind fun b => .pure (make a b)).conv ?_ ?_
  · rintro _ _ ⟨a, _, _, rfl, ⟨b, _, _, rfl, ⟨rfl, rfl⟩, rfl⟩, rfl⟩
    have tagged := (only (make a b)).mpr ⟨a, b, rfl⟩
    rw [List.append_nil, ← tagged]
    exact ⟨(tag_written _ _ _ (written a b)).2, written a b⟩
  · rintro bytes k ⟨_, formed⟩ _
    obtain ⟨a, b, rfl⟩ := (only k).mp (tag_written _ _ _ formed).1
    cases formed.symm.trans (written a b)
    exact ⟨a, encode a, _, rfl, ⟨b, _, [], rfl, ⟨rfl, rfl⟩, (List.append_nil _).symm⟩, rfl⟩

theorem text : Codec fuel (do let length ← Reader.u16; return utf8 (← Reader.bytes length.toNat))
    (Body 1) := by
  refine (Codec.u16.bind fun length => (Codec.bytes length.toNat).bind fun a => .pure (utf8 a)).conv
    ?_ ?_
  · rintro _ _ ⟨length, _, _, rfl, ⟨_, payload, _, ⟨rfl, size⟩, ⟨rfl, rfl⟩, rfl⟩, rfl⟩
    refine ⟨nofun, (utf8_written _ _).mpr ⟨size ▸ length.toNat_lt, ?_⟩⟩
    rw [size, List.append_nil]
    exact congrArg (fun n => 1 :: (Bytes.ofU16 n ++ payload)) UInt16.ofNat_toNat.symm
  · rintro bytes k ⟨_, formed⟩ _
    cases k with
    | utf8 payload =>
        obtain ⟨small, same⟩ := (utf8_written _ _).mp formed
        cases same
        exact ⟨_, _, _, rfl, ⟨payload, payload, [], ⟨rfl, (UInt16.toNat_ofNat_of_lt' small).symm⟩,
          ⟨rfl, rfl⟩, (List.append_nil _).symm⟩, rfl⟩
    | _ => cases formed

theorem read_codec (fuel index : Nat) :
    Codec (fuel + 1) (Constant.read index) (Form.written write (· ≠ .unusable)) := by
  refine Codec.tagged written_filled fun t => ?_
  split
  · exact text
  · exact single .u32 integer (fun _ => rfl) 3 (by intro k; cases k <;> simp [tag])
  · exact single .u32 float (fun _ => rfl) 4 (by intro k; cases k <;> simp [tag])
  · exact single .u64 long (fun _ => rfl) 5 (by intro k; cases k <;> simp [tag])
  · exact single .u64 double (fun _ => rfl) 6 (by intro k; cases k <;> simp [tag])
  · exact single .u16 classRef (fun _ => rfl) 7 (by intro k; cases k <;> simp [tag])
  · exact single .u16 string (fun _ => rfl) 8 (by intro k; cases k <;> simp [tag])
  · exact pair .u16 .u16 fieldRef (fun _ _ => rfl) 9 (by intro k; cases k <;> simp [tag])
  · exact pair .u16 .u16 methodRef (fun _ _ => rfl) 10 (by intro k; cases k <;> simp [tag])
  · exact pair .u16 .u16 interfaceMethodRef (fun _ _ => rfl) 11 (by intro k; cases k <;> simp [tag])
  · exact pair .u16 .u16 nameAndType (fun _ _ => rfl) 12 (by intro k; cases k <;> simp [tag])
  · exact pair .u8 .u16 methodHandle (fun _ _ => rfl) 15 (by intro k; cases k <;> simp [tag])
  · exact single .u16 methodType (fun _ => rfl) 16 (by intro k; cases k <;> simp [tag])
  · exact pair .u16 .u16 dynamic (fun _ _ => rfl) 17 (by intro k; cases k <;> simp [tag])
  · exact pair .u16 .u16 invokeDynamic (fun _ _ => rfl) 18 (by intro k; cases k <;> simp [tag])
  · exact single .u16 module (fun _ => rfl) 19 (by intro k; cases k <;> simp [tag])
  · exact single .u16 package (fun _ => rfl) 20 (by intro k; cases k <;> simp [tag])
  · refine (Codec.fail _).conv (fun _ _ => False.elim) ?_
    rintro bytes k ⟨usable, formed⟩ _
    have tagged := (tag_written _ _ _ formed).1
    cases k <;> simp [tag] at tagged <;> simp_all

def filled (k : Constant) : List Constant := if k.isWide then [k, .unusable] else [k]

theorem filled_narrow (k : Constant) (single : k.isWide = false) : k.filled = [k] := by
  rw [filled, single]
  rfl

theorem filled_wide (k : Constant) (double : k.isWide = true) : k.filled = [k, .unusable] := by
  rw [filled, if_pos double]

theorem filled_positive (k : Constant) : 0 < k.filled.length := by
  unfold filled
  split
  · exact Nat.zero_lt_two
  · exact Nat.zero_lt_one

end Constant

namespace Pool

-- Constants one after the other, each wide one with an unusable slot behind it.
inductive Slots : Form (List Constant) where
  | nil : Slots [] []
  | narrow {front back : Bytes} {k : Constant} {rest : List Constant}
      (first : Form.written Constant.write (· ≠ .unusable) front k) (single : k.isWide = false)
      (others : Slots back rest) : Slots (front ++ back) (k :: rest)
  | wide {front back : Bytes} {k : Constant} {rest : List Constant}
      (first : Form.written Constant.write (· ≠ .unusable) front k) (double : k.isWide = true)
      (others : Slots back rest) : Slots (front ++ back) (k :: .unusable :: rest)

theorem Slots.cons {front back : Bytes} {k : Constant} {rest : List Constant}
    (first : Form.written Constant.write (· ≠ .unusable) front k) (others : Slots back rest) :
    Slots (front ++ back) (k.filled ++ rest) := by
  cases width : k.isWide with
  | false =>
      rw [Constant.filled_narrow k width]
      exact .narrow first width others
  | true =>
      rw [Constant.filled_wide k width]
      exact .wide first width others

-- A narrow constant has room as soon as a slot is missing, a wide one has to be asked for it.
theorem read_slots_step (count fuel : Nat) (slots : Array Constant) (missing : slots.size < count) :
    readSlots count (fuel + 1) slots = (do
      let k ← Constant.read slots.size
      if slots.size + k.filled.length ≤ count then readSlots count fuel (slots ++ k.filled.toArray)
      else Reader.fail (.badConstant slots.size .wideInsidePool)) := by
  funext c
  simp only [readSlots, if_pos missing]
  show _ = Constant.read slots.size c >>= _
  cases Constant.read slots.size c with
  | error e => rfl
  | ok read =>
      obtain ⟨k, after⟩ := read
      dsimp only
      show _ = (if slots.size + k.filled.length ≤ count then _ else _ : Reader (Array Constant)) after
      cases width : k.isWide with
      | false =>
          have room : slots.size + k.filled.length ≤ count := by
            rw [Constant.filled_narrow k width]
            exact missing
          rw [if_pos room, Constant.filled_narrow k width]
          simp
      | true =>
          have length : k.filled.length = 2 := by
            rw [Constant.filled_wide k width]
            rfl
          rw [length, Constant.filled_wide k width, if_pos rfl]
          by_cases room : slots.size + 1 < count
          · rw [if_pos room, if_pos (show slots.size + 2 ≤ count from room)]
            rfl
          · rw [if_neg room, if_neg (show ¬ slots.size + 2 ≤ count from room)]
            rfl

theorem read_slots_full (count fuel : Nat) (slots : Array Constant) (full : ¬ slots.size < count) :
    readSlots count (fuel + 1) slots = pure slots := by
  funext c
  simp only [readSlots, if_neg full]
  rfl

theorem read_slots_sound (count fuel : Nat) (slots all : Array Constant) (c after : Cursor)
    (reads : readSlots count fuel slots c = .ok (all, after)) (enough : count ≤ slots.size + fuel) :
    ∃ bytes new, all.toList = slots.toList ++ new ∧ Slots bytes new ∧
      all.size = max count slots.size ∧ c.rest = bytes ++ after.rest ∧
      after.offset = c.offset + bytes.length := by
  induction fuel generalizing slots c with
  | zero =>
      cases reads
      exact ⟨[], [], (List.append_nil _).symm, .nil, by omega, rfl, rfl⟩
  | succ fuel ih =>
      by_cases missing : slots.size < count
      · rw [read_slots_step count fuel slots missing] at reads
        obtain ⟨⟨k, middle⟩, first, reads⟩ := bind_ok.mp reads
        obtain ⟨front, formed, split, place⟩ :=
          (Constant.read_codec 0 slots.size).sound c k middle first
        dsimp only at reads
        by_cases room : slots.size + k.filled.length ≤ count
        · rw [if_pos room] at reads
          have size : (slots ++ k.filled.toArray).size = slots.size + k.filled.length := by simp
          have taken : 0 < k.filled.length := k.filled_positive
          obtain ⟨back, new, same, others, total, splitBack, placeBack⟩ :=
            ih _ middle reads (by omega)
          refine ⟨front ++ back, k.filled ++ new, ?_, .cons formed others, by omega, ?_, ?_⟩
          · rw [same, Array.toList_append, List.append_assoc]
          · rw [split, splitBack, List.append_assoc]
          · rw [placeBack, place, List.length_append, Nat.add_assoc]
        · rw [if_neg room] at reads
          cases reads
      · rw [read_slots_full count fuel slots missing] at reads
        cases reads
        exact ⟨[], [], (List.append_nil _).symm, .nil, by omega, rfl, rfl⟩

theorem read_slots_cons {front back rest : Bytes} {k : Constant} {new : List Constant} {fuel : Nat}
    (slots : Array Constant) (offset : Nat)
    (first : Form.written Constant.write (· ≠ .unusable) front k)
    (later : readSlots ((slots ++ k.filled.toArray).size + new.length) fuel (slots ++ k.filled.toArray)
        ⟨back ++ rest, offset + front.length⟩ =
      .ok (slots ++ k.filled.toArray ++ new.toArray, ⟨rest, offset + front.length + back.length⟩)) :
    readSlots (slots.size + (k.filled ++ new).length) (fuel + 1) slots ⟨front ++ back ++ rest, offset⟩ =
      .ok (slots ++ (k.filled ++ new).toArray, ⟨rest, offset + (front ++ back).length⟩) := by
  have reads := (Constant.read_codec front.length slots.size).complete front k (back ++ rest) offset first
    (Nat.le_succ _)
  have size : (slots ++ k.filled.toArray).size + new.length = slots.size + (k.filled ++ new).length := by
    simp [Nat.add_assoc]
  have taken : 0 < k.filled.length := k.filled_positive
  have room : slots.size + k.filled.length ≤ slots.size + (k.filled ++ new).length := by simp
  rw [size] at later
  rw [read_slots_step _ fuel slots (by omega), List.append_assoc]
  refine bind_ok.mpr ⟨_, reads, ?_⟩
  dsimp only
  rw [if_pos room, later]
  simp [Nat.add_assoc]

theorem read_slots_complete (bytes : Bytes) (new : List Constant) (formed : Slots bytes new)
    (fuel : Nat) (enough : new.length ≤ fuel) (slots : Array Constant) (rest : Bytes)
    (offset : Nat) :
    readSlots (slots.size + new.length) fuel slots ⟨bytes ++ rest, offset⟩ =
      .ok (slots ++ new.toArray, ⟨rest, offset + bytes.length⟩) := by
  induction formed generalizing fuel slots offset with
  | nil => cases fuel <;> simp [readSlots]
  | @narrow front back k new first single others ih =>
      cases fuel with
      | zero => cases enough
      | succ fuel =>
          have whole := read_slots_cons slots offset first
            (ih fuel (Nat.le_of_succ_le_succ enough) _ (offset + front.length))
          rwa [Constant.filled_narrow k single] at whole
  | @wide front back k new first double others ih =>
      cases fuel with
      | zero => cases enough
      | succ fuel =>
          have less : new.length ≤ fuel := Nat.le_of_succ_le (Nat.le_of_succ_le_succ enough)
          have whole := read_slots_cons slots offset first (ih fuel less _ (offset + front.length))
          rwa [Constant.filled_wide k double] at whole

-- Slot 0 is unusable, and otherwise the slots behind wide constants are, and no others.
structure WellFormed (pool : Pool) : Prop where
  first : pool.slots[0]? = some .unusable
  others : ∀ index : Nat, pool.slots[index + 1]? = some .unusable ↔
    ∃ k, pool.slots[index]? = some k ∧ k.isWide = true

theorem WellFormed.of_narrow (rest : List Constant)
    (narrow : ∀ k ∈ rest, k ≠ .unusable ∧ k.isWide = false) :
    WellFormed ⟨(.unusable :: rest).toArray⟩ := by
  refine ⟨rfl, fun index => ?_⟩
  rw [List.getElem?_toArray, List.getElem?_toArray, List.getElem?_cons_succ]
  constructor
  · intro found
    exact absurd rfl (narrow _ (List.mem_of_getElem? found)).1
  · rintro ⟨k, found, wide⟩
    cases index with
    | zero =>
        cases found
        contradiction
    | succ index =>
        rw [(narrow k (List.mem_of_getElem? found)).2] at wide
        contradiction

theorem WellFormed.after_first {pool : Pool} (valid : pool.WellFormed) :
    ∃ new, pool.slots.toList = .unusable :: new := by
  have zero := valid.first
  rw [← Array.getElem?_toList] at zero
  cases split : pool.slots.toList with
  | nil =>
      rw [split] at zero
      cases zero
  | cons k new =>
      rw [split] at zero
      cases zero
      exact ⟨new, rfl⟩

theorem size_of_slots (slots : Array Constant) (new : List Constant)
    (same : slots.toList = .unusable :: new) : slots.size = 1 + new.length := by
  rw [← Array.length_toList, same, List.length_cons, Nat.add_comm]

structure Aligned (slots : List Constant) : Prop where
  first : slots[0]? ≠ some .unusable
  others : ∀ index : Nat, slots[index + 1]? = some .unusable ↔
    ∃ k, slots[index]? = some k ∧ k.isWide = true

theorem well_formed_iff_aligned (slots : Array Constant) (new : List Constant)
    (same : slots.toList = .unusable :: new) : WellFormed ⟨slots⟩ ↔ Aligned new := by
  have shift (index : Nat) : slots[index + 1]? = new[index]? := by
    rw [← Array.getElem?_toList, same, List.getElem?_cons_succ]
  have zero : slots[0]? = some .unusable := by
    rw [← Array.getElem?_toList, same, List.getElem?_cons_zero]
  constructor
  · intro valid
    refine ⟨?_, fun index => ?_⟩
    · intro found
      obtain ⟨k, wide, double⟩ := (valid.others 0).mp ((shift 0).trans found)
      cases zero.symm.trans wide
      cases double
    · simpa only [shift] using valid.others (index + 1)
  · intro aligned
    refine ⟨zero, fun index => ?_⟩
    cases index with
    | zero =>
        simp only [shift, zero]
        constructor
        · intro found
          exact absurd found aligned.first
        · rintro ⟨k, same, double⟩
          cases same
          cases double
    | succ index => simpa only [shift] using aligned.others index

theorem Aligned.tail_of_narrow {k : Constant} {rest : List Constant}
    (aligned : Aligned (k :: rest)) (single : k.isWide = false) : Aligned rest where
  first := by
    intro found
    obtain ⟨l, same, double⟩ := (aligned.others 0).mp found
    cases same
    rw [single] at double
    cases double
  others := fun index => aligned.others (index + 1)

theorem Aligned.tail_of_wide {k : Constant} {rest : List Constant}
    (aligned : Aligned (k :: rest)) (double : k.isWide = true) :
    ∃ others, rest = .unusable :: others ∧ Aligned others := by
  have behind : rest[0]? = some .unusable := (aligned.others 0).mpr ⟨k, rfl, double⟩
  cases rest with
  | nil => cases behind
  | cons l others =>
      cases behind
      refine ⟨others, rfl, ?_, fun index => aligned.others (index + 2)⟩
      intro found
      obtain ⟨m, same, wide⟩ := (aligned.others 1).mp found
      cases same
      cases wide

theorem aligned_of_slots (bytes : Bytes) (new : List Constant) (formed : Slots bytes new) :
    Aligned new ∧ Writer.each Constant.write new = .ok bytes := by
  induction formed with
  | nil => exact ⟨⟨nofun, fun _ => by simp⟩, rfl⟩
  | @narrow front back k rest first single others ih =>
      refine ⟨⟨?_, fun index => ?_⟩, ?_⟩
      · intro found
        exact first.1 (Option.some.inj found)
      · cases index with
        | zero =>
            constructor
            · intro found
              exact absurd found ih.1.first
            · rintro ⟨l, same, double⟩
              cases same
              rw [single] at double
              cases double
        | succ index => exact ih.1.others index
      · rw [Writer.each_cons, first.2, ih.2]
        rfl
  | @wide front back k rest first double others ih =>
      refine ⟨⟨?_, fun index => ?_⟩, ?_⟩
      · intro found
        exact first.1 (Option.some.inj found)
      · match index with
        | 0 => exact ⟨fun _ => ⟨k, rfl, double⟩, fun _ => rfl⟩
        | 1 =>
            constructor
            · intro found
              exact absurd found ih.1.first
            · rintro ⟨l, same, wide⟩
              cases same
              cases wide
        | index + 2 => exact ih.1.others index
      · rw [Writer.each_cons, Writer.each_cons, first.2, ih.2]
        rfl

-- The induction goes over the length, as a wide constant takes two slots at once.
theorem slots_of_aligned (size : Nat) (bytes : Bytes) (new : List Constant) (small : new.length ≤ size)
    (aligned : Aligned new) (written : Writer.each Constant.write new = .ok bytes) :
    Slots bytes new := by
  induction size generalizing bytes new with
  | zero =>
      cases List.length_eq_zero_iff.mp (Nat.le_zero.mp small)
      cases written
      exact .nil
  | succ size ih =>
      cases new with
      | nil =>
          cases written
          exact .nil
      | cons k rest =>
          rw [Writer.each_cons] at written
          obtain ⟨front, back, first, others, rfl⟩ := (Writer.append_ok _ _ _).mp written
          have usable : k ≠ .unusable := fun same => aligned.first (congrArg some same)
          have less := Nat.le_of_succ_le_succ small
          cases width : k.isWide with
          | false =>
              exact .narrow ⟨usable, first⟩ width
                (ih back rest less (aligned.tail_of_narrow width) others)
          | true =>
              obtain ⟨rest, rfl, tail⟩ := aligned.tail_of_wide width
              rw [Writer.each_cons] at others
              obtain ⟨_, back, nothing, behind, rfl⟩ := (Writer.append_ok _ _ _).mp others
              cases nothing
              exact .wide ⟨usable, first⟩ width (ih back rest (Nat.le_of_succ_le less) tail behind)

-- The bytes that are read as a pool. Those that a pool is written as are among them.
def Encoded : Form Pool := fun bytes pool =>
  pool.WellFormed ∧ (pool.write = .ok bytes ∨ pool.slots = #[.unusable] ∧ bytes = [0, 0])

theorem written_iff (slots : Array Constant) (new : List Constant) (bytes : Bytes)
    (same : slots.toList = .unusable :: new) :
    Pool.write ⟨slots⟩ = .ok bytes ↔ slots.size < 0x10000 ∧ ∃ back,
      Writer.each Constant.write new = .ok back ∧ bytes = Bytes.ofU16 slots.size.toUInt16 ++ back := by
  show (do return (← Writer.count16 .constantPool slots.size) ++
    (← Writer.each Constant.write slots.toList)) = _ ↔ _
  rw [Writer.append_ok, same, Writer.each_cons]
  constructor
  · rintro ⟨count, all, counting, others, rfl⟩
    obtain ⟨small, rfl⟩ := (Writer.count16_ok _ _ _).mp counting
    obtain ⟨_, back, nothing, behind, rfl⟩ := (Writer.append_ok _ _ _).mp others
    cases nothing
    exact ⟨small, back, behind, rfl⟩
  · rintro ⟨small, back, others, rfl⟩
    exact ⟨_, back, (Writer.count16_ok _ _ _).mpr ⟨small, rfl⟩,
      (Writer.append_ok _ _ _).mpr ⟨[], back, rfl, others, rfl⟩, rfl⟩

theorem slots_codec {fuel : Nat} (count : Nat) :
    Codec fuel (do return (⟨← readSlots count count #[.unusable]⟩ : Pool)) fun bytes pool =>
      ∃ new, pool.slots.toList = .unusable :: new ∧ Slots bytes new ∧
        pool.slots.size = max count 1 where
  sound := by
    intro c pool after done
    obtain ⟨⟨slots, last⟩, reads, final⟩ := bind_ok.mp done
    cases final
    obtain ⟨bytes, new, same, formed, size, split, place⟩ :=
      read_slots_sound _ _ _ slots c after reads (Nat.le_add_left _ _)
    exact ⟨bytes, ⟨new, same, formed, size⟩, split, place⟩
  complete := by
    rintro bytes ⟨slots⟩ rest offset ⟨new, same, formed, size⟩ _
    have length := size_of_slots slots new same
    have whole : #[Constant.unusable] ++ new.toArray = slots := by
      rw [← Array.toList_inj, same, Array.toList_append]
      rfl
    have reads : readSlots count count #[.unusable] ⟨bytes ++ rest, offset⟩ =
        .ok (slots, ⟨rest, offset + bytes.length⟩) := by
      by_cases zero : count = 0
      · subst zero
        have none : new = [] := List.length_eq_zero_iff.mp (by dsimp only at size; omega)
        subst none
        cases formed
        rw [← whole]
        rfl
      · have counted : count = 1 + new.length := by dsimp only at size; omega
        have more := read_slots_complete bytes new formed count (by omega) #[.unusable] rest offset
        rw [whole] at more
        rw [← more, counted]
        rfl
    show (readSlots count count #[.unusable] ⟨bytes ++ rest, offset⟩ >>= fun p => _) = _
    rw [reads]
    rfl

theorem read_codec {fuel : Nat} : Codec fuel Pool.read Encoded := by
  refine (Codec.u16.bind fun count => slots_codec count.toNat).conv ?_ ?_
  · rintro _ ⟨slots⟩ ⟨count, _, back, rfl, ⟨new, same, formed, size⟩, rfl⟩
    obtain ⟨aligned, written⟩ := aligned_of_slots back new formed
    refine ⟨(well_formed_iff_aligned slots new same).mpr aligned, ?_⟩
    have small := count.toNat_lt
    have total : slots.size = max count.toNat 1 := size
    by_cases zero : count = 0
    · right
      subst zero
      have length : slots.toList.length = 1 := total
      rw [same, List.length_cons, Nat.succ.injEq] at length
      cases List.length_eq_zero_iff.mp length
      cases formed
      exact ⟨Array.toList_inj.mp same, rfl⟩
    · left
      have positive : count.toNat ≠ 0 := fun none => zero (UInt16.toNat_inj.mp none)
      have counted : slots.size = count.toNat := by omega
      refine (written_iff slots new _ same).mpr ⟨by omega, back, written, ?_⟩
      rw [counted]
      exact congrArg (fun n => Bytes.ofU16 n ++ back) UInt16.ofNat_toNat.symm
  · rintro bytes ⟨slots⟩ ⟨valid, encoded⟩ _
    rcases encoded with written | ⟨alone, rfl⟩
    · obtain ⟨new, same⟩ := valid.after_first
      obtain ⟨small, back, others, rfl⟩ := (written_iff slots new bytes same).mp written
      have formed := slots_of_aligned new.length back new (Nat.le_refl _)
        ((well_formed_iff_aligned slots new same).mp valid) others
      have length := size_of_slots slots new same
      refine ⟨_, _, back, rfl, ⟨new, same, formed, ?_⟩, rfl⟩
      rw [show slots.size.toUInt16.toNat = slots.size from UInt16.toNat_ofNat_of_lt' small]
      dsimp only
      omega
    · have same : slots = #[.unusable] := alone
      subst same
      exact ⟨0, _, [], rfl, ⟨[], rfl, .nil, rfl⟩, rfl⟩

end Pool

end Shading
