import Shading.ClassFile.Attribute
import Shading.Proofs.BigEndian
import Shading.Proofs.Fallible

set_option autoImplicit false

namespace Shading

open Fallible

abbrev Form (α : Type) := Bytes → α → Prop

structure Codec {α : Type} (fuel : Nat) (item : Reader α) (form : Form α) : Prop where
  sound : ∀ c a after, item c = .ok (a, after) →
    ∃ bytes, form bytes a ∧ c.rest = bytes ++ after.rest ∧ after.offset = c.offset + bytes.length
  complete : ∀ bytes a rest offset, form bytes a → bytes.length ≤ fuel →
    item ⟨bytes ++ rest, offset⟩ = .ok (a, ⟨rest, offset + bytes.length⟩)

namespace Codec

variable {α β : Type} {fuel : Nat}

theorem conv {item : Reader α} {form other : Form α} (codec : Codec fuel item form)
    (forth : ∀ bytes a, form bytes a → other bytes a)
    (back : ∀ bytes a, other bytes a → bytes.length ≤ fuel → form bytes a) :
    Codec fuel item other where
  sound := by
    intro c a after done
    obtain ⟨bytes, formed, split⟩ := codec.sound c a after done
    exact ⟨bytes, forth bytes a formed, split⟩
  complete := by
    intro bytes a rest offset formed short
    exact codec.complete bytes a rest offset (back bytes a formed short) short

theorem pure (a : α) : Codec fuel (pure a) fun bytes b => bytes = [] ∧ b = a where
  sound := by
    intro c b after done
    cases done
    exact ⟨[], ⟨rfl, rfl⟩, rfl, rfl⟩
  complete := by
    rintro _ _ rest offset ⟨rfl, rfl⟩ _
    rfl

theorem fail (e : FormatError) : Codec fuel (Reader.fail e) fun _ (_ : α) => False where
  sound := by
    intro c a after done
    cases done
  complete := by
    intro bytes a rest offset impossible
    contradiction

theorem answer {item : Reader β} (x : Except FormatError α) (make : α → β)
    (right : ∀ a, x = .ok a → item = return make a) (wrong : ∀ e, x = .error e → item = Reader.fail e) :
    Codec fuel item fun bytes b => bytes = [] ∧ ∃ a, x = .ok a ∧ b = make a where
  sound := by
    intro c b after done
    cases x with
    | error e =>
        rw [wrong e rfl] at done
        cases done
    | ok a =>
        rw [right a rfl] at done
        cases done
        exact ⟨[], ⟨rfl, a, rfl, rfl⟩, rfl, rfl⟩
  complete := by
    rintro _ _ rest offset ⟨rfl, a, same, rfl⟩ _
    rw [right a same]
    rfl

-- Without fuel there is nothing to read, as no value is written as no bytes.
theorem truncated {form : Form α} (filled : ∀ a, ¬ form [] a) : Codec 0 Reader.truncated form where
  sound := by
    intro c a after done
    cases done
  complete := by
    intro bytes a rest offset formed short
    cases List.length_eq_zero_iff.mp (Nat.le_zero.mp short)
    exact absurd formed (filled a)

-- The rest may have less fuel by as many bytes as the first part always takes.
theorem bind_after {item : Reader α} {next : α → Reader β} {form : Form α} {then_ : α → Form β}
    (taken : Nat) (first : Codec (fuel + taken) item form)
    (long : ∀ bytes a, form bytes a → taken ≤ bytes.length)
    (second : ∀ a, Codec fuel (next a) (then_ a)) :
    Codec (fuel + taken) (item >>= next) fun bytes b =>
      ∃ a front back, form front a ∧ then_ a back b ∧ bytes = front ++ back where
  sound := by
    intro c b after done
    obtain ⟨⟨a, middle⟩, reads, rest⟩ := bind_ok.mp done
    obtain ⟨front, formed, split, place⟩ := first.sound c a middle reads
    obtain ⟨back, formedBack, splitBack, placeBack⟩ := (second a).sound middle b after rest
    refine ⟨front ++ back, ⟨a, front, back, formed, formedBack, rfl⟩, ?_, ?_⟩
    · rw [split, splitBack, List.append_assoc]
    · rw [placeBack, place, List.length_append, Nat.add_assoc]
  complete := by
    rintro _ b rest offset ⟨a, front, back, formed, formedBack, rfl⟩ short
    rw [List.length_append] at short
    have taken := long front a formed
    have reads := first.complete front a (back ++ rest) offset formed (by omega)
    have readsBack := (second a).complete back b rest (offset + front.length) formedBack (by omega)
    rw [List.append_assoc, List.length_append, ← Nat.add_assoc, ← readsBack]
    show (item ⟨front ++ (back ++ rest), offset⟩ >>= fun p => next p.1 p.2) = _
    rw [reads]
    rfl

theorem bind {item : Reader α} {next : α → Reader β} {form : Form α} {then_ : α → Form β}
    (first : Codec fuel item form) (second : ∀ a, Codec fuel (next a) (then_ a)) :
    Codec fuel (item >>= next) fun bytes b =>
      ∃ a front back, form front a ∧ then_ a back b ∧ bytes = front ++ back :=
  bind_after 0 first (fun _ _ _ => Nat.zero_le _) second

theorem ite {p : Prop} [Decidable p] {yes no : Reader α} {form other : Form α}
    (first : Codec fuel yes form) (second : Codec fuel no other) :
    Codec fuel (if p then yes else no) fun bytes a => if p then form bytes a else other bytes a := by
  by_cases holds : p
  · simpa only [if_pos holds] using first
  · simpa only [if_neg holds] using second

-- Where an item begins is told in errors only.
theorem offset_bind {next : Nat → Reader β} {form : Form β}
    (second : ∀ place, Codec fuel (next place) form) :
    Codec fuel (Reader.offset >>= next) form where
  sound := by
    intro c b after done
    exact (second c.offset).sound c b after done
  complete := by
    intro bytes b rest offset formed short
    exact (second offset).complete bytes b rest offset formed short

-- How much is left bounds the fuel that the rest can need.
theorem measured {next : Nat → Reader β} {form : Form β}
    (second : ∀ left, Codec (left + 1) (next left) form) :
    Codec fuel ((fun c => .ok (c.rest.length, c)) >>= next) form where
  sound := by
    intro c b after done
    exact (second c.rest.length).sound c b after done
  complete := by
    intro bytes b rest offset formed _
    have enough : bytes.length ≤ (bytes ++ rest).length + 1 := by
      rw [List.length_append]
      omega
    exact (second (bytes ++ rest).length).complete bytes b rest offset formed enough

theorem u8 : Codec fuel Reader.u8 fun bytes n => bytes = [n] where
  sound := by
    rintro ⟨bytes, offset⟩ n after done
    cases bytes with
    | nil => cases done
    | cons a rest =>
        cases done
        exact ⟨[n], rfl, rfl, rfl⟩
  complete := by
    rintro _ n rest offset rfl _
    rfl

theorem tagged {next : UInt8 → Reader α} {form : Form α} (filled : ∀ a, ¬ form [] a)
    (second : ∀ tag, Codec fuel (next tag) fun bytes a => form (tag :: bytes) a) :
    Codec (fuel + 1) (Reader.u8 >>= next) form := by
  have long (bytes : Bytes) (tag : UInt8) (one : bytes = [tag]) : 1 ≤ bytes.length := by
    rw [one]
    exact Nat.le_refl 1
  refine (bind_after 1 u8 long second).conv ?_ ?_
  · rintro _ a ⟨tag, _, back, rfl, formed, rfl⟩
    exact formed
  · intro bytes a formed _
    cases bytes with
    | nil => exact absurd formed (filled a)
    | cons tag back => exact ⟨tag, [tag], back, rfl, formed, rfl⟩

theorem u16 : Codec fuel Reader.u16 fun bytes n => bytes = Bytes.ofU16 n where
  sound := by
    rintro ⟨bytes, offset⟩ n after done
    match bytes, done with
    | a :: b :: rest, done =>
        cases done
        exact ⟨[a, b], (Bytes.of_u16_join a b).symm, rfl, rfl⟩
  complete := by
    rintro _ n rest offset rfl _
    have value := Bytes.join_of_u16 n
    show Except.ok (Bytes.joinU16 (n >>> 8).toUInt8 n.toUInt8, (⟨rest, offset + 2⟩ : Cursor)) = _
    rw [value]
    rfl

theorem u32 : Codec fuel Reader.u32 fun bytes n => bytes = Bytes.ofU32 n where
  sound := by
    rintro ⟨bytes, offset⟩ n after done
    match bytes, done with
    | a :: b :: d :: e :: rest, done =>
        cases done
        exact ⟨[a, b, d, e], (Bytes.of_u32_join a b d e).symm, rfl, rfl⟩
  complete := by
    rintro _ n rest offset rfl _
    have value := Bytes.join_of_u32 n
    show Except.ok (Bytes.joinU32 (n >>> 24).toUInt8 (n >>> 16).toUInt8 (n >>> 8).toUInt8 n.toUInt8,
      (⟨rest, offset + 4⟩ : Cursor)) = _
    rw [value]
    rfl

theorem u64 : Codec fuel Reader.u64 fun bytes n => bytes = Bytes.ofU64 n := by
  refine (u32.bind fun high => u32.bind fun low => pure (Bytes.joinU64 high low)).conv ?_ ?_
  · rintro _ n ⟨high, _, _, rfl, ⟨low, _, _, rfl, ⟨rfl, rfl⟩, rfl⟩, rfl⟩
    rw [Bytes.of_u64_join, List.append_nil]
  · rintro _ n rfl _
    exact ⟨_, _, _, rfl, ⟨_, _, _, rfl, ⟨rfl, (Bytes.join_of_u64 n).symm⟩, rfl⟩, by
      rw [Bytes.ofU64, List.append_nil]⟩

theorem bytes (count : Nat) :
    Codec fuel (Reader.bytes count) fun bytes data => bytes = data ∧ data.length = count where
  sound := by
    rintro ⟨bytes, offset⟩ data after done
    simp only [Reader.bytes, Cursor.bytes, List.splitAt_eq] at done
    split at done
    · rename_i enough
      cases done
      exact ⟨_, ⟨rfl, enough⟩, (List.take_append_drop count bytes).symm, by rw [enough]⟩
    · cases done
  complete := by
    rintro _ data rest offset ⟨rfl, rfl⟩ _
    simp [Reader.bytes, Cursor.bytes, List.splitAt_eq]

end Codec

inductive Form.Each {α : Type} (form : Form α) : Form (List α) where
  | nil : Each form [] []
  | cons {front back : Bytes} {a : α} {rest : List α} (first : form front a)
      (others : Each form back rest) : Each form (front ++ back) (a :: rest)

def Form.written {α : Type} (write : α → Except FormatError Bytes) (good : α → Prop) : Form α :=
  fun bytes a => good a ∧ write a = .ok bytes

namespace Writer

variable {α : Type}

theorem each_onto (item : α → Except FormatError Bytes) (done : List Bytes) (items : List α) :
    eachOnto item done items =
      (eachOnto item [] items).map fun bytes => done.reverse.flatten ++ bytes := by
  induction items generalizing done with
  | nil => simp [eachOnto, Except.map]
  | cons a rest ih =>
      simp only [eachOnto]
      cases item a with
      | error e => rfl
      | ok bytes =>
          dsimp only
          rw [ih (bytes :: done), ih [bytes]]
          cases eachOnto item [] rest with
          | error e => rfl
          | ok others => simp [Except.map]

theorem each_cons (item : α → Except FormatError Bytes) (a : α) (rest : List α) :
    each item (a :: rest) = (do return (← item a) ++ (← each item rest)) := by
  simp only [each, eachOnto]
  cases item a with
  | error e => rfl
  | ok bytes =>
      dsimp only
      rw [each_onto]
      cases eachOnto item [] rest with
      | error e => rfl
      | ok others =>
          show Except.ok ([bytes].reverse.flatten ++ others) = Except.ok (bytes ++ others)
          simp

theorem append_ok (x y : Except FormatError Bytes) (bytes : Bytes) :
    (do return (← x) ++ (← y)) = Except.ok bytes ↔
      ∃ front back, x = .ok front ∧ y = .ok back ∧ bytes = front ++ back := by
  constructor
  · intro done
    obtain ⟨front, first, rest⟩ := bind_ok.mp done
    obtain ⟨back, second, final⟩ := bind_ok.mp rest
    exact ⟨front, back, first, second, (Except.ok.inj final).symm⟩
  · rintro ⟨front, back, rfl, rfl, rfl⟩
    rfl

theorem after_ok (start : Bytes) (x y : Except FormatError Bytes) (bytes : Bytes) :
    (do return start ++ (← x) ++ (← y)) = Except.ok bytes ↔
      ∃ back, (do return (← x) ++ (← y)) = Except.ok back ∧ bytes = start ++ back := by
  cases x with
  | error e => exact ⟨nofun, nofun⟩
  | ok front =>
      cases y with
      | error e => exact ⟨nofun, nofun⟩
      | ok back =>
          constructor
          · intro done
            cases done
            exact ⟨_, rfl, List.append_assoc _ _ _⟩
          · rintro ⟨_, done, rfl⟩
            cases done
            exact congrArg Except.ok (List.append_assoc _ _ _)

theorem count_ok (limit : Nat) (field : Nat → Bytes) (what : Counted) (n : Nat) (bytes : Bytes) :
    count limit field what n = .ok bytes ↔ n < limit ∧ bytes = field n := by
  unfold count
  split
  · rename_i small
    constructor
    · intro done
      exact ⟨small, (Except.ok.inj done).symm⟩
    · rintro ⟨_, rfl⟩
      rfl
  · rename_i large
    constructor
    · intro failed
      cases failed
    · rintro ⟨small, _⟩
      exact absurd small large

theorem count8_ok (what : Counted) (n : Nat) (bytes : Bytes) :
    count8 what n = .ok bytes ↔ n < 0x100 ∧ bytes = [n.toUInt8] := count_ok _ _ what n bytes

theorem count16_ok (what : Counted) (n : Nat) (bytes : Bytes) :
    count16 what n = .ok bytes ↔ n < 0x10000 ∧ bytes = Bytes.ofU16 n.toUInt16 := count_ok _ _ what n bytes

theorem count32_ok (what : Counted) (n : Nat) (bytes : Bytes) :
    count32 what n = .ok bytes ↔ n < 0x100000000 ∧ bytes = Bytes.ofU32 n.toUInt32 := count_ok _ _ what n bytes

end Writer

theorem Form.each_written {α : Type} {write : α → Except FormatError Bytes} {good : α → Prop}
    (writeAll : List α → Except FormatError Bytes) (nil : writeAll [] = .ok [])
    (cons : ∀ a rest, writeAll (a :: rest) = (do return (← write a) ++ (← writeAll rest)))
    (bytes : Bytes) (items : List α) :
    Each (written write good) bytes items ↔
      written writeAll (fun items => ∀ a ∈ items, good a) bytes items := by
  constructor
  · intro each
    induction each with
    | nil => exact ⟨fun _ member => by contradiction, nil⟩
    | @cons front back a rest first _ others =>
        refine ⟨?_, ?_⟩
        · intro b member
          rcases List.mem_cons.mp member with rfl | old
          · exact first.1
          · exact others.1 b old
        · rw [cons, first.2, others.2]
          rfl
  · rintro ⟨good, written⟩
    induction items generalizing bytes with
    | nil =>
        rw [nil] at written
        cases written
        exact .nil
    | cons a rest ih =>
        rw [cons] at written
        obtain ⟨front, back, first, others, rfl⟩ := (Writer.append_ok _ _ _).mp written
        exact .cons ⟨good a List.mem_cons_self, first⟩
          (ih back (fun b member => good b (List.mem_cons_of_mem a member)) others)

namespace Codec

variable {α : Type} {fuel : Nat} {item : Reader α} {form : Form α}

theorem times_onto_sound (codec : Codec fuel item form) (count : Nat) (done all : List α)
    (c after : Cursor) (reads : Reader.timesOnto item done count c = .ok (all, after)) :
    ∃ bytes items, items.length = count ∧ form.Each bytes items ∧ all = items.reverse ++ done ∧
      c.rest = bytes ++ after.rest ∧ after.offset = c.offset + bytes.length := by
  induction count generalizing done c with
  | zero =>
      cases reads
      exact ⟨[], [], rfl, .nil, rfl, rfl, rfl⟩
  | succ count ih =>
      simp only [Reader.timesOnto] at reads
      split at reads
      · rename_i a middle first
        obtain ⟨front, formed, split, place⟩ := codec.sound c a middle first
        obtain ⟨back, items, length, each, rfl, splitBack, placeBack⟩ := ih (a :: done) middle reads
        refine ⟨front ++ back, a :: items, by rw [List.length_cons, length], .cons formed each,
          by simp, ?_, ?_⟩
        · rw [split, splitBack, List.append_assoc]
        · rw [placeBack, place, List.length_append, Nat.add_assoc]
      · cases reads

theorem times_onto_complete (codec : Codec fuel item form) (bytes : Bytes) (items : List α)
    (each : form.Each bytes items) (short : bytes.length ≤ fuel) (done : List α) (rest : Bytes)
    (offset : Nat) :
    Reader.timesOnto item done items.length ⟨bytes ++ rest, offset⟩ =
      .ok (items.reverse ++ done, ⟨rest, offset + bytes.length⟩) := by
  induction each generalizing done offset with
  | nil => rfl
  | @cons front back a items first others ih =>
      rw [List.length_append] at short
      have reads := codec.complete front a (back ++ rest) offset first (by omega)
      rw [List.append_assoc, List.length_cons, List.length_append, ← Nat.add_assoc]
      simp only [Reader.timesOnto, reads]
      rw [ih (by omega) (a :: done) (offset + front.length)]
      simp

theorem times (codec : Codec fuel item form) (count : Nat) :
    Codec fuel (Reader.times count item) fun bytes items =>
      items.length = count ∧ form.Each bytes items where
  sound := by
    intro c items after reads
    obtain ⟨⟨all, last⟩, onto, final⟩ := map_ok.mp reads
    cases final
    obtain ⟨bytes, items, length, each, rfl, split, place⟩ :=
      times_onto_sound codec count [] all c _ onto
    refine ⟨bytes, ?_, split, place⟩
    simpa using And.intro length each
  complete := by
    rintro bytes items rest offset ⟨rfl, each⟩ short
    simp only [Reader.times, times_onto_complete codec bytes items each short [] rest offset]
    simp [Except.map]

theorem counted (codec : Codec fuel item form) :
    Codec fuel (Reader.counted item) fun bytes items => items.length < 0x10000 ∧
      ∃ back, form.Each back items ∧ bytes = Bytes.ofU16 items.length.toUInt16 ++ back := by
  refine (u16.bind fun count => codec.times count.toNat).conv ?_ ?_
  · rintro _ items ⟨count, _, back, rfl, ⟨length, each⟩, rfl⟩
    refine ⟨length ▸ count.toNat_lt, back, each, ?_⟩
    rw [length]
    exact congrArg (fun n => Bytes.ofU16 n ++ back) (UInt16.ofNat_toNat).symm
  · rintro _ items ⟨small, back, each, rfl⟩ _
    exact ⟨_, _, back, rfl, ⟨(UInt16.toNat_ofNat_of_lt' small).symm, each⟩, rfl⟩

theorem exactly {encode : α → Bytes} (codec : Codec fuel item fun bytes a => bytes = encode a) :
    Codec fuel item (Form.written (fun a => .ok (encode a)) fun _ => True) := by
  refine codec.conv ?_ ?_
  · rintro _ a rfl
    exact ⟨trivial, rfl⟩
  · rintro _ a ⟨_, written⟩ _
    cases written
    rfl

theorem counted_written {write : α → Except FormatError Bytes} {good : α → Prop} (what : Counted)
    (writeAll : List α → Except FormatError Bytes)
    (codec : Codec fuel item (Form.written write good)) (nil : writeAll [] = .ok [])
    (cons : ∀ a rest, writeAll (a :: rest) = (do return (← write a) ++ (← writeAll rest))) :
    Codec fuel (Reader.counted item)
      (Form.written (fun items => do
        return (← Writer.count16 what items.length) ++ (← writeAll items))
        fun items => ∀ a ∈ items, good a) := by
  refine codec.counted.conv ?_ ?_
  · rintro _ items ⟨small, back, each, rfl⟩
    obtain ⟨all, written⟩ := (Form.each_written writeAll nil cons back items).mp each
    exact ⟨all, (Writer.append_ok _ _ _).mpr
      ⟨_, back, (Writer.count16_ok _ _ _).mpr ⟨small, rfl⟩, written, rfl⟩⟩
  · rintro bytes items ⟨all, written⟩ _
    obtain ⟨front, back, count, others, rfl⟩ := (Writer.append_ok _ _ _).mp written
    obtain ⟨small, rfl⟩ := (Writer.count16_ok _ _ _).mp count
    exact ⟨small, back, (Form.each_written writeAll nil cons back items).mpr ⟨all, others⟩, rfl⟩

end Codec

end Shading
