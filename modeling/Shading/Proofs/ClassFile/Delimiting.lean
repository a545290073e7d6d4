import Shading.Proofs.ClassFile.RoundTrip

set_option autoImplicit false

namespace Shading

open Fallible

/-- On the beginning of bytes from which `full` reads a value, `item` meets the end, or it reads the
same value and leaves what the beginning has more. As the two may differ in their fuel, this is said
of beginnings up to a certain length. -/
def Reader.Tracks {α : Type} (limit : Nat) (item full : Reader α) : Prop :=
  ∀ (front back : Bytes) (offset : Nat) (a : α) (after : Cursor),
    full ⟨front ++ back, offset⟩ = .ok (a, after) → front.length ≤ limit →
      (∃ place, item ⟨front, offset⟩ = .error (.truncated place)) ∨
      ∃ rest, rest.length ≤ front.length ∧ after.rest = rest ++ back ∧
        item ⟨front, offset⟩ = .ok (a, ⟨rest, after.offset⟩)

theorem Reader.times_onto_step {α : Type} (item : Reader α) (done : List α) (count : Nat) :
    timesOnto item done (count + 1) = item >>= fun a => timesOnto item (a :: done) count := by
  funext c
  show timesOnto item done (count + 1) c = item c >>= _
  unfold timesOnto
  cases item c <;> rfl

theorem Reader.times_reversed {α : Type} (count : Nat) (item : Reader α) :
    times count item = timesOnto item [] count >>= fun items => pure items.reverse := by
  funext c
  show (timesOnto item [] count c).map _ = timesOnto item [] count c >>= _
  cases timesOnto item [] count c <;> rfl

namespace Reader.Tracks

variable {α β : Type} {limit : Nat}

theorem pure (a : α) : Tracks limit (pure a) (pure a) := by
  intro front back offset b after done _
  cases done
  exact .inr ⟨front, Nat.le_refl _, rfl, rfl⟩

theorem fail (item : Reader α) (e : FormatError) : Tracks limit item (Reader.fail e) := by
  intro front back offset a after done _
  cases done

-- What is known of a value that `item` reads within the limit can be used in what is read after it.
theorem bind_known {item full : Reader α} {next fullNext : α → Reader β} {known : α → Prop}
    (first : Tracks limit item full)
    (told : ∀ c a after, item c = .ok (a, after) → c.rest.length ≤ limit → known a)
    (second : ∀ a, known a → Tracks limit (next a) (fullNext a)) :
    Tracks limit (item >>= next) (full >>= fullNext) := by
  intro front back offset b after done short
  obtain ⟨⟨a, middle⟩, reads, later⟩ := bind_ok.mp done
  cases first front back offset a middle reads short with
  | inl cut =>
      obtain ⟨place, stopped⟩ := cut
      exact .inl ⟨place, bind_error.mpr (.inl stopped)⟩
  | inr through =>
      obtain ⟨rest, left, behind, same⟩ := through
      have onward : fullNext a ⟨rest ++ back, middle.offset⟩ = .ok (b, after) := by
        rw [← behind]
        exact later
      have within := Nat.le_trans left short
      cases second a (told _ a _ same short) rest back middle.offset b after onward within with
      | inl cut =>
          obtain ⟨place, stopped⟩ := cut
          exact .inl ⟨place, bind_error.mpr (.inr ⟨_, same, stopped⟩)⟩
      | inr through =>
          obtain ⟨last, left', behind', same'⟩ := through
          exact .inr ⟨last, Nat.le_trans left' left, behind', bind_ok.mpr ⟨_, same, same'⟩⟩

theorem bind {item full : Reader α} {next fullNext : α → Reader β} (first : Tracks limit item full)
    (second : ∀ a, Tracks limit (next a) (fullNext a)) :
    Tracks limit (item >>= next) (full >>= fullNext) :=
  first.bind_known (fun _ _ _ _ _ => trivial) fun a _ => second a

theorem ite {p : Prop} [Decidable p] {yes no fullYes fullNo : Reader α} (first : Tracks limit yes fullYes)
    (second : Tracks limit no fullNo) :
    Tracks limit (if p then yes else no) (if p then fullYes else fullNo) := by
  by_cases holds : p
  · rw [if_pos holds, if_pos holds]
    exact first
  · rw [if_neg holds, if_neg holds]
    exact second

theorem u8 : Tracks limit Reader.u8 Reader.u8 := by
  intro front back offset n after done _
  cases front with
  | nil => exact .inl ⟨offset, rfl⟩
  | cons a rest =>
      cases done
      exact .inr ⟨rest, Nat.le_succ _, rfl, rfl⟩

theorem u16 : Tracks limit Reader.u16 Reader.u16 := by
  intro front back offset n after done _
  match front, done with
  | [], _ => exact .inl ⟨offset, rfl⟩
  | [_], _ => exact .inl ⟨offset, rfl⟩
  | a :: b :: rest, done =>
      cases done
      exact .inr ⟨rest, Nat.le_add_right _ 2, rfl, rfl⟩

theorem u32 : Tracks limit Reader.u32 Reader.u32 := by
  intro front back offset n after done _
  match front, done with
  | [], _ => exact .inl ⟨offset, rfl⟩
  | [_], _ => exact .inl ⟨offset, rfl⟩
  | [_, _], _ => exact .inl ⟨offset, rfl⟩
  | [_, _, _], _ => exact .inl ⟨offset, rfl⟩
  | a :: b :: d :: e :: rest, done =>
      cases done
      exact .inr ⟨rest, Nat.le_add_right _ 4, rfl, rfl⟩

theorem u64 : Tracks limit Reader.u64 Reader.u64 :=
  u32.bind fun _ => u32.bind fun _ => pure _

theorem bytes (count : Nat) : Tracks limit (Reader.bytes count) (Reader.bytes count) := by
  have codec : Codec limit (Reader.bytes count) fun bytes data => bytes = data ∧ data.length = count :=
    Codec.bytes count
  intro front back offset data after done short
  obtain ⟨_, ⟨rfl, size⟩, split, place⟩ := codec.sound _ _ after done
  rename_i data
  by_cases enough : count ≤ front.length
  · have start : data <+: front :=
      List.prefix_of_prefix_length_le ⟨_, split.symm⟩ (List.prefix_append front back) (size ▸ enough)
    obtain ⟨rest, rfl⟩ := start
    have behind : rest ++ back = after.rest := by
      rw [List.append_assoc] at split
      exact List.append_cancel_left split
    have same := codec.complete data data rest offset ⟨rfl, size⟩ (by rw [size]; omega)
    rw [← place] at same
    exact .inr ⟨rest, (List.sublist_append_right data rest).length_le, behind.symm, same⟩
  · have few : (front.take count).length ≠ count := by
      rw [List.length_take]
      omega
    refine .inl ⟨offset, ?_⟩
    show Cursor.bytes count ⟨front, offset⟩ = _
    rw [Cursor.bytes, List.splitAt_eq]
    exact if_neg few

theorem bytes_bind (count : Nat) {next fullNext : Bytes → Reader β}
    (second : ∀ data : Bytes, data.length ≤ limit → Tracks limit (next data) (fullNext data)) :
    Tracks limit (Reader.bytes count >>= next) (Reader.bytes count >>= fullNext) := by
  refine (bytes count).bind_known (fun c data after reads short => ?_) second
  have codec : Codec limit (Reader.bytes count) fun bytes data => bytes = data ∧ data.length = count :=
    Codec.bytes count
  obtain ⟨_, ⟨rfl, _⟩, split, _⟩ := codec.sound c data after reads
  rw [split, List.length_append] at short
  omega

theorem times_onto {item full : Reader α} (each : Tracks limit item full) (count : Nat) (done : List α) :
    Tracks limit (timesOnto item done count) (timesOnto full done count) := by
  induction count generalizing done with
  | zero => exact pure done
  | succ count ih =>
      rw [times_onto_step, times_onto_step]
      exact each.bind fun a => ih (a :: done)

theorem times {item full : Reader α} (each : Tracks limit item full) (count : Nat) :
    Tracks limit (Reader.times count item) (Reader.times count full) := by
  rw [times_reversed, times_reversed]
  exact (each.times_onto count []).bind fun items => pure items.reverse

theorem counted {item full : Reader α} (each : Tracks limit item full) :
    Tracks limit (Reader.counted item) (Reader.counted full) :=
  u16.bind fun count => each.times count.toNat

-- How much is left tells the beginning its own length, so its fuel is enough for it.
theorem measured {next : Nat → Reader β}
    (second : ∀ left all, Tracks left (next left) (next all)) :
    Tracks limit ((fun c => .ok (c.rest.length, c)) >>= next) ((fun c => .ok (c.rest.length, c)) >>= next) := by
  intro front back offset b after done _
  exact second front.length (front ++ back).length front back offset b after done (Nat.le_refl _)

end Reader.Tracks

open Reader

theorem Constant.read_tracks {limit : Nat} (index : Nat) :
    Tracks limit (Constant.read index) (Constant.read index) := by
  refine Tracks.u8.bind fun tag => ?_
  split
  · exact Tracks.u16.bind fun length => (Tracks.bytes length.toNat).bind fun _ => .pure _
  · exact Tracks.u32.bind fun _ => .pure _
  · exact Tracks.u32.bind fun _ => .pure _
  · exact Tracks.u64.bind fun _ => .pure _
  · exact Tracks.u64.bind fun _ => .pure _
  · exact Tracks.u16.bind fun _ => .pure _
  · exact Tracks.u16.bind fun _ => .pure _
  · exact Tracks.u16.bind fun _ => Tracks.u16.bind fun _ => .pure _
  · exact Tracks.u16.bind fun _ => Tracks.u16.bind fun _ => .pure _
  · exact Tracks.u16.bind fun _ => Tracks.u16.bind fun _ => .pure _
  · exact Tracks.u16.bind fun _ => Tracks.u16.bind fun _ => .pure _
  · exact Tracks.u8.bind fun _ => Tracks.u16.bind fun _ => .pure _
  · exact Tracks.u16.bind fun _ => .pure _
  · exact Tracks.u16.bind fun _ => Tracks.u16.bind fun _ => .pure _
  · exact Tracks.u16.bind fun _ => Tracks.u16.bind fun _ => .pure _
  · exact Tracks.u16.bind fun _ => .pure _
  · exact Tracks.u16.bind fun _ => .pure _
  · exact Tracks.fail _ _

theorem Pool.read_slots_tracks {limit : Nat} (count fuel : Nat) (slots : Array Constant) :
    Tracks limit (readSlots count fuel slots) (readSlots count fuel slots) := by
  induction fuel generalizing slots with
  | zero => exact Tracks.pure slots
  | succ fuel ih =>
      by_cases missing : slots.size < count
      · rw [read_slots_step count fuel slots missing]
        exact (Constant.read_tracks slots.size).bind fun _ => .ite (ih _) (.fail _ _)
      · rw [read_slots_full count fuel slots missing]
        exact Tracks.pure slots

theorem Pool.read_tracks {limit : Nat} : Tracks limit Pool.read Pool.read :=
  Tracks.u16.bind fun _ => (Pool.read_slots_tracks _ _ _).bind fun _ => .pure _

-- The body of an attribute is read once all its bytes are there, and is the same whatever fuel is left.
theorem Attribute.list_tracks (pool : Pool) (fuel more : Nat) :
    Tracks fuel (Reader.attributes pool (fuel + 1)) (Reader.attributes pool (more + 1)) := by
  refine Tracks.counted (Tracks.u16.bind fun name => Tracks.u32.bind fun length =>
    Tracks.bytes_bind length.toNat fun data short => ?_)
  dsimp only
  generalize (pool.text name).toOption.getD [] = text
  cases done : wholeBody (Reader.attributes pool more) more text data with
  | error e => exact Tracks.fail _ e
  | ok body =>
      have formed := AttributeBody.whole_body_sound (list_codec pool more) text data body done
      rw [AttributeBody.whole_body_complete (list_codec pool fuel) text data short body formed]
      exact Tracks.pure _

theorem Member.read_tracks {limit : Nat} {attributes full : Reader (List Attribute)}
    (nested : Tracks limit attributes full) : Tracks limit (Member.read attributes) (Member.read full) :=
  Tracks.u16.bind fun _ => Tracks.u16.bind fun _ => Tracks.u16.bind fun _ => nested.bind fun _ => .pure _

namespace ClassFile

theorem magic_tracks {limit : Nat} {next : Reader ClassFile} (tracks : Tracks limit next next) :
    let marked : Reader ClassFile := do
      let number ← Reader.u32
      if number ≠ magic then Reader.fail (.badMagic number)
      next
    Tracks limit marked marked :=
  Tracks.u32.bind fun _ => .ite ((Tracks.fail _ _).bind fun _ => tracks) tracks

theorem read_tracks {limit : Nat} : Tracks limit read read := by
  apply magic_tracks
  refine Tracks.u16.bind fun minor => Tracks.u16.bind fun major => Pool.read_tracks.bind fun pool =>
    Tracks.u16.bind fun access => Tracks.u16.bind fun thisClass => Tracks.u16.bind fun superClass =>
    Tracks.u16.counted.bind fun interfaces => Tracks.measured fun left all => ?_
  have attributes := Attribute.list_tracks pool left all
  have members := (Member.read_tracks attributes).counted
  exact members.bind fun fields => members.bind fun methods => attributes.bind fun _ => .pure _

theorem class_files_delimit_themselves (bytes : Bytes) (c : ClassFile) (parsed : parse bytes = .ok c) :
    (∀ front, front <+: bytes → front ≠ bytes → ∃ place, parse front = .error (.truncated place)) ∧
    ∀ more, more ≠ [] → parse (bytes ++ more) = .error (.trailingBytes more.length) := by
  have formed := (parse_ok bytes c).mp parsed
  constructor
  · intro front start shorter
    obtain ⟨back, rfl⟩ := start
    have whole := (read_codec (front ++ back).length).complete _ c [] 0 formed (Nat.le_refl _)
    rw [List.append_nil] at whole
    cases read_tracks front back 0 c _ whole (Nat.le_refl _) with
    | inl cut =>
        obtain ⟨place, stopped⟩ := cut
        exact ⟨place, bind_error.mpr (.inl stopped)⟩
    | inr through =>
        obtain ⟨rest, _, nothing, _⟩ := through
        have missing : back = [] := (List.append_eq_nil_iff.mp nothing.symm).2
        rw [missing, List.append_nil] at shorter
        contradiction
  · intro more filled
    have reads := (read_codec bytes.length).complete bytes c more 0 formed (Nat.le_refl _)
    have left : more.isEmpty = false := by simpa using filled
    refine bind_error.mpr (.inr ⟨_, reads, ?_⟩)
    dsimp only
    rw [left]
    rfl

def oneByteNamed : Bytes :=
  [0xCA, 0xFE, 0xBA, 0xBE, 0, 0, 0, 61, 0, 2, 1, 0, 1, 65, 0, 33, 0, 0, 0, 0, 0, 0, 0, 0, 0, 0, 0, 1,
    0, 1, 0, 0, 0, 1, 7]

-- Without its last byte the class is cut short inside the attribute.
theorem one_byte_named_delimits_itself : ∃ c, parse oneByteNamed = .ok c ∧
    (∃ place, parse (oneByteNamed.take 34) = .error (.truncated place)) ∧
    parse (oneByteNamed ++ [0, 0]) = .error (.trailingBytes 2) := by
  have accepted : (parse oneByteNamed).toOption.isSome = true := by decide +kernel
  cases parsed : parse oneByteNamed with
  | error e =>
      rw [parsed] at accepted
      contradiction
  | ok c =>
      obtain ⟨beginnings, longer⟩ := class_files_delimit_themselves oneByteNamed c parsed
      exact ⟨c, rfl, beginnings _ (List.take_prefix 34 _) (by decide), longer [0, 0] (by decide)⟩

end ClassFile

end Shading
