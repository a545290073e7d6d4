import Shading.Proofs.ModifiedUtf8

set_option autoImplicit false

namespace Shading.ModifiedUtf8

def marked (mark : UInt8) (bits : UInt16) : UInt8 := mark ||| bits.toUInt8

-- The bits of a unit in the shortest form that has room for them, but for NUL, which takes two bytes.
def unitForm (u : UInt16) : Bytes :=
  if u = 0 then [0xC0, 0x80]
  else if u < 0x80 then [u.toUInt8]
  else if u < 0x800 then [marked 0xC0 (u >>> 6), marked 0x80 (u &&& 0x3F)]
  else [marked 0xE0 (u >>> 12), marked 0x80 (u >>> 6 &&& 0x3F), marked 0x80 (u &&& 0x3F)]

def form (units : List UInt16) : Bytes := units.flatMap unitForm

def utf16 (s : Text) : List UInt16 := (s.flatMap codeUnits).map UInt16.ofNat

def isHigh (u : UInt16) : Bool := 0xD800 ≤ u && u < 0xDC00

def isLow (u : UInt16) : Bool := 0xDC00 ≤ u && u < 0xE000

def Unpaired (units : List UInt16) : Prop :=
  ∃ before u after, units = before ++ u :: after ∧
    (isHigh u = true ∧ after.head?.any isLow = false ∨ isLow u = true ∧ before.getLast?.any isHigh = false)

theorem marked_value (mark : UInt8) (bits : UInt16) (n : Nat) (value : bits.toNat = n)
    (apart : mark.toNat ||| n = mark.toNat + n) (small : mark.toNat + n < 0x100) :
    marked mark bits = (mark.toNat + n).toUInt8 := by
  have short : n % 0x100 = n := Nat.mod_eq_of_lt (by omega)
  have sum : (mark.toNat + n).toUInt8.toNat = mark.toNat + n := byte_of_nat _ small
  apply UInt8.toNat_inj.mp
  rw [sum, marked, UInt8.toNat_or, UInt16.toNat_toUInt8, value, show n % _ = n from short, apart]

theorem low_bits (u : UInt16) : (u &&& 0x3F).toNat = u.toNat % 0x40 := by
  rw [UInt16.toNat_and]
  exact Nat.and_two_pow_sub_one_eq_mod u.toNat 6

theorem two_bytes_high (u : UInt16) : (u >>> 6).toNat = u.toNat / 0x40 := by
  rw [UInt16.toNat_shiftRight]
  exact Nat.shiftRight_eq_div_pow u.toNat 6

theorem three_bytes_high (u : UInt16) : (u >>> 12).toNat = u.toNat / 0x1000 := by
  rw [UInt16.toNat_shiftRight]
  exact Nat.shiftRight_eq_div_pow u.toNat 12

theorem lead_of_two : ∀ n < 0x20, 0xC0 ||| n = 0xC0 + n := by decide

theorem lead_of_three : ∀ n < 0x10, 0xE0 ||| n = 0xE0 + n := by decide

theorem continuation : ∀ n < 0x40, 0x80 ||| n = 0x80 + n := by decide

theorem marked_continuation (bits : UInt16) (n : Nat) (value : bits.toNat = n) (small : n < 0x40) :
    marked 0x80 bits = (0x80 + n).toUInt8 :=
  marked_value 0x80 bits n value (continuation n small) (show 0x80 + n < 0x100 by omega)

theorem unit_form (u : UInt16) : unitForm u = encodeUnit u.toNat := by
  have bound : u.toNat < 0x10000 := u.toNat_lt
  have zero : u = 0 ↔ u.toNat = 0 := UInt16.toNat_inj.symm
  have last := marked_continuation _ _ (low_bits u) (Nat.mod_lt _ (by decide))
  unfold unitForm encodeUnit
  by_cases none : u = 0
  · rw [if_pos none, if_pos (zero.mp none)]
  rw [if_neg none, if_neg (fun same => none (zero.mpr same))]
  by_cases one : u.toNat < 0x80
  · rw [if_pos (show u < 0x80 from one), if_pos one]
    refine congrArg (fun b => [b]) (UInt8.toNat_inj.mp ?_)
    rw [UInt16.toNat_toUInt8, Nat.mod_eq_of_lt (by omega)]
    exact (byte_of_nat u.toNat (by omega)).symm
  rw [if_neg (show ¬ u < 0x80 from one), if_neg one]
  by_cases two : u.toNat < 0x800
  · have lead := marked_value 0xC0 (u >>> 6) (u.toNat / 0x40) (two_bytes_high u)
      (lead_of_two _ (by omega)) (show 0xC0 + u.toNat / 0x40 < 0x100 by omega)
    rw [if_pos (show u < 0x800 from two), if_pos two, lead, last]
    rfl
  · have lead := marked_value 0xE0 (u >>> 12) (u.toNat / 0x1000) (three_bytes_high u)
      (lead_of_three _ (by omega)) (show 0xE0 + u.toNat / 0x1000 < 0x100 by omega)
    have middle := marked_continuation (u >>> 6 &&& 0x3F) (u.toNat / 0x40 % 0x40)
      ((low_bits _).trans (congrArg (· % 0x40) (two_bytes_high u))) (Nat.mod_lt _ (by decide))
    rw [if_neg (show ¬ u < 0x800 from two), if_neg two, lead, middle, last]
    rfl

theorem form_encodes (units : List UInt16) : form units = (units.map UInt16.toNat).flatMap encodeUnit := by
  rw [form, List.flatMap_map]
  exact congrArg units.flatMap (funext unit_form)

theorem utf16_values (s : Text) : (utf16 s).map UInt16.toNat = s.flatMap codeUnits := by
  rw [utf16, List.map_map]
  refine (List.map_congr_left fun n member => ?_).trans (List.map_id _)
  obtain ⟨c, _, inside⟩ := List.mem_flatMap.mp member
  exact UInt16.toNat_ofNat_of_lt' (code_units_small c n inside)

theorem form_utf16 (s : Text) : form (utf16 s) = encodeAll s := by
  rw [form_encodes, utf16_values, List.flatMap_assoc]
  rfl

-- Plain UTF-8 is tried first, but of these bytes it reads nothing else.
theorem decode_form (units : List UInt16) :
    decode? (form units) = charactersOnto [] (units.map UInt16.toNat) := by
  have small : ∀ n ∈ units.map UInt16.toNat, n < 0x10000 :=
    List.forall_mem_map.mpr fun u _ => u.toNat_lt
  have read : unitsOnto [] (form units) = some (units.map UInt16.toNat) := by
    have done := units_of_units [] (units.map UInt16.toNat) [] small
    rw [List.append_nil, List.append_nil] at done
    rw [form_encodes, done, unitsOnto, List.reverse_reverse]
  unfold decode?
  cases decoded : Text.Utf8.decode? (form units) with
  | none => exact read ▸ rfl
  | some t =>
      have plain := Text.Utf8.utf8_of_decoded _ t decoded
      have same := units_of_utf8 [] t _ (plain ▸ read)
      rw [same, List.reverse_nil, List.nil_append, characters_of_code_units]
      rfl

def UnpairedAfter (previous : Option UInt16) (units : List UInt16) : Prop :=
  ∃ before u after, units = before ++ u :: after ∧ (isHigh u = true ∧ after.head?.any isLow = false ∨
    isLow u = true ∧ (before.getLast?.or previous).any isHigh = false)

theorem unpaired_after_none (units : List UInt16) : UnpairedAfter none units ↔ Unpaired units := by
  simp only [UnpairedAfter, Unpaired, Option.or_none]

theorem not_unpaired_nil (previous : Option UInt16) : ¬ UnpairedAfter previous [] := by
  rintro ⟨before, u, after, whole, _⟩
  exact List.append_ne_nil_of_right_ne_nil before (List.cons_ne_nil u after) whole.symm

theorem last_before (u : UInt16) (before : List UInt16) (previous : Option UInt16) :
    (u :: before).getLast?.or previous = before.getLast?.or (some u) := by
  rw [List.getLast?_cons]
  cases before.getLast? <;> rfl

theorem unpaired_after_cons (previous : Option UInt16) (u : UInt16) (rest : List UInt16) :
    UnpairedAfter previous (u :: rest) ↔
      (isHigh u = true ∧ rest.head?.any isLow = false ∨ isLow u = true ∧ previous.any isHigh = false) ∨
        UnpairedAfter (some u) rest := by
  constructor
  · rintro ⟨before, v, after, whole, alone⟩
    cases before with
    | nil =>
        cases whole
        exact .inl alone
    | cons first before =>
        cases whole
        rw [last_before] at alone
        exact .inr ⟨before, v, after, rfl, alone⟩
  · rintro (alone | ⟨before, v, after, rfl, alone⟩)
    · exact ⟨[], u, rest, rfl, alone⟩
    · rw [← last_before u before previous] at alone
      exact ⟨u :: before, v, after, rfl, alone⟩

theorem unpaired_after_some (u : UInt16) (units : List UInt16) (other : isHigh u = false) :
    UnpairedAfter (some u) units ↔ UnpairedAfter none units := by
  have same (before : List UInt16) :
      (before.getLast?.or (some u)).any isHigh = (before.getLast?.or none).any isHigh := by
    cases before.getLast? with
    | none => exact other
    | some v => rfl
  simp only [UnpairedAfter, same]

theorem unpaired_ordinary (u : UInt16) (rest : List UInt16) (high : isHigh u = false) (low : isLow u = false) :
    UnpairedAfter none (u :: rest) ↔ UnpairedAfter none rest := by
  rw [unpaired_after_cons, unpaired_after_some u rest high, high, low]
  simp

theorem high_value (u : UInt16) : isHigh u = true ↔ 0xD800 ≤ u.toNat ∧ u.toNat < 0xDC00 := by
  rw [isHigh, Bool.and_eq_true, decide_eq_true_eq, decide_eq_true_eq]
  exact Iff.rfl

theorem low_value (u : UInt16) : isLow u = true ↔ 0xDC00 ≤ u.toNat ∧ u.toNat < 0xE000 := by
  rw [isLow, Bool.and_eq_true, decide_eq_true_eq, decide_eq_true_eq]
  exact Iff.rfl

theorem low_of_high (u : UInt16) (high : isHigh u = true) : isLow u = false := by
  cases low : isLow u with
  | false => rfl
  | true =>
      have below := ((high_value u).mp high).2
      have above := ((low_value u).mp low).1
      omega

theorem high_of_low (u : UInt16) (low : isLow u = true) : isHigh u = false := by
  cases high : isHigh u with
  | false => rfl
  | true => exact absurd low (by rw [low_of_high u high]; decide)

theorem unpaired_pair (u v : UInt16) (rest : List UInt16) (high : isHigh u = true) (low : isLow v = true) :
    UnpairedAfter none (u :: v :: rest) ↔ UnpairedAfter none rest := by
  have other := high_of_low v low
  rw [unpaired_after_cons, unpaired_after_cons, unpaired_after_some v rest other, low_of_high u high, other]
  simp [high, low]

theorem units_of_character (n : Nat) (valid : n.isValidChar) :
    codeUnits (Char.ofNat n) =
      if n < 0x10000 then [n] else [0xD800 + (n - 0x10000) / 0x400, 0xDC00 + (n - 0x10000) % 0x400] := by
  have value : (Char.ofNat n).toNat = n := by
    rw [Char.ofNat, dif_pos valid]
    rfl
  rw [codeUnits, value]

theorem utf16_cons (c : Char) (t : Text) : utf16 (c :: t) = (codeUnits c).map UInt16.ofNat ++ utf16 t := by
  rw [utf16, List.flatMap_cons, List.map_append]
  rfl

def ReadOn (done : Text) (c : Char) (units rest : List UInt16) : Prop :=
  charactersOnto done (units.map UInt16.toNat) = charactersOnto (c :: done) (rest.map UInt16.toNat) ∧
    (∀ t, utf16 t = rest → utf16 (c :: t) = units) ∧ (UnpairedAfter none units ↔ UnpairedAfter none rest)

theorem ordinary_read (done : Text) (u : UInt16) (rest : List UInt16) (high : isHigh u = false)
    (low : isLow u = false) : ReadOn done (Char.ofNat u.toNat) (u :: rest) rest := by
  have bound : u.toNat < 0x10000 := u.toNat_lt
  have scalar : u.toNat < 0xD800 ∨ 0xE000 ≤ u.toNat := by
    have notHigh := mt (high_value u).mpr (by simp [high])
    have notLow := mt (low_value u).mpr (by simp [low])
    omega
  have units := units_of_character u.toNat (by unfold Nat.isValidChar; omega)
  rw [if_pos bound] at units
  refine ⟨?_, fun t same => ?_, unpaired_ordinary u rest high low⟩
  · rw [List.map_cons, characters_cons, if_pos scalar]
  · rw [utf16_cons, units, same]
    simp

theorem pair_read (done : Text) (u v : UInt16) (rest : List UInt16) (high : isHigh u = true)
    (low : isLow v = true) :
    ReadOn done (Char.ofNat (0x10000 + (u.toNat - 0xD800) * 0x400 + (v.toNat - 0xDC00))) (u :: v :: rest) rest := by
  obtain ⟨above, below⟩ := (high_value u).mp high
  obtain ⟨above', below'⟩ := (low_value v).mp low
  have units := units_of_character (0x10000 + (u.toNat - 0xD800) * 0x400 + (v.toNat - 0xDC00))
    (by unfold Nat.isValidChar; omega)
  have front : 0xD800 + (0x10000 + (u.toNat - 0xD800) * 0x400 + (v.toNat - 0xDC00) - 0x10000) / 0x400 = u.toNat := by
    omega
  have back : 0xDC00 + (0x10000 + (u.toNat - 0xD800) * 0x400 + (v.toNat - 0xDC00) - 0x10000) % 0x400 = v.toNat := by
    omega
  rw [if_neg (by omega), front, back] at units
  refine ⟨?_, fun t same => ?_, unpaired_pair u v rest high low⟩
  · rw [List.map_cons, List.map_cons, characters_cons, if_neg (by omega), if_pos below]
    dsimp only
    rw [if_pos ⟨above', below'⟩]
  · rw [utf16_cons, units, same]
    simp

theorem low_unread (done : Text) (u : UInt16) (rest : List Nat) (low : isLow u = true) :
    charactersOnto done (u.toNat :: rest) = none := by
  obtain ⟨above, below⟩ := (low_value u).mp low
  rw [characters_cons, if_neg (by omega), if_neg (by omega)]

theorem high_unread (done : Text) (u : UInt16) (rest : List UInt16) (high : isHigh u = true)
    (alone : rest.head?.any isLow = false) : charactersOnto done (u.toNat :: rest.map UInt16.toNat) = none := by
  obtain ⟨above, below⟩ := (high_value u).mp high
  rw [characters_cons, if_neg (by omega), if_pos below]
  cases rest with
  | nil => rfl
  | cons v rest =>
      have other : ¬ (0xDC00 ≤ v.toNat ∧ v.toNat < 0xE000) := by
        rw [← low_value, show isLow v = false from alone]
        decide
      rw [List.map_cons]
      dsimp only
      rw [if_neg other]

def ReadOrUnpaired (done : Text) (units : List UInt16) : Prop :=
  (∃ t, charactersOnto done (units.map UInt16.toNat) = some (done.reverse ++ t) ∧ utf16 t = units) ∧
      ¬ UnpairedAfter none units ∨
    charactersOnto done (units.map UInt16.toNat) = none ∧ UnpairedAfter none units

theorem ReadOn.extend {done : Text} {c : Char} {units rest : List UInt16} (read : ReadOn done c units rest)
    (later : ReadOrUnpaired (c :: done) rest) : ReadOrUnpaired done units := by
  obtain ⟨onwards, text, alike⟩ := read
  rcases later with ⟨⟨t, answer, same⟩, paired⟩ | ⟨answer, unpaired⟩
  · refine .inl ⟨⟨c :: t, ?_, text t same⟩, fun unpaired => paired (alike.mp unpaired)⟩
    rw [onwards, answer, List.reverse_cons, List.append_assoc, List.singleton_append]
  · exact .inr ⟨onwards.trans answer, alike.mpr unpaired⟩

theorem read_or_unpaired : ∀ (done : Text) (units : List UInt16), ReadOrUnpaired done units
  | done, [] => .inl ⟨⟨[], by simp [charactersOnto], rfl⟩, not_unpaired_nil none⟩
  | done, u :: rest => by
      cases high : isHigh u with
      | false =>
          cases low : isLow u with
          | false => exact (ordinary_read done u rest high low).extend (read_or_unpaired _ rest)
          | true =>
              refine .inr ⟨low_unread done u _ low, ?_⟩
              exact (unpaired_after_cons none u rest).mpr (.inl (.inr ⟨low, rfl⟩))
      | true =>
          cases alone : rest.head?.any isLow with
          | false =>
              refine .inr ⟨high_unread done u rest high alone, ?_⟩
              exact (unpaired_after_cons none u rest).mpr (.inl (.inl ⟨high, alone⟩))
          | true =>
              cases rest with
              | nil => contradiction
              | cons v rest => exact (pair_read done u v rest high alone).extend (read_or_unpaired _ rest)

theorem decode_form_some (units : List UInt16) (s : Text) :
    decode? (form units) = some s ↔ utf16 s = units := by
  constructor
  · intro decoded
    rw [decode_form] at decoded
    rcases read_or_unpaired [] units with ⟨⟨t, answer, same⟩, _⟩ | ⟨answer, _⟩
    · rw [answer] at decoded
      cases decoded
      exact same
    · rw [answer] at decoded
      contradiction
  · rintro rfl
    rw [decode_form, utf16_values, characters_of_code_units]
    rfl

theorem decode_form_none (units : List UInt16) : decode? (form units) = none ↔ Unpaired units := by
  rw [decode_form, ← unpaired_after_none]
  rcases read_or_unpaired [] units with ⟨⟨t, answer, _⟩, paired⟩ | ⟨answer, unpaired⟩
  · rw [answer]
    exact ⟨nofun, fun unpaired => absurd unpaired paired⟩
  · exact ⟨fun _ => unpaired, fun _ => answer⟩

theorem encode_form (s : Text) : encode s =
    if (form (utf16 s)).length ≤ 0xFFFF then .ok (form (utf16 s))
    else .error (.tooLong .utf8Constant (form (utf16 s)).length) := by
  rw [form_utf16, encode]
  simp only [Nat.lt_succ_iff]

theorem code_units_read_back :
    (∀ units s, decode? (form units) = some s ↔ utf16 s = units) ∧
    (∀ units, decode? (form units) = none ↔ Unpaired units) ∧
    (∀ s, encode s = if (form (utf16 s)).length ≤ 0xFFFF then .ok (form (utf16 s))
      else .error (.tooLong .utf8Constant (form (utf16 s)).length)) ∧
    ∀ s bytes, encode s = .ok bytes → decode? bytes = some s := by
  refine ⟨decode_form_some, decode_form_none, encode_form, ?_⟩
  intro s bytes encoded
  rw [(encode_ok s bytes encoded).1, decode_encoded]

theorem smile_read_back :
    decode? (form [0x61, 0, 0xD83D, 0xDE00]) = some ['a', '\x00', Char.ofNat 0x1F600] ∧
    decode? (form [0x61, 0xD83D, 0x61]) = none ∧
    encode ['a', '\x00', Char.ofNat 0x1F600] = .ok [0x61, 0xC0, 0x80, 0xED, 0xA0, 0xBD, 0xED, 0xB8, 0x80] ∧
    decode? [0x61, 0xC0, 0x80, 0xED, 0xA0, 0xBD, 0xED, 0xB8, 0x80] = some ['a', '\x00', Char.ofNat 0x1F600] := by
  obtain ⟨some, none, _, back⟩ := code_units_read_back
  have written : encode ['a', '\x00', Char.ofNat 0x1F600] =
      .ok [0x61, 0xC0, 0x80, 0xED, 0xA0, 0xBD, 0xED, 0xB8, 0x80] := by rfl
  refine ⟨(some _ _).mpr (by decide), (none _).mpr ?_, written, back _ _ written⟩
  exact ⟨[0x61], 0xD83D, [0x61], rfl, .inl (by decide)⟩

end Shading.ModifiedUtf8
