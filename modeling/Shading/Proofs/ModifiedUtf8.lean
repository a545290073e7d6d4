import Shading.ClassFile.ModifiedUtf8

set_option autoImplicit false

namespace Shading

namespace Text.Utf8

theorem byte_array_of_utf8 (s : Text) : (⟨(utf8 s).toArray⟩ : ByteArray) = s.utf8Encode := by
  apply ByteArray.ext
  rw [List.utf8Encode, List.data_toByteArray]
  rfl

theorem utf8_injective : Function.Injective utf8 := by
  intro s t same
  have encoded : s.utf8Encode = t.utf8Encode := by rw [← byte_array_of_utf8, same, byte_array_of_utf8]
  have decoded := congrArg ByteArray.utf8Decode? encoded
  rw [List.utf8Decode?_utf8Encode, List.utf8Decode?_utf8Encode] at decoded
  exact List.toArray_inj (Option.some.inj decoded)

theorem utf8_of_decoded (bytes : Bytes) (s : Text) (decoded : decode? bytes = some s) :
    bytes = utf8 s := by
  obtain ⟨chars, read, rfl⟩ := Option.map_eq_some_iff.mp decoded
  have valid : (ByteArray.utf8Decode? ⟨bytes.toArray⟩).isSome := by simp [read]
  have encoded := ByteArray.utf8Encode_get_utf8Decode? (h := valid)
  simp only [read, Option.get_some, ← byte_array_of_utf8, ByteArray.mk.injEq] at encoded
  exact (List.toArray_inj encoded).symm

end Text.Utf8

namespace ModifiedUtf8

theorem byte_of_nat (n : Nat) (small : n < 0x100) : (UInt8.ofNat n).toNat = n :=
  UInt8.toNat_ofNat_of_lt' small

-- The ranges of the first byte as ranges of its number, which is where its value is worked out.
theorem units_cons (done : List Nat) (a : UInt8) (rest : Bytes) :
    unitsOnto done (a :: rest) =
      if a.toNat < 0x80 then unitsOnto (a.toNat :: done) rest
      else if 0xC0 ≤ a.toNat ∧ a.toNat < 0xE0 then
        match rest with
        | b :: rest => unitsOnto ((a.toNat % 0x20 * 0x40 + b.toNat % 0x40) :: done) rest
        | [] => none
      else if 0xE0 ≤ a.toNat ∧ a.toNat < 0xF0 then
        match rest with
        | b :: d :: rest =>
            unitsOnto
              ((a.toNat % 0x10 * 0x1000 + b.toNat % 0x40 * 0x40 + d.toNat % 0x40) :: done) rest
        | _ => none
      else none := by
  have unfolded := unitsOnto.eq_def done (a :: rest)
  simp only [Bool.and_eq_true, decide_eq_true_eq, UInt8.lt_iff_toNat_lt, UInt8.le_iff_toNat_le] at unfolded
  exact unfolded

theorem units_of_one_byte (done : List Nat) (a : UInt8) (rest : Bytes) (ascii : a.toNat < 0x80) :
    unitsOnto done (a :: rest) = unitsOnto (a.toNat :: done) rest := by
  rw [units_cons, if_pos ascii]

theorem units_of_two_bytes (done : List Nat) (a b : UInt8) (rest : Bytes)
    (lower : 0xC0 ≤ a.toNat) (upper : a.toNat < 0xE0) :
    unitsOnto done (a :: b :: rest) =
      unitsOnto ((a.toNat % 0x20 * 0x40 + b.toNat % 0x40) :: done) rest := by
  rw [units_cons, if_neg (by omega), if_pos ⟨lower, upper⟩]

theorem units_of_three_bytes (done : List Nat) (a b d : UInt8) (rest : Bytes)
    (lower : 0xE0 ≤ a.toNat) (upper : a.toNat < 0xF0) :
    unitsOnto done (a :: b :: d :: rest) =
      unitsOnto ((a.toNat % 0x10 * 0x1000 + b.toNat % 0x40 * 0x40 + d.toNat % 0x40) :: done) rest := by
  rw [units_cons, if_neg (by omega), if_neg (by omega), if_pos ⟨lower, upper⟩]

theorem no_units_of_four_bytes (done : List Nat) (a : UInt8) (rest : Bytes) (large : 0xF0 ≤ a.toNat) :
    unitsOnto done (a :: rest) = none := by
  rw [units_cons, if_neg (by omega), if_neg (by omega), if_neg (by omega)]

theorem units_of_unit (done : List Nat) (n : Nat) (rest : Bytes) (small : n < 0x10000) :
    unitsOnto done (encodeUnit n ++ rest) = unitsOnto (n :: done) rest := by
  unfold encodeUnit Nat.toUInt8
  split
  · rename_i zero
    subst zero
    exact units_of_two_bytes done 0xC0 0x80 rest (by decide) (by decide)
  split
  · have value := byte_of_nat n (by omega)
    rw [List.singleton_append, units_of_one_byte _ _ _ (by omega), value]
  split
  · have first := byte_of_nat (0xC0 + n / 0x40) (by omega)
    have second := byte_of_nat (0x80 + n % 0x40) (by omega)
    rw [List.cons_append, List.singleton_append, units_of_two_bytes _ _ _ _ (by omega) (by omega),
      first, second]
    congr 2
    omega
  · have first := byte_of_nat (0xE0 + n / 0x1000) (by omega)
    have second := byte_of_nat (0x80 + n / 0x40 % 0x40) (by omega)
    have third := byte_of_nat (0x80 + n % 0x40) (by omega)
    rw [List.cons_append, List.cons_append, List.singleton_append,
      units_of_three_bytes _ _ _ _ _ (by omega) (by omega), first, second, third]
    congr 2
    omega

theorem units_of_units (done units : List Nat) (rest : Bytes) (small : ∀ n ∈ units, n < 0x10000) :
    unitsOnto done (units.flatMap encodeUnit ++ rest) = unitsOnto (units.reverse ++ done) rest := by
  induction units generalizing done with
  | nil => rfl
  | cons n tail ih =>
      rw [List.flatMap_cons, List.append_assoc, units_of_unit done n _ (small n List.mem_cons_self),
        ih (n :: done) fun m member => small m (List.mem_cons_of_mem n member)]
      simp

theorem scalar_value (c : Char) : c.toNat < 0xD800 ∨ 0xDFFF < c.toNat ∧ c.toNat < 0x110000 := c.valid

theorem code_units_small (c : Char) : ∀ n ∈ codeUnits c, n < 0x10000 := by
  have scalar := scalar_value c
  intro n member
  unfold codeUnits at member
  dsimp only at member
  split at member <;> simp only [List.mem_cons, List.not_mem_nil, or_false] at member <;> omega

theorem characters_cons (done : Text) (n : Nat) (rest : List Nat) :
    charactersOnto done (n :: rest) =
      if n < 0xD800 ∨ 0xE000 ≤ n then charactersOnto (Char.ofNat n :: done) rest
      else if n < 0xDC00 then
        match rest with
        | m :: rest =>
            if 0xDC00 ≤ m ∧ m < 0xE000 then
              charactersOnto (Char.ofNat (0x10000 + (n - 0xD800) * 0x400 + (m - 0xDC00)) :: done) rest
            else none
        | [] => none
      else none := by
  have unfolded := charactersOnto.eq_def done (n :: rest)
  simp only [Bool.or_eq_true, Bool.and_eq_true, decide_eq_true_eq] at unfolded
  exact unfolded

theorem character_of_code_units (done : Text) (c : Char) (rest : List Nat) :
    charactersOnto done (codeUnits c ++ rest) = charactersOnto (c :: done) rest := by
  have scalar := scalar_value c
  unfold codeUnits
  dsimp only
  split
  · rw [List.singleton_append, characters_cons, if_pos (by omega), Char.ofNat_toNat]
  · have value : 0x10000 + (0xD800 + (c.toNat - 0x10000) / 0x400 - 0xD800) * 0x400 +
        (0xDC00 + (c.toNat - 0x10000) % 0x400 - 0xDC00) = c.toNat := by omega
    rw [List.cons_append, List.singleton_append, characters_cons, if_neg (by omega), if_pos (by omega)]
    dsimp only
    rw [if_pos (by omega), value, Char.ofNat_toNat]

theorem characters_of_code_units (done s : Text) :
    charactersOnto done (s.flatMap codeUnits) = some (done.reverse ++ s) := by
  induction s generalizing done with
  | nil => simp [charactersOnto]
  | cons c tail ih =>
      rw [List.flatMap_cons, character_of_code_units, ih]
      simp

theorem units_of_encoded (s : Text) : unitsOnto [] (encodeAll s) = some (s.flatMap codeUnits) := by
  have flat : encodeAll s = (s.flatMap codeUnits).flatMap encodeUnit ++ [] := by
    rw [List.append_nil, List.flatMap_assoc]
    rfl
  have small : ∀ n ∈ s.flatMap codeUnits, n < 0x10000 := by
    intro n member
    obtain ⟨c, _, unit⟩ := List.mem_flatMap.mp member
    exact code_units_small c n unit
  have ending (done : List Nat) : unitsOnto done [] = some done.reverse := rfl
  rw [flat, units_of_units [] _ [] small, ending]
  simp

-- Read leniently, the UTF-8 form of a character gives its code unit; four bytes give nothing.
theorem units_of_utf8_character (done : List Nat) (c : Char) (rest : Bytes) :
    unitsOnto done (String.utf8EncodeChar c ++ rest) =
      if c.toNat < 0x10000 then unitsOnto (c.toNat :: done) rest else none := by
  have scalar := scalar_value c
  have value : c.val.toNat = c.toNat := rfl
  unfold String.utf8EncodeChar
  dsimp only
  rw [value]
  split
  · have single := byte_of_nat c.toNat (by omega)
    rw [List.singleton_append, units_of_one_byte _ _ _ (by omega), if_pos (by omega)]
    exact congrArg (fun n => unitsOnto (n :: done) rest) single
  split
  · have first := byte_of_nat (c.toNat / 64 % 0x20 + 0xc0) (by omega)
    have second := byte_of_nat (c.toNat % 0x40 + 0x80) (by omega)
    rw [List.cons_append, List.singleton_append, units_of_two_bytes _ _ _ _ (by omega) (by omega),
      first, second, if_pos (by omega)]
    congr 2
    omega
  split
  · have first := byte_of_nat (c.toNat / 4096 % 0x10 + 0xe0) (by omega)
    have second := byte_of_nat (c.toNat / 64 % 0x40 + 0x80) (by omega)
    have third := byte_of_nat (c.toNat % 0x40 + 0x80) (by omega)
    rw [List.cons_append, List.cons_append, List.singleton_append,
      units_of_three_bytes _ _ _ _ _ (by omega) (by omega), first, second, third, if_pos (by omega)]
    congr 2
    omega
  · have first := byte_of_nat (c.toNat / 262144 % 0x08 + 0xf0) (by omega)
    rw [List.cons_append, no_units_of_four_bytes _ _ _ (by omega), if_neg (by omega)]

theorem units_of_utf8 (done : List Nat) (t : Text) (units : List Nat)
    (read : unitsOnto done (Text.utf8 t) = some units) :
    units = done.reverse ++ t.flatMap codeUnits := by
  induction t generalizing done with
  | nil =>
      have empty : done.reverse = units := Option.some.inj read
      rw [List.flatMap_nil, List.append_nil, empty]
  | cons c tail ih =>
      have split : Text.utf8 (c :: tail) = String.utf8EncodeChar c ++ Text.utf8 tail := rfl
      rw [split, units_of_utf8_character] at read
      by_cases small : c.toNat < 0x10000
      · rw [if_pos small] at read
        have single : codeUnits c = [c.toNat] := if_pos small
        rw [ih (c.toNat :: done) read, List.flatMap_cons, single]
        simp
      · rw [if_neg small] at read
        contradiction

theorem code_units_injective (s t : Text) (same : s.flatMap codeUnits = t.flatMap codeUnits) : s = t := by
  have characters := congrArg (charactersOnto []) same
  rw [characters_of_code_units, characters_of_code_units] at characters
  simpa using characters

theorem decode_encoded (s : Text) : decode? (encodeAll s) = some s := by
  unfold decode?
  split
  · rename_i t decoded
    have utf8 := Text.Utf8.utf8_of_decoded _ t decoded
    have units := units_of_utf8 [] t _ (utf8 ▸ units_of_encoded s)
    rw [code_units_injective s t units]
  · rw [units_of_encoded, Option.bind_some, characters_of_code_units]
    rfl

theorem encode_ok (s : Text) (bytes : Bytes) (encoded : encode s = .ok bytes) :
    bytes = encodeAll s ∧ bytes.length < 0x10000 := by
  unfold encode at encoded
  dsimp only at encoded
  split at encoded
  · rename_i short
    have same : encodeAll s = bytes := Except.ok.inj encoded
    exact ⟨same.symm, same ▸ short⟩
  · contradiction

end ModifiedUtf8

end Shading
