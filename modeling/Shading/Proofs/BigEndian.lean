import Shading.ClassFile.Reader
import Shading.ClassFile.Writer

set_option autoImplicit false

namespace Shading.Bytes

def joinU16 (a b : UInt8) : UInt16 := a.toUInt16 <<< 8 ||| b.toUInt16

def joinU32 (a b d e : UInt8) : UInt32 :=
  a.toUInt32 <<< 24 ||| b.toUInt32 <<< 16 ||| d.toUInt32 <<< 8 ||| e.toUInt32

def joinU64 (high low : UInt32) : UInt64 := high.toUInt64 <<< 32 ||| low.toUInt64

theorem join_u16_value (a b : UInt8) : (joinU16 a b).toNat = a.toNat * 0x100 + b.toNat := by
  have first := a.toNat_lt
  have second := b.toNat_lt
  have shifted : a.toNat <<< 8 % 65536 = a.toNat <<< 8 := by
    rw [Nat.shiftLeft_eq]
    omega
  show (a.toNat <<< 8 % 65536) ||| b.toNat = a.toNat * 256 + b.toNat
  rw [shifted, ← Nat.shiftLeft_add_eq_or_of_lt second, Nat.shiftLeft_eq]

theorem join_u32_value (a b d e : UInt8) :
    (joinU32 a b d e).toNat =
      a.toNat * 0x1000000 + b.toNat * 0x10000 + d.toNat * 0x100 + e.toNat := by
  have first := a.toNat_lt
  have second := b.toNat_lt
  have third := d.toNat_lt
  have fourth := e.toNat_lt
  have low : d.toNat <<< 8 % 4294967296 = d.toNat <<< 8 := by
    rw [Nat.shiftLeft_eq]
    omega
  have middle : b.toNat <<< 16 % 4294967296 = b.toNat <<< 16 := by
    rw [Nat.shiftLeft_eq]
    omega
  have high : a.toNat <<< 24 % 4294967296 = a.toNat <<< 24 := by
    rw [Nat.shiftLeft_eq]
    omega
  show ((a.toNat <<< 24 % 4294967296) ||| (b.toNat <<< 16 % 4294967296) |||
    (d.toNat <<< 8 % 4294967296)) ||| e.toNat = _
  rw [low, middle, high, Nat.or_assoc, Nat.or_assoc,
    ← Nat.shiftLeft_add_eq_or_of_lt fourth,
    ← Nat.shiftLeft_add_eq_or_of_lt (i := 16) (by rw [Nat.shiftLeft_eq]; omega),
    ← Nat.shiftLeft_add_eq_or_of_lt (i := 24) (by rw [Nat.shiftLeft_eq, Nat.shiftLeft_eq]; omega)]
  simp only [Nat.shiftLeft_eq]
  omega

theorem join_u64_value (high low : UInt32) :
    (joinU64 high low).toNat = high.toNat * 0x100000000 + low.toNat := by
  have first := high.toNat_lt
  have second := low.toNat_lt
  have shifted : high.toNat <<< 32 % 18446744073709551616 = high.toNat <<< 32 := by
    rw [Nat.shiftLeft_eq]
    omega
  show (high.toNat <<< 32 % 18446744073709551616) ||| low.toNat = high.toNat * 4294967296 + low.toNat
  rw [shifted, ← Nat.shiftLeft_add_eq_or_of_lt second, Nat.shiftLeft_eq]

theorem u16_byte_values (n : UInt16) :
    (n >>> 8).toUInt8.toNat = n.toNat / 0x100 ∧ n.toUInt8.toNat = n.toNat % 0x100 := by
  have bound := n.toNat_lt
  refine ⟨?_, rfl⟩
  show n.toNat >>> 8 % 256 = n.toNat / 256
  rw [Nat.shiftRight_eq_div_pow]
  omega

theorem u32_byte_values (n : UInt32) :
    (n >>> 24).toUInt8.toNat = n.toNat / 0x1000000 ∧
      (n >>> 16).toUInt8.toNat = n.toNat / 0x10000 % 0x100 ∧
      (n >>> 8).toUInt8.toNat = n.toNat / 0x100 % 0x100 ∧ n.toUInt8.toNat = n.toNat % 0x100 := by
  have bound := n.toNat_lt
  refine ⟨?_, ?_, ?_, rfl⟩
  · show n.toNat >>> 24 % 256 = n.toNat / 0x1000000
    rw [Nat.shiftRight_eq_div_pow]
    omega
  · show n.toNat >>> 16 % 256 = n.toNat / 0x10000 % 0x100
    rw [Nat.shiftRight_eq_div_pow]
  · show n.toNat >>> 8 % 256 = n.toNat / 0x100 % 0x100
    rw [Nat.shiftRight_eq_div_pow]

theorem u64_half_values (n : UInt64) :
    (n >>> 32).toUInt32.toNat = n.toNat / 0x100000000 ∧
      n.toUInt32.toNat = n.toNat % 0x100000000 := by
  have bound := n.toNat_lt
  refine ⟨?_, rfl⟩
  show n.toNat >>> 32 % 4294967296 = n.toNat / 0x100000000
  rw [Nat.shiftRight_eq_div_pow]
  omega

theorem join_of_u16 (n : UInt16) : joinU16 (n >>> 8).toUInt8 n.toUInt8 = n := by
  obtain ⟨high, low⟩ := u16_byte_values n
  apply UInt16.toNat_inj.mp
  rw [join_u16_value, high, low]
  omega

theorem of_u16_join (a b : UInt8) : ofU16 (joinU16 a b) = [a, b] := by
  obtain ⟨high, low⟩ := u16_byte_values (joinU16 a b)
  have second := b.toNat_lt
  rw [join_u16_value] at high low
  have first : (joinU16 a b >>> 8).toUInt8 = a := UInt8.toNat_inj.mp (by omega)
  have last : (joinU16 a b).toUInt8 = b := UInt8.toNat_inj.mp (by omega)
  rw [ofU16, first, last]

theorem join_of_u32 (n : UInt32) :
    joinU32 (n >>> 24).toUInt8 (n >>> 16).toUInt8 (n >>> 8).toUInt8 n.toUInt8 = n := by
  obtain ⟨first, second, third, fourth⟩ := u32_byte_values n
  apply UInt32.toNat_inj.mp
  rw [join_u32_value, first, second, third, fourth]
  omega

theorem of_u32_join (a b d e : UInt8) : ofU32 (joinU32 a b d e) = [a, b, d, e] := by
  obtain ⟨first, second, third, fourth⟩ := u32_byte_values (joinU32 a b d e)
  have boundB := b.toNat_lt
  have boundD := d.toNat_lt
  have boundE := e.toNat_lt
  rw [join_u32_value] at first second third fourth
  have one : (joinU32 a b d e >>> 24).toUInt8 = a := UInt8.toNat_inj.mp (by omega)
  have two : (joinU32 a b d e >>> 16).toUInt8 = b := UInt8.toNat_inj.mp (by omega)
  have three : (joinU32 a b d e >>> 8).toUInt8 = d := UInt8.toNat_inj.mp (by omega)
  have four : (joinU32 a b d e).toUInt8 = e := UInt8.toNat_inj.mp (by omega)
  rw [ofU32, one, two, three, four]

theorem join_of_u64 (n : UInt64) : joinU64 (n >>> 32).toUInt32 n.toUInt32 = n := by
  obtain ⟨high, low⟩ := u64_half_values n
  apply UInt64.toNat_inj.mp
  rw [join_u64_value, high, low]
  omega

theorem of_u64_join (high low : UInt32) :
    ofU64 (joinU64 high low) = ofU32 high ++ ofU32 low := by
  obtain ⟨first, second⟩ := u64_half_values (joinU64 high low)
  have bound := low.toNat_lt
  rw [join_u64_value] at first second
  have one : (joinU64 high low >>> 32).toUInt32 = high := UInt32.toNat_inj.mp (by omega)
  have two : (joinU64 high low).toUInt32 = low := UInt32.toNat_inj.mp (by omega)
  rw [ofU64, one, two]

end Shading.Bytes
