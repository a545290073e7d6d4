import Shading.ClassFile.Pool
import Shading.Proofs.Fallible
import Shading.Proofs.ModifiedUtf8

set_option autoImplicit false

namespace Shading.Pool

open Fallible

theorem payload_ok (pool : Pool) (index : UInt16) (bytes : Bytes) :
    pool.payload index = .ok bytes ↔ pool.slots[index.toNat]? = some (.utf8 bytes) := by
  unfold payload get?
  split
  · rename_i found
    rw [found]
    constructor
    · intro same
      rw [Except.ok.inj same]
    · intro same
      cases same
      rfl
  · rename_i other
    constructor
    · intro failed
      contradiction
    · intro found
      exact absurd found (other bytes)

theorem text_ok (pool : Pool) (index : UInt16) (s : Text) :
    pool.text index = .ok s ↔
      ∃ bytes, pool.payload index = .ok bytes ∧ ModifiedUtf8.decode? bytes = some s := by
  unfold text
  rw [bind_ok]
  constructor
  · rintro ⟨bytes, found, decoded⟩
    refine ⟨bytes, found, ?_⟩
    split at decoded
    · rename_i t decoding
      cases decoded
      exact decoding
    · contradiction
  · rintro ⟨bytes, found, decoded⟩
    exact ⟨bytes, found, by rw [decoded]⟩

theorem set_text_ok (pool after : Pool) (index : UInt16) (s : Text)
    (done : pool.setText index s = .ok after) :
    (∃ bytes, pool.slots[index.toNat]? = some (.utf8 bytes)) ∧
      (ModifiedUtf8.encodeAll s).length < 0x10000 ∧
      after.slots = pool.slots.setIfInBounds index.toNat (.utf8 (ModifiedUtf8.encodeAll s)) := by
  obtain ⟨encoded, encoding, rest⟩ := bind_ok.mp done
  obtain ⟨rfl, short⟩ := ModifiedUtf8.encode_ok s encoded encoding
  split at rest
  · rename_i bytes found
    cases rest
    exact ⟨⟨bytes, found⟩, short, rfl⟩
  · contradiction

theorem push_text_ok (pool after : Pool) (index : UInt16) (s : Text)
    (done : pool.pushText s = .ok (index, after)) :
    pool.slots.size < 0xFFFF ∧ index.toNat = pool.slots.size ∧
      (ModifiedUtf8.encodeAll s).length < 0x10000 ∧
      after.slots = pool.slots.push (.utf8 (ModifiedUtf8.encodeAll s)) := by
  unfold pushText at done
  split at done
  · rename_i room
    obtain ⟨encoded, encoding, rest⟩ := bind_ok.mp done
    obtain ⟨rfl, short⟩ := ModifiedUtf8.encode_ok s encoded encoding
    cases rest
    refine ⟨room, ?_, short, rfl⟩
    exact UInt16.toNat_ofNat_of_lt' (Nat.lt_trans room (by decide))
  · contradiction

end Shading.Pool
