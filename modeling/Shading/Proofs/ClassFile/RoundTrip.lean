import Shading.ClassFile
import Shading.Proofs.ClassFile.AttributeCodec
import Shading.Proofs.ClassFile.PoolCodec

set_option autoImplicit false

namespace Shading

open Fallible

namespace Member

variable {fuel : Nat} {pool : Pool} {attributes : Reader (List Attribute)}

def WellFormed (pool : Pool) (m : Member) : Prop := ∀ a ∈ m.attributes, a.WellFormed pool

theorem read_codec (codec : Codec fuel attributes (Attribute.ListForm pool)) :
    Codec fuel (Member.read attributes) (Form.written write (WellFormed pool)) := by
  refine (Codec.u16.bind fun access => Codec.u16.bind fun name => Codec.u16.bind fun descriptor =>
    codec.bind fun nested => .pure (Member.mk access name descriptor nested)).conv ?_ ?_
  · rintro _ _ ⟨access, _, _, rfl, ⟨name, _, _, rfl, ⟨descriptor, _, _, rfl, ⟨nested, back, _,
      ⟨each, written⟩, ⟨rfl, rfl⟩, rfl⟩, rfl⟩, rfl⟩, rfl⟩
    refine ⟨each, bind_ok.mpr ⟨back, written, ?_⟩⟩
    rw [List.append_nil, ← List.append_assoc, ← List.append_assoc]
    rfl
  · rintro bytes ⟨access, name, descriptor, nested⟩ ⟨each, written⟩ _
    obtain ⟨back, others, final⟩ := bind_ok.mp written
    cases final
    rw [List.append_assoc, List.append_assoc]
    exact ⟨access, _, _, rfl, ⟨name, _, _, rfl, ⟨descriptor, _, _, rfl, ⟨nested, back, [],
      ⟨each, others⟩, ⟨rfl, rfl⟩, (List.append_nil _).symm⟩, rfl⟩, rfl⟩, rfl⟩

theorem list_codec (codec : Codec fuel attributes (Attribute.ListForm pool)) :
    Codec fuel (Reader.counted (Member.read attributes))
      (Form.written writeAll fun members => ∀ m ∈ members, m.WellFormed pool) :=
  (read_codec codec).counted_written .members (Writer.each write) rfl (Writer.each_cons write)

end Member

namespace ClassFile

structure WellFormed (c : ClassFile) : Prop where
  pool : c.pool.WellFormed
  fields : ∀ m ∈ c.fields, m.WellFormed c.pool
  methods : ∀ m ∈ c.methods, m.WellFormed c.pool
  attributes : ∀ a ∈ c.attributes, a.WellFormed c.pool

def writeInterfaces (interfaces : List UInt16) : Except FormatError Bytes := do
  return (← Writer.count16 .interfaces interfaces.length) ++
    (← Except.ok (interfaces.flatMap Bytes.ofU16))

-- The parts of a class that need not be writable, one after the other.
structure Parts (c : ClassFile) (interfaces fields methods attributes : Bytes) : Prop where
  interfaces : writeInterfaces c.interfaces = .ok interfaces
  fields : Member.writeAll c.fields = .ok fields
  methods : Member.writeAll c.methods = .ok methods
  attributes : Attribute.writeAll c.attributes = .ok attributes

def Around (c : ClassFile) (pool bytes : Bytes) : Prop :=
  ∃ interfaces fields methods attributes, c.Parts interfaces fields methods attributes ∧
    bytes = Bytes.ofU32 magic ++ (Bytes.ofU16 c.minor ++ (Bytes.ofU16 c.major ++ (pool ++
      (Bytes.ofU16 c.access ++ (Bytes.ofU16 c.thisClass ++ (Bytes.ofU16 c.superClass ++
        (interfaces ++ (fields ++ (methods ++ attributes)))))))))

theorem to_bytes_ok (c : ClassFile) (bytes : Bytes) :
    c.toBytes = .ok bytes ↔ ∃ pool, c.pool.write = .ok pool ∧ c.Around pool bytes := by
  constructor
  · intro written
    obtain ⟨pool, first, rest⟩ := bind_ok.mp written
    obtain ⟨count, counted, rest⟩ := bind_ok.mp rest
    obtain ⟨fields, second, rest⟩ := bind_ok.mp rest
    obtain ⟨methods, third, rest⟩ := bind_ok.mp rest
    obtain ⟨attributes, fourth, final⟩ := bind_ok.mp rest
    cases final
    refine ⟨pool, first, _, fields, methods, attributes,
      ⟨(Writer.append_ok _ _ _).mpr ⟨count, _, counted, rfl, rfl⟩, second, third, fourth⟩, ?_⟩
    simp only [List.append_assoc]
  · rintro ⟨pool, first, _, fields, methods, attributes, ⟨listed, second, third, fourth⟩, rfl⟩
    obtain ⟨count, _, counted, same, rfl⟩ := (Writer.append_ok _ _ _).mp listed
    cases same
    refine bind_ok.mpr ⟨pool, first, bind_ok.mpr ⟨count, counted, bind_ok.mpr ⟨fields, second,
      bind_ok.mpr ⟨methods, third, bind_ok.mpr ⟨attributes, fourth, ?_⟩⟩⟩⟩⟩
    simp only [List.append_assoc]
    rfl

theorem interfaces_codec {fuel : Nat} : Codec fuel (Reader.counted Reader.u16)
    (Form.written writeInterfaces fun interfaces => ∀ i ∈ interfaces, True) :=
  Codec.u16.exactly.counted_written .interfaces (fun interfaces => .ok (interfaces.flatMap Bytes.ofU16))
    rfl fun _ _ => rfl

def Encoded : Form ClassFile := fun bytes c =>
  c.WellFormed ∧ ∃ pool, Pool.Encoded pool c.pool ∧ c.Around pool bytes

theorem members_codec {fuel : Nat} (pool : Pool)
    (make : List Member → List Member → List Attribute → ClassFile) :
    Codec fuel (do
        let left ← fun c => .ok (c.rest.length, c)
        let attributes := Reader.attributes pool (left + 1)
        let fields ← Reader.counted (Member.read attributes)
        let methods ← Reader.counted (Member.read attributes)
        return make fields methods (← attributes))
      fun bytes c => ∃ fields methods attributes first second third, c = make fields methods attributes ∧
        Form.written Member.writeAll (fun members => ∀ m ∈ members, m.WellFormed pool) first fields ∧
        Form.written Member.writeAll (fun members => ∀ m ∈ members, m.WellFormed pool) second methods ∧
        Attribute.ListForm pool third attributes ∧ bytes = first ++ (second ++ third) := by
  refine Codec.measured fun left => ?_
  have codec := Attribute.list_codec pool (left + 1)
  have members := Member.list_codec codec
  refine Codec.conv (members.bind fun fields => members.bind fun methods =>
    codec.bind fun attributes => .pure (make fields methods attributes)) ?_ ?_
  · rintro _ _ ⟨fields, first, _, formed, ⟨methods, second, _, formedSecond, ⟨attributes, third, _,
      formedThird, ⟨rfl, rfl⟩, rfl⟩, rfl⟩, rfl⟩
    rw [List.append_nil]
    exact ⟨fields, methods, attributes, first, second, third, rfl, formed, formedSecond, formedThird, rfl⟩
  · rintro _ _ ⟨fields, methods, attributes, first, second, third, rfl, formed, formedSecond,
      formedThird, rfl⟩ _
    exact ⟨fields, first, _, formed, ⟨methods, second, _, formedSecond, ⟨attributes, third, [],
      formedThird, ⟨rfl, rfl⟩, (List.append_nil _).symm⟩, rfl⟩, rfl⟩

theorem magic_codec {fuel : Nat} {next : Reader ClassFile} {form : Form ClassFile}
    (codec : Codec fuel next form) :
    Codec fuel (do
        let number ← Reader.u32
        if number ≠ magic then Reader.fail (.badMagic number)
        next)
      fun bytes c => ∃ back, form back c ∧ bytes = Bytes.ofU32 magic ++ back := by
  refine Codec.conv (Codec.u32.bind fun number =>
    Codec.ite ((Codec.fail (.badMagic number)).bind fun _ => codec) codec) ?_ ?_
  · rintro _ c ⟨number, _, back, rfl, formed, rfl⟩
    split at formed
    · obtain ⟨_, _, _, impossible, _⟩ := formed
      exact impossible.elim
    · rename_i same
      rw [not_not.mp same]
      exact ⟨back, formed, rfl⟩
  · rintro _ c ⟨back, formed, rfl⟩ _
    exact ⟨magic, _, back, rfl, by simpa using formed, rfl⟩

theorem read_codec (fuel : Nat) : Codec fuel read Encoded := by
  refine Codec.conv (magic_codec (Codec.u16.bind fun minor => Codec.u16.bind fun major =>
    Pool.read_codec.bind fun pool => Codec.u16.bind fun access => Codec.u16.bind fun thisClass =>
    Codec.u16.bind fun superClass => interfaces_codec.bind fun interfaces =>
    members_codec pool (ClassFile.mk minor major pool access thisClass superClass interfaces))) ?_ ?_
  · rintro _ _ ⟨_, ⟨minor, _, _, rfl, ⟨major, _, _, rfl, ⟨pool, front, _, encoded, ⟨access, _, _, rfl,
      ⟨thisClass, _, _, rfl, ⟨superClass, _, _, rfl, ⟨interfaces, listed, _, ⟨_, listing⟩, ⟨fields,
      methods, attributes, first, second, third, rfl, ⟨fieldsValid, formed⟩, ⟨methodsValid,
      formedSecond⟩, ⟨attributesValid, formedThird⟩, rfl⟩, rfl⟩, rfl⟩, rfl⟩, rfl⟩, rfl⟩, rfl⟩, rfl⟩, rfl⟩
    exact ⟨⟨encoded.1, fieldsValid, methodsValid, attributesValid⟩, front, encoded, listed, first,
      second, third, ⟨listing, formed, formedSecond, formedThird⟩, rfl⟩
  · rintro _ ⟨minor, major, pool, access, thisClass, superClass, interfaces, fields, methods,
      attributes⟩ ⟨valid, front, encoded, listed, first, second, third, parts, rfl⟩ _
    exact ⟨_, ⟨minor, _, _, rfl, ⟨major, _, _, rfl, ⟨pool, front, _, encoded, ⟨access, _, _, rfl,
      ⟨thisClass, _, _, rfl, ⟨superClass, _, _, rfl, ⟨interfaces, listed, _, ⟨fun _ _ => trivial,
      parts.interfaces⟩, ⟨fields, methods, attributes, first, second, third, rfl,
      ⟨valid.fields, parts.fields⟩, ⟨valid.methods, parts.methods⟩,
      ⟨valid.attributes, parts.attributes⟩, rfl⟩, rfl⟩, rfl⟩, rfl⟩, rfl⟩, rfl⟩, rfl⟩, rfl⟩, rfl⟩

theorem parse_ok (bytes : Bytes) (c : ClassFile) : parse bytes = .ok c ↔ Encoded bytes c := by
  constructor
  · intro done
    obtain ⟨⟨other, after⟩, reads, rest⟩ := bind_ok.mp done
    obtain ⟨front, formed, split, _⟩ := (read_codec 0).sound _ other after reads
    dsimp only at rest
    split at rest
    · rename_i empty
      cases rest
      have whole : bytes = front ++ after.rest := split
      rw [List.isEmpty_iff.mp empty, List.append_nil] at whole
      rw [whole]
      exact formed
    · cases rest
  · intro formed
    have reads := (read_codec bytes.length).complete bytes c [] 0 formed (Nat.le_refl _)
    rw [List.append_nil] at reads
    exact bind_ok.mpr ⟨_, reads, rfl⟩

theorem parse_of_written (c : ClassFile) (valid : c.WellFormed) (bytes : Bytes)
    (written : c.toBytes = .ok bytes) : parse bytes = .ok c := by
  obtain ⟨pool, first, around⟩ := (to_bytes_ok c bytes).mp written
  exact (parse_ok bytes c).mpr ⟨valid, pool, ⟨valid.pool, .inl first⟩, around⟩

-- The bytes with a constant pool that counts slot 0 at least.
def countOne (bytes : Bytes) : Bytes :=
  if (bytes.drop 8).take 2 = [0, 0] then bytes.take 8 ++ [0, 1] ++ bytes.drop 10 else bytes

theorem Around.split {c : ClassFile} {pool bytes : Bytes} (around : c.Around pool bytes) :
    ∃ front back : Bytes, front.length = 8 ∧ bytes = front ++ (pool ++ back) ∧
      ∀ other, c.Around other (front ++ (other ++ back)) := by
  obtain ⟨interfaces, fields, methods, attributes, parts, rfl⟩ := around
  refine ⟨Bytes.ofU32 magic ++ (Bytes.ofU16 c.minor ++ Bytes.ofU16 c.major),
    Bytes.ofU16 c.access ++ (Bytes.ofU16 c.thisClass ++ (Bytes.ofU16 c.superClass ++
      (interfaces ++ (fields ++ (methods ++ attributes))))), rfl, ?_, ?_⟩
  · simp only [List.append_assoc]
  · intro other
    refine ⟨interfaces, fields, methods, attributes, parts, ?_⟩
    simp only [List.append_assoc]

theorem pool_count_positive (pool : Pool) (valid : pool.WellFormed) (bytes : Bytes)
    (written : pool.write = .ok bytes) : bytes.take 2 ≠ [0, 0] ∧ 2 ≤ bytes.length := by
  obtain ⟨count, back, counted, _, rfl⟩ := (Writer.append_ok _ _ _).mp written
  obtain ⟨small, rfl⟩ := (Writer.count16_ok _ _ _).mp counted
  refine ⟨?_, Nat.le_add_left _ _⟩
  intro zero
  have one := (Array.getElem?_eq_some_iff.mp valid.first).1
  have size : pool.slots.size.toUInt16.toNat = pool.slots.size := UInt16.toNat_ofNat_of_lt' small
  have value := Bytes.join_of_u16 pool.slots.size.toUInt16
  obtain ⟨high, low⟩ := List.cons.inj (show Bytes.ofU16 pool.slots.size.toUInt16 = [0, 0] from zero)
  rw [high, (List.cons.inj low).1] at value
  rw [← value] at size
  have none : (Bytes.joinU16 0 0).toNat = 0 := by decide
  omega

theorem written_back (bytes : Bytes) (c : ClassFile) (parsed : parse bytes = .ok c) :
    c.toBytes = .ok (countOne bytes) := by
  obtain ⟨_, pool, ⟨valid, encoded⟩, around⟩ := (parse_ok bytes c).mp parsed
  obtain ⟨front, back, length, rfl, other⟩ := around.split
  have pieces : (front ++ (pool ++ back)).drop 8 = pool ++ back := by
    rw [← length, List.drop_left]
  unfold countOne
  rw [pieces]
  rcases encoded with written | ⟨alone, rfl⟩
  · obtain ⟨positive, long⟩ := pool_count_positive c.pool valid pool written
    rw [List.take_append_of_le_length long, if_neg positive]
    exact (to_bytes_ok c _).mpr ⟨pool, written, around⟩
  · have slots : c.pool = ⟨#[.unusable]⟩ := congrArg Pool.mk alone
    have written : c.pool.write = .ok [0, 1] := by
      rw [slots]
      rfl
    have start : (front ++ ([0, 0] ++ back)).take 8 = front := by
      rw [← length, List.take_left]
    have ending : (front ++ ([0, 0] ++ back)).drop 10 = back := by
      rw [← List.append_assoc]
      exact List.drop_left' (by rw [List.length_append, length]; rfl)
    have zero : ([0, 0] ++ back).take 2 = [0, 0] := rfl
    rw [if_pos zero, start, ending, List.append_assoc]
    exact (to_bytes_ok c _).mpr ⟨[0, 1], written, other [0, 1]⟩

end ClassFile

end Shading
