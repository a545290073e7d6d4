import Shading.Proofs.ClassFile.Codec

set_option autoImplicit false

namespace Shading

open Fallible

inductive ElementValue.WellFormed : ElementValue → Prop where
  | const (tag : UInt8) (index : UInt16) (legal : tag ∈ constTags) : WellFormed (.const tag index)
  | enumConst (type name : UInt16) : WellFormed (.enumConst type name)
  | classInfo (descriptor : UInt16) : WellFormed (.classInfo descriptor)
  | nested (type : UInt16) (elements : List (UInt16 × ElementValue))
      (each : ∀ e ∈ elements, WellFormed e.2) : WellFormed (.nested type elements)
  | array (values : List ElementValue) (each : ∀ v ∈ values, WellFormed v) :
      WellFormed (.array values)

namespace ElementValue

variable {fuel : Nat} {value : Reader ElementValue}

def tag : ElementValue → UInt8
  | const tag _ => tag
  | enumConst _ _ => 0x65
  | classInfo _ => 0x63
  | nested _ _ => 0x40
  | array _ => 0x5B

theorem nested_written (type : UInt16) (elements : List (UInt16 × ElementValue)) (bytes : Bytes) :
    (nested type elements).write = .ok bytes ↔ ∃ back,
      (do return (← Writer.count16 .annotationElements elements.length) ++
        (← writeElements elements)) = Except.ok back ∧ bytes = 0x40 :: Bytes.ofU16 type ++ back :=
  Writer.after_ok (0x40 :: Bytes.ofU16 type) _ _ bytes

theorem array_written (values : List ElementValue) (bytes : Bytes) :
    (array values).write = .ok bytes ↔ ∃ back,
      (do return (← Writer.count16 .annotationArray values.length) ++ (← writeValues values)) =
        Except.ok back ∧ bytes = 0x5B :: back :=
  Writer.after_ok [0x5B] _ _ bytes

theorem tag_written (v : ElementValue) (t : UInt8) (bytes : Bytes)
    (written : v.write = .ok (t :: bytes)) : v.tag = t := by
  cases v with
  | nested type elements =>
      obtain ⟨_, _, same⟩ := (nested_written _ _ _).mp written
      cases same
      rfl
  | array values =>
      obtain ⟨_, _, same⟩ := (array_written _ _).mp written
      cases same
      rfl
  | _ =>
      cases written
      rfl

theorem written_filled (v : ElementValue) : ¬ Form.written write WellFormed [] v := by
  rintro ⟨_, written⟩
  cases v with
  | nested type elements =>
      obtain ⟨_, _, same⟩ := (nested_written _ _ _).mp written
      cases same
  | array values =>
      obtain ⟨_, _, same⟩ := (array_written _ _).mp written
      cases same
  | _ => cases written

def writeElement (e : UInt16 × ElementValue) : Except FormatError Bytes := do
  return Bytes.ofU16 e.1 ++ (← e.2.write)

theorem element_codec (codec : Codec fuel value (Form.written write WellFormed)) :
    Codec fuel (do return (← Reader.u16, ← value)) (Form.written writeElement fun e => e.2.WellFormed) := by
  refine (Codec.u16.bind fun name => codec.bind fun v => .pure (name, v)).conv ?_ ?_
  · rintro _ _ ⟨name, _, _, rfl, ⟨v, front, _, ⟨valid, written⟩, ⟨rfl, rfl⟩, rfl⟩, rfl⟩
    rw [List.append_nil]
    exact ⟨valid, bind_ok.mpr ⟨front, written, rfl⟩⟩
  · rintro bytes ⟨name, v⟩ ⟨valid, written⟩ _
    obtain ⟨front, first, same⟩ := bind_ok.mp written
    cases same
    exact ⟨name, _, _, rfl, ⟨v, front, [], ⟨valid, first⟩, ⟨rfl, rfl⟩, (List.append_nil _).symm⟩, rfl⟩

theorem elements_codec (codec : Codec fuel value (Form.written write WellFormed)) :
    Codec fuel (Reader.elements value) (Form.written (fun elements => do
      return (← Writer.count16 .annotationElements elements.length) ++ (← writeElements elements))
      fun elements => ∀ e ∈ elements, e.2.WellFormed) := by
  refine (element_codec codec).counted_written .annotationElements writeElements rfl ?_
  rintro ⟨name, v⟩ rest
  show (do return Bytes.ofU16 name ++ (← v.write) ++ (← writeElements rest)) = _
  simp only [writeElement]
  cases v.write <;> rfl

theorem values_codec (codec : Codec fuel value (Form.written write WellFormed)) :
    Codec fuel (Reader.counted value) (Form.written (fun values => do
      return (← Writer.count16 .annotationArray values.length) ++ (← writeValues values))
      fun values => ∀ v ∈ values, v.WellFormed) :=
  codec.counted_written .annotationArray writeValues rfl fun _ _ => rfl

abbrev Body (t : UInt8) : Form ElementValue := fun bytes => Form.written write WellFormed (t :: bytes)

theorem const_codec (t : UInt8) (legal : t ∈ constTags) :
    Codec fuel (do return const t (← Reader.u16)) (Body t) := by
  refine (Codec.u16.bind fun index => .pure (const t index)).conv ?_ ?_
  · rintro _ _ ⟨index, _, _, rfl, ⟨rfl, rfl⟩, rfl⟩
    rw [List.append_nil]
    exact ⟨.const t index legal, rfl⟩
  · rintro bytes v ⟨valid, written⟩ _
    cases tag_written v t bytes written
    cases valid with
    | const other index _ =>
        cases written
        exact ⟨index, _, [], rfl, ⟨rfl, rfl⟩, (List.append_nil _).symm⟩
    | _ => exact absurd legal (by simp only [tag]; decide)

theorem enum_codec :
    Codec fuel (do return enumConst (← Reader.u16) (← Reader.u16)) (Body 0x65) := by
  refine (Codec.u16.bind fun type => Codec.u16.bind fun name => .pure (enumConst type name)).conv
    ?_ ?_
  · rintro _ _ ⟨type, _, _, rfl, ⟨name, _, _, rfl, ⟨rfl, rfl⟩, rfl⟩, rfl⟩
    rw [List.append_nil]
    exact ⟨.enumConst type name, rfl⟩
  · rintro bytes v ⟨valid, written⟩ _
    have tagged := tag_written v _ bytes written
    cases valid with
    | enumConst type name =>
        cases written
        exact ⟨type, _, _, rfl, ⟨name, _, [], rfl, ⟨rfl, rfl⟩, (List.append_nil _).symm⟩, rfl⟩
    | const other index legal =>
        cases tagged
        exact absurd legal (by decide)
    | _ => simp [tag] at tagged

theorem class_codec : Codec fuel (do return classInfo (← Reader.u16)) (Body 0x63) := by
  refine (Codec.u16.bind fun descriptor => .pure (classInfo descriptor)).conv ?_ ?_
  · rintro _ _ ⟨descriptor, _, _, rfl, ⟨rfl, rfl⟩, rfl⟩
    rw [List.append_nil]
    exact ⟨.classInfo descriptor, rfl⟩
  · rintro bytes v ⟨valid, written⟩ _
    have tagged := tag_written v _ bytes written
    cases valid with
    | classInfo descriptor =>
        cases written
        exact ⟨descriptor, _, [], rfl, ⟨rfl, rfl⟩, (List.append_nil _).symm⟩
    | const other index legal =>
        cases tagged
        exact absurd legal (by decide)
    | _ => simp [tag] at tagged

theorem nested_codec (codec : Codec fuel value (Form.written write WellFormed)) :
    Codec fuel (do return nested (← Reader.u16) (← Reader.elements value)) (Body 0x40) := by
  refine (Codec.u16.bind fun type => (elements_codec codec).bind fun elements =>
    .pure (nested type elements)).conv ?_ ?_
  · rintro _ _ ⟨type, _, _, rfl, ⟨elements, back, _, ⟨each, written⟩, ⟨rfl, rfl⟩, rfl⟩, rfl⟩
    rw [List.append_nil]
    exact ⟨.nested type elements each, (nested_written _ _ _).mpr ⟨back, written, rfl⟩⟩
  · rintro bytes v ⟨valid, written⟩ _
    have tagged := tag_written v _ bytes written
    cases valid with
    | nested type elements each =>
        obtain ⟨back, others, same⟩ := (nested_written _ _ _).mp written
        cases same
        exact ⟨type, _, _, rfl, ⟨elements, back, [], ⟨each, others⟩, ⟨rfl, rfl⟩,
          (List.append_nil _).symm⟩, rfl⟩
    | const other index legal =>
        cases tagged
        exact absurd legal (by decide)
    | _ => simp [tag] at tagged

theorem array_codec (codec : Codec fuel value (Form.written write WellFormed)) :
    Codec fuel (do return array (← Reader.counted value)) (Body 0x5B) := by
  refine ((values_codec codec).bind fun values => .pure (array values)).conv ?_ ?_
  · rintro _ _ ⟨values, back, _, ⟨each, written⟩, ⟨rfl, rfl⟩, rfl⟩
    rw [List.append_nil]
    exact ⟨.array values each, (array_written _ _).mpr ⟨back, written, rfl⟩⟩
  · rintro bytes v ⟨valid, written⟩ _
    have tagged := tag_written v _ bytes written
    cases valid with
    | array values each =>
        obtain ⟨back, others, same⟩ := (array_written _ _).mp written
        cases same
        exact ⟨values, bytes, [], ⟨each, others⟩, ⟨rfl, rfl⟩, (List.append_nil _).symm⟩
    | const other index legal =>
        cases tagged
        exact absurd legal (by decide)
    | _ => simp [tag] at tagged

theorem read_codec (fuel : Nat) :
    Codec fuel (Reader.elementValue fuel) (Form.written write WellFormed) := by
  induction fuel with
  | zero => exact Codec.truncated written_filled
  | succ fuel ih =>
      refine Codec.offset_bind fun place => Codec.tagged written_filled fun t => ?_
      split
      · rename_i legal
        exact const_codec t legal
      split
      · rename_i _ same
        exact same ▸ enum_codec
      split
      · rename_i _ _ same
        exact same ▸ class_codec
      split
      · rename_i _ _ _ same
        exact same ▸ nested_codec ih
      split
      · rename_i _ _ _ _ same
        exact same ▸ array_codec ih
      · refine (Codec.fail _).conv (fun _ _ => False.elim) ?_
        rintro bytes v ⟨valid, written⟩ _
        cases tag_written v t bytes written
        cases valid <;> contradiction

end ElementValue

namespace AnnotationEntry

def WellFormed (a : AnnotationEntry) : Prop := ∀ e ∈ a.elements, e.2.WellFormed

theorem read_codec (fuel : Nat) :
    Codec fuel (Reader.annotationEntry fuel) (Form.written write WellFormed) := by
  refine (Codec.u16.bind fun type => (ElementValue.elements_codec (ElementValue.read_codec fuel)).bind
    fun elements => .pure (AnnotationEntry.mk type elements)).conv ?_ ?_
  · rintro _ _ ⟨type, _, _, rfl, ⟨elements, back, _, ⟨each, written⟩, ⟨rfl, rfl⟩, rfl⟩, rfl⟩
    rw [List.append_nil]
    exact ⟨each, (Writer.after_ok _ _ _ _).mpr ⟨back, written, rfl⟩⟩
  · rintro bytes ⟨type, elements⟩ ⟨each, written⟩ _
    obtain ⟨back, others, rfl⟩ := (Writer.after_ok _ _ _ _).mp written
    exact ⟨type, _, _, rfl, ⟨elements, back, [], ⟨each, others⟩, ⟨rfl, rfl⟩,
      (List.append_nil _).symm⟩, rfl⟩

theorem list_codec (fuel : Nat) :
    Codec fuel (Reader.counted (Reader.annotationEntry fuel))
      (Form.written writeAll fun items => ∀ a ∈ items, a.WellFormed) :=
  (read_codec fuel).counted_written .annotations (Writer.each write) rfl (Writer.each_cons write)

end AnnotationEntry

-- The scopes that an annotation on a variable lists, after their count.
def Bytes.Ranges (info : Bytes) : Prop :=
  ∃ (count : UInt16) (scopes : Bytes), info = Bytes.ofU16 count ++ scopes ∧
    scopes.length = count.toNat * 6

-- What the target of a type annotation says, which depends on the type of the target.
def Bytes.TargetInfo (type : UInt8) (info : Bytes) : Prop :=
  if type ∈ [0x00, 0x01, 0x16] then info.length = 1
  else if type ∈ [0x10, 0x11, 0x12, 0x17, 0x42, 0x43, 0x44, 0x45, 0x46] then info.length = 2
  else if type ∈ [0x47, 0x48, 0x49, 0x4A, 0x4B] then info.length = 3
  else if type ∈ [0x13, 0x14, 0x15] then info.length = 0
  else if type ∈ [0x40, 0x41] then info.Ranges
  else False

-- The target type, what it asks for, and a type path with two bytes for each of its steps.
def Bytes.Target (target : Bytes) : Prop :=
  ∃ (type : UInt8) (info : Bytes) (steps : UInt8) (path : Bytes),
    target = type :: info ++ steps :: path ∧ Bytes.TargetInfo type info ∧
      path.length = steps.toNat * 2

namespace TypeAnnotationEntry

variable {fuel : Nat}

def readInfo (type : UInt8) (place : Nat) : Reader Bytes :=
  if type ∈ [0x00, 0x01, 0x16] then Reader.bytes 1
  else if type ∈ [0x10, 0x11, 0x12, 0x17, 0x42, 0x43, 0x44, 0x45, 0x46] then Reader.bytes 2
  else if type ∈ [0x47, 0x48, 0x49, 0x4A, 0x4B] then Reader.bytes 3
  else if type ∈ [0x13, 0x14, 0x15] then Reader.bytes 0
  else if type ∈ [0x40, 0x41] then Reader.annotationRanges
  else Reader.fail (.badAttribute (.annotationTarget type place))

theorem annotation_target_info : Reader.annotationTarget = (do
    let place ← Reader.offset
    let type ← Reader.u8
    let info ← readInfo type place
    let steps ← Reader.u8
    return type :: info ++ steps :: (← Reader.bytes (steps.toNat * 2))) := by
  unfold Reader.annotationTarget readInfo
  refine congrArg _ (funext fun place => congrArg _ (funext fun type => ?_))
  split_ifs <;> rfl

theorem ranges_codec : Codec fuel Reader.annotationRanges fun bytes info =>
    bytes = info ∧ info.Ranges := by
  refine (Codec.u16.bind fun count => (Codec.bytes (count.toNat * 6)).bind fun scopes =>
    .pure (Bytes.ofU16 count ++ scopes)).conv ?_ ?_
  · rintro _ _ ⟨count, _, _, rfl, ⟨_, scopes, _, ⟨rfl, size⟩, ⟨rfl, rfl⟩, rfl⟩, rfl⟩
    rw [List.append_nil]
    exact ⟨rfl, count, scopes, rfl, size⟩
  · rintro _ _ ⟨rfl, count, scopes, rfl, size⟩ _
    exact ⟨count, _, _, rfl, ⟨scopes, scopes, [], ⟨rfl, size⟩, ⟨rfl, rfl⟩,
      (List.append_nil _).symm⟩, rfl⟩

theorem info_codec (type : UInt8) (place : Nat) :
    Codec fuel (readInfo type place) fun bytes info => bytes = info ∧ Bytes.TargetInfo type info := by
  unfold readInfo Bytes.TargetInfo
  split_ifs
  · exact Codec.bytes 1
  · exact Codec.bytes 2
  · exact Codec.bytes 3
  · exact Codec.bytes 0
  · exact ranges_codec
  · exact (Codec.fail _).conv (fun _ _ => False.elim) fun _ _ none _ => none.2

theorem target_codec : Codec fuel Reader.annotationTarget fun bytes target =>
    bytes = target ∧ target.Target := by
  rw [annotation_target_info]
  refine Codec.offset_bind fun place => ?_
  refine (Codec.u8.bind fun type => (info_codec type place).bind fun info => Codec.u8.bind fun steps =>
    (Codec.bytes (steps.toNat * 2)).bind fun path => .pure (type :: info ++ steps :: path)).conv ?_ ?_
  · rintro _ _ ⟨type, _, _, rfl, ⟨_, info, _, ⟨rfl, valid⟩, ⟨steps, _, _, rfl, ⟨_, path, _, ⟨rfl, size⟩,
      ⟨rfl, rfl⟩, rfl⟩, rfl⟩, rfl⟩, rfl⟩
    rw [List.append_nil]
    exact ⟨rfl, type, info, steps, path, rfl, valid, size⟩
  · rintro _ _ ⟨rfl, type, info, steps, path, rfl, valid, size⟩ _
    exact ⟨type, [type], _, rfl, ⟨info, info, _, ⟨rfl, valid⟩, ⟨steps, [steps], _, rfl,
      ⟨path, path, [], ⟨rfl, size⟩, ⟨rfl, rfl⟩, (List.append_nil _).symm⟩, rfl⟩, rfl⟩, rfl⟩

def WellFormed (a : TypeAnnotationEntry) : Prop := a.target.Target ∧ a.entry.WellFormed

theorem read_codec (fuel : Nat) :
    Codec fuel (Reader.typeAnnotationEntry fuel) (Form.written write WellFormed) := by
  refine (target_codec.bind fun target => (AnnotationEntry.read_codec fuel).bind fun entry =>
    .pure (TypeAnnotationEntry.mk target entry)).conv ?_ ?_
  · rintro _ _ ⟨_, target, _, ⟨rfl, shape⟩, ⟨entry, back, _, ⟨valid, written⟩, ⟨rfl, rfl⟩, rfl⟩, rfl⟩
    rw [List.append_nil]
    exact ⟨⟨shape, valid⟩, bind_ok.mpr ⟨back, written, rfl⟩⟩
  · rintro bytes ⟨target, entry⟩ ⟨⟨shape, valid⟩, written⟩ _
    obtain ⟨back, others, same⟩ := bind_ok.mp written
    cases same
    exact ⟨target, target, _, ⟨rfl, shape⟩, ⟨entry, back, [], ⟨valid, others⟩, ⟨rfl, rfl⟩,
      (List.append_nil _).symm⟩, rfl⟩

theorem list_codec (fuel : Nat) : Codec fuel (Reader.counted (Reader.typeAnnotationEntry fuel))
    (Form.written (fun items => do
      return (← Writer.count16 .typeAnnotations items.length) ++ (← Writer.each write items))
      fun items => ∀ a ∈ items, a.WellFormed) :=
  (read_codec fuel).counted_written .typeAnnotations (Writer.each write) rfl (Writer.each_cons write)

end TypeAnnotationEntry

end Shading
