import Shading.Proofs.ClassFile.AnnotationCodec

set_option autoImplicit false

namespace Shading

open Fallible

namespace LocalVariable

variable {fuel : Nat}

theorem read_codec : Codec fuel Reader.localVariable fun bytes v => bytes = v.write := by
  refine (Codec.u16.bind fun start => Codec.u16.bind fun length => Codec.u16.bind fun name =>
    Codec.u16.bind fun type => Codec.u16.bind fun slot =>
      .pure (LocalVariable.mk start length name type slot)).conv ?_ ?_
  · rintro _ _ ⟨start, _, _, rfl, ⟨length, _, _, rfl, ⟨name, _, _, rfl, ⟨type, _, _, rfl, ⟨slot, _, _,
      rfl, ⟨rfl, rfl⟩, rfl⟩, rfl⟩, rfl⟩, rfl⟩, rfl⟩
    rfl
  · rintro _ ⟨start, length, name, type, slot⟩ rfl _
    exact ⟨start, _, _, rfl, ⟨length, _, _, rfl, ⟨name, _, _, rfl, ⟨type, _, _, rfl, ⟨slot, _, _,
      rfl, ⟨rfl, rfl⟩, rfl⟩, rfl⟩, rfl⟩, rfl⟩, rfl⟩

theorem list_codec : Codec fuel (Reader.counted Reader.localVariable)
    (Form.written writeAll fun _ => True) := by
  have all : Codec fuel (Reader.counted Reader.localVariable)
      (Form.written writeAll fun entries => ∀ v ∈ entries, True) :=
    read_codec.exactly.counted_written .localVariableTable (fun entries => .ok (entries.flatMap write))
      rfl fun _ _ => rfl
  refine all.conv ?_ ?_
  · rintro bytes entries ⟨_, written⟩
    exact ⟨trivial, written⟩
  · rintro bytes entries ⟨_, written⟩ _
    exact ⟨fun _ _ => trivial, written⟩

end LocalVariable

namespace Handler

theorem list_codec {fuel : Nat} : Codec fuel (Reader.counted do return Handler.mk (← Reader.bytes 8))
    (Form.written (fun handlers => do
      return (← Writer.count16 .exceptionTable handlers.length) ++
        (← Except.ok (handlers.flatMap Handler.bytes)))
      fun handlers => ∀ h ∈ handlers, h.bytes.length = 8) := by
  have one : Codec fuel (do return Handler.mk (← Reader.bytes 8))
      (Form.written (fun h => .ok h.bytes) fun h => h.bytes.length = 8) := by
    refine ((Codec.bytes 8).bind fun data => .pure (Handler.mk data)).conv ?_ ?_
    · rintro _ _ ⟨_, data, _, ⟨rfl, size⟩, ⟨rfl, rfl⟩, rfl⟩
      rw [List.append_nil]
      exact ⟨size, rfl⟩
    · rintro _ ⟨data⟩ ⟨size, written⟩ _
      cases written
      exact ⟨data, data, [], ⟨rfl, size⟩, ⟨rfl, rfl⟩, (List.append_nil _).symm⟩
  exact one.counted_written .exceptionTable
    (fun handlers => .ok (handlers.flatMap Handler.bytes)) rfl fun _ _ => rfl

end Handler

mutual
-- Every attribute has the model that its name asks for.
inductive AttributeBody.WellFormed (pool : Pool) : AttributeBody → Prop where
  | code (maxStack maxLocals : UInt16) (instructions : Bytes) (handlers : List Handler)
      (attributes : List Attribute) (sized : ∀ h ∈ handlers, h.bytes.length = 8)
      (each : ∀ a ∈ attributes, Attribute.WellFormed pool a) :
      AttributeBody.WellFormed pool (.code maxStack maxLocals instructions handlers attributes)
  | signature (index : UInt16) : AttributeBody.WellFormed pool (.signature index)
  | localVariables (entries : List LocalVariable) : AttributeBody.WellFormed pool (.localVariables entries)
  | localVariableTypes (entries : List LocalVariable) : AttributeBody.WellFormed pool (.localVariableTypes entries)
  | annotations (items : List AnnotationEntry) (each : ∀ a ∈ items, a.WellFormed) :
      AttributeBody.WellFormed pool (.annotations items)
  | parameterAnnotations (parameters : List (List AnnotationEntry))
      (each : ∀ items ∈ parameters, ∀ a ∈ items, a.WellFormed) :
      AttributeBody.WellFormed pool (.parameterAnnotations parameters)
  | typeAnnotations (items : List TypeAnnotationEntry) (each : ∀ a ∈ items, a.WellFormed) :
      AttributeBody.WellFormed pool (.typeAnnotations items)
  | annotationDefault (value : ElementValue) (valid : value.WellFormed) :
      AttributeBody.WellFormed pool (.annotationDefault value)
  | record (components : List RecordComponent)
      (each : ∀ c ∈ components, RecordComponent.WellFormed pool c) :
      AttributeBody.WellFormed pool (.record components)
  | raw (data : Bytes) : AttributeBody.WellFormed pool (.raw data)

inductive Attribute.WellFormed (pool : Pool) : Attribute → Prop where
  | mk (name : UInt16) (body : AttributeBody)
      (kind : body.kind = .ofName ((pool.text name).toOption.getD []))
      (valid : AttributeBody.WellFormed pool body) : Attribute.WellFormed pool (.mk name body)

inductive RecordComponent.WellFormed (pool : Pool) : RecordComponent → Prop where
  | mk (name descriptor : UInt16) (attributes : List Attribute)
      (each : ∀ a ∈ attributes, Attribute.WellFormed pool a) :
      RecordComponent.WellFormed pool (.mk name descriptor attributes)
end

-- The length of code is written modulo 2 to the power of 32, so more code would not be read back.
def AttributeBody.Sized : AttributeBody → Prop
  | code _ _ instructions _ _ => instructions.length < 0x100000000
  | _ => True

structure AttributeBody.Fits (pool : Pool) (kind : AttributeKind) (body : AttributeBody) : Prop where
  kind : body.kind = kind
  valid : body.WellFormed pool
  sized : body.Sized

def AttributeBody.Consists (pool : Pool) (body : AttributeBody) : AttributeKind → Prop
  | .code => ∃ maxStack maxLocals instructions handlers attributes,
      body = .code maxStack maxLocals instructions handlers attributes ∧
        (∀ h ∈ handlers, h.bytes.length = 8) ∧ (∀ a ∈ attributes, Attribute.WellFormed pool a) ∧
        instructions.length < 0x100000000
  | .signature => ∃ index, body = .signature index ∧ True
  | .localVariables => ∃ entries, body = .localVariables entries ∧ True
  | .localVariableTypes => ∃ entries, body = .localVariableTypes entries ∧ True
  | .annotations => ∃ items, body = .annotations items ∧ ∀ a ∈ items, a.WellFormed
  | .parameterAnnotations =>
      ∃ parameters, body = .parameterAnnotations parameters ∧ ∀ items ∈ parameters, ∀ a ∈ items, a.WellFormed
  | .typeAnnotations => ∃ items, body = .typeAnnotations items ∧ ∀ a ∈ items, a.WellFormed
  | .annotationDefault => ∃ value, body = .annotationDefault value ∧ value.WellFormed
  | .record => ∃ components, body = .record components ∧ ∀ c ∈ components, RecordComponent.WellFormed pool c
  | .raw => ∃ data, body = .raw data ∧ True

theorem AttributeBody.fits_iff (pool : Pool) (kind : AttributeKind) (body : AttributeBody) :
    body.Fits pool kind ↔ body.Consists pool kind := by
  constructor
  · rintro ⟨rfl, valid, sized⟩
    cases valid with
    | code _ _ _ _ _ whole each => exact ⟨_, _, _, _, _, rfl, whole, each, sized⟩
    | signature index => exact ⟨index, rfl, trivial⟩
    | localVariables entries => exact ⟨entries, rfl, trivial⟩
    | localVariableTypes entries => exact ⟨entries, rfl, trivial⟩
    | annotations items each => exact ⟨items, rfl, each⟩
    | parameterAnnotations parameters each => exact ⟨parameters, rfl, each⟩
    | typeAnnotations items each => exact ⟨items, rfl, each⟩
    | annotationDefault value valid => exact ⟨value, rfl, valid⟩
    | record components each => exact ⟨components, rfl, each⟩
    | raw data => exact ⟨data, rfl, trivial⟩
  · intro consists
    cases kind with
    | code =>
        obtain ⟨_, _, _, _, _, rfl, whole, each, sized⟩ := consists
        exact ⟨rfl, .code _ _ _ _ _ whole each, sized⟩
    | _ =>
        obtain ⟨_, rfl, each⟩ := consists
        refine ⟨rfl, ?_, trivial⟩
        constructor <;> exact each

abbrev Attribute.ListForm (pool : Pool) : Form (List Attribute) :=
  Form.written Attribute.writeAll fun attributes => ∀ a ∈ attributes, a.WellFormed pool

theorem Attribute.list_filled (pool : Pool) (attributes : List Attribute) :
    ¬ Attribute.ListForm pool [] attributes := by
  rintro ⟨_, written⟩
  obtain ⟨front, back, counted, _, same⟩ := (Writer.append_ok _ _ _).mp written
  obtain ⟨_, rfl⟩ := (Writer.count16_ok _ _ _).mp counted
  cases same

namespace AttributeBody

variable {fuel : Nat} {pool : Pool} {attributes : Reader (List Attribute)}

theorem code_written (maxStack maxLocals : UInt16) (instructions : Bytes) (handlers : List Handler)
    (attributes : List Attribute) (bytes : Bytes) :
    (code maxStack maxLocals instructions handlers attributes).write = .ok bytes ↔ ∃ table back,
      (do return (← Writer.count16 .exceptionTable handlers.length) ++
        (← Except.ok (handlers.flatMap Handler.bytes))) = Except.ok table ∧
      Attribute.writeAll attributes = .ok back ∧
      bytes = Bytes.ofU16 maxStack ++ (Bytes.ofU16 maxLocals ++
        (Bytes.ofU32 instructions.length.toUInt32 ++ (instructions ++ (table ++ back)))) := by
  constructor
  · intro written
    obtain ⟨count, counted, rest⟩ := bind_ok.mp written
    obtain ⟨total, totalled, rest⟩ := bind_ok.mp rest
    obtain ⟨back, others, final⟩ := bind_ok.mp rest
    cases final
    refine ⟨_, _, (Writer.append_ok _ _ _).mpr ⟨count, _, counted, rfl, rfl⟩,
      (Writer.append_ok _ _ _).mpr ⟨total, back, totalled, others, rfl⟩, ?_⟩
    simp only [List.append_assoc]
  · rintro ⟨_, _, first, second, rfl⟩
    obtain ⟨count, _, counted, same, rfl⟩ := (Writer.append_ok _ _ _).mp first
    obtain ⟨total, back, totalled, others, rfl⟩ := (Writer.append_ok _ _ _).mp second
    cases same
    refine bind_ok.mpr ⟨count, counted, bind_ok.mpr ⟨total, totalled, bind_ok.mpr ⟨back, others, ?_⟩⟩⟩
    simp only [List.append_assoc]
    rfl

theorem code_codec (codec : Codec fuel attributes (Attribute.ListForm pool)) :
    Codec fuel (Reader.code attributes) (Form.written write (Fits pool .code)) := by
  refine (Codec.u16.bind fun maxStack => Codec.u16.bind fun maxLocals => Codec.u32.bind fun length =>
    (Codec.bytes length.toNat).bind fun instructions => Handler.list_codec.bind fun handlers =>
      codec.bind fun nested => .pure (code maxStack maxLocals instructions handlers nested)).conv ?_ ?_
  · rintro _ _ ⟨maxStack, _, _, rfl, ⟨maxLocals, _, _, rfl, ⟨length, _, _, rfl, ⟨_, instructions, _,
      ⟨rfl, size⟩, ⟨handlers, table, _, ⟨sized, first⟩, ⟨nested, back, _, ⟨each, second⟩, ⟨rfl, rfl⟩,
      rfl⟩, rfl⟩, rfl⟩, rfl⟩, rfl⟩, rfl⟩
    have small : instructions.length < 0x100000000 := by
      rw [size]
      exact length.toNat_lt
    have same : instructions.length.toUInt32 = length := by
      rw [size]
      exact UInt32.ofNat_toNat
    refine ⟨(fits_iff _ _ _).mpr ⟨_, _, _, _, _, rfl, sized, each, small⟩, ?_⟩
    refine (code_written _ _ _ _ _ _).mpr ⟨table, back, first, second, ?_⟩
    rw [same, List.append_nil]
  · rintro bytes body ⟨fits, written⟩ _
    obtain ⟨maxStack, maxLocals, instructions, handlers, nested, rfl, sized, each, small⟩ :=
      (fits_iff _ _ _).mp fits
    obtain ⟨table, back, first, second, rfl⟩ := (code_written _ _ _ _ _ _).mp written
    have size : instructions.length.toUInt32.toNat = instructions.length := UInt32.toNat_ofNat_of_lt' small
    exact ⟨maxStack, _, _, rfl, ⟨maxLocals, _, _, rfl, ⟨_, _, _, rfl, ⟨instructions, instructions,
      _, ⟨rfl, size.symm⟩, ⟨handlers, table, _, ⟨sized, first⟩, ⟨nested, back, [], ⟨each, second⟩,
      ⟨rfl, rfl⟩, (List.append_nil _).symm⟩, rfl⟩, rfl⟩, rfl⟩, rfl⟩, rfl⟩

-- The kinds whose body is one item, or one counted list.
theorem wrapped_codec {α : Type} {item : Reader α} {writeItem : α → Except FormatError Bytes}
    {good : α → Prop} (codec : Codec fuel item (Form.written writeItem good)) (kind : AttributeKind)
    (make : α → AttributeBody) (same : ∀ a, (make a).write = writeItem a)
    (consists : ∀ body, Consists pool body kind ↔ ∃ a, body = make a ∧ good a) :
    Codec fuel (do return make (← item)) (Form.written write (Fits pool kind)) := by
  refine (codec.bind fun a => .pure (make a)).conv ?_ ?_
  · rintro _ _ ⟨a, bytes, _, ⟨valid, written⟩, ⟨rfl, rfl⟩, rfl⟩
    rw [List.append_nil]
    exact ⟨(fits_iff _ _ _).mpr ((consists _).mpr ⟨a, rfl, valid⟩), (same a).trans written⟩
  · rintro bytes body ⟨fits, written⟩ _
    obtain ⟨a, rfl, valid⟩ := (consists body).mp ((fits_iff _ _ _).mp fits)
    exact ⟨a, bytes, [], ⟨valid, (same a).symm.trans written⟩, ⟨rfl, rfl⟩, (List.append_nil _).symm⟩

theorem parameters_codec : Codec fuel (do
      let count ← Reader.u8
      return parameterAnnotations
        (← Reader.times count.toNat (Reader.counted (Reader.annotationEntry fuel))))
    (Form.written write (Fits pool .parameterAnnotations)) := by
  refine (Codec.u8.bind fun count => ((AnnotationEntry.list_codec fuel).times count.toNat).bind
    fun parameters => .pure (parameterAnnotations parameters)).conv ?_ ?_
  · rintro _ _ ⟨count, _, _, rfl, ⟨parameters, back, _, ⟨size, each⟩, ⟨rfl, rfl⟩, rfl⟩, rfl⟩
    obtain ⟨valid, written⟩ :=
      (Form.each_written (Writer.each AnnotationEntry.writeAll) rfl (Writer.each_cons _) _ _).mp each
    have small : parameters.length < 0x100 := by
      rw [size]
      exact count.toNat_lt
    have same : parameters.length.toUInt8 = count := by
      rw [size]
      exact UInt8.ofNat_toNat
    refine ⟨(fits_iff _ _ _).mpr ⟨parameters, rfl, valid⟩, ?_⟩
    rw [List.append_nil]
    exact (Writer.append_ok _ _ _).mpr
      ⟨[count], back, (Writer.count8_ok _ _ _).mpr ⟨small, by rw [same]⟩, written, rfl⟩
  · rintro bytes body ⟨fits, written⟩ _
    obtain ⟨parameters, rfl, each⟩ := (fits_iff _ _ _).mp fits
    obtain ⟨_, back, counted, others, rfl⟩ := (Writer.append_ok _ _ _).mp written
    obtain ⟨small, rfl⟩ := (Writer.count8_ok _ _ _).mp counted
    have size : parameters.length.toUInt8.toNat = parameters.length := UInt8.toNat_ofNat_of_lt' small
    exact ⟨_, _, _, rfl, ⟨parameters, back, [], ⟨size.symm, (Form.each_written
      (Writer.each AnnotationEntry.writeAll) rfl (Writer.each_cons _) _ _).mpr ⟨each, others⟩⟩, ⟨rfl, rfl⟩,
      (List.append_nil _).symm⟩, rfl⟩

theorem component_codec (codec : Codec fuel attributes (Attribute.ListForm pool)) :
    Codec fuel (Reader.recordComponent attributes)
      (Form.written RecordComponent.write (RecordComponent.WellFormed pool)) := by
  refine (Codec.u16.bind fun name => Codec.u16.bind fun descriptor => codec.bind fun nested =>
    .pure (RecordComponent.mk name descriptor nested)).conv ?_ ?_
  · rintro _ _ ⟨name, _, _, rfl, ⟨descriptor, _, _, rfl, ⟨nested, back, _, ⟨each, written⟩, ⟨rfl, rfl⟩,
      rfl⟩, rfl⟩, rfl⟩
    rw [List.append_nil, ← List.append_assoc]
    exact ⟨.mk _ _ _ each, (Writer.after_ok _ _ _ _).mpr ⟨back, written, rfl⟩⟩
  · rintro bytes component ⟨valid, written⟩ _
    cases valid with
    | mk name descriptor nested each =>
        obtain ⟨back, others, rfl⟩ := (Writer.after_ok _ _ _ _).mp written
        rw [List.append_assoc]
        exact ⟨name, _, _, rfl, ⟨descriptor, _, _, rfl, ⟨nested, back, [], ⟨each, others⟩, ⟨rfl, rfl⟩,
          (List.append_nil _).symm⟩, rfl⟩, rfl⟩

theorem components_codec (codec : Codec fuel attributes (Attribute.ListForm pool)) :
    Codec fuel (Reader.counted (Reader.recordComponent attributes)) (Form.written (fun components => do
      return (← Writer.count16 .recordComponents components.length) ++
        (← RecordComponent.writeEach components))
      fun components => ∀ c ∈ components, RecordComponent.WellFormed pool c) :=
  (component_codec codec).counted_written .recordComponents RecordComponent.writeEach rfl
    fun _ _ => rfl

-- A case for each kind that has a model; the other bodies are all the bytes that there are.
theorem read_codec (codec : Codec fuel attributes (Attribute.ListForm pool)) (kind : AttributeKind)
    (known : kind ≠ .raw) :
    Codec fuel (Reader.attributeBody attributes fuel kind) (Form.written write (Fits pool kind)) := by
  cases kind with
  | code => exact code_codec codec
  | signature => exact wrapped_codec Codec.u16.exactly _ signature (fun _ => rfl) fun _ => Iff.rfl
  | localVariables =>
      exact wrapped_codec LocalVariable.list_codec _ localVariables (fun _ => rfl) fun _ => Iff.rfl
  | localVariableTypes =>
      exact wrapped_codec LocalVariable.list_codec _ localVariableTypes (fun _ => rfl) fun _ => Iff.rfl
  | annotations =>
      exact wrapped_codec (AnnotationEntry.list_codec fuel) _ annotations (fun _ => rfl) fun _ => Iff.rfl
  | parameterAnnotations => exact parameters_codec
  | typeAnnotations =>
      exact wrapped_codec (TypeAnnotationEntry.list_codec fuel) _ typeAnnotations (fun _ => rfl) fun _ => Iff.rfl
  | annotationDefault =>
      exact wrapped_codec (ElementValue.read_codec fuel) _ annotationDefault (fun _ => rfl) fun _ => Iff.rfl
  | record => exact wrapped_codec (components_codec codec) _ record (fun _ => rfl) fun _ => Iff.rfl
  | raw => exact absurd rfl known

theorem whole_body_sound (codec : Codec fuel attributes (Attribute.ListForm pool)) (name : Text)
    (data : Bytes) (body : AttributeBody)
    (done : Reader.wholeBody attributes fuel name data = .ok body) :
    Form.written write (Fits pool (.ofName name)) data body := by
  unfold Reader.wholeBody at done
  generalize AttributeKind.ofName name = kind at done ⊢
  by_cases known : kind = .raw
  · subst known
    cases done
    exact ⟨⟨rfl, .raw data, trivial⟩, rfl⟩
  · obtain ⟨⟨other, after⟩, reads, rest⟩ := bind_ok.mp done
    obtain ⟨bytes, formed, split, _⟩ := (read_codec codec kind known).sound _ other after reads
    dsimp only at rest
    split at rest
    · rename_i empty
      cases rest
      have whole : data = bytes ++ after.rest := split
      rw [List.isEmpty_iff.mp empty, List.append_nil] at whole
      rw [whole]
      exact formed
    · cases rest

theorem whole_body_complete (codec : Codec fuel attributes (Attribute.ListForm pool)) (name : Text)
    (data : Bytes) (short : data.length ≤ fuel) (body : AttributeBody)
    (formed : Form.written write (Fits pool (.ofName name)) data body) :
    Reader.wholeBody attributes fuel name data = .ok body := by
  unfold Reader.wholeBody
  generalize AttributeKind.ofName name = kind at formed ⊢
  by_cases known : kind = .raw
  · subst known
    obtain ⟨fits, written⟩ := formed
    obtain ⟨other, rfl, _⟩ := (fits_iff _ _ _).mp fits
    cases written
    rfl
  · have reads := (read_codec codec kind known).complete data body [] 0 formed short
    rw [List.append_nil] at reads
    exact bind_ok.mpr ⟨_, reads, rfl⟩

theorem sized_of_written (body : AttributeBody) (bytes : Bytes) (written : body.write = .ok bytes)
    (small : bytes.length < 0x100000000) : body.Sized := by
  cases body with
  | code maxStack maxLocals instructions handlers attributes =>
      obtain ⟨table, back, _, _, rfl⟩ := (code_written _ _ _ _ _ _).mp written
      simp only [List.length_append] at small
      show instructions.length < 0x100000000
      omega
  | _ => trivial

end AttributeBody

namespace Attribute

variable {fuel : Nat} {pool : Pool}

theorem written_iff (name : UInt16) (body : AttributeBody) (bytes : Bytes) :
    (mk name body).write = .ok bytes ↔ ∃ data, body.write = .ok data ∧ data.length < 0x100000000 ∧
      bytes = Bytes.ofU16 name ++ (Bytes.ofU32 data.length.toUInt32 ++ data) := by
  constructor
  · intro written
    obtain ⟨data, inner, rest⟩ := bind_ok.mp written
    obtain ⟨count, counted, final⟩ := bind_ok.mp rest
    obtain ⟨small, rfl⟩ := (Writer.count32_ok _ _ _).mp counted
    cases final
    exact ⟨data, inner, small, List.append_assoc _ _ _⟩
  · rintro ⟨data, inner, small, rfl⟩
    refine bind_ok.mpr ⟨data, inner, bind_ok.mpr ⟨_, (Writer.count32_ok _ _ _).mpr ⟨small, rfl⟩, ?_⟩⟩
    rw [← List.append_assoc]
    rfl

theorem item_codec (codec : Codec fuel (Reader.attributes pool fuel) (ListForm pool)) :
    Codec (fuel + 1) (do
        let name ← Reader.u16
        let length ← Reader.u32
        let data ← Reader.bytes length.toNat
        let text := (pool.text name).toOption.getD []
        match Reader.wholeBody (Reader.attributes pool fuel) fuel text data with
        | .ok body => return .mk name body
        | .error e => Reader.fail e)
      (Form.written write (WellFormed pool)) := by
  refine Codec.conv (Codec.u16.bind fun name => Codec.u32.bind fun length =>
    (Codec.bytes length.toNat).bind fun data => Codec.answer
      (Reader.wholeBody (Reader.attributes pool fuel) fuel ((pool.text name).toOption.getD []) data)
      (mk name) ?_ ?_) ?_ ?_
  · intro body same
    dsimp only
    rw [same]
  · intro e same
    dsimp only
    rw [same]
  · rintro _ _ ⟨name, _, _, rfl, ⟨length, _, _, rfl, ⟨_, data, _, ⟨rfl, size⟩, ⟨rfl, body, reads, rfl⟩,
      rfl⟩, rfl⟩, rfl⟩
    obtain ⟨fits, written⟩ := AttributeBody.whole_body_sound codec _ data body reads
    refine ⟨.mk name body fits.kind fits.valid, (written_iff _ _ _).mpr ⟨data, written, ?_, ?_⟩⟩
    · rw [size]
      exact length.toNat_lt
    · rw [size, List.append_nil]
      exact congrArg (fun n => Bytes.ofU16 name ++ (Bytes.ofU32 n ++ data)) UInt32.ofNat_toNat.symm
  · rintro bytes a ⟨valid, written⟩ short
    cases valid with
    | mk name body kind valid =>
        obtain ⟨data, inner, small, rfl⟩ := (written_iff _ _ _).mp written
        have inside : data.length ≤ fuel := by
          simp only [List.length_append, Bytes.ofU16, List.length_cons] at short
          omega
        have size : data.length.toUInt32.toNat = data.length := UInt32.toNat_ofNat_of_lt' small
        have sized := AttributeBody.sized_of_written body data inner small
        have reads := AttributeBody.whole_body_complete codec _ data inside body
          ⟨⟨kind, valid, sized⟩, inner⟩
        exact ⟨name, _, _, rfl, ⟨_, _, _, rfl, ⟨data, data, [], ⟨rfl, size.symm⟩,
          ⟨rfl, body, reads, rfl⟩, (List.append_nil _).symm⟩, rfl⟩, rfl⟩

theorem list_codec (pool : Pool) (fuel : Nat) :
    Codec fuel (Reader.attributes pool fuel) (ListForm pool) := by
  induction fuel with
  | zero => exact Codec.truncated (list_filled pool)
  | succ fuel ih => exact (item_codec ih).counted_written .attributes writeEach rfl fun _ _ => rfl

end Attribute

end Shading
