import Shading.Proofs.ClassFile.RoundTrip

set_option autoImplicit false

namespace Shading

open Fallible

def Counted.capacity : Counted → Nat
  | parameterAnnotations => 0xFF
  | attributeBody => 0xFFFFFFFF
  | _ => 0xFFFF

structure Extent where
  size : Nat
  counts : List (Counted × Nat)

namespace Extent

instance : Append Extent := ⟨fun a b => ⟨a.size + b.size, a.counts ++ b.counts⟩⟩

def fixed (size : Nat) : Extent := ⟨size, []⟩

def count (what : Counted) (width n : Nat) : Extent := ⟨width, [(what, n)]⟩

def sum (extents : List Extent) : Extent := extents.foldr (· ++ ·) (fixed 0)

@[simp]
theorem append_size (a b : Extent) : (a ++ b).size = a.size + b.size := rfl

@[simp]
theorem append_counts (a b : Extent) : (a ++ b).counts = a.counts ++ b.counts := rfl

@[simp]
theorem fixed_size (size : Nat) : (fixed size).size = size := rfl

@[simp]
theorem fixed_counts (size : Nat) : (fixed size).counts = [] := rfl

@[simp]
theorem count_size (what : Counted) (width n : Nat) : (count what width n).size = width := rfl

@[simp]
theorem count_counts (what : Counted) (width n : Nat) :
    (count what width n).counts = [(what, n)] := rfl

def Overflows (e : Extent) : Prop := ∃ k ∈ e.counts, k.1.capacity < k.2

@[simp]
theorem overflows_append (a b : Extent) : (a ++ b).Overflows ↔ a.Overflows ∨ b.Overflows := by
  constructor
  · rintro ⟨k, member, exceeds⟩
    rcases List.mem_append.mp member with first | second
    · exact .inl ⟨k, first, exceeds⟩
    · exact .inr ⟨k, second, exceeds⟩
  · rintro (⟨k, first, exceeds⟩ | ⟨k, second, exceeds⟩)
    · exact ⟨k, List.mem_append_left _ first, exceeds⟩
    · exact ⟨k, List.mem_append_right _ second, exceeds⟩

@[simp]
theorem overflows_fixed (size : Nat) : ¬ (fixed size).Overflows := nofun

@[simp]
theorem overflows_count (what : Counted) (width n : Nat) :
    (count what width n).Overflows ↔ what.capacity < n := by
  simp [Overflows]

@[simp]
theorem overflows_sum (extents : List Extent) : (sum extents).Overflows ↔ ∃ e ∈ extents, e.Overflows := by
  induction extents with
  | nil => simp [sum]
  | cons e rest ih =>
      show (e ++ sum rest).Overflows ↔ _
      rw [overflows_append, ih, List.exists_mem_cons_iff]

end Extent

structure Measures (result : Except FormatError Bytes) (e : Extent) : Prop where
  written : ∀ bytes, result = .ok bytes → bytes.length = e.size ∧ ¬ e.Overflows
  failed : ∀ error, result = .error error →
    ∃ k ∈ e.counts, k.1.capacity < k.2 ∧ error = .tooLong k.1 k.2

namespace Measures

variable {x : Except FormatError Bytes} {a : Extent}

theorem done {bytes : Bytes} {size : Nat} (length : bytes.length = size) :
    Measures (.ok bytes) ⟨size, []⟩ where
  written := by
    rintro _ ⟨⟩
    exact ⟨length, by rintro ⟨k, ⟨⟩, _⟩⟩
  failed := nofun

theorem bind {f : Bytes → Except FormatError Bytes} {size : Nat} {counts : List (Counted × Nat)}
    (first : Measures x a)
    (rest : ∀ bytes, bytes.length = a.size → Measures (f bytes) ⟨size, counts⟩) :
    Measures (x >>= f) ⟨size, a.counts ++ counts⟩ where
  written := by
    intro bytes done
    obtain ⟨front, start, next⟩ := bind_ok.mp done
    obtain ⟨length, fits⟩ := first.written front start
    obtain ⟨total, fitsRest⟩ := (rest front length).written bytes next
    refine ⟨total, ?_⟩
    rintro ⟨k, member, exceeds⟩
    rcases List.mem_append.mp member with old | new
    · exact fits ⟨k, old, exceeds⟩
    · exact fitsRest ⟨k, new, exceeds⟩
  failed := by
    intro error failed
    cases result : x with
    | error e =>
        rw [result] at failed
        cases failed
        obtain ⟨k, member, exceeds, same⟩ := first.failed error result
        exact ⟨k, List.mem_append_left _ member, exceeds, same⟩
    | ok front =>
        rw [result] at failed
        obtain ⟨length, _⟩ := first.written front result
        obtain ⟨k, member, exceeds, same⟩ := (rest front length).failed error failed
        exact ⟨k, List.mem_append_right _ member, exceeds, same⟩

theorem of_same {b : Extent} (measures : Measures x a) (size : a.size = b.size)
    (counts : ∀ k, k ∈ a.counts ↔ k ∈ b.counts) : Measures x b where
  written := by
    intro bytes done
    obtain ⟨length, fits⟩ := measures.written bytes done
    refine ⟨length.trans size, ?_⟩
    rintro ⟨k, member, exceeds⟩
    exact fits ⟨k, (counts k).mpr member, exceeds⟩
  failed := by
    intro error failed
    obtain ⟨k, member, exceeds, same⟩ := measures.failed error failed
    exact ⟨k, (counts k).mp member, exceeds, same⟩

theorem append {y : Except FormatError Bytes} {b : Extent} (first : Measures x a)
    (second : Measures y b) : Measures (do return (← x) ++ (← y)) (a ++ b) := by
  refine (first.bind fun front length => second.bind fun back total => done ?_).of_same rfl ?_
  · rw [List.length_append, length, total]
  · simp

theorem behind (start : Bytes) (rest : Measures x a) :
    Measures (do return start ++ (← x)) (.fixed start.length ++ a) := by
  refine (rest.bind fun back length => done ?_).of_same rfl ?_
  · rw [List.length_append, length]
    rfl
  · simp

theorem after (start : Bytes) {y : Except FormatError Bytes} {b : Extent} (first : Measures x a)
    (second : Measures y b) :
    Measures (do return start ++ (← x) ++ (← y)) (.fixed start.length ++ a ++ b) := by
  refine (first.bind fun front length => second.bind fun back total => done ?_).of_same rfl ?_
  · rw [List.length_append, List.length_append, length, total]
    rfl
  · simp

theorem each {α : Type} {write : α → Except FormatError Bytes} {extent : α → Extent}
    (item : ∀ a, Measures (write a) (extent a)) (items : List α) :
    Measures (Writer.each write items) (Extent.sum (items.map extent)) := by
  induction items with
  | nil => exact done rfl
  | cons a rest ih =>
      rw [Writer.each_cons]
      exact (item a).append ih

theorem counted (what : Counted) (n limit : Nat) (bytes : Bytes) (capacity : what.capacity + 1 = limit) :
    Measures (if n < limit then .ok bytes else .error (.tooLong what n))
      (Extent.count what bytes.length n) where
  written := by
    intro result done
    split at done
    · cases done
      refine ⟨rfl, ?_⟩
      rintro ⟨k, member, exceeds⟩
      cases List.mem_singleton.mp member
      dsimp only at exceeds
      omega
    · cases done
  failed := by
    intro error failed
    split at failed
    · cases failed
    · cases failed
      exact ⟨(what, n), List.mem_singleton_self _, by dsimp only; omega, rfl⟩

theorem count16 (what : Counted) (n : Nat) (capacity : what.capacity = 0xFFFF) :
    Measures (Writer.count16 what n) (Extent.count what 2 n) :=
  counted what n _ (Bytes.ofU16 n.toUInt16) (congrArg Nat.succ capacity)

theorem count8 (what : Counted) (n : Nat) (capacity : what.capacity = 0xFF) :
    Measures (Writer.count8 what n) (Extent.count what 1 n) :=
  counted what n _ [n.toUInt8] (congrArg Nat.succ capacity)

theorem count32 (what : Counted) (n : Nat) (capacity : what.capacity = 0xFFFFFFFF) :
    Measures (Writer.count32 what n) (Extent.count what 4 n) :=
  counted what n _ (Bytes.ofU32 n.toUInt32) (congrArg Nat.succ capacity)

end Measures

def Constant.extent : Constant → Extent
  | unusable => .fixed 0
  | utf8 payload => .count .utf8Constant 2 payload.length ++ .fixed (1 + payload.length)
  | integer _ => .fixed 5
  | float _ => .fixed 5
  | long _ => .fixed 9
  | double _ => .fixed 9
  | classRef _ => .fixed 3
  | string _ => .fixed 3
  | fieldRef _ _ => .fixed 5
  | methodRef _ _ => .fixed 5
  | interfaceMethodRef _ _ => .fixed 5
  | nameAndType _ _ => .fixed 5
  | methodHandle _ _ => .fixed 4
  | methodType _ => .fixed 3
  | dynamic _ _ => .fixed 5
  | invokeDynamic _ _ => .fixed 5
  | module _ => .fixed 3
  | package _ => .fixed 3

theorem Constant.measured (k : Constant) : Measures k.write k.extent := by
  cases k with
  | utf8 payload =>
      refine ((Measures.count16 .utf8Constant payload.length rfl).bind fun count length =>
        .done ?_).of_same rfl fun _ => Iff.rfl
      rw [List.length_append, List.length_cons, length]
      simp
      omega
  | _ => exact .done rfl

def Pool.extent (pool : Pool) : Extent :=
  .count .constantPool 2 pool.slots.size ++ .sum (pool.slots.toList.map Constant.extent)

-- A pool can be written when its slots can be numbered and its texts have lengths of two bytes.
theorem Pool.overflows_iff (pool : Pool) : pool.extent.Overflows ↔ 0xFFFF < pool.slots.size ∨
    ∃ payload, .utf8 payload ∈ pool.slots.toList ∧ 0xFFFF < payload.length := by
  have one (k : Constant) : k.extent.Overflows ↔ ∃ payload, k = .utf8 payload ∧ 0xFFFF < payload.length := by
    cases k <;> simp [Constant.extent, Counted.capacity]
  simp only [extent, Extent.overflows_append, Extent.overflows_count, Extent.overflows_sum]
  refine or_congr Iff.rfl ⟨?_, ?_⟩
  · rintro ⟨_, listed, exceeds⟩
    obtain ⟨k, member, rfl⟩ := List.mem_map.mp listed
    obtain ⟨payload, rfl, long⟩ := (one k).mp exceeds
    exact ⟨payload, member, long⟩
  · rintro ⟨payload, member, long⟩
    exact ⟨_, List.mem_map_of_mem member, (one _).mpr ⟨payload, rfl, long⟩⟩

theorem Pool.measured (pool : Pool) : Measures pool.write pool.extent :=
  (Measures.count16 .constantPool pool.slots.size rfl).append (.each Constant.measured _)

mutual
def ElementValue.extent : ElementValue → Extent
  | .const _ _ => .fixed 3
  | .enumConst _ _ => .fixed 5
  | .classInfo _ => .fixed 3
  | .nested _ elements =>
      .fixed 3 ++ .count .annotationElements 2 elements.length ++ ElementValue.extentOfElements elements
  | .array values =>
      .fixed 1 ++ .count .annotationArray 2 values.length ++ ElementValue.extentOfValues values
termination_by structural value => value

def ElementValue.extentOfValues : List ElementValue → Extent
  | [] => .fixed 0
  | value :: rest => value.extent ++ ElementValue.extentOfValues rest
termination_by structural values => values

def ElementValue.extentOfElements : List (UInt16 × ElementValue) → Extent
  | [] => .fixed 0
  | (_, value) :: rest => .fixed 2 ++ value.extent ++ ElementValue.extentOfElements rest
termination_by structural elements => elements
end

mutual
theorem ElementValue.measured (value : ElementValue) : Measures value.write value.extent := by
  cases value with
  | nested type elements =>
      exact .after (0x40 :: Bytes.ofU16 type) (.count16 .annotationElements elements.length rfl)
        (ElementValue.measured_elements elements)
  | array values =>
      exact .after [0x5B] (.count16 .annotationArray values.length rfl)
        (ElementValue.measured_values values)
  | _ => exact .done rfl

theorem ElementValue.measured_values (values : List ElementValue) :
    Measures (ElementValue.writeValues values) (ElementValue.extentOfValues values) := by
  cases values with
  | nil => exact .done rfl
  | cons value rest => exact value.measured.append (ElementValue.measured_values rest)

theorem ElementValue.measured_elements (elements : List (UInt16 × ElementValue)) :
    Measures (ElementValue.writeElements elements) (ElementValue.extentOfElements elements) := by
  cases elements with
  | nil => exact .done rfl
  | cons e rest =>
      cases e with
      | mk name value =>
          exact .after (Bytes.ofU16 name) value.measured (ElementValue.measured_elements rest)
end

def AnnotationEntry.extent (a : AnnotationEntry) : Extent :=
  .fixed 2 ++ .count .annotationElements 2 a.elements.length ++ ElementValue.extentOfElements a.elements

theorem AnnotationEntry.measured (a : AnnotationEntry) : Measures a.write a.extent :=
  .after (Bytes.ofU16 a.type) (.count16 .annotationElements a.elements.length rfl)
    (ElementValue.measured_elements a.elements)

def AnnotationEntry.extentOfAll (annotations : List AnnotationEntry) : Extent :=
  .count .annotations 2 annotations.length ++ .sum (annotations.map extent)

theorem AnnotationEntry.measured_all (annotations : List AnnotationEntry) :
    Measures (writeAll annotations) (extentOfAll annotations) :=
  (Measures.count16 .annotations annotations.length rfl).append (.each measured annotations)

def TypeAnnotationEntry.extent (a : TypeAnnotationEntry) : Extent :=
  .fixed a.target.length ++ a.entry.extent

theorem TypeAnnotationEntry.measured (a : TypeAnnotationEntry) : Measures a.write a.extent :=
  .behind a.target a.entry.measured

def LocalVariable.extentOfAll (entries : List LocalVariable) : Extent :=
  .count .localVariableTable 2 entries.length ++ .fixed (10 * entries.length)

theorem LocalVariable.measured_all (entries : List LocalVariable) :
    Measures (writeAll entries) (extentOfAll entries) := by
  have length : (entries.flatMap write).length = 10 * entries.length := by
    simp [List.length_flatMap, write, Bytes.ofU16, Nat.mul_comm]
  exact (Measures.count16 .localVariableTable entries.length rfl).append (y := .ok _) (.done length)

mutual
def AttributeBody.extent : AttributeBody → Extent
  | .code _ _ instructions handlers attributes =>
      .fixed (8 + instructions.length) ++ .count .exceptionTable 2 handlers.length ++
        .fixed (handlers.flatMap Handler.bytes).length ++
        .count .attributes 2 attributes.length ++ Attribute.extentOfEach attributes
  | .signature _ => .fixed 2
  | .localVariables entries => LocalVariable.extentOfAll entries
  | .localVariableTypes entries => LocalVariable.extentOfAll entries
  | .annotations items => AnnotationEntry.extentOfAll items
  | .parameterAnnotations parameters =>
      .count .parameterAnnotations 1 parameters.length ++
        .sum (parameters.map AnnotationEntry.extentOfAll)
  | .typeAnnotations items =>
      .count .typeAnnotations 2 items.length ++ .sum (items.map TypeAnnotationEntry.extent)
  | .annotationDefault value => value.extent
  | .record components =>
      .count .recordComponents 2 components.length ++ RecordComponent.extentOfEach components
  | .raw data => .fixed data.length
termination_by structural body => body

def Attribute.extent : Attribute → Extent
  | .mk _ body => .fixed 2 ++ .count .attributeBody 4 body.extent.size ++ body.extent
termination_by structural a => a

def Attribute.extentOfEach : List Attribute → Extent
  | [] => .fixed 0
  | a :: rest => a.extent ++ Attribute.extentOfEach rest
termination_by structural attributes => attributes

def RecordComponent.extent : RecordComponent → Extent
  | .mk _ _ attributes =>
      .fixed 4 ++ .count .attributes 2 attributes.length ++ Attribute.extentOfEach attributes
termination_by structural component => component

def RecordComponent.extentOfEach : List RecordComponent → Extent
  | [] => .fixed 0
  | component :: rest => component.extent ++ RecordComponent.extentOfEach rest
termination_by structural components => components
end

mutual
theorem AttributeBody.measured (body : AttributeBody) : Measures body.write body.extent := by
  cases body with
  | code maxStack maxLocals instructions handlers attributes =>
      refine ((Measures.count16 .exceptionTable handlers.length rfl).bind fun table length =>
        (Measures.count16 .attributes attributes.length rfl).bind fun count total =>
          (Attribute.measured_each attributes).bind fun back size => .done ?_).of_same rfl ?_
      · simp [length, total, size, Bytes.ofU16, Bytes.ofU32, AttributeBody.extent]
        omega
      · simp [AttributeBody.extent]
  | signature index => exact .done rfl
  | localVariables entries => exact LocalVariable.measured_all entries
  | localVariableTypes entries => exact LocalVariable.measured_all entries
  | annotations items => exact AnnotationEntry.measured_all items
  | parameterAnnotations parameters =>
      exact (Measures.count8 .parameterAnnotations parameters.length rfl).append
        (.each AnnotationEntry.measured_all parameters)
  | typeAnnotations items =>
      exact (Measures.count16 .typeAnnotations items.length rfl).append
        (.each TypeAnnotationEntry.measured items)
  | annotationDefault value => exact value.measured
  | record components =>
      exact (Measures.count16 .recordComponents components.length rfl).append
        (RecordComponent.measured_each components)
  | raw data => exact .done rfl

theorem Attribute.measured (a : Attribute) : Measures a.write a.extent := by
  cases a with
  | mk name body =>
      have count (bytes : Bytes) (size : bytes.length = body.extent.size) :
          Measures (Writer.count32 .attributeBody bytes.length)
            (.count .attributeBody 4 body.extent.size) := by
        rw [size]
        exact .count32 .attributeBody body.extent.size rfl
      refine (body.measured.bind fun bytes size => (count bytes size).bind fun field length =>
        .done ?_).of_same rfl ?_
      · rw [List.length_append, List.length_append, length, size]
        rfl
      · simp [Attribute.extent, or_comm]

theorem Attribute.measured_each (attributes : List Attribute) :
    Measures (Attribute.writeEach attributes) (Attribute.extentOfEach attributes) := by
  cases attributes with
  | nil => exact .done rfl
  | cons a rest => exact a.measured.append (Attribute.measured_each rest)

theorem RecordComponent.measured (component : RecordComponent) :
    Measures component.write component.extent := by
  cases component with
  | mk name descriptor attributes =>
      exact .after (Bytes.ofU16 name ++ Bytes.ofU16 descriptor)
        (.count16 .attributes attributes.length rfl) (Attribute.measured_each attributes)

theorem RecordComponent.measured_each (components : List RecordComponent) :
    Measures (RecordComponent.writeEach components) (RecordComponent.extentOfEach components) := by
  cases components with
  | nil => exact .done rfl
  | cons component rest => exact component.measured.append (RecordComponent.measured_each rest)
end

theorem Attribute.measured_all (attributes : List Attribute) :
    Measures (Attribute.writeAll attributes)
      (.count .attributes 2 attributes.length ++ Attribute.extentOfEach attributes) :=
  (Measures.count16 .attributes attributes.length rfl).append (Attribute.measured_each attributes)

namespace Member

def extent (m : Member) : Extent :=
  .fixed 6 ++ (.count .attributes 2 m.attributes.length ++ Attribute.extentOfEach m.attributes)

theorem measured (m : Member) : Measures m.write m.extent :=
  .behind (Bytes.ofU16 m.access ++ Bytes.ofU16 m.name ++ Bytes.ofU16 m.descriptor)
    (Attribute.measured_all m.attributes)

def extentOfAll (members : List Member) : Extent :=
  .count .members 2 members.length ++ .sum (members.map extent)

theorem measured_all (members : List Member) : Measures (writeAll members) (extentOfAll members) :=
  (Measures.count16 .members members.length rfl).append (.each measured members)

end Member

namespace ClassFile

def extent (c : ClassFile) : Extent :=
  .fixed 8 ++ c.pool.extent ++ .fixed 6 ++ .count .interfaces 2 c.interfaces.length ++
    .fixed (2 * c.interfaces.length) ++ Member.extentOfAll c.fields ++ Member.extentOfAll c.methods ++
    .count .attributes 2 c.attributes.length ++ Attribute.extentOfEach c.attributes

theorem measured (c : ClassFile) : Measures c.toBytes c.extent := by
  refine (c.pool.measured.bind fun pool first =>
    (Measures.count16 .interfaces c.interfaces.length rfl).bind fun count second =>
    (Member.measured_all c.fields).bind fun fields third =>
    (Member.measured_all c.methods).bind fun methods fourth =>
    (Attribute.measured_all c.attributes).bind fun attributes fifth => .done ?_).of_same rfl ?_
  · have listed : (c.interfaces.flatMap Bytes.ofU16).length = 2 * c.interfaces.length := by
      simp [List.length_flatMap, Bytes.ofU16, Nat.mul_comm]
    simp only [List.length_append, first, second, third, fourth, fifth, listed, extent,
      Extent.append_size, Extent.fixed_size]
    simp only [Bytes.ofU16, Bytes.ofU32, List.length_cons, List.length_nil]
    omega
  · simp [extent]

theorem fails_iff_overflows (c : ClassFile) : (∃ e, c.toBytes = .error e) ↔ c.extent.Overflows := by
  constructor
  · rintro ⟨e, failed⟩
    obtain ⟨k, member, exceeds, _⟩ := c.measured.failed e failed
    exact ⟨k, member, exceeds⟩
  · intro exceeds
    cases result : c.toBytes with
    | error e => exact ⟨e, rfl⟩
    | ok bytes => exact absurd exceeds (c.measured.written bytes result).2

theorem written_or_overflows (c : ClassFile) (valid : c.WellFormed) :
    ((∃ e, c.toBytes = .error e) ↔ c.extent.Overflows) ∧
      (∀ e, c.toBytes = .error e →
        ∃ k ∈ c.extent.counts, k.1.capacity < k.2 ∧ e = .tooLong k.1 k.2) ∧
      ∀ bytes, c.toBytes = .ok bytes → bytes.length = c.extent.size ∧ parse bytes = .ok c := by
  refine ⟨fails_iff_overflows c, c.measured.failed, ?_⟩
  intro bytes written
  refine ⟨(c.measured.written bytes written).1, (parse_ok bytes c).mpr ⟨valid, ?_⟩⟩
  obtain ⟨pool, first, around⟩ := (to_bytes_ok c bytes).mp written
  exact ⟨pool, ⟨valid.pool, .inl first⟩, around⟩

def signed : ClassFile where
  minor := 0
  major := 61
  pool := ⟨#[.unusable, .utf8 [97, 47, 66], .classRef 1, .long 7, .unusable,
    .utf8 [83, 105, 103, 110, 97, 116, 117, 114, 101], .utf8 [76, 97, 47, 66, 59]]⟩
  access := 33
  thisClass := 2
  superClass := 0
  interfaces := []
  fields := []
  methods := []
  attributes := [.mk 5 (.signature 6)]

theorem signed_well_formed : signed.WellFormed where
  pool := by
    refine ⟨rfl, fun index => ?_⟩
    match index with
    | 0 => decide
    | 1 => decide
    | 2 => decide
    | 3 => decide
    | 4 => decide
    | 5 => decide
    | 6 => decide
    | index + 7 => simp [signed]
  fields := nofun
  methods := nofun
  attributes := by
    intro a member
    cases List.mem_singleton.mp member
    exact .mk 5 (.signature 6) rfl (.signature 6)

theorem signed_is_read_back :
    ∃ bytes, signed.toBytes = .ok bytes ∧ bytes.length = 70 ∧ parse bytes = .ok signed := by
  obtain ⟨_, _, back⟩ := written_or_overflows signed signed_well_formed
  obtain ⟨length, parsed⟩ := back _ rfl
  exact ⟨_, rfl, length, parsed⟩

end ClassFile

end Shading
