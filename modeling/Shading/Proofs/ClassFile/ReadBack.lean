import Shading.Proofs.ClassFile.Frame
import Shading.Proofs.ClassFile.Shape

set_option autoImplicit false

namespace Shading

open Fallible

structure Pool.Writable (pool : Pool) : Prop where
  size : pool.slots.size < 0x10000
  texts : ∀ payload, .utf8 payload ∈ pool.slots.toList → payload.length < 0x10000

theorem Pool.writable_iff (pool : Pool) : pool.Writable ↔ ¬ pool.extent.Overflows := by
  rw [overflows_iff]
  constructor
  · rintro ⟨size, texts⟩ (many | ⟨payload, member, long⟩)
    · omega
    · have short := texts payload member
      omega
  · intro fits
    refine ⟨?_, fun payload member => ?_⟩
    · by_contra many
      exact fits (.inl (by omega))
    · by_contra long
      exact fits (.inr ⟨payload, member, by omega⟩)

namespace Pool.Writable

variable {pool after : Pool}

theorem set_text (writable : pool.Writable) (index : UInt16) (s : Text)
    (done : pool.setText index s = .ok after) : after.Writable := by
  obtain ⟨_, short, slots⟩ := set_text_ok _ _ _ _ done
  refine ⟨by rw [slots, Array.size_setIfInBounds]; exact writable.size, fun payload member => ?_⟩
  rw [slots, Array.toList_setIfInBounds] at member
  rcases List.mem_or_eq_of_mem_set member with old | new
  · exact writable.texts payload old
  · cases new
    exact short

theorem push_text (writable : pool.Writable) (index : UInt16) (s : Text)
    (done : pool.pushText s = .ok (index, after)) : after.Writable := by
  obtain ⟨room, _, short, slots⟩ := push_text_ok _ _ _ _ done
  refine ⟨by rw [slots, Array.size_push]; omega, fun payload member => ?_⟩
  rw [slots, Array.toList_push] at member
  rcases List.mem_append.mp member with old | new
  · exact writable.texts payload old
  · cases List.mem_singleton.mp new
    exact short

theorem map_uses (writable : pool.Writable) (f : Repointing) :
    Writable ⟨pool.slots.map (Constant.mapUses f)⟩ := by
  refine ⟨by rw [Array.size_map]; exact writable.size, fun payload member => ?_⟩
  rw [Array.toList_map] at member
  obtain ⟨k, old, same⟩ := List.mem_map.mp member
  cases k with
  | utf8 bytes =>
      cases same
      exact writable.texts payload old
  | _ => cases same

end Pool.Writable

namespace RenamingPlan

theorem edit_writable (plan : RenamingPlan) (before after : Pool) (writable : before.Writable)
    (done : plan.edit before = .ok after) : after.Writable := by
  refine fold_invariant _ (fun _ pool => pool.Writable) ?_ [] _ before after writable done
  rintro _ pool ⟨w, index⟩ next held step
  dsimp only at step
  split at step
  · exact held.set_text _ _ step
  · cases step
    exact held

theorem append_writable (plan : RenamingPlan) (before : Pool) (state : Pool × Appended)
    (writable : before.Writable) (done : plan.append before = .ok state) : state.1.Writable :=
  plan.append_keeps Pool.Writable (fun _ _ _ _ held pushed => held.push_text _ _ pushed) before state writable done

end RenamingPlan

namespace ClassFile

variable {chain : Chain} {c after : ClassFile}

theorem Framed.old_or_text (framed : c.Framed chain after) (index : Nat) (l : Constant)
    (found : after.pool.slots[index]? = some l) :
    (∃ k, c.pool.slots[index]? = some k ∧ l.tag = k.tag) ∨
      c.pool.slots[index]? = none ∧ ∃ payload, l = .utf8 payload := by
  cases old : c.pool.slots[index]? with
  | some k =>
      obtain ⟨m, now, kept⟩ := framed.slots index k old
      cases found.symm.trans now
      exact .inl ⟨k, rfl, kept.tag⟩
  | none =>
      obtain ⟨texts, _, slots⟩ := framed.appended
      have behind : c.pool.size ≤ index := Array.getElem?_eq_none_iff.mp old
      have new : (after.pool.slots.toList.drop c.pool.size)[index - c.pool.size]? = some l := by
        rw [List.getElem?_drop, Nat.add_sub_cancel' behind, Array.getElem?_toList, found]
      rw [slots] at new
      obtain ⟨s, _, rfl⟩ := List.mem_map.mp (List.mem_of_getElem? new)
      exact .inr ⟨rfl, _, rfl⟩

-- What the kind of a constant decides holds of the same slots as before, if it does not hold of
-- texts.
theorem Framed.slot_iff (framed : c.Framed chain after) (p : Constant → Prop)
    (kind : ∀ k l : Constant, l.tag = k.tag → (p l ↔ p k)) (texts : ∀ payload, ¬ p (.utf8 payload))
    (index : Nat) : (∃ l, after.pool.slots[index]? = some l ∧ p l) ↔
      ∃ k, c.pool.slots[index]? = some k ∧ p k := by
  constructor
  · rintro ⟨l, found, holds⟩
    rcases framed.old_or_text index l found with ⟨k, old, same⟩ | ⟨_, payload, rfl⟩
    · exact ⟨k, old, (kind k l same).mp holds⟩
    · exact absurd holds (texts payload)
  · rintro ⟨k, found, holds⟩
    obtain ⟨l, now, kept⟩ := framed.slots index k found
    exact ⟨l, now, (kind k l kept.tag).mpr holds⟩

theorem wide_of_tag (k l : Constant) (same : l.tag = k.tag) : l.isWide = true ↔ k.isWide = true := by
  have tagged (k : Constant) : k.isWide = true ↔ k.tag = 5 ∨ k.tag = 6 := by
    cases k <;> simp [Constant.isWide, Constant.tag]
  rw [tagged, tagged, same]

theorem unusable_of_tag (k l : Constant) (same : l.tag = k.tag) : l = .unusable ↔ k = .unusable := by
  have tagged (k : Constant) : k = .unusable ↔ k.tag = 0 := by
    cases k <;> simp [Constant.tag]
  rw [tagged, tagged, same]

theorem Framed.pool_well_formed (framed : c.Framed chain after) (valid : c.pool.WellFormed) :
    after.pool.WellFormed := by
  have unusable (index : Nat) :
      after.pool.slots[index]? = some .unusable ↔ c.pool.slots[index]? = some .unusable := by
    simpa using framed.slot_iff (· = .unusable) unusable_of_tag nofun index
  refine ⟨(unusable 0).mpr valid.first, fun index => ?_⟩
  rw [unusable, valid.others]
  exact (framed.slot_iff (fun k => k.isWide = true) wide_of_tag nofun index).symm

theorem payload_of_repointed (before after : Pool) (index : UInt16) (k l : Constant)
    (found : before.slots[index.toNat]? = some k) (now : after.slots[index.toNat]? = some l)
    (repointed : k.Repointed l) : after.payload index = before.payload index := by
  unfold Pool.payload Pool.get?
  rw [found, now]
  cases repointed <;> rfl

-- A text that is used as a name keeps its place, so it has not been agreed on.
theorem Framed.text_of_name (framed : c.Framed chain after) (n : UInt16)
    (used : ⟨n, .fixed⟩ ∈ c.uses) (inside : n.toNat < c.pool.size) :
    after.pool.text n = c.pool.text n := by
  have found := Array.getElem?_eq_getElem inside
  obtain ⟨l, now, repointed | ⟨_, _, _, _, _, agreed⟩⟩ := framed.slots n.toNat _ found
  · unfold Pool.text
    rw [payload_of_repointed c.pool after.pool n _ l found now repointed]
  · have stays : Use.target chain c.pool ⟨n, .fixed⟩ = .ok none := if_pos rfl
    cases stays.symm.trans (agreed _ used rfl)

theorem Framed.attribute_names_read (framed : c.Framed chain after)
    (inside : ∀ n ∈ c.attributeNames, n.toNat < c.pool.size) :
    ∀ n ∈ c.attributeNames, after.pool.text n = c.pool.text n :=
  fun n named => framed.text_of_name n (c.name_used n named) (inside n named)

theorem rename_well_formed (chain : Chain) (c after : ClassFile) (valid : c.WellFormed)
    (inside : ∀ n ∈ c.attributeNames, n.toNat < c.pool.size) (done : c.rename chain = .ok after) :
    after.WellFormed := by
  have framed := rename_framed chain c after done
  have same := framed.attribute_names_read inside
  obtain ⟨plan, _, pool, appended, _, _, _, result⟩ := rename_steps chain c after done
  have names := plan.repoint_keeps_names chain c.pool appended
  simp only [attributeNames, List.forall_mem_append] at same
  obtain ⟨⟨fields, methods⟩, attributes⟩ := same
  have whole := framed.pool_well_formed valid.pool
  subst result
  exact ⟨whole, Member.map_uses_well_formed_of_all names c.fields fields valid.fields,
    Member.map_uses_well_formed_of_all names c.methods methods valid.methods,
    Attribute.map_uses_well_formed_of_all names c.attributes attributes valid.attributes⟩

theorem rename_fits (chain : Chain) (c after : ClassFile) (fits : ¬ c.extent.Overflows)
    (done : c.rename chain = .ok after) : ¬ after.extent.Overflows := by
  obtain ⟨plan, edited, pool, appended, _, editing, appending, rfl⟩ := rename_steps chain c after done
  have writable : c.pool.Writable := by
    rw [Pool.writable_iff]
    intro overflows
    exact fits (by simp [extent, overflows])
  have appendable := plan.edit_writable c.pool edited writable editing
  have final := (plan.append_writable edited (pool, appended) appendable appending).map_uses
    (plan.repoint chain c.pool appended)
  rw [Pool.writable_iff] at final
  obtain ⟨length, attributes⟩ :=
    Attribute.map_uses_extent_of_all (f := plan.repoint chain c.pool appended) c.attributes
  intro overflows
  apply fits
  simp only [extent, Extent.overflows_append] at overflows ⊢
  simp only [mapUses, Member.map_uses_extent_of_all, length, attributes, final, or_false] at overflows
  tauto

theorem rename_written (bytes : Bytes) (c : ClassFile) (parsed : parse bytes = .ok c)
    (inside : ∀ n ∈ c.attributeNames, n.toNat < c.pool.size) (chain : Chain) (after : ClassFile)
    (done : c.rename chain = .ok after) :
    ∃ out, after.toBytes = .ok out ∧ parse out = .ok after ∧ ¬ after.extent.Overflows := by
  obtain ⟨valid, _⟩ := (parse_ok bytes c).mp parsed
  have fits := rename_fits chain c after (c.measured.written _ (written_back bytes c parsed)).2 done
  have whole := rename_well_formed chain c after valid inside done
  cases result : after.toBytes with
  | error e => exact absurd ((fails_iff_overflows after).mp ⟨e, result⟩) fits
  | ok out => exact ⟨out, rfl, parse_of_written after whole out result, fits⟩

theorem renamed_is_read_back (bytes : Bytes) (c : ClassFile) (parsed : parse bytes = .ok c)
    (inside : ∀ n ∈ c.attributeNames, n.toNat < c.pool.size) (chain : Chain) (after : ClassFile)
    (renamed : c.rename chain = .ok after) :
    ∃ out, after.toBytes = .ok out ∧ parse out = .ok after ∧ ¬ after.extent.Overflows ∧
      ∀ n ∈ c.attributeNames, after.pool.text n = c.pool.text n := by
  obtain ⟨out, written, back, fits⟩ := rename_written bytes c parsed inside chain after renamed
  have framed := rename_framed chain c after renamed
  exact ⟨out, written, back, fits,
    fun n named => framed.text_of_name n (c.name_used n named) (inside n named)⟩

-- The name of the class is also that of its attribute, which has to stay a signature.
def namedAlike : ClassFile where
  minor := 0
  major := 61
  pool := ⟨#[.unusable, .utf8 [83, 105, 103, 110, 97, 116, 117, 114, 101], .classRef 1,
    .utf8 [76, 97, 47, 66, 59]]⟩
  access := 33
  thisClass := 2
  superClass := 0
  interfaces := []
  fields := []
  methods := []
  attributes := [.mk 1 (.signature 3)]

def signatureMoved : Chain :=
  [Relocation.unfiltered ['S', 'i', 'g', 'n', 'a', 't', 'u', 'r', 'e'] (some ['b'])]

def namedAlikePlan : RenamingPlan where
  targets := [(⟨1, .className⟩, some ['b']), (⟨1, .fixed⟩, none), (⟨3, .signature⟩, none)]
  wishes := #[{}, ⟨true, [['b']]⟩, {}, ⟨true, []⟩]

theorem named_alike_well_formed : namedAlike.WellFormed where
  pool := .of_narrow [.utf8 [83, 105, 103, 110, 97, 116, 117, 114, 101], .classRef 1,
    .utf8 [76, 97, 47, 66, 59]] (by decide)
  fields := nofun
  methods := nofun
  attributes := by
    intro a member
    cases List.mem_singleton.mp member
    exact .mk 1 (.signature 3) rfl (.signature 3)

theorem named_alike_renames : ∃ after, namedAlike.rename signatureMoved = .ok after := by
  have made : RenamingPlan.make signatureMoved namedAlike = .ok namedAlikePlan := by rfl
  have editing : namedAlikePlan.edit namedAlike.pool = .ok namedAlike.pool := by rfl
  have shared : namedAlikePlan.isSplit 1 = true := by rfl
  have pushed : namedAlike.pool.pushText ['b'] =
      .ok (4, ⟨namedAlike.pool.slots.push (.utf8 [98])⟩) := by rfl
  have first : namedAlikePlan.appendOne (namedAlike.pool, ∅) (⟨1, .className⟩, some ['b']) =
      .ok (⟨namedAlike.pool.slots.push (.utf8 [98])⟩, (∅ : RenamingPlan.Appended).insert "b" 4) := by
    simp [RenamingPlan.appendOne, shared, pushed]
  exact ⟨_, bind_ok.mpr ⟨_, made, bind_ok.mpr ⟨_, editing, bind_ok.mpr ⟨_, bind_ok.mpr ⟨_, first, rfl⟩,
    rfl⟩⟩⟩⟩

theorem named_alike_inside : ∀ n ∈ namedAlike.attributeNames, n.toNat < namedAlike.pool.size :=
  List.forall_mem_singleton.mpr (by decide)

theorem named_alike_is_read_back : ∃ bytes after out, parse bytes = .ok namedAlike ∧
    (∀ n ∈ namedAlike.attributeNames, n.toNat < namedAlike.pool.size) ∧
    namedAlike.rename signatureMoved = .ok after ∧ after.toBytes = .ok out ∧ parse out = .ok after ∧
    ¬ after.extent.Overflows ∧ ∀ n ∈ namedAlike.attributeNames, after.pool.text n = namedAlike.pool.text n := by
  obtain ⟨after, renamed⟩ := named_alike_renames
  have parsed := parse_of_written namedAlike named_alike_well_formed _ rfl
  obtain ⟨out, written, back, fits, names⟩ :=
    renamed_is_read_back _ namedAlike parsed named_alike_inside signatureMoved after renamed
  exact ⟨_, after, out, parsed, named_alike_inside, renamed, written, back, fits, names⟩

end ClassFile

end Shading
