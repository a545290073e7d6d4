import Shading.Proofs.ClassFile.PoolCodec
import Shading.Proofs.ClassFile.Renaming
import Shading.Proofs.ClassFile.Repointing

set_option autoImplicit false

namespace Shading

open Fallible

theorem Wish.targets_of_in_place (targets : List (Option Text)) (s : Text)
    (place : (ofTargets targets {}).inPlace? = some s) :
    some s ∈ targets ∧ ∀ target ∈ targets, target = some s := by
  have texts := in_place_texts _ s place
  have wanted (t : Text) : t ∈ (ofTargets targets {}).texts ↔ some t ∈ targets := by
    simpa using mem_of_targets targets {} t
  refine ⟨(wanted s).mp (by simp [texts]), ?_⟩
  intro target member
  cases target with
  | none =>
      have keeps : (ofTargets targets {}).keeps = true := (keeps_of_targets _ _).mpr (.inr member)
      rw [in_place_of_keeps _ keeps] at place
      contradiction
  | some t =>
      have listed := (wanted t).mpr member
      rw [texts] at listed
      rw [List.mem_singleton.mp listed]

-- All uses of the constant want the text in place of the one that it has.
def ClassFile.Agreed (chain : Chain) (c : ClassFile) (index : Nat) (s : Text) : Prop :=
  (∃ u ∈ c.uses, u.index.toNat = index) ∧
    ∀ u ∈ c.uses, u.index.toNat = index → u.target chain c.pool = .ok (some s)

namespace RenamingPlan

variable {plan : RenamingPlan} {chain : Chain} {c : ClassFile}

theorem Answers.use_of_target (answers : plan.Answers chain c) (u : Use) (target : Option Text)
    (entry : (u, target) ∈ plan.targets) : u ∈ c.uses ∧ u.target chain c.pool = .ok target := by
  obtain ⟨k, inside, same⟩ := List.getElem_of_mem entry
  have within : k < c.uses.length := answers.targets.length_eq ▸ inside
  obtain ⟨first, wanted⟩ := answers.targets.get within inside
  simp only [List.get_eq_getElem, same] at first wanted
  rw [first]
  exact ⟨List.getElem_mem within, wanted⟩

theorem Answers.agreed_of_place (answers : plan.Answers chain c) (index : Nat) (w : Wish) (s : Text)
    (wish : plan.wishes[index]? = some w) (place : w.inPlace? = some s) : c.Agreed chain index s := by
  have inside : index < c.pool.size := by
    rw [← collect_size c.pool.size plan.targets, ← answers.wishes]
    exact (Array.getElem?_eq_some_iff.mp wish).1
  rw [answers.wishes, collect_at c.pool.size plan.targets index inside] at wish
  cases wish
  obtain ⟨wanted, only⟩ := Wish.targets_of_in_place _ s place
  constructor
  · obtain ⟨u, entry, here⟩ := (mem_targets_at _ _ _).mp wanted
    exact ⟨u, (answers.use_of_target u _ entry).1, here⟩
  · intro u used here
    obtain ⟨target, answer, entry⟩ := answers.target_of_use u used
    rw [answer, only target ((mem_targets_at _ _ _).mpr ⟨u, entry, here⟩)]

theorem repoint_keeps_names (plan : RenamingPlan) (chain : Chain) (pool : Pool) (appended : Appended) :
    (plan.repoint chain pool appended).KeepsNames := by
  intro index
  have fixed : Use.target chain pool ⟨index, .fixed⟩ = .ok none := if_pos rfl
  unfold repoint
  rw [fixed]
  exact ite_self index

theorem Answers.split_reads_text (answers : plan.Answers chain c) (edited : Pool)
    (state : Pool × Appended) (texts : List Text) (grown : plan.Grown edited plan.targets state texts)
    (k : Nat) (s : Text) (found : texts[k]? = some s) :
    ∃ u ∈ c.uses, (plan.repoint chain c.pool state.2 u.index u.role).toNat = edited.size + k := by
  obtain ⟨index, appended, place⟩ := grown.found k s found
  obtain ⟨u, entry, split⟩ := grown.wanted s (List.mem_of_getElem? found)
  obtain ⟨used, wanted⟩ := answers.use_of_target u (some s) entry
  refine ⟨u, used, ?_⟩
  unfold repoint
  rw [split, wanted, if_pos rfl]
  dsimp only
  rw [Std.HashMap.get?_eq_getElem?, appended]
  exact place

end RenamingPlan

theorem Constant.Repointed.tag {k l : Constant} (repointed : k.Repointed l) : l.tag = k.tag := by
  cases repointed <;> rfl

namespace ClassFile

def SlotFramed (chain : Chain) (c : ClassFile) (index : Nat) (k l : Constant) : Prop :=
  k.Repointed l ∨ ∃ old s, k = .utf8 old ∧ l = .utf8 (ModifiedUtf8.encodeAll s) ∧ c.Agreed chain index s

structure Framed (chain : Chain) (c after : ClassFile) : Prop where
  minor : after.minor = c.minor
  major : after.major = c.major
  access : after.access = c.access
  thisClass : after.thisClass = c.thisClass
  superClass : after.superClass = c.superClass
  interfaces : after.interfaces = c.interfaces
  fields : List.Forall₂ Member.Repointed c.fields after.fields
  methods : List.Forall₂ Member.Repointed c.methods after.methods
  attributes : List.Forall₂ Attribute.Repointed c.attributes after.attributes
  slots : ∀ (index : Nat) (k : Constant), c.pool.slots[index]? = some k →
    ∃ l, after.pool.slots[index]? = some l ∧ c.SlotFramed chain index k l
  appended : ∃ texts : List Text, texts.Nodup ∧ after.pool.slots.toList.drop c.pool.size =
    texts.map fun s => .utf8 (ModifiedUtf8.encodeAll s)
  referenced : ∀ index, c.pool.size ≤ index → index < after.pool.size →
    ∃ u ∈ after.uses, u.index.toNat = index

theorem SlotFramed.tag {chain : Chain} {c : ClassFile} {index : Nat} {k l : Constant}
    (framed : c.SlotFramed chain index k l) : l.tag = k.tag := by
  rcases framed with repointed | ⟨old, s, rfl, rfl, _⟩
  · exact repointed.tag
  · rfl

-- The slots before the texts that are appended: an edited one has been agreed on, any other one has
-- its references repointed.
theorem slot_framed (chain : Chain) (c : ClassFile) (plan : RenamingPlan) (answers : plan.Answers chain c)
    (edited : Pool) (edits : RenamingPlan.Edited plan.wishes.toList 0 c.pool edited) (f : Repointing)
    (names : f.KeepsNames) (index : Nat) (k : Constant) (found : c.pool.slots[index]? = some k) :
    ∃ l, edited.slots[index]? = some l ∧ c.SlotFramed chain index k (l.mapUses f) := by
  by_cases placed : ∃ w s, plan.wishes[index]? = some w ∧ w.inPlace? = some s
  · obtain ⟨w, s, wish, place⟩ := placed
    have changed := edits.edited index w s (by simpa using wish) place
    rw [Nat.zero_add] at changed
    have agreed := answers.agreed_of_place index w s wish place
    obtain ⟨l, same, alike⟩ := edits.alike index k found
    cases changed.symm.trans same
    refine ⟨_, changed, ?_⟩
    rcases alike with rfl | ⟨old, _, rfl, _⟩
    · exact .inr ⟨_, s, rfl, rfl, agreed⟩
    · exact .inr ⟨old, s, rfl, rfl, agreed⟩
  · refine ⟨k, ?_, .inl (k.map_uses_repointed names)⟩
    rw [edits.kept, found]
    rintro n w s wish place rfl
    rw [Nat.zero_add] at placed
    exact placed ⟨w, s, by simpa using wish, place⟩

theorem rename_framed (chain : Chain) (c after : ClassFile) (done : c.rename chain = .ok after) :
    c.Framed chain after := by
  obtain ⟨plan, edited, pool, appended, made, editing, appending, result⟩ := rename_steps chain c after done
  have answers := RenamingPlan.make_answers chain c plan made
  have edits := answers.edit_ok c.pool edited editing
  obtain ⟨texts, grown⟩ := RenamingPlan.append_grows edited (pool, appended) appending
  have names := plan.repoint_keeps_names chain c.pool appended
  have size : edited.slots.toList.length = c.pool.size := edits.size
  have slots : after.pool.slots.toList =
      edited.slots.toList.map (Constant.mapUses (plan.repoint chain c.pool appended)) ++
        texts.map fun s => .utf8 (ModifiedUtf8.encodeAll s) := by
    rw [result]
    show (pool.slots.map _).toList = _
    rw [Array.toList_map, grown.slots, List.map_append, List.map_map]
    rfl
  subst result
  refine ⟨rfl, rfl, rfl, rfl, rfl, rfl, ?_, ?_, ?_, ?_, ⟨texts, grown.distinct, ?_⟩, ?_⟩
  · exact mapped_list_repointed _ c.fields (Member.map_uses_repointed names)
  · exact mapped_list_repointed _ c.methods (Member.map_uses_repointed names)
  · exact Attribute.map_uses_repointed_of_all names c.attributes
  · intro index k found
    obtain ⟨l, changed, framed⟩ := slot_framed chain c plan answers edited edits _ names index k found
    have inside := (Array.getElem?_eq_some_iff.mp changed).1
    refine ⟨_, ?_, framed⟩
    rw [← Array.getElem?_toList, slots, List.getElem?_append_left (by simpa using inside),
      List.getElem?_map, Array.getElem?_toList, changed]
    rfl
  · rw [slots, List.drop_left' (by rw [List.length_map, size])]
  · intro index behind inside
    have within : index - c.pool.size < texts.length := by
      have all := congrArg List.length slots
      rw [Array.length_toList, List.length_append, List.length_map, List.length_map, size] at all
      have total : index < c.pool.size + texts.length := all ▸ inside
      omega
    obtain ⟨u, used, place⟩ := answers.split_reads_text edited (pool, appended) texts grown
      (index - c.pool.size) _ (List.getElem?_eq_getElem within)
    refine ⟨u.repoint (plan.repoint chain c.pool appended), ?_, ?_⟩
    · rw [(renamed_of_steps chain c plan edited pool appended made editing appending).uses_after]
      exact List.mem_map_of_mem used
    · have same : edited.size = c.pool.size := edits.size
      rw [Use.repoint, place, same]
      omega

theorem renaming_leaves_the_rest (chain : Chain) (c after : ClassFile)
    (renamed : c.rename chain = .ok after) : c.Framed chain after ∧
      ∀ (index : Nat) (k : Constant), c.pool.slots[index]? = some k →
        ∃ l, after.pool.slots[index]? = some l ∧ l.tag = k.tag := by
  have framed := rename_framed chain c after renamed
  refine ⟨framed, fun index k found => ?_⟩
  obtain ⟨l, slot, same⟩ := framed.slots index k found
  exact ⟨l, slot, same.tag⟩

theorem shared_name_keeps_the_rest : ∃ after, sharedName.rename letterMoved = .ok after ∧
    sharedName.Framed letterMoved after ∧
      ∀ (index : Nat) (k : Constant), sharedName.pool.slots[index]? = some k →
        ∃ l, after.pool.slots[index]? = some l ∧ l.tag = k.tag := by
  obtain ⟨after, renamed⟩ := shared_name_renames
  exact ⟨after, renamed, renaming_leaves_the_rest letterMoved sharedName after renamed⟩

end ClassFile

end Shading
