import Shading.Proofs.ClassFile.RenamingPlan
import Shading.Proofs.ClassFile.Traversal

set_option autoImplicit false

namespace Shading

open Fallible

def Role.Keeps (chain : Chain) (role : Role) (payload : Bytes) : Prop :=
  role = .fixed ∨ role = .stringValue ∧ ModifiedUtf8.decode? payload = none ∨
    ∃ text, ModifiedUtf8.decode? payload = some text ∧ role.rename chain text = .ok text

namespace Use

-- A use reads in the pool after a renaming what its role makes of the text before.
def Follows (chain : Chain) (before after : Pool) (u v : Use) : Prop :=
  v.role = u.role ∧ ∀ payload, before.payload u.index = .ok payload →
    (u.role.Keeps chain payload → after.payload v.index = .ok payload) ∧
    (¬ u.role.Keeps chain payload → ∃ text s, ModifiedUtf8.decode? payload = some text ∧
      u.role.rename chain text = .ok s ∧ after.text v.index = .ok s)

theorem target_none (chain : Chain) (pool : Pool) (u : Use) (payload : Bytes)
    (found : pool.payload u.index = .ok payload) (stays : u.target chain pool = .ok none) :
    u.role.Keeps chain payload := by
  unfold target at stays
  split at stays
  · rename_i fixed
    exact .inl fixed
  · obtain ⟨bytes, same, rest⟩ := bind_ok.mp stays
    cases found.symm.trans same
    split at rest
    · rename_i undecoded
      split at rest
      · rename_i string
        exact .inr (.inl ⟨string, undecoded⟩)
      · contradiction
    · rename_i text decoded
      obtain ⟨renamed, answer, final⟩ := bind_ok.mp rest
      split at final
      · rename_i unchanged
        subst unchanged
        exact .inr (.inr ⟨_, decoded, answer⟩)
      · cases final

theorem target_some (chain : Chain) (pool : Pool) (u : Use) (payload : Bytes) (s : Text)
    (found : pool.payload u.index = .ok payload) (wanted : u.target chain pool = .ok (some s)) :
    ¬ u.role.Keeps chain payload ∧
      ∃ text, ModifiedUtf8.decode? payload = some text ∧ u.role.rename chain text = .ok s := by
  unfold target at wanted
  split at wanted
  · cases wanted
  · rename_i free
    obtain ⟨bytes, same, rest⟩ := bind_ok.mp wanted
    cases found.symm.trans same
    split at rest
    · split at rest <;> cases rest
    · rename_i text decoded
      obtain ⟨renamed, answer, final⟩ := bind_ok.mp rest
      split at final
      · cases final
      · rename_i changed
        cases final
        refine ⟨?_, text, decoded, answer⟩
        rintro (fixed | ⟨_, undecoded⟩ | ⟨other, read, kept⟩)
        · exact free fixed
        · rw [decoded] at undecoded
          contradiction
        · cases decoded.symm.trans read
          exact changed (Except.ok.inj (answer.symm.trans kept))

end Use

namespace RenamingPlan

variable {plan : RenamingPlan} {chain : Chain} {c : ClassFile}

theorem Grown.old_slot {before : Pool} {taken : List (Use × Option Text)} {state : Pool × Appended}
    {texts : List Text} (grown : plan.Grown before taken state texts) (index : Nat) (k : Constant)
    (found : before.slots[index]? = some k) : state.1.slots[index]? = some k := by
  have old : before.slots.toList[index]? = some k := by simpa using found
  have inside := (List.getElem?_eq_some_iff.mp old).1
  rw [← Array.getElem?_toList, grown.slots, List.getElem?_append_left inside, old]

theorem Answers.slot_of_use (answers : plan.Answers chain c) (edited : Pool)
    (state : Pool × Appended) (texts : List Text) (edits : Edited plan.wishes.toList 0 c.pool edited)
    (grown : plan.Grown edited plan.targets state texts) (u : Use) (target : Option Text)
    (entry : (u, target) ∈ plan.targets) (wanted : u.target chain c.pool = .ok target)
    (payload : Bytes) (found : c.pool.payload u.index = .ok payload) :
    state.1.slots[(plan.repoint chain c.pool state.2 u.index u.role).toNat]? =
      some (.utf8 ((target.map ModifiedUtf8.encodeAll).getD payload)) := by
  have slot := (Pool.payload_ok _ _ _).mp found
  have inside : u.index.toNat < c.pool.size := (Array.getElem?_eq_some_iff.mp slot).1
  obtain ⟨w, wish, keeps, wants⟩ := answers.wish_of_entry u target entry inside
  have wishAt : plan.wishes.toList[u.index.toNat]? = some w := by simpa using wish
  have splitAt : plan.isSplit u.index = w.isSplit := by simp [isSplit, wish]
  unfold repoint
  rw [splitAt, wanted]
  cases target with
  | none =>
      have stays : edited.slots[u.index.toNat]? = some (.utf8 payload) := by
        rw [edits.kept, slot]
        intro k v s other place same
        rw [Nat.zero_add] at same
        rw [same, wishAt] at other
        cases other
        rw [Wish.in_place_of_keeps w (keeps rfl)] at place
        contradiction
      have final := grown.old_slot _ _ stays
      dsimp only
      rw [ite_self]
      exact final
  | some s =>
      rcases Wish.in_place_or_split w s (wants s rfl) with ⟨place, whole⟩ | ⟨_, split⟩
      · have changed := edits.edited u.index.toNat w s wishAt place
        rw [Nat.zero_add] at changed
        rw [whole]
        exact grown.old_slot _ _ changed
      · obtain ⟨index, appended, final⟩ :=
          grown.slot_of_text s (grown.complete u s entry (splitAt.trans split))
        rw [split, if_pos rfl]
        dsimp only
        rw [Std.HashMap.get?_eq_getElem?, appended]
        exact final

end RenamingPlan

namespace ClassFile

-- What a renaming has done; `pool` is the constant pool after the edits, with the old indices in
-- its references.
structure Renamed (chain : Chain) (c after : ClassFile) (pool : Pool) (f : Repointing) : Prop where
  result : after = { c with pool }.mapUses f
  alike : ∀ (index : Nat) (k : Constant), c.pool.slots[index]? = some k →
    ∃ l, pool.slots[index]? = some l ∧ k.Alike l
  uses : pool.slots.toList.flatMap Constant.uses = c.pool.slots.toList.flatMap Constant.uses
  wanted : ∀ u ∈ c.uses, ∃ target, u.target chain c.pool = .ok target ∧
    ∀ payload, c.pool.payload u.index = .ok payload →
      pool.slots[(f u.index u.role).toNat]? =
        some (.utf8 ((target.map ModifiedUtf8.encodeAll).getD payload))

theorem uses_of_alike (before after : Pool) (texts : List Text) (edited : Pool)
    (size : edited.slots.size = before.slots.size)
    (alike : ∀ (index : Nat) (k : Constant), before.slots[index]? = some k →
      ∃ l, edited.slots[index]? = some l ∧ k.Alike l)
    (slots : after.slots.toList =
      edited.slots.toList ++ texts.map fun s => .utf8 (ModifiedUtf8.encodeAll s)) :
    after.slots.toList.flatMap Constant.uses = before.slots.toList.flatMap Constant.uses := by
  have same : edited.slots.toList.map Constant.uses = before.slots.toList.map Constant.uses := by
    apply List.ext_getElem?
    intro index
    rw [List.getElem?_map, List.getElem?_map, Array.getElem?_toList, Array.getElem?_toList]
    cases found : before.slots[index]? with
    | none =>
        have outside := Array.getElem?_eq_none_iff.mp found
        rw [Array.getElem?_eq_none (size ▸ outside)]
    | some k =>
        obtain ⟨l, changed, kind⟩ := alike index k found
        rw [changed, Option.map_some, Option.map_some, kind.uses]
  have silent : (texts.map fun s => Constant.utf8 (ModifiedUtf8.encodeAll s)).flatMap Constant.uses = [] := by
    rw [List.flatMap_map]
    exact List.flatMap_eq_nil_iff.mpr fun _ _ => rfl
  rw [slots, List.flatMap_append, silent, List.append_nil, List.flatMap_def, same, ← List.flatMap_def]

theorem rename_steps (chain : Chain) (c after : ClassFile) (done : c.rename chain = .ok after) :
    ∃ plan edited pool appended, RenamingPlan.make chain c = .ok plan ∧ plan.edit c.pool = .ok edited ∧
      plan.append edited = .ok (pool, appended) ∧
      after = { c with pool }.mapUses (plan.repoint chain c.pool appended) := by
  obtain ⟨plan, made, rest⟩ := bind_ok.mp done
  obtain ⟨edited, editing, rest⟩ := bind_ok.mp rest
  obtain ⟨⟨pool, appended⟩, appending, rest⟩ := bind_ok.mp rest
  exact ⟨plan, edited, pool, appended, made, editing, appending, (Except.ok.inj rest).symm⟩

theorem renamed_of_steps (chain : Chain) (c : ClassFile) (plan : RenamingPlan) (edited pool : Pool)
    (appended : RenamingPlan.Appended) (made : RenamingPlan.make chain c = .ok plan)
    (editing : plan.edit c.pool = .ok edited) (appending : plan.append edited = .ok (pool, appended)) :
    Renamed chain c ({ c with pool }.mapUses (plan.repoint chain c.pool appended)) pool
      (plan.repoint chain c.pool appended) := by
  have answers := RenamingPlan.make_answers chain c plan made
  have edits := answers.edit_ok c.pool edited editing
  obtain ⟨texts, grown⟩ := RenamingPlan.append_grows edited (pool, appended) appending
  refine ⟨rfl, ?_, ?_, ?_⟩
  · intro index k found
    obtain ⟨l, changed, kind⟩ := edits.alike index k found
    exact ⟨l, grown.old_slot index l changed, kind⟩
  · exact uses_of_alike c.pool pool texts edited edits.size edits.alike grown.slots
  · intro u used
    obtain ⟨target, wanted, entry⟩ := answers.target_of_use u used
    exact ⟨target, wanted, fun payload found =>
      answers.slot_of_use edited (pool, appended) texts edits grown u target entry wanted payload found⟩

theorem rename_renamed (chain : Chain) (c after : ClassFile) (done : c.rename chain = .ok after) :
    ∃ pool f, Renamed chain c after pool f := by
  obtain ⟨plan, edited, pool, appended, made, editing, appending, rfl⟩ := rename_steps chain c after done
  exact ⟨pool, _, renamed_of_steps chain c plan edited pool appended made editing appending⟩

variable {chain : Chain} {c after : ClassFile} {pool : Pool} {f : Repointing}

theorem Renamed.uses_after (renamed : Renamed chain c after pool f) :
    after.uses = c.uses.map (Use.repoint f) := by
  have same : ({ c with pool } : ClassFile).uses = c.uses := by
    simp only [ClassFile.uses, renamed.uses]
  rw [renamed.result, map_uses_uses, same]

theorem Renamed.payload_after (renamed : Renamed chain c after pool f) (index : UInt16)
    (bytes : Bytes) (slot : pool.slots[index.toNat]? = some (.utf8 bytes)) :
    after.pool.payload index = .ok bytes := by
  rw [Pool.payload_ok, renamed.result]
  show (pool.slots.map (Constant.mapUses f))[index.toNat]? = some (.utf8 bytes)
  rw [Array.getElem?_map, slot]
  rfl

theorem Renamed.follows (renamed : Renamed chain c after pool f) (u : Use) (used : u ∈ c.uses) :
    Use.Follows chain c.pool after.pool u (u.repoint f) := by
  refine ⟨rfl, fun payload found => ?_⟩
  obtain ⟨target, wanted, slot⟩ := renamed.wanted u used
  have read := renamed.payload_after _ _ (slot payload found)
  cases target with
  | none =>
      have keeps := Use.target_none chain c.pool u payload found wanted
      exact ⟨fun _ => read, fun changes => absurd keeps changes⟩
  | some s =>
      obtain ⟨changes, text, decoded, answer⟩ := Use.target_some chain c.pool u payload s found wanted
      refine ⟨fun keeps => absurd keeps changes, fun _ => ⟨text, s, decoded, answer, ?_⟩⟩
      exact (Pool.text_ok _ _ _).mpr ⟨_, read, ModifiedUtf8.decode_encoded s⟩

theorem every_use_reads_its_text (chain : Chain) (c after : ClassFile)
    (renamed : c.rename chain = .ok after) :
    List.Forall₂ (Use.Follows chain c.pool after.pool) c.uses after.uses := by
  obtain ⟨pool, f, done⟩ := rename_renamed chain c after renamed
  rw [done.uses_after, List.forall₂_map_right_iff, List.forall₂_same]
  exact done.follows

-- The first constant is the name of the class, a string and the name of a member, so that it has to
-- be split; the descriptor is edited in place.
def sharedName : ClassFile where
  minor := 0
  major := 61
  pool := ⟨#[.unusable, .utf8 [97, 47, 66], .classRef 1, .string 1, .utf8 [76, 97, 47, 66, 59],
    .nameAndType 1 4]⟩
  access := 33
  thisClass := 2
  superClass := 0
  interfaces := []
  fields := []
  methods := []
  attributes := []

def letterMoved : Chain := [Relocation.unfiltered ['a'] (some ['b'])]

def sharedNamePlan : RenamingPlan where
  targets := [(⟨1, .className⟩, some ['b', '/', 'B']), (⟨1, .stringValue⟩, some ['b', '/', 'B']),
    (⟨1, .fixed⟩, none), (⟨4, .descriptor⟩, some ['L', 'b', '/', 'B', ';'])]
  wishes := #[{}, ⟨true, [['b', '/', 'B']]⟩, {}, {}, ⟨false, [['L', 'b', '/', 'B', ';']]⟩, {}]

def sharedNameEdited : Pool :=
  ⟨sharedName.pool.slots.set 4 (.utf8 [76, 98, 47, 66, 59]) (by decide)⟩

theorem shared_name_renames : ∃ after, sharedName.rename letterMoved = .ok after := by
  have made : RenamingPlan.make letterMoved sharedName = .ok sharedNamePlan := by rfl
  have editing : sharedNamePlan.edit sharedName.pool = .ok sharedNameEdited := by rfl
  have shared : sharedNamePlan.isSplit 1 = true := by rfl
  have alone : sharedNamePlan.isSplit 4 = false := by rfl
  have pushed : sharedNameEdited.pushText ['b', '/', 'B'] =
      .ok (6, ⟨sharedNameEdited.slots.push (.utf8 [98, 47, 66])⟩) := by rfl
  have once (role : Role) (state : Pool × RenamingPlan.Appended) (there : "b/B" ∈ state.2) :
      sharedNamePlan.appendOne state (⟨1, role⟩, some ['b', '/', 'B']) = .ok state := by
    simp [RenamingPlan.appendOne, there]
  have first : sharedNamePlan.appendOne (sharedNameEdited, ∅) (⟨1, .className⟩, some ['b', '/', 'B']) =
      .ok (⟨sharedNameEdited.slots.push (.utf8 [98, 47, 66])⟩,
        (∅ : RenamingPlan.Appended).insert "b/B" 6) := by
    simp [RenamingPlan.appendOne, shared, pushed]
  have last (state : Pool × RenamingPlan.Appended) (s : Text) :
      sharedNamePlan.appendOne state (⟨4, .descriptor⟩, some s) = .ok state := by
    simp [RenamingPlan.appendOne, alone]
  exact ⟨_, bind_ok.mpr ⟨_, made, bind_ok.mpr ⟨_, editing, bind_ok.mpr ⟨_,
    -- One step for each target: the second finds the text that the first has appended.
    bind_ok.mpr ⟨_, first, bind_ok.mpr ⟨_, once .stringValue _ (by simp), bind_ok.mpr ⟨_, rfl,
      bind_ok.mpr ⟨_, last _ _, rfl⟩⟩⟩⟩, rfl⟩⟩⟩⟩

theorem shared_name_reads_its_texts : ∃ after, sharedName.rename letterMoved = .ok after ∧
    List.Forall₂ (Use.Follows letterMoved sharedName.pool after.pool) sharedName.uses after.uses := by
  obtain ⟨after, renamed⟩ := shared_name_renames
  exact ⟨after, renamed, every_use_reads_its_text letterMoved sharedName after renamed⟩

end ClassFile

end Shading
