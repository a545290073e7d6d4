import Shading.Proofs.ClassFile.Renaming
import Shading.Proofs.Relocation.ClassPath
import Shading.Proofs.Signature.Printing

set_option autoImplicit false

namespace Shading

open Fallible

namespace Use

theorem Follows.renamed_text {chain : Chain} {before after : Pool} {u v : Use}
    (follows : Follows chain before after u v) (text : Text) (read : before.text u.index = .ok text) :
    ∃ s, u.role.rename chain text = .ok s ∧ after.text v.index = .ok s := by
  obtain ⟨payload, found, decoded⟩ := (Pool.text_ok _ _ _).mp read
  obtain ⟨stays, changes⟩ := follows.2 payload found
  by_cases keeps : u.role.Keeps chain payload
  · refine ⟨text, ?_, (Pool.text_ok _ _ _).mpr ⟨payload, stays keeps, decoded⟩⟩
    rcases keeps with fixed | ⟨_, undecoded⟩ | ⟨other, same, kept⟩
    · rw [fixed]
      rfl
    · rw [decoded] at undecoded
      contradiction
    · cases decoded.symm.trans same
      exact kept
  · obtain ⟨other, s, same, wanted, final⟩ := changes keeps
    cases decoded.symm.trans same
    exact ⟨s, wanted, final⟩

-- The roles whose texts follow the grammar of signatures; only the class constants of arrays do.
def Typed (role : Role) (text : Text) : Prop :=
  role = .descriptor ∨ role = .signature ∨ role = .className ∧ Text.startsWith ['['] text = true

theorem rename_typed (chain : Chain) (role : Role) (text : Text) (typed : Typed role text) :
    role.rename chain text = Signature.rename chain.mapName? text := by
  rcases typed with rfl | rfl | ⟨rfl, array⟩
  · rfl
  · rfl
  · exact if_pos array

-- A typed text is a signature, and the use reads it after the renaming with the classes that are
-- not nested in another one mapped as paths are.
def TypesFollow (chain : Chain) (before after : Pool) (u v : Use) : Prop :=
  v.role = u.role ∧ ∀ text, before.text u.index = .ok text → Typed u.role text →
    (∃ t : Signature.Tree, t.Proper ∧ text = t.print) ∧
    ∀ t : Signature.Tree, t.Proper → text = t.print →
      after.text v.index = .ok (t.rename chain.mapName?).print ∧
      (t.rename chain.mapName?).outerNames = t.outerNames.map chain.mapPath

theorem Follows.types_follow {chain : Chain} {before after : Pool} {u v : Use}
    (follows : Follows chain before after u v) : TypesFollow chain before after u v := by
  refine ⟨follows.1, fun text read typed => ?_⟩
  obtain ⟨s, wanted, final⟩ := follows.renamed_text text read
  rw [rename_typed chain u.role text typed] at wanted
  constructor
  · obtain ⟨t, proper, same, _⟩ := Signature.rename_ok _ _ _ wanted
    exact ⟨t, proper, same⟩
  · rintro t proper rfl
    cases wanted.symm.trans (Signature.rename_print chain.mapName? t proper)
    exact ⟨final, t.outer_names_renamed chain.mapName?⟩

end Use

namespace Pool

theorem class_name_ok (pool : Pool) (index : UInt16) (n : Text) :
    pool.className index = .ok n ↔
      ∃ name, pool.slots[index.toNat]? = some (.classRef name) ∧ pool.text name = .ok n := by
  unfold className get?
  split
  · rename_i name found
    rw [found]
    constructor
    · intro read
      exact ⟨name, rfl, read⟩
    · rintro ⟨other, same, read⟩
      cases same
      exact read
  · rename_i other
    constructor
    · intro failed
      contradiction
    · rintro ⟨name, found, _⟩
      exact absurd found (other name)

end Pool

namespace ClassFile

variable {chain : Chain} {c after : ClassFile} {pool : Pool} {f : Repointing}

theorem Renamed.slot_after (renamed : Renamed chain c after pool f) (index : Nat) (k : Constant)
    (slot : c.pool.slots[index]? = some k) (other : ∀ payload, k ≠ .utf8 payload) :
    after.pool.slots[index]? = some (k.mapUses f) := by
  obtain ⟨l, edited, alike⟩ := renamed.alike index _ slot
  rcases alike with rfl | ⟨payload, _, text, _⟩
  · rw [renamed.result]
    show (pool.slots.map (Constant.mapUses f))[index]? = _
    rw [Array.getElem?_map, edited]
    rfl
  · exact absurd text (other payload)

theorem slot_used (c : ClassFile) (index : Nat) (k : Constant) (slot : c.pool.slots[index]? = some k)
    (u : Use) (used : u ∈ k.uses) : u ∈ c.uses := by
  have inside : k ∈ c.pool.slots.toList := by
    rw [← Array.getElem?_toList] at slot
    exact List.mem_of_getElem? slot
  have use : u ∈ c.pool.slots.toList.flatMap Constant.uses := List.mem_flatMap.mpr ⟨k, inside, used⟩
  simp [uses, use]

theorem Renamed.class_name_after (renamed : Renamed chain c after pool f) (index : UInt16) (n : Text)
    (read : c.pool.className index = .ok n) (single : Text.startsWith ['['] n = false) :
    after.pool.className index = .ok (chain.mapPath n) := by
  obtain ⟨name, slot, text⟩ := (Pool.class_name_ok _ _ _).mp read
  have follows := renamed.follows _ (slot_used c _ _ slot ⟨name, .className⟩ List.mem_cons_self)
  obtain ⟨s, wanted, final⟩ := follows.renamed_text n text
  refine (Pool.class_name_ok _ _ _).mpr ⟨_, renamed.slot_after _ _ slot nofun, ?_⟩
  have mapped : Role.rename chain .className n = .ok (chain.mapPath n) := by
    unfold Role.rename
    rw [single]
    rfl
  cases wanted.symm.trans mapped
  exact final

theorem references_follow_paths (chain : Chain) (n : Text) (named : ClassName n) :
    (∀ directory, directory = [] ∨ ReleaseDirectory directory →
      chain.mapClassPath (directory ++ n ++ classSuffix) =
        directory ++ chain.mapPath n ++ classSuffix) ∧
    ∀ c after : ClassFile, c.rename chain = .ok after →
      (∀ index, c.pool.className index = .ok n →
        after.pool.className index = .ok (chain.mapPath n)) ∧
      List.Forall₂ (Use.TypesFollow chain c.pool after.pool) c.uses after.uses ∧
      (c.name = .ok n → after.name = .ok (chain.mapPath n)) := by
  refine ⟨named.map_class_path chain, fun c after renamed => ?_⟩
  obtain ⟨pool, f, done⟩ := rename_renamed chain c after renamed
  have classes := fun index read => done.class_name_after index n read named.not_array
  refine ⟨classes, ?_, ?_⟩
  · rw [done.uses_after, List.forall₂_map_right_iff, List.forall₂_same]
    exact fun u used => (done.follows u used).types_follow
  · intro read
    have same : after.thisClass = c.thisClass := by rw [done.result]; rfl
    unfold name
    rw [same]
    exact classes c.thisClass read

theorem shared_name_class : ClassName ['a', '/', 'B'] where
  filled := by decide
  plain := List.all_iff_forall_prop.mp rfl
  outside := by
    rintro _ ⟨number, _, _, rfl⟩ ⟨rest, same⟩
    have first : 'M' = 'a' := (List.cons.inj same).1
    contradiction

theorem shared_name_moves_with_its_entry : ∃ after, sharedName.rename letterMoved = .ok after ∧
    sharedName.name = .ok ['a', '/', 'B'] ∧ after.name = .ok ['b', '/', 'B'] ∧
    letterMoved.mapClassPath "META-INF/versions/9/a/B.class".toList =
      "META-INF/versions/9/b/B.class".toList := by
  obtain ⟨after, renamed⟩ := shared_name_renames
  obtain ⟨paths, classes⟩ := references_follow_paths letterMoved ['a', '/', 'B'] shared_name_class
  have named : sharedName.name = .ok ['a', '/', 'B'] := by rfl
  have release : ReleaseDirectory "META-INF/versions/9/".toList := ⟨['9'], by decide, by decide, rfl⟩
  exact ⟨after, renamed, named, (classes sharedName after renamed).2.2 named, paths _ (.inr release)⟩

end ClassFile

end Shading
