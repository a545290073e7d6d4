import Shading.Proofs.ClassFile.Renaming
import Shading.Proofs.ClassFile.RoundTrip
import Shading.Proofs.Signature.Printing

set_option autoImplicit false

namespace Shading

open Fallible

def Use.Kept (chain : Chain) (pool : Pool) (u : Use) : Prop :=
  u.role = .fixed ∨ ∃ payload, pool.payload u.index = .ok payload ∧ u.role.Keeps chain payload

theorem Use.payload_of_target (chain : Chain) (pool : Pool) (u : Use) (free : u.role ≠ .fixed)
    (target : Option Text) (wanted : u.target chain pool = .ok target) :
    ∃ payload, pool.payload u.index = .ok payload := by
  unfold Use.target at wanted
  rw [if_neg free] at wanted
  obtain ⟨payload, found, _⟩ := bind_ok.mp wanted
  exact ⟨payload, found⟩

theorem Use.target_of_kept (chain : Chain) (pool : Pool) (u : Use) (kept : u.Kept chain pool) :
    u.target chain pool = .ok none := by
  unfold target
  by_cases fixed : u.role = .fixed
  · rw [if_pos fixed]
  · rw [if_neg fixed]
    rcases kept with fixed' | ⟨payload, found, keeps⟩
    · exact absurd fixed' fixed
    refine bind_ok.mpr ⟨payload, found, ?_⟩
    rcases keeps with fixed' | ⟨string, undecoded⟩ | ⟨text, decoded, stays⟩
    · exact absurd fixed' fixed
    · rw [undecoded]
      exact if_pos string
    · rw [decoded]
      exact bind_ok.mpr ⟨text, stays, by rw [if_pos rfl]; rfl⟩

theorem Use.kept_of_target (chain : Chain) (pool : Pool) (u : Use) (stays : u.target chain pool = .ok none) :
    u.Kept chain pool := by
  by_cases fixed : u.role = .fixed
  · exact .inl fixed
  · obtain ⟨payload, found⟩ := u.payload_of_target chain pool fixed none stays
    exact .inr ⟨payload, found, u.target_none chain pool payload found stays⟩

namespace RenamingPlan

def silent (c : ClassFile) : RenamingPlan :=
  let targets := c.uses.map fun u => (u, none)
  ⟨targets, collect c.pool.size targets⟩

theorem make_silent (chain : Chain) (c : ClassFile)
    (kept : ∀ u ∈ c.uses, u.target chain c.pool = .ok none) : make chain c = .ok (silent c) := by
  have targets := map_m_of_ok (fun u => (u.target chain c.pool).map fun target => (u, target))
    (fun u => (u, none)) c.uses fun u used => by rw [kept u used]; rfl
  exact bind_ok.mpr ⟨_, targets, rfl⟩

theorem silent_wish (c : ClassFile) (index : Nat) (w : Wish)
    (wish : (silent c).wishes[index]? = some w) : w.texts = [] := by
  have small : index < c.pool.size := by
    rw [← collect_size c.pool.size (silent c).targets]
    exact (Array.getElem?_eq_some_iff.mp wish).1
  have found := collect_at c.pool.size (silent c).targets index small
  cases wish.symm.trans found
  refine List.eq_nil_iff_forall_not_mem.mpr fun s member => ?_
  rcases (Wish.mem_of_targets _ _ s).mp member with old | target
  · cases old
  · obtain ⟨u, entry, _⟩ := (mem_targets_at _ _ _).mp target
    obtain ⟨v, _, same⟩ := List.mem_map.mp entry
    cases same

theorem silent_not_split (c : ClassFile) (index : UInt16) : (silent c).isSplit index = false := by
  unfold isSplit
  cases wish : (silent c).wishes[index.toNat]? with
  | none => rfl
  | some w => exact Wish.not_split_of_no_texts w (silent_wish c _ w wish)

theorem silent_edit (c : ClassFile) (pool : Pool) : (silent c).edit pool = .ok pool := by
  refine fold_still _ _ pool ?_
  rintro ⟨w, index⟩ member
  have wish := List.mk_mem_zipIdx_iff_getElem?.mp member
  rw [Array.getElem?_toList] at wish
  have texts := silent_wish c index w wish
  cases place : w.inPlace? with
  | none =>
      simp only [place]
  | some s =>
      rw [Wish.in_place_texts w s place] at texts
      cases texts

theorem silent_append (c : ClassFile) (pool : Pool) : (silent c).append pool = .ok (pool, ∅) := by
  refine fold_still _ _ (pool, ∅) ?_
  rintro ⟨u, target⟩ entry
  obtain ⟨v, _, same⟩ := List.mem_map.mp entry
  cases same
  rfl

end RenamingPlan

namespace ClassFile

theorem rename_of_kept (chain : Chain) (c : ClassFile)
    (kept : ∀ u ∈ c.uses, u.target chain c.pool = .ok none) : c.rename chain = .ok c := by
  have still : (RenamingPlan.silent c).repoint chain c.pool ∅ = Repointing.unchanged := by
    funext index role
    rw [RenamingPlan.repoint, RenamingPlan.silent_not_split]
    rfl
  refine bind_ok.mpr ⟨_, RenamingPlan.make_silent chain c kept, bind_ok.mpr ⟨_,
    RenamingPlan.silent_edit c c.pool, bind_ok.mpr ⟨_, RenamingPlan.silent_append c c.pool, ?_⟩⟩⟩
  show Except.ok (c.mapUses ((RenamingPlan.silent c).repoint chain c.pool ∅)) = .ok c
  rw [still, map_uses_unchanged]

theorem relocate_of_kept (chain : Chain) (bytes : Bytes) (c : ClassFile)
    (parsed : parse bytes = .ok c) (kept : ∀ u ∈ c.uses, u.target chain c.pool = .ok none) :
    relocate chain bytes = .ok (countOne bytes) :=
  bind_ok.mpr ⟨c, parsed, bind_ok.mpr ⟨c, rename_of_kept chain c kept, written_back bytes c parsed⟩⟩

end ClassFile

namespace Chain

theorem map_name_of_empty (name : Text) : (mapName? [] name).getD name = name := by
  unfold mapName?
  split <;> rfl

end Chain

theorem Role.rename_of_empty (role : Role) (text result : Text)
    (renamed : role.rename [] text = .ok result) : result = text := by
  cases role with
  | fixed => exact (Except.ok.inj renamed).symm
  | className =>
      simp only [Role.rename] at renamed
      split at renamed
      · exact Signature.rename_fixed _ Chain.map_name_of_empty text result renamed
      · rw [← Except.ok.inj renamed, Chain.map_name_of_empty]
  | descriptor => exact Signature.rename_fixed _ Chain.map_name_of_empty text result renamed
  | signature => exact Signature.rename_fixed _ Chain.map_name_of_empty text result renamed
  | stringValue => exact (Except.ok.inj renamed).symm
  | packageName =>
      simp only [Role.rename] at renamed
      rw [← Except.ok.inj renamed]
      cases moved : Chain.mapName? [] (text ++ ['/']) with
      | none => rfl
      | some path =>
          have same := Chain.map_name_of_empty (text ++ ['/'])
          rw [moved, Option.getD_some] at same
          rw [same, Option.bind_some, (Text.drop_end_some _ _ text).mpr rfl, Option.getD_some]

namespace ClassFile

theorem target_of_empty (pool : Pool) (u : Use) (target : Option Text)
    (wanted : u.target [] pool = .ok target) : target = none := by
  cases target with
  | none => rfl
  | some s =>
      have free : u.role ≠ .fixed := by
        intro fixed
        unfold Use.target at wanted
        rw [if_pos fixed] at wanted
        cases wanted
      obtain ⟨payload, found⟩ := u.payload_of_target [] pool free _ wanted
      obtain ⟨changes, text, decoded, answer⟩ := Use.target_some [] pool u payload s found wanted
      have same := u.role.rename_of_empty text s answer
      subst same
      exact absurd (.inr (.inr ⟨_, decoded, answer⟩)) changes

theorem kept_of_empty (c after : ClassFile) (renamed : c.rename [] = .ok after) :
    ∀ u ∈ c.uses, u.target [] c.pool = .ok none := by
  intro u used
  obtain ⟨plan, made, _⟩ := bind_ok.mp renamed
  obtain ⟨target, wanted, _⟩ := (RenamingPlan.make_answers [] c plan made).target_of_use u used
  rw [wanted, target_of_empty c.pool u target wanted]

theorem parsed_bytes_stay (bytes : Bytes) (c : ClassFile) (parsed : parse bytes = .ok c) :
    c.toBytes = .ok (countOne bytes) ∧
      (∀ chain, (∀ u ∈ c.uses, u.Kept chain c.pool) → relocate chain bytes = .ok (countOne bytes)) ∧
      ∀ after, c.rename [] = .ok after → relocate [] bytes = .ok (countOne bytes) := by
  refine ⟨written_back bytes c parsed, ?_, ?_⟩
  · intro chain kept
    exact relocate_of_kept chain bytes c parsed fun u used => Use.target_of_kept chain c.pool u (kept u used)
  · intro after renamed
    exact relocate_of_kept [] bytes c parsed (kept_of_empty c after renamed)

-- The class has a field with a signature, a string and a source file. None of them names what moves.
def unrelated : ClassFile where
  minor := 0
  major := 61
  pool := ⟨#[.unusable, .utf8 (Text.utf8 "a/B".toList), .classRef 1, .utf8 (Text.utf8 "java/lang/Object".toList),
    .classRef 3, .utf8 (Text.utf8 "f".toList), .utf8 (Text.utf8 "La/B;".toList),
    .utf8 (Text.utf8 "Signature".toList), .utf8 (Text.utf8 "a.B$C".toList), .string 8,
    .utf8 (Text.utf8 "SourceFile".toList), .utf8 (Text.utf8 "B.java".toList)]⟩
  access := 33
  thisClass := 2
  superClass := 4
  interfaces := []
  fields := [⟨1, 5, 6, [.mk 7 (.signature 6)]⟩]
  methods := []
  attributes := [.mk 10 (.raw [0, 11])]

theorem unrelated_well_formed : unrelated.WellFormed where
  pool := .of_narrow unrelated.pool.slots.toList.tail (by decide)
  fields := by
    intro m member
    cases List.mem_singleton.mp member
    exact List.forall_mem_singleton.mpr (.mk 7 (.signature 6) (by decide +kernel) (.signature 6))
  methods := nofun
  attributes := List.forall_mem_singleton.mpr (.mk 10 (.raw [0, 11]) (by decide +kernel) (.raw [0, 11]))

def orgMoved : Chain := [Relocation.unfiltered "org".toList (some "com.acme".toList)]

-- A class with a constant pool that counts no slots at all.
def noSlots : Bytes :=
  [0xCA, 0xFE, 0xBA, 0xBE, 0, 0, 0, 61, 0, 0, 0, 33, 0, 0, 0, 0, 0, 0, 0, 0, 0, 0, 0, 0]

theorem unrelated_class_stays :
    (∃ bytes, parse bytes = .ok unrelated ∧ unrelated.uses ≠ [] ∧
      (∀ u ∈ unrelated.uses, u.Kept orgMoved unrelated.pool) ∧
      unrelated.toBytes = .ok bytes ∧ relocate orgMoved bytes = .ok bytes ∧ relocate [] bytes = .ok bytes) ∧
    ∃ c, parse noSlots = .ok c ∧ relocate [] noSlots = .ok (noSlots.take 8 ++ [0, 1] ++ noSlots.drop 10) := by
  constructor
  · have written : ∃ bytes, unrelated.toBytes = .ok bytes := ⟨_, rfl⟩
    obtain ⟨bytes, wrote⟩ := written
    have parsed := parse_of_written unrelated unrelated_well_formed bytes wrote
    have kept (chain : Chain) (stays : ∀ u ∈ unrelated.uses, u.target chain unrelated.pool = .ok none) :
        ∀ u ∈ unrelated.uses, u.Kept chain unrelated.pool :=
      fun u used => u.kept_of_target chain unrelated.pool (stays u used)
    have moved := kept orgMoved (by decide +kernel)
    obtain ⟨same, chains, empty⟩ := parsed_bytes_stay bytes unrelated parsed
    have counted : countOne bytes = bytes := Except.ok.inj (same.symm.trans wrote)
    rw [counted] at same chains
    exact ⟨bytes, parsed, nofun, moved, same, chains orgMoved moved, chains [] (kept [] (by decide +kernel))⟩
  · have parsed : parse noSlots = .ok ⟨0, 61, ⟨#[.unusable]⟩, 33, 0, 0, [], [], [], []⟩ := by rfl
    obtain ⟨_, chains, _⟩ := parsed_bytes_stay noSlots _ parsed
    exact ⟨_, parsed, chains [] nofun⟩

end ClassFile

end Shading
