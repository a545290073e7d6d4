import Shading.Proofs.ClassFile.References
import Shading.Proofs.Relocation.OutOfReach
import Shading.Proofs.Signature.ClassTypes

set_option autoImplicit false

namespace Shading

open Fallible Signature

theorem Chain.fixes_platform (chain : Chain) :
    Fixes chain.mapName? fun name => Chain.isPlatformName name = true where
  fixed := by
    intro name platform
    rw [chain.map_name_platform name platform]
    rfl
  nested := by
    intro outer name platform
    rw [Chain.platform_nested, platform]

-- The class types of a text are those of another one where the platform is concerned. The text is a
-- signature, and however it is read, the other one is its renaming.
def Chain.TypesKept (chain : Chain) (text s : Text) : Prop :=
  (∃ t : Tree, t.Proper ∧ text = t.print) ∧
  ∀ t : Tree, t.Proper → text = t.print → s = (t.rename chain.mapName?).print ∧
    List.Forall₂ (fun before after => Chain.isPlatformName before.1 = true → after = before)
      t.classTypes (t.rename chain.mapName?).classTypes

theorem Chain.types_kept (chain : Chain) (text s : Text)
    (renamed : Signature.rename chain.mapName? text = .ok s) : chain.TypesKept text s := by
  obtain ⟨t, proper, same, _⟩ := Signature.rename_ok _ _ _ renamed
  refine ⟨⟨t, proper, same⟩, ?_⟩
  intro t proper same
  subst same
  cases renamed.symm.trans (Signature.rename_print chain.mapName? t proper)
  exact ⟨rfl, t.class_types_kept chain.fixes_platform proper⟩

namespace Role

-- A text in this role and its new form name the same classes and packages of the platform.
def KeepsPlatform (chain : Chain) (role : Role) (text s : Text) : Prop :=
  match role with
  | .fixed => s = text
  | .className => (Chain.isPlatformName text = true → s = text) ∧
      (Text.startsWith ['['] text = true → chain.TypesKept text s)
  | .descriptor | .signature => chain.TypesKept text s
  | .stringValue => True
  | .packageName => Chain.isPlatformName (text ++ ['/']) = true → s = text

theorem platform_not_array (text : Text) (array : Text.startsWith ['['] text = true) :
    Chain.isPlatformName text = false := by
  cases text with
  | nil => contradiction
  | cons c rest =>
      have bracket : '[' = c := by simpa [Text.startsWith, List.isPrefixOf] using array
      rw [← bracket]
      rfl

theorem rename_keeps_platform (chain : Chain) (role : Role) (text s : Text)
    (renamed : role.rename chain text = .ok s) : role.KeepsPlatform chain text s := by
  cases role with
  | fixed => exact (Except.ok.inj renamed).symm
  | className =>
      unfold rename at renamed
      by_cases array : Text.startsWith ['['] text = true
      · rw [if_pos array] at renamed
        refine ⟨fun platform => ?_, fun _ => chain.types_kept text s renamed⟩
        rw [platform_not_array text array] at platform
        contradiction
      · rw [if_neg array] at renamed
        refine ⟨fun platform => ?_, fun opens => absurd opens array⟩
        rw [← Except.ok.inj renamed]
        exact chain.fixes_platform.fixed text platform
  | descriptor => exact chain.types_kept text s renamed
  | signature => exact chain.types_kept text s renamed
  | stringValue => trivial
  | packageName =>
      intro platform
      unfold rename at renamed
      rw [chain.map_name_platform _ platform] at renamed
      exact (Except.ok.inj renamed).symm

end Role

def Use.KeepsPlatform (chain : Chain) (before after : Pool) (u v : Use) : Prop :=
  v.role = u.role ∧ ∀ text, before.text u.index = .ok text →
    ∃ s, after.text v.index = .ok s ∧ u.role.KeepsPlatform chain text s

theorem Use.Follows.keeps_platform {chain : Chain} {before after : Pool} {u v : Use}
    (follows : Follows chain before after u v) : KeepsPlatform chain before after u v := by
  refine ⟨follows.1, fun text read => ?_⟩
  obtain ⟨s, wanted, final⟩ := follows.renamed_text text read
  exact ⟨s, final, u.role.rename_keeps_platform chain text s wanted⟩

namespace ClassFile

variable {chain : Chain} {c after : ClassFile} {pool : Pool} {f : Repointing}

theorem Renamed.keeps_platform (renamed : Renamed chain c after pool f) (u : Use) (used : u ∈ c.uses) :
    Use.KeepsPlatform chain c.pool after.pool u (u.repoint f) := (renamed.follows u used).keeps_platform

theorem platform_names_stay (chain : Chain) (c after : ClassFile) (renamed : c.rename chain = .ok after) :
    (∀ index n, c.pool.className index = .ok n → ∃ s, after.pool.className index = .ok s ∧
      (Chain.isPlatformName n = true → s = n) ∧ (Text.startsWith ['['] n = true → chain.TypesKept n s)) ∧
    (∀ (index : Nat) name text, c.pool.slots[index]? = some (.package name) → c.pool.text name = .ok text →
      Chain.isPlatformName (text ++ ['/']) = true →
        ∃ other, after.pool.slots[index]? = some (.package other) ∧ after.pool.text other = .ok text) ∧
    List.Forall₂ (Use.KeepsPlatform chain c.pool after.pool) c.uses after.uses := by
  obtain ⟨pool, f, done⟩ := rename_renamed chain c after renamed
  refine ⟨?_, ?_, ?_⟩
  · intro index n read
    obtain ⟨name, slot, text⟩ := (Pool.class_name_ok _ _ _).mp read
    have used := slot_used c _ _ slot ⟨name, .className⟩ List.mem_cons_self
    obtain ⟨s, final, keeps⟩ := (done.keeps_platform _ used).2 n text
    exact ⟨s, (Pool.class_name_ok _ _ _).mpr ⟨_, done.slot_after _ _ slot nofun, final⟩, keeps⟩
  · intro index name text slot read platform
    have used := slot_used c _ _ slot ⟨name, .packageName⟩ List.mem_cons_self
    obtain ⟨s, final, keeps⟩ := (done.keeps_platform _ used).2 text read
    exact ⟨_, done.slot_after _ _ slot nofun, keeps platform ▸ final⟩
  · rw [done.uses_after, List.forall₂_map_right_iff, List.forall₂_same]
    exact done.keeps_platform

-- One constant is the name of a class, of a package, and a string.
def platformShared : ClassFile where
  minor := 0
  major := 61
  pool := ⟨#[.unusable, .utf8 [106, 97, 118, 97, 47, 65], .classRef 1, .package 1, .string 1]⟩
  access := 33
  thisClass := 2
  superClass := 0
  interfaces := []
  fields := []
  methods := []
  attributes := []

def platformMoved : Chain := [Relocation.unfiltered ['j', 'a', 'v', 'a'] (some ['x'])]

def platformSharedPlan : RenamingPlan where
  targets := [(⟨1, .className⟩, none), (⟨1, .packageName⟩, none), (⟨1, .stringValue⟩, some ['x', '/', 'A'])]
  wishes := #[{}, ⟨true, [['x', '/', 'A']]⟩, {}, {}, {}]

theorem platform_shared_renames : ∃ after, platformShared.rename platformMoved = .ok after := by
  have made : RenamingPlan.make platformMoved platformShared = .ok platformSharedPlan := by rfl
  have editing : platformSharedPlan.edit platformShared.pool = .ok platformShared.pool := by rfl
  have shared : platformSharedPlan.isSplit 1 = true := by rfl
  have pushed : platformShared.pool.pushText ['x', '/', 'A'] =
      .ok (5, ⟨platformShared.pool.slots.push (.utf8 [120, 47, 65])⟩) := by rfl
  have last : platformSharedPlan.appendOne (platformShared.pool, ∅) (⟨1, .stringValue⟩, some ['x', '/', 'A']) =
      .ok (⟨platformShared.pool.slots.push (.utf8 [120, 47, 65])⟩,
        (∅ : RenamingPlan.Appended).insert "x/A" 5) := by
    simp [RenamingPlan.appendOne, shared, pushed]
  exact ⟨_, bind_ok.mpr ⟨_, made, bind_ok.mpr ⟨_, editing, bind_ok.mpr ⟨_,
    bind_ok.mpr ⟨_, rfl, bind_ok.mpr ⟨_, rfl, bind_ok.mpr ⟨_, last, rfl⟩⟩⟩, rfl⟩⟩⟩⟩

theorem shared_platform_name_stays : ∃ after, platformShared.rename platformMoved = .ok after ∧
    platformShared.pool.className 2 = .ok ['j', 'a', 'v', 'a', '/', 'A'] ∧
    after.pool.className 2 = .ok ['j', 'a', 'v', 'a', '/', 'A'] ∧
    (∃ name, after.pool.slots[3]? = some (.package name) ∧
      after.pool.text name = .ok ['j', 'a', 'v', 'a', '/', 'A']) ∧
    ∃ value, after.pool.slots[4]? = some (.string value) ∧ after.pool.text value = .ok ['x', '/', 'A'] := by
  obtain ⟨after, renamed⟩ := platform_shared_renames
  obtain ⟨classes, packages, _⟩ := platform_names_stay platformMoved platformShared after renamed
  have read : platformShared.pool.className 2 = .ok ['j', 'a', 'v', 'a', '/', 'A'] := by rfl
  obtain ⟨s, final, stays, _⟩ := classes 2 _ read
  obtain rfl : s = ['j', 'a', 'v', 'a', '/', 'A'] := stays (by decide)
  obtain ⟨pool, f, done⟩ := rename_renamed _ _ _ renamed
  obtain ⟨moved, wanted, text⟩ := (done.follows ⟨1, .stringValue⟩ (by decide)).renamed_text _ rfl
  have string : Role.rename platformMoved .stringValue ['j', 'a', 'v', 'a', '/', 'A'] = .ok ['x', '/', 'A'] := by
    rfl
  cases wanted.symm.trans string
  exact ⟨after, renamed, read, final, packages 3 1 _ rfl rfl (by decide), _,
    done.slot_after 4 (.string 1) rfl nofun, text⟩

end ClassFile

end Shading
