import Shading.Proofs.Assembly.FirstEntry
import Shading.Proofs.EntryPath
import Shading.Proofs.Relocation.ClassPath
import Shading.Proofs.Relocation.OutOfReach

set_option autoImplicit false

namespace Shading

open Fallible

namespace Chain

-- The directory and the name of a class that no rule applies to. Rules are asked about what is left
-- of the name once the opening of a descriptor is split off.
structure Unmoved (chain : Chain) (directory n : Text) : Prop where
  release : directory = [] ∧ (∀ other, ReleaseDirectory other → ¬ other <+: n) ∨ ReleaseDirectory directory
  idle : ∀ r ∈ chain, r.appliesToPath (splitWrapper n).2 = false

variable {chain : Chain} {directory n : Text}

theorem Unmoved.split (unmoved : chain.Unmoved directory n) :
    splitVersion (directory ++ n ++ classSuffix) = (directory, n ++ classSuffix) := by
  rcases unmoved.release with ⟨rfl, outside⟩ | release
  · exact split_version_outside _ (class_entry_outside n outside)
  · rw [List.append_assoc]
    exact split_version_release directory _ release

theorem Unmoved.map_class_path (unmoved : chain.Unmoved directory n) (plain : '.' ∉ n) :
    chain.mapClassPath (directory ++ n ++ classSuffix) = directory ++ n ++ classSuffix := by
  rw [map_class_path_of_split chain directory _ n plain unmoved.split, map_path_stays chain n unmoved.idle]

theorem map_path_undotted (chain : Chain) (coherent : ∀ r ∈ chain, r.Coherent) (n : Text) (plain : '.' ∉ n) :
    '.' ∉ chain.mapPath n := by
  unfold mapPath mapName?
  split
  · exact plain
  · dsimp only
    cases found : chain.find? fun r => r.appliesToPath (splitWrapper n).2 with
    | none => exact plain
    | some r =>
        have whole := split_wrapper_append n
        have opening : '.' ∉ (splitWrapper n).1 := fun member => plain (whole ▸ List.mem_append_left _ member)
        have inner : '.' ∉ (splitWrapper n).2 := fun member => plain (whole ▸ List.mem_append_right _ member)
        have target : '.' ∉ r.pathTarget := by
          rw [(coherent r (List.mem_of_find?_eq_some found)).target]
          exact Text.dot_not_mem_slashed r.target
        intro member
        rcases List.mem_append.mp member with front | moved
        · exact opening front
        · exact (Text.mem_replace_first _ _ _ _ moved).elim target inner

theorem Unmoved.undotted (unmoved : chain.Unmoved directory n) (coherent : ∀ r ∈ chain, r.Coherent)
    (stays : chain.mapClassPath (directory ++ n ++ classSuffix) = directory ++ n ++ classSuffix) :
    '.' ∉ n := by
  have cut : chain.mapClassPath (directory ++ n ++ classSuffix) =
      directory ++ chain.mapPath (stem (n ++ classSuffix)) ++ classSuffix := by
    unfold mapClassPath
    rw [unmoved.split]
    rfl
  have name : chain.mapPath (stem (n ++ classSuffix)) = n :=
    List.append_cancel_left (List.append_cancel_right (cut.symm.trans stays))
  rw [← name]
  refine map_path_undotted chain coherent _ fun member => ?_
  have differs := List.mem_takeWhile_imp member
  contradiction

def Keeps (chain : Chain) (path : Text) : Prop :=
  ∃ directory n, chain.Unmoved directory n ∧ '.' ∉ n ∧ path = directory ++ n ++ classSuffix

theorem Keeps.map_class_path {path : Text} (keeps : chain.Keeps path) : chain.mapClassPath path = path := by
  obtain ⟨directory, n, unmoved, plain, rfl⟩ := keeps
  exact unmoved.map_class_path plain

end Chain

namespace Assembly

variable {task : Task}

theorem is_class_of_keeps {path : Text} (keeps : task.chain.Keeps path) :
    isClass task path = !task.chain.isEmpty := by
  obtain ⟨directory, n, _, _, rfl⟩ := keeps
  unfold isClass
  rw [EntryPath.class_entry_is_class_file, Bool.and_true]

theorem placement_of_keeps {e : SourceEntry} (keeps : task.chain.Keeps e.path) (ruled : task.chain ≠ [])
    (file : e.isDirectory = false) (included : task.exclusions.excludes e.path = false) :
    placement? task e = some (e.path,
      (relocated task.chain e).map (fileEntry task.compression e.path e.time? none)) := by
  have isClass : isClass task e.path = true := by simpa [is_class_of_keeps keeps] using ruled
  unfold placement?
  rw [if_neg (by simp [file, included]), if_pos isClass, keeps.map_class_path]

theorem placement_stays {e : SourceEntry} (keeps : task.chain.Keeps e.path) (target : Text)
    (file : Except Failure Zip.NewEntry) (placed : placement? task e = some (target, file)) :
    target = e.path := by
  unfold placement? at placed
  split at placed
  · contradiction
  by_cases isClass : isClass task e.path = true
  · rw [if_pos isClass] at placed
    rw [← keeps.map_class_path]
    exact (congrArg Prod.fst (Option.some.inj placed)).symm
  · rw [if_neg isClass] at placed
    split at placed
    · contradiction
    · have idle : task.chain = [] := by simpa [is_class_of_keeps keeps] using isClass
      have still : task.chain.mapPath e.path = e.path :=
        Chain.map_path_stays _ _ (by simp [idle])
      rw [← still]
      exact (congrArg Prod.fst (Option.some.inj placed)).symm

theorem mem_firsts {α : Type} (front back : List (Text × α)) (item : Text × α)
    (fresh : item.1 ∉ front.map Prod.fst) : item ∈ firsts (front ++ item :: back) := by
  induction back using List.reverseRecOn with
  | nil =>
      rw [firsts_append_one, if_neg fresh]
      exact List.mem_append_right _ List.mem_cons_self
  | append_singleton earlier last ih =>
      rw [← List.cons_append, ← List.append_assoc, firsts_append_one]
      exact List.mem_append_left _ ih

theorem mem_files_of_fresh (before after : List Event) (e : SourceEntry) (input : Text)
    (written : List Zip.NewEntry) (done : run task (before ++ .entry e input :: after) = .ok written)
    (target : Text) (file : Except Failure Zip.NewEntry) (placed : placement? task e = some (target, file))
    (fresh : target ∉ (placements task (before.filterMap Event.entry?)).map Prod.fst) :
    (target, file) ∈ filesIn written := by
  have entry : Event.entry? (.entry e input) = some e := rfl
  have whole : placements task ((before ++ .entry e input :: after).filterMap Event.entry?) =
      placements task (before.filterMap Event.entry?) ++
        (target, file) :: placements task (after.filterMap Event.entry?) := by
    unfold placements
    rw [List.filterMap_append, List.filterMap_append, List.filterMap_cons_some entry,
      List.filterMap_cons_some placed]
  rw [run_files _ written done, whole, List.append_assoc, List.cons_append]
  exact mem_firsts _ _ _ fresh

theorem written_unless_rivalled {e : SourceEntry} (keeps : task.chain.Keeps e.path) (target : Text)
    (file : Except Failure Zip.NewEntry) (placed : placement? task e = some (target, file))
    (before : List Event) (input : Text) (after : List Event) (written : List Zip.NewEntry)
    (done : run task (before ++ .entry e input :: after) = .ok written) :
    (target, file) ∈ filesIn written ∨
      ∃ other ∈ before.filterMap Event.entry?, (placement? task other).map Prod.fst = some e.path ∧
        (other.path = e.path ∨ ¬ task.chain.Keeps other.path) := by
  by_cases taken : target ∈ (placements task (before.filterMap Event.entry?)).map Prod.fst
  · right
    have stays := placement_stays keeps target file placed
    obtain ⟨item, earlier, same⟩ := List.mem_map.mp taken
    obtain ⟨other, listed, asked⟩ := List.mem_filterMap.mp earlier
    refine ⟨other, listed, by rw [asked, Option.map_some, same, stays], ?_⟩
    by_cases also : task.chain.Keeps other.path
    · left
      rw [← placement_stays also item.1 item.2 asked, same, stays]
    · exact .inr also
  · exact .inl (mem_files_of_fresh before after e input written done target file placed taken)

theorem unmoved_classes_stay (task : Task) :
    (∀ directory n, task.chain.Unmoved directory n →
      ('.' ∉ n → task.chain.mapClassPath (directory ++ n ++ classSuffix) = directory ++ n ++ classSuffix) ∧
      ((∀ r ∈ task.chain, r.Coherent) →
        task.chain.mapClassPath (directory ++ n ++ classSuffix) = directory ++ n ++ classSuffix → '.' ∉ n)) ∧
    (∀ path other, task.chain.Keeps path → task.chain.Keeps other → path ≠ other →
      task.chain.mapClassPath path ≠ task.chain.mapClassPath other) ∧
    ∀ e, task.chain.Keeps e.path →
      (task.chain ≠ [] → e.isDirectory = false → task.exclusions.excludes e.path = false →
        placement? task e = some (e.path,
          (relocated task.chain e).map (fileEntry task.compression e.path e.time? none))) ∧
      ∀ target file, placement? task e = some (target, file) → target = e.path ∧
        ∀ before input after written, run task (before ++ .entry e input :: after) = .ok written →
          (target, file) ∈ filesIn written ∨
          ∃ other ∈ before.filterMap Event.entry?, (placement? task other).map Prod.fst = some e.path ∧
            (other.path = e.path ∨ ¬ task.chain.Keeps other.path) := by
  refine ⟨fun directory n unmoved => ⟨unmoved.map_class_path, unmoved.undotted⟩, ?_, ?_⟩
  · intro path other keeps also apart same
    rw [keeps.map_class_path, also.map_class_path] at same
    exact apart same
  · exact fun e keeps => ⟨placement_of_keeps keeps, fun target file placed =>
      ⟨placement_stays keeps target file placed, written_unless_rivalled keeps target file placed⟩⟩

def orgTask : Task := { movedTask with chain := [Relocation.unfiltered "org".toList (some "com".toList)] }

theorem outside_of_start (n : Text) (free : Text.startsWith versionsDirectory n = false) (directory : Text)
    (release : ReleaseDirectory directory) : ¬ directory <+: n := by
  obtain ⟨number, _, _, rfl⟩ := release
  intro start
  have begins : versionsDirectory <+: n := ((List.prefix_append _ _).trans (List.prefix_append _ _)).trans start
  rw [← List.isPrefixOf_iff_prefix] at begins
  rw [Text.startsWith, begins] at free
  contradiction

def orgClass : SourceEntry := resource "a/X.class".toList bareClass

def orgReleaseClass : SourceEntry := resource "META-INF/versions/9/a/X.class".toList bareClass

-- The class of a release stays beside that of the same name outside of releases.
theorem release_class_stays : ∃ written file,
    orgTask.chain.mapClassPath orgReleaseClass.path = orgReleaseClass.path ∧
    orgTask.chain.mapClassPath orgClass.path ≠ orgTask.chain.mapClassPath orgReleaseClass.path ∧
    run orgTask [.entry orgClass ['x'], .entry orgReleaseClass ['x']] = .ok written ∧
    (orgReleaseClass.path, file) ∈ filesIn written := by
  have first : orgTask.chain.Unmoved [] "a/X".toList :=
    ⟨.inl ⟨rfl, outside_of_start _ (by decide)⟩, by decide +kernel⟩
  have second : orgTask.chain.Unmoved "META-INF/versions/9/".toList "a/X".toList :=
    ⟨.inr ⟨['9'], by decide, by decide, rfl⟩, by decide +kernel⟩
  have firstKeeps : orgTask.chain.Keeps orgClass.path := ⟨_, _, first, by decide, rfl⟩
  have secondKeeps : orgTask.chain.Keeps orgReleaseClass.path := ⟨_, _, second, by decide, rfl⟩
  obtain ⟨stay, apart, places⟩ := unmoved_classes_stay orgTask
  obtain ⟨asks, written⟩ := places orgReleaseClass secondKeeps
  have asked := asks (by decide) rfl (by decide +kernel)
  have listed : (run orgTask [.entry orgClass ['x'], .entry orgReleaseClass ['x']]).map List.length = .ok 7 := by
    decide +kernel
  obtain ⟨archive, done, _⟩ := map_ok.mp listed
  have unrivalled : ¬ ∃ other ∈ [Event.entry orgClass ['x']].filterMap Event.entry?,
      (placement? orgTask other).map Prod.fst = some orgReleaseClass.path ∧
        (other.path = orgReleaseClass.path ∨ ¬ orgTask.chain.Keeps other.path) := by
    rintro ⟨other, listed, _, same | moved⟩
    · rw [List.mem_singleton.mp listed] at same
      contradiction
    · rw [List.mem_singleton.mp listed] at moved
      exact moved firstKeeps
  have there := ((written _ _ asked).2 [.entry orgClass ['x']] ['x'] [] archive done).resolve_right unrivalled
  exact ⟨archive, _, (stay _ _ second).1 (by decide), apart _ _ firstKeeps secondKeeps (by decide), done, there⟩

-- No rule applies to these classes, and both come to the path of their directories up to the dot.
theorem dotted_directories_collide :
    (orgTask.chain.Unmoved [] "a.b/X".toList ∧ orgTask.chain.Unmoved [] "a.c/Y".toList) ∧
    (∀ r ∈ orgTask.chain, r.appliesToPath "a.b/X".toList = false ∧ r.appliesToPath "a.c/Y".toList = false) ∧
    orgTask.chain.mapClassPath "a.b/X.class".toList = "a.class".toList ∧
    orgTask.chain.mapClassPath "a.c/Y.class".toList = "a.class".toList ∧
    (run orgTask [.entry (resource "a.b/X.class".toList bareClass) ['x'],
      .entry (resource "a.c/Y.class".toList bareClass) ['x']]).map (fun written => written.map fun e => e.name) =
        .ok ["a.class".toList] := by
  refine ⟨⟨⟨.inl ⟨rfl, outside_of_start _ (by decide)⟩, by decide +kernel⟩,
    ⟨.inl ⟨rfl, outside_of_start _ (by decide)⟩, by decide +kernel⟩⟩, ?_⟩
  decide +kernel

end Assembly

end Shading
