import Mathlib
import Shading.Proofs.Assembly.Steps

set_option autoImplicit false

namespace Shading

open Fallible

def FileSystem.Below (fs : FileSystem) (root path : Text) : Prop :=
  ∃ names : List Text, (∀ name ∈ names, ∃ place, name ∈ fs.namesIn place) ∧
    path = names.foldl Path.child root

def Failure.isEntry : Failure → Bool
  | entry _ _ _ => true
  | _ => false

theorem Failure.in_entry_of_bare (f : Failure) (name input : Text) (bare : f.isEntry = false) :
    f.inEntry name input = .entry name input f := by
  cases f with
  | entry name input cause => cases bare
  | _ => rfl

-- What a failure tells of the input at `root`. An entry is told with the input or the archive that it
-- is an entry of, and only once.
inductive Failure.Tells (task : Task) (fs : FileSystem) (root : Text) : Failure → Prop where
  | absent : Tells task fs root (.noInput root)
  | unreadable (path : Text) (fault : FileFault) (below : fs.Below root path) :
      Tells task fs root (.unreadable path fault)
  | visited (a : Assembly) (e : SourceEntry) (input : Text) (cause : Failure)
      (listed : .entry e input ∈ Event.ofInput fs root)
      (inside : input = root ∨ fs.Below root input ∧ isArchiveName input = true)
      (failed : Assembly.visit task a e = .error cause) (once : cause.isEntry = false) :
      Tells task fs root (.entry e.path input cause)
  | nested (name path : Text) (cause : Failure) (listed : .archive name ∈ Event.ofInput fs root)
      (inside : fs.Below root path ∧ isArchiveName path = true)
      (failed : .error cause ∈ Input.archiveEntries fs path) (once : cause.isEntry = false) :
      Tells task fs root (.entry name root cause)

def Unplaced {α : Type} (x : Except Failure α) : Prop := ∀ f, x = .error f → f.isEntry = false

theorem Unplaced.ok {α : Type} (a : α) : Unplaced (.ok a) := nofun

theorem Unplaced.error {α : Type} (f : Failure) (bare : f.isEntry = false) :
    Unplaced (.error f : Except Failure α) := by
  intro g same
  cases same
  exact bare

theorem Unplaced.bind {α β : Type} (x : Except Failure α) (next : α → Except Failure β)
    (first : Unplaced x) (second : ∀ a, Unplaced (next a)) : Unplaced (x >>= next) := by
  cases x with
  | error f =>
      intro g failed
      cases failed
      exact first f rfl
  | ok a => exact second a

theorem Unplaced.fold {σ α : Type} (step : σ → α → Except Failure σ)
    (each : ∀ state a, Unplaced (step state a)) (items : List α) (state : σ) :
    Unplaced (items.foldlM step state) := by
  induction items generalizing state with
  | nil => exact .ok state
  | cons a rest ih =>
      rw [List.foldlM_cons]
      exact .bind _ _ (each state a) ih

namespace Assembly

variable {task : Task}

theorem unplaced_write (a : Assembly) (e : Zip.NewEntry) : Unplaced (a.write e) := by
  unfold write
  by_cases there : a.hasName e.name = true
  · rw [if_pos there]
    exact .error _ rfl
  · rw [if_neg there]
    exact .ok _

theorem unplaced_add_directory (a : Assembly) (d : EntryPath) : Unplaced (a.addDirectory d) := by
  unfold addDirectory
  by_cases there : a.directories.contains d.path = true
  · rw [if_pos there]
    exact .ok _
  · rw [if_neg there]
    exact unplaced_write _ _

theorem unplaced_add_file (a : Assembly) (compression : Compression) (path : Text)
    (time? : Option Zip.Timestamp) (mode? : Option Nat) (content : Except FileFault Bytes) :
    Unplaced (a.addFile compression path time? mode? content) := by
  refine .bind _ _ (.fold addDirectory unplaced_add_directory _ _) fun parents => ?_
  by_cases there : parents.hasName path = true
  · rw [if_pos there]
    exact .error _ rfl
  · rw [if_neg there]
    cases content with
    | error fault => exact .error _ rfl
    | ok bytes => exact unplaced_write _ _

theorem unplaced_claim (a : Assembly) (path : Text) (add : Assembly → Except Failure Assembly)
    (each : ∀ b, Unplaced (add b)) : Unplaced (a.claim path add) := by
  unfold claim
  by_cases there : a.files.contains path = true
  · rw [if_pos there]
    exact .ok _
  · rw [if_neg there]
    exact each _

theorem unplaced_relocated (chain : Chain) (e : SourceEntry) : Unplaced (relocated chain e) := by
  unfold relocated
  cases e.content with
  | error fault => exact .error _ rfl
  | ok content =>
      dsimp only
      cases ClassFile.relocate chain content with
      | error fault => exact .error _ rfl
      | ok bytes => exact .ok _

theorem unplaced_transform (a : Assembly) (e : SourceEntry) : Unplaced (transform task a e) := by
  unfold transform
  cases e.content with
  | error fault => exact .error _ rfl
  | ok content => exact .ok _

theorem unplaced_visit (a : Assembly) (e : SourceEntry) : Unplaced (visit task a e) := by
  unfold visit
  by_cases directory : e.isDirectory = true
  · rw [if_pos directory]
    exact .ok _
  rw [if_neg directory]
  by_cases excluded : task.exclusions.excludes e.path = true
  · rw [if_pos excluded]
    exact .ok _
  rw [if_neg excluded]
  by_cases isClass : isClass task e.path = true
  · rw [if_pos isClass]
    unfold addClass
    refine unplaced_claim _ _ _ fun b => ?_
    exact .bind _ _ (unplaced_relocated task.chain e) fun content => unplaced_add_file _ _ _ _ _ _
  rw [if_neg isClass]
  by_cases claims : a.isClaimed e.path = true
  · rw [if_pos claims]
    exact unplaced_transform a e
  · rw [if_neg claims]
    exact unplaced_claim a (task.chain.mapPath e.path) _ fun b => unplaced_add_file _ _ _ _ _ _

end Assembly

namespace FileSystem

theorem Below.self (fs : FileSystem) (root : Text) : fs.Below root root := ⟨[], nofun, rfl⟩

theorem Below.child {fs : FileSystem} {root path : Text} (below : fs.Below root path) (place : Location) (name : Text)
    (listed : name ∈ fs.namesIn place) : fs.Below root (Path.child path name) := by
  obtain ⟨names, each, rfl⟩ := below
  refine ⟨names ++ [name], ?_, by simp⟩
  simpa [or_imp, forall_and] using And.intro each ⟨place, listed⟩

end FileSystem

theorem ends_behind_slash (ending front name : Text) (plain : '/' ∉ ending) :
    Text.endsWith ending (front ++ '/' :: name) = Text.endsWith ending name := by
  rw [Bool.eq_iff_iff]
  unfold Text.endsWith
  rw [List.isSuffixOf_iff_suffix, List.isSuffixOf_iff_suffix]
  constructor
  · intro ends
    have other : ¬ '/' :: name <:+ ending := fun inside => plain (inside.subset List.mem_cons_self)
    have within := (List.suffix_or_suffix_of_suffix ends (List.suffix_append front _)).resolve_right other
    cases List.suffix_cons_iff.mp within with
    | inl same => exact absurd (same ▸ List.suffix_refl _) other
    | inr later => exact later
  · intro ends
    exact ends.trans ((List.suffix_cons '/' name).trans (List.suffix_append front _))

theorem is_archive_name_child (directory name : Text) :
    isArchiveName (Path.child directory name) = isArchiveName name := by
  have plain : '/' ∉ archiveSuffix := by decide
  unfold isArchiveName Path.child
  by_cases bare : directory = []
  · simp [bare]
  by_cases closed : Text.endsWith ['/'] directory = true
  · obtain ⟨front, rfl⟩ := List.isSuffixOf_iff_suffix.mp closed
    rw [if_pos (.inr closed), List.append_assoc]
    exact ends_behind_slash _ front name plain
  · rw [if_neg (by simp [bare, closed])]
    exact ends_behind_slash _ directory name plain

namespace Input

variable {fs : FileSystem} {root : Text}

def Within (fs : FileSystem) (root : Text) : Finding → Prop
  | .entry _ => True
  | .archive _ path => fs.Below root path ∧ isArchiveName path = true
  | .failure f => ∃ path fault, f = .unreadable path fault ∧ fs.Below root path

theorem follow_within (ancestors : List Ancestor) (place : Location) (name path : Text) (f : Failure)
    (below : fs.Below root path) (failed : follow fs root ancestors place name path = .error f) :
    Within fs root (.failure f) := by
  unfold follow at failed
  split at failed
  · cases failed
    exact ⟨path, _, rfl, below⟩
  · rename_i target _
    cases item : fs.item? target with
    | none =>
        simp only [item] at failed
        cases failed
        exact ⟨path, _, rfl, below⟩
    | some item =>
        simp only [item] at failed
        split at failed
        · contradiction
        split at failed
        · cases failed
          exact ⟨root, _, rfl, .self fs root⟩
        split at failed
        · cases failed
          exact ⟨path, _, rfl, below⟩
        · contradiction

theorem visit_within (ancestors : List Ancestor) (place : Location) (name path : Text) (f : Failure)
    (below : fs.Below root path) (failed : visit fs root ancestors place name path = .error f) :
    Within fs root (.failure f) := by
  unfold visit at failed
  split at failed
  · exact follow_within ancestors place name path f below failed
  · split at failed
    · contradiction
    · cases failed
      exact ⟨path, _, rfl, below⟩
  · cases failed
    exact ⟨path, _, rfl, below⟩

theorem tree_within (ancestors : List Ancestor) (place : Location) (path relative : Text) (fuel : Nat)
    (below : fs.Below root path) :
    ∀ finding ∈ findIn fs root ancestors place path relative fuel, Within fs root finding := by
  induction fuel generalizing ancestors place path relative with
  | zero => nofun
  | succ fuel ih =>
      intro finding member
      unfold findIn at member
      split at member
      · cases List.mem_singleton.mp member
        exact ⟨path, _, rfl, below⟩
      · obtain ⟨name, listed, found⟩ := List.mem_flatMap.mp member
        have child := below.child place name listed
        dsimp only at found
        split at found
        · rename_i f failed
          cases List.mem_singleton.mp found
          exact visit_within ancestors place name _ f child failed
        split at found
        · cases List.mem_cons.mp found with
          | inl here =>
              rw [here]
              trivial
          | inr inside => exact ih _ _ _ _ child finding inside
        split at found
        · rename_i named
          cases List.mem_singleton.mp found
          refine ⟨child, ?_⟩
          rw [is_archive_name_child] at named ⊢
          exact named
        split at found
        · cases List.mem_singleton.mp found
          trivial
        · cases List.mem_singleton.mp found
          exact ⟨_, _, rfl, child⟩

theorem directory_within (root : Text) : ∀ finding ∈ treeFindings fs root, Within fs root finding := by
  intro finding member
  rw [treeFindings.eq_def] at member
  split at member
  · cases List.mem_singleton.mp member
    exact ⟨root, _, rfl, .self fs root⟩
  · split at member
    · exact tree_within _ _ root [] _ (.self fs root) finding member
    · contradiction

theorem archive_entries_error (path : Text) (f : Failure) (failed : .error f ∈ archiveEntries fs path) :
    (∃ fault, f = .unreadable path fault) ∨ ∃ fault, f = .archive fault := by
  unfold archiveEntries at failed
  split at failed
  · cases List.mem_singleton.mp failed
    exact .inl ⟨_, rfl⟩
  split at failed
  · cases List.mem_singleton.mp failed
    exact .inr ⟨_, rfl⟩
  split at failed
  · cases List.mem_singleton.mp failed
    exact .inr ⟨_, rfl⟩
  · obtain ⟨listed, _, same⟩ := List.mem_map.mp failed
    cases listed with
    | ok e => cases same
    | error fault =>
        cases same
        exact .inr ⟨fault, rfl⟩

theorem archive_entries_unplaced (path : Text) (f : Failure) (failed : .error f ∈ archiveEntries fs path) :
    f.isEntry = false := by
  rcases archive_entries_error path f failed with ⟨fault, rfl⟩ | ⟨fault, rfl⟩
  · rfl
  · rfl

theorem classify_path (path : Text) (source : Input) (classified : classify fs path = .ok source) :
    source.path = path := by
  unfold classify at classified
  split at classified
  · contradiction
  · contradiction
  · split at classified
    · cases classified
      rfl
    split at classified
    · cases classified
      rfl
    · cases classified
      rfl

theorem classify_error (path : Text) (f : Failure) (failed : classify fs path = .error f) :
    f = .noInput path ∨ ∃ fault, f = .unreadable path fault := by
  unfold classify at failed
  split at failed
  · cases failed
    exact .inl rfl
  · cases failed
    exact .inr ⟨_, rfl⟩
  · split at failed
    · contradiction
    split at failed
    · contradiction
    · contradiction

theorem findings_nested (source : Input) (outer : SourceEntry) (path : Text)
    (found : .archive outer path ∈ source.findings fs) :
    fs.Below source.path path ∧ isArchiveName path = true := by
  cases source with
  | directory root => exact directory_within root _ found
  | archive root =>
      obtain ⟨listed, _, same⟩ := List.mem_map.mp found
      cases listed <;> cases same
  | file root =>
      rw [findings] at found
      split at found
      · cases List.mem_singleton.mp found
      · cases List.mem_singleton.mp found

theorem findings_failure (source : Input) (f : Failure) (found : .failure f ∈ source.findings fs) :
    (∃ path fault, f = .unreadable path fault ∧ fs.Below source.path path) ∨
    ∃ fault, f = .archive fault ∧ source = .archive source.path ∧
      .error f ∈ archiveEntries fs source.path := by
  cases source with
  | directory root => exact .inl (directory_within root _ found)
  | archive root =>
      obtain ⟨listed, member, same⟩ := List.mem_map.mp found
      cases listed with
      | ok e => cases same
      | error g =>
          cases same
          cases archive_entries_error root f member with
          | inl unreadable =>
              obtain ⟨fault, rfl⟩ := unreadable
              exact .inl ⟨root, fault, rfl, .self fs root⟩
          | inr malformed =>
              obtain ⟨fault, rfl⟩ := malformed
              exact .inr ⟨fault, rfl, rfl, member⟩
  | file root =>
      rw [findings] at found
      split at found
      · cases List.mem_singleton.mp found
        exact .inl ⟨root, _, rfl, .self fs root⟩
      · cases List.mem_singleton.mp found

end Input

namespace Event

variable {task : Task} {fs : FileSystem} {root : Text}

theorem of_input_source (event : Event) (listed : event ∈ ofInput fs root) :
    (∃ f, Input.classify fs root = .error f ∧ event = .failure f) ∨ event = .input root ∨
    ∃ source finding, Input.classify fs root = .ok source ∧ source.path = root ∧
      finding ∈ source.findings fs ∧ event ∈ ofFinding fs root finding := by
  unfold ofInput at listed
  split at listed
  · rename_i f failed
    exact .inl ⟨f, failed, List.mem_singleton.mp listed⟩
  · rename_i source classified
    cases List.mem_cons.mp listed with
    | inl opening => exact .inr (.inl opening)
    | inr later =>
        obtain ⟨finding, found, inside⟩ := List.mem_flatMap.mp later
        exact .inr (.inr ⟨source, finding, classified, Input.classify_path root source classified,
          found, inside⟩)

theorem of_input_finding (source : Input) (finding : Finding) (event : Event)
    (classified : Input.classify fs root = .ok source) (found : finding ∈ source.findings fs)
    (inside : event ∈ ofFinding fs root finding) : event ∈ ofInput fs root := by
  unfold ofInput
  rw [classified]
  exact List.mem_cons_of_mem _ (List.mem_flatMap.mpr ⟨finding, found, inside⟩)

theorem entry_inside (e : SourceEntry) (input : Text) (listed : .entry e input ∈ ofInput fs root) :
    input = root ∨ fs.Below root input ∧ isArchiveName input = true := by
  rcases of_input_source _ listed with ⟨_, _, other⟩ | other | ⟨source, finding, _, rfl, found, inside⟩
  · cases other
  · cases other
  cases finding with
  | entry own =>
      cases List.mem_singleton.mp inside
      exact .inl rfl
  | failure f => cases List.mem_singleton.mp inside
  | archive outer path =>
      obtain ⟨entry, _, same⟩ := List.mem_map.mp ((List.mem_cons.mp inside).resolve_left nofun)
      cases entry with
      | error f => cases same
      | ok inner =>
          cases same
          exact .inr (Input.findings_nested source outer _ found)

theorem failure_told (f : Failure) (listed : .failure f ∈ ofInput fs root) :
    f.Tells task fs root ∨ ∃ fault, f = .archive fault ∧
      Input.classify fs root = .ok (.archive root) ∧ .error f ∈ Input.archiveEntries fs root := by
  rcases of_input_source _ listed with ⟨g, failed, same⟩ | other |
    ⟨source, finding, classified, rfl, found, inside⟩
  · cases same
    rcases Input.classify_error root f failed with rfl | ⟨fault, rfl⟩
    · exact .inl .absent
    · exact .inl (.unreadable root fault (.self fs root))
  · cases other
  cases finding with
  | entry own => cases List.mem_singleton.mp inside
  | failure g =>
      cases List.mem_singleton.mp inside
      rcases Input.findings_failure source f found with ⟨path, fault, rfl, below⟩ | ⟨fault, same, whole, entry⟩
      · exact .inl (.unreadable path fault below)
      · refine .inr ⟨fault, same, ?_, entry⟩
        rw [classified, ← whole]
  | archive outer path =>
      have nested := Input.findings_nested source outer path found
      have opened := of_input_finding source _ (.archive outer.path) classified found List.mem_cons_self
      obtain ⟨entry, member, same⟩ := List.mem_map.mp ((List.mem_cons.mp inside).resolve_left nofun)
      cases entry with
      | ok inner => cases same
      | error cause =>
          cases same
          have bare := Input.archive_entries_unplaced path cause member
          rw [cause.in_entry_of_bare _ _ bare]
          exact .inl (.nested outer.path path cause opened nested member bare)

theorem step_told (a : Assembly) (event : Event) (f : Failure) (listed : event ∈ ofInput fs root)
    (failed : Assembly.step task a event = .error f) :
    f.Tells task fs root ∨ ∃ fault, f = .archive fault ∧
      Input.classify fs root = .ok (.archive root) ∧ .error f ∈ Input.archiveEntries fs root := by
  cases event with
  | input path => cases failed
  | archive name => cases failed
  | entry e input =>
      obtain ⟨cause, visited, rfl⟩ := map_error_error.mp failed
      have bare := Assembly.unplaced_visit a e cause visited
      rw [cause.in_entry_of_bare _ _ bare]
      exact .inl (.visited a e input cause listed (entry_inside e input listed) visited bare)
  | failure g =>
      cases failed
      exact failure_told f listed

end Event

namespace Assembly

open Event

theorem run_error (task : Task) (events : List Event) (f : Failure) (failed : run task events = .error f) :
    events.foldlM (step task) (start task) = .error f ∨
    ∃ a, events.foldlM (step task) (start task) = .ok a ∧ finish task a = .error f := by
  refine (bind_error.mp failed).imp_right fun later => ?_
  obtain ⟨a, visited, rest⟩ := later
  cases bind_error.mp rest with
  | inl flushed => exact ⟨a, visited, flushed⟩
  | inr written =>
      obtain ⟨b, _, never⟩ := written
      cases never

theorem input_failures_are_told (task : Task) (fs : FileSystem) (f : Failure)
    (failed : task.assemble fs = .error f) :
    (∃ a, (ofInputs fs task.inputs).foldlM (step task) (start task) = .ok a ∧ finish task a = .error f) ∨
    ∃ before root after a, task.inputs = before ++ root :: after ∧
      (ofInputs fs before).foldlM (step task) (start task) = .ok a ∧
      (ofInput fs root).foldlM (step task) a = .error f ∧
      (f.Tells task fs root ∨ ∃ fault, f = .archive fault ∧
        Input.classify fs root = .ok (.archive root) ∧ .error f ∈ Input.archiveEntries fs root) := by
  refine (run_error task _ f failed).symm.imp_right fun reading => ?_
  unfold ofInputs at reading ⊢
  rw [fold_flat_map] at reading
  obtain ⟨before, root, after, a, inputs, past, stopped⟩ := fold_error _ _ _ _ reading
  obtain ⟨_, event, _, b, events, _, here⟩ := fold_error _ _ _ _ stopped
  have listed : event ∈ ofInput fs root := by simp [events]
  refine ⟨before, root, after, a, inputs, ?_, stopped, step_told b event f listed here⟩
  rw [fold_flat_map]
  exact past

def mergeTask (inputs : List Text) : Task where
  inputs := inputs
  destination := []
  chain := []
  transformers := []
  exclusions := {}
  compression := .stored
  verbose := false

def broken : Item := ⟨.file [0x50, 0x4B], 0o644, 0⟩

def brokenInside : FileSystem where
  items := [(["c".toList], Item.newDirectory), (["c".toList, "x.jar".toList], broken)]

theorem broken_archive_inside_is_told :
    (mergeTask ["c".toList]).assemble brokenInside =
      .error (.entry "x.jar".toList "c".toList (.archive .malformed)) ∧
    (Failure.entry "x.jar".toList "c".toList (.archive .malformed)).Tells
      (mergeTask ["c".toList]) brokenInside "c".toList := by
  have failed : (mergeTask ["c".toList]).assemble brokenInside =
      .error (.entry "x.jar".toList "c".toList (.archive .malformed)) := by cbv
  have stopped : (ofInputs brokenInside ["c".toList]).foldlM (step (mergeTask ["c".toList]))
      (start (mergeTask ["c".toList])) =
        .error (.entry "x.jar".toList "c".toList (.archive .malformed)) := by cbv
  refine ⟨failed, ?_⟩
  cases input_failures_are_told _ brokenInside _ failed with
  | inl flushed =>
      obtain ⟨a, visited, _⟩ := flushed
      cases stopped.symm.trans visited
  | inr reading =>
      obtain ⟨before, root, after, _, inputs, _, _, told⟩ := reading
      obtain ⟨rfl, same⟩ := List.append_eq_singleton_iff.mp inputs.symm |>.resolve_right (by simp)
      cases same
      refine told.resolve_right ?_
      rintro ⟨fault, other, _⟩
      cases other

def brokenArchive : FileSystem where
  items := [(["x.jar".toList], broken)]

theorem broken_archive_is_not_told :
    (mergeTask ["x.jar".toList]).assemble brokenArchive = .error (.archive .malformed) ∧
    ∀ root, ¬ (Failure.archive .malformed).Tells (mergeTask ["x.jar".toList]) brokenArchive root := by
  have failed : (mergeTask ["x.jar".toList]).assemble brokenArchive = .error (.archive .malformed) := by cbv
  refine ⟨failed, ?_⟩
  intro root told
  cases told

end Assembly

end Shading
