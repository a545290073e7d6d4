import Shading.Input
import Shading.Proofs.Assembly.Steps
import Shading.Proofs.EntryPath

set_option autoImplicit false

namespace Shading

open EntryPath

-- The names in the locations of items are what stands between slashes.
def FileSystem.Named (fs : FileSystem) : Prop :=
  ∀ item ∈ fs.items, ∀ name ∈ item.1, name ≠ [] ∧ '/' ∉ name

theorem EntryPath.names_file_plain (name : Text) (plain : '/' ∉ name) : NamesFile name := by
  rw [names_file_iff]
  exact fun closed => plain (List.mem_of_getLast? closed)

theorem Path.child_names_file (directory name : Text) (filled : name ≠ []) (plain : '/' ∉ name) :
    NamesFile (child directory name) := by
  have last := List.getLast?_eq_some_getLast filled
  have file := (names_file_iff name).mp (names_file_plain name plain)
  rw [last] at file
  unfold child
  by_cases bare : directory = [] ∨ Text.endsWith ['/'] directory = true
  · rw [if_pos bare, names_file_iff, List.getLast?_append, last]
    exact file
  · rw [if_neg bare, names_file_iff, List.getLast?_append, List.getLast?_cons, last]
    exact file

theorem Path.file_name_plain (path name : Text) (found : fileName? path = some name) :
    '/' ∉ name := by
  unfold fileName? at found
  dsimp only at found
  split at found
  · contradiction
  · rw [← Option.some.inj found]
    unfold Text.lastSegment
    rw [List.mem_reverse]
    intro member
    simpa using List.mem_takeWhile_imp member

theorem SourceEntry.of_archive_names_file (e : Zip.Entry) : NamesFile (ofArchive e).path := by
  rw [names_file_iff]
  unfold ofArchive
  rw [List.getLast?_reverse]
  intro closed
  have other := List.head?_dropWhile_not (· == '/') e.name.reverse
  rw [closed] at other
  contradiction

theorem SourceEntry.of_tree_item_path (path : Text) (item : Item) :
    (ofTreeItem path item).path = path := by
  unfold ofTreeItem
  by_cases directory : item.isDirectory = true
  · rw [if_pos directory]
    rfl
  · rw [if_neg directory]
    rfl

theorem FileSystem.Named.names_in {fs : FileSystem} (named : fs.Named) (place : Location) :
    ∀ name ∈ fs.namesIn place, name ≠ [] ∧ '/' ∉ name := by
  intro name member
  unfold namesIn at member
  rw [List.mem_mergeSort] at member
  obtain ⟨item, listed, found⟩ := List.mem_filterMap.mp member
  cases last : item.1.getLast? with
  | none => simp [last] at found
  | some other =>
      have inside := named item listed other (List.mem_of_getLast? last)
      simp only [last] at found
      by_cases here : item.1.dropLast = place
      · rw [if_pos here] at found
        exact Option.some.inj found ▸ inside
      · rw [if_neg here] at found
        contradiction

namespace Input

variable {fs : FileSystem}

theorem archive_entries_name_files (path : Text) (e : SourceEntry)
    (member : .ok e ∈ archiveEntries fs path) : NamesFile e.path := by
  unfold archiveEntries at member
  split at member
  · simp at member
  · split at member
    · simp at member
    · split at member
      · simp at member
      · obtain ⟨listed, _, same⟩ := List.mem_map.mp member
        cases listed with
        | error fault => cases same
        | ok entry =>
            cases same
            exact SourceEntry.of_archive_names_file entry

theorem tree_names_files (named : fs.Named) (root : Text) (ancestors : List Ancestor)
    (place : Location) (path relative : Text) (fuel : Nat) (e : SourceEntry)
    (member : .entry e ∈ findIn fs root ancestors place path relative fuel) : NamesFile e.path := by
  induction fuel generalizing ancestors place path relative with
  | zero => contradiction
  | succ fuel ih =>
      unfold findIn at member
      split at member
      · simp at member
      · obtain ⟨name, listed, found⟩ := List.mem_flatMap.mp member
        obtain ⟨filled, plain⟩ := named.names_in place name listed
        have file := Path.child_names_file relative name filled plain
        dsimp only at found
        split at found
        · simp at found
        · rename_i visited _
          have own := SourceEntry.of_tree_item_path (Path.child relative name) visited.item
          split at found
          · cases List.mem_cons.mp found with
            | inl here =>
                cases here
                rw [own]
                exact file
            | inr below => exact ih _ _ _ _ below
          · split at found
            · simp at found
            · split at found
              · cases List.mem_singleton.mp found
                rw [own]
                exact file
              · simp at found

theorem findings_name_files (named : fs.Named) (source : Input) (e : SourceEntry)
    (member : .entry e ∈ source.findings fs) : NamesFile e.path := by
  cases source with
  | directory root =>
      rw [findings, treeFindings.eq_def] at member
      split at member
      · simp at member
      · split at member
        · exact tree_names_files named _ _ _ _ _ _ e member
        · contradiction
  | archive path =>
      rw [findings] at member
      obtain ⟨listed, found, same⟩ := List.mem_map.mp member
      cases listed with
      | error f => cases same
      | ok entry =>
          cases same
          exact archive_entries_name_files path e found
  | file path =>
      rw [findings] at member
      split at member
      · simp at member
      · cases List.mem_singleton.mp member
        cases found : Path.fileName? path with
        | none => exact names_file_plain _ (by simp [SourceEntry.ofItem])
        | some name =>
            exact names_file_plain _ (by
              simpa [SourceEntry.ofItem, found] using Path.file_name_plain path name found)

end Input

theorem Event.finding_names_files (fs : FileSystem) (root : Text) (finding : Finding)
    (own : ∀ e, finding = .entry e → NamesFile e.path) (e : SourceEntry)
    (member : e ∈ (ofFinding fs root finding).filterMap entry?) : NamesFile e.path := by
  obtain ⟨event, listed, same⟩ := List.mem_filterMap.mp member
  cases finding with
  | entry found =>
      cases List.mem_singleton.mp listed
      cases same
      exact own e rfl
  | failure f =>
      cases List.mem_singleton.mp listed
      contradiction
  | archive outer path =>
      cases List.mem_cons.mp listed with
      | inl opening =>
          rw [opening] at same
          contradiction
      | inr inside =>
          obtain ⟨entry, found, rfl⟩ := List.mem_map.mp inside
          cases entry with
          | error f => contradiction
          | ok inner =>
              cases same
              exact Input.archive_entries_name_files path e found

theorem Event.inputs_name_files (fs : FileSystem) (named : fs.Named) (paths : List Text)
    (e : SourceEntry) (member : e ∈ (ofInputs fs paths).filterMap entry?) : NamesFile e.path := by
  obtain ⟨event, listed, same⟩ := List.mem_filterMap.mp member
  obtain ⟨path, _, event_of⟩ := List.mem_flatMap.mp listed
  unfold ofInput at event_of
  split at event_of
  · cases List.mem_singleton.mp event_of
    contradiction
  · rename_i source _
    cases List.mem_cons.mp event_of with
    | inl opening =>
        rw [opening] at same
        contradiction
    | inr inside =>
        obtain ⟨finding, found, event_of⟩ := List.mem_flatMap.mp inside
        refine finding_names_files fs path finding ?_ e (List.mem_filterMap.mpr ⟨event, event_of, same⟩)
        rintro own rfl
        exact Input.findings_name_files named source own found

end Shading
