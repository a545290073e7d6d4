import Shading.Proofs.Assembly.ArchiveOrder
import Shading.Proofs.Assembly.FirstEntry
import Shading.Proofs.Input
import Shading.Proofs.Settings

set_option autoImplicit false

namespace Shading

open Fallible EntryPath

def SourceEntry.Plain (e : SourceEntry) : Prop := e.isDirectory = false → NamesFile e.path

namespace Assembly

variable {task : Task} {a next : Assembly} {taken : List Text}

theorem add_directory_consistent (name : Text) (segments : List Text)
    (consistent : Consistent taken a.directories a.written) (awaiting : Awaiting name a.written)
    (around : Surrounds segments name)
    (outer : ∀ shorter, Surrounds shorter (directoryName segments) →
      Text.join ['/'] shorter ∈ a.directories) :
    ∃ next, a.addDirectory ⟨segments, false⟩ = .ok next ∧
      Consistent taken next.directories next.written ∧ Awaiting name next.written ∧
      ∀ key, key ∈ next.directories ↔ key = Text.join ['/'] segments ∨ key ∈ a.directories := by
  have key : (⟨segments, false⟩ : EntryPath).path = Text.join ['/'] segments := rfl
  unfold addDirectory
  rw [key]
  by_cases there : Text.join ['/'] segments ∈ a.directories
  · refine ⟨a, if_pos (List.contains_iff_mem.mpr there), consistent, awaiting, ?_⟩
    intro key
    constructor
    · exact Or.inr
    · intro either
      cases either with
      | inl same => exact same ▸ there
      | inr before => exact before
  · rw [if_neg (fun listed => there (List.contains_iff_mem.mp listed))]
    let d := a.directoryEntry ⟨segments, false⟩
    have enclosed := consistent.enclosing (directoryName segments) outer
    have grown := consistent.directory _ there d rfl rfl enclosed
    have free : d.name ∉ a.written.map Zip.NewEntry.name := fun named =>
      there ((consistent.directories _).mpr named)
    refine ⟨_, (write_ok _ _ _).mpr ⟨has_name_false _ _ free, rfl⟩, grown, ?_, fun key => ?_⟩
    · exact awaiting.directory d rfl ⟨segments, around, rfl⟩
    · exact List.mem_cons

theorem add_outward_consistent (name : Text) (depth : Nat)
    (bound : depth ≤ (Text.segments name).length - 1)
    (consistent : Consistent taken a.directories a.written) (awaiting : Awaiting name a.written) :
    ∃ parents, (outward name depth).foldlM addDirectory a = .ok parents ∧
      Consistent taken parents.directories parents.written ∧ Awaiting name parents.written ∧
      ∀ n < depth, Text.join ['/'] ((Text.segments name).take (n + 1)) ∈ parents.directories := by
  induction depth with
  | zero => exact ⟨a, rfl, consistent, awaiting, fun n impossible => by omega⟩
  | succ depth ih =>
      obtain ⟨outer, done, whole, waiting, known⟩ := ih (by omega)
      let segments := (Text.segments name).take (depth + 1)
      have around : Surrounds segments name :=
        (surrounds_iff segments name).mpr ⟨depth, by omega, rfl⟩
      have length : segments.length = depth + 1 := List.length_take_of_le (by omega)
      have within : ∀ shorter, Surrounds shorter (directoryName segments) →
          Text.join ['/'] shorter ∈ outer.directories := by
        intro shorter inside
        obtain ⟨n, less, same⟩ := (surrounds_iff shorter _).mp inside
        rw [around.segments_of_name] at less same
        rw [same, List.take_take, Nat.min_eq_left (by omega)]
        exact known n (by omega)
      obtain ⟨next, added, grown, still, more⟩ :=
        add_directory_consistent name segments whole waiting around within
      refine ⟨next, ?_, grown, still, ?_⟩
      · rw [outward_succ, List.foldlM_append, done]
        show [⟨segments, false⟩].foldlM addDirectory outer = .ok next
        rw [List.foldlM_cons, added]
        rfl
      · intro n less
        rw [more]
        by_cases last : n = depth
        · exact .inl (last ▸ rfl)
        · exact .inr (known n (by omega))

theorem add_parents_consistent (name : Text)
    (consistent : Consistent taken a.directories a.written) (awaiting : Awaiting name a.written) :
    ∃ parents, a.addParents name = .ok parents ∧
      Consistent taken parents.directories parents.written ∧ Awaiting name parents.written ∧
      Enclosed parents.written name := by
  obtain ⟨parents, done, grown, still, known⟩ :=
    add_outward_consistent name _ (Nat.le_refl _) consistent awaiting
  refine ⟨parents, ?_, grown, still, ?_⟩
  · unfold addParents
    rw [ancestors_outward]
    exact done
  · refine grown.enclosing name fun segments around => ?_
    obtain ⟨n, less, rfl⟩ := (surrounds_iff segments name).mp around
    exact known n less

structure Sound (a : Assembly) : Prop where
  consistent : Consistent a.files a.directories a.written
  needed : ∀ d after, d :: after <:+ a.written → d.isDirectory = true → Needed d after

theorem Sound.laid (sound : Sound a) : Laid a.written :=
  ⟨sound.consistent.distinct, sound.consistent.enclosed, followed_of_needed sound.needed⟩

theorem start_sound (task : Task) : Sound (start task) := by
  have empty : ∀ (before : List Zip.NewEntry) e, ¬ before ++ [e] <+: [] := by
    intro before e begins
    simp at begins
  refine ⟨⟨List.nodup_nil, ?_, ?_, ?_, ?_⟩, ?_⟩
  · exact fun e member => absurd member List.not_mem_nil
  · intro key
    simp [start]
  · exact fun e member => absurd member List.not_mem_nil
  · exact fun before e begins => absurd begins (empty before e)
  · intro d after suffix
    simp [start] at suffix

theorem Sound.around (sound : Sound a) (name : Text) (named : NamesFile name)
    (fresh : name ∉ a.files) :
    ∃ parents, (a.claimed name).addParents name = .ok parents ∧ parents.hasName name = false ∧
      ∀ file : Zip.NewEntry, file.name = name → file.isDirectory = false →
        Sound { parents with written := parents.written ++ [file] } := by
  have awaiting : Awaiting name a.written := fun d after suffix isDirectory =>
    .inl (sound.needed d after suffix isDirectory)
  obtain ⟨parents, done, grown, still, enclosed⟩ :=
    add_parents_consistent (a := a.claimed name) name sound.consistent awaiting
  have free := grown.free name named fresh
  refine ⟨parents, done, has_name_false parents name free, fun file same isFile => ?_⟩
  obtain ⟨_, _, frame, _⟩ := add_parents_frame name done
  have files : parents.files = name :: a.files := by
    rw [frame]
    rfl
  subst same
  refine ⟨?_, still.file isFile⟩
  have more := grown.file file isFile named free enclosed
  rw [← files] at more
  exact more

theorem Sound.placed (sound : Sound a) {file : Zip.NewEntry} (placed : Placed a file next)
    (named : NamesFile file.name) : Sound next := by
  obtain ⟨parents, done, _, written⟩ := sound.around file.name named placed.fresh
  obtain ⟨_, same, _, rfl⟩ := placed.behind
  cases done.symm.trans same
  exact written file rfl placed.isFile

theorem Sound.add_file_accepted (sound : Sound a) (compression : Compression) (name : Text)
    (time? : Option Zip.Timestamp) (mode? : Option Nat) (content : Except FileFault Bytes)
    (named : NamesFile name) (fresh : name ∉ a.files) :
    (a.claimed name).addFile compression name time? mode? content ≠
      .error (.archive .duplicateName) := by
  obtain ⟨parents, done, free, _⟩ := sound.around name named fresh
  unfold addFile
  rw [done]
  show (if parents.hasName name = true then _ else _) ≠ _
  rw [if_neg (by simp [free])]
  cases content with
  | error fault =>
      intro failed
      cases failed
  | ok bytes =>
      intro failed
      have written := (write_ok parents _ (fileEntry compression name time? mode? bytes)).mpr ⟨free, rfl⟩
      cases written.symm.trans failed

theorem Sound.collected_accepted (sound : Sound a) (item : Text × Bytes) (named : NamesFile item.1) :
    addCollected task a item ≠ .error (.archive .duplicateName) := by
  intro refused
  obtain ⟨fresh, failed⟩ := claim_error _ _ _ _ refused
  exact sound.add_file_accepted _ _ _ _ _ named fresh failed

theorem placement_named (names : ∀ r ∈ task.chain, r.TargetsName) (e : SourceEntry)
    (plain : e.Plain) (target : Text)
    (file : Except Failure Zip.NewEntry) (wanted : placement? task e = some (target, file)) :
    NamesFile target := by
  unfold placement? at wanted
  by_cases directory : e.isDirectory = true
  · simp [directory] at wanted
  by_cases excluded : task.exclusions.excludes e.path = true
  · simp [excluded] at wanted
  rw [if_neg (by simp [directory, excluded])] at wanted
  by_cases isClass : isClass task e.path = true
  · rw [if_pos isClass] at wanted
    cases wanted
    exact Chain.names_file_class_path task.chain e.path
  rw [if_neg isClass] at wanted
  by_cases claims : (task.transformers.any fun t => t.claims e.path) = true
  · rw [if_pos claims] at wanted
    contradiction
  · rw [if_neg claims] at wanted
    cases wanted
    exact Chain.names_file_mapped names e.path (plain (by simpa using directory))

theorem Sound.visit_accepted (sound : Sound a) (names : ∀ r ∈ task.chain, r.TargetsName)
    (faithful : Faithful task a) (e : SourceEntry) (plain : e.Plain) :
    visit task a e ≠ .error (.archive .duplicateName) := by
  intro refused
  cases route : placement? task e with
  | none =>
      cases visit_unwanted e faithful route with
      | inl kept =>
          obtain ⟨_, outcome⟩ := kept
          rw [outcome] at refused
          contradiction
      | inr failed =>
          obtain ⟨_, outcome⟩ := failed
          cases outcome.symm.trans refused
  | some wanted =>
      obtain ⟨target, file⟩ := wanted
      have file_name := placement_named names e plain target file route
      obtain ⟨_, add, outcome, adds⟩ := visit_wanted e faithful target file route
      obtain ⟨fresh, failed⟩ := claim_error _ _ _ _ (outcome.symm.trans refused)
      cases adds (a.claimed target) with
      | inl written =>
          obtain ⟨_, _, same, _⟩ := written
          rw [same] at failed
          exact sound.add_file_accepted _ _ _ _ _ file_name fresh failed
      | inr reading =>
          obtain ⟨f, same, other⟩ := reading
          cases same.symm.trans failed
          exact other rfl

theorem Sound.visited (sound : Sound a) (names : ∀ r ∈ task.chain, r.TargetsName)
    (faithful : Faithful task a) (e : SourceEntry) (plain : e.Plain)
    (done : visit task a e = .ok next) : Sound next := by
  cases visit_ok a next e faithful done with
  | inl nothing =>
      obtain ⟨_, records, rfl⟩ := nothing
      exact ⟨sound.consistent, sound.needed⟩
  | inr something =>
      obtain ⟨target, file, wanted, _, outcome⟩ := something
      cases outcome with
      | inl taken => exact taken.2 ▸ sound
      | inr written =>
          obtain ⟨entry, _, rfl, placed⟩ := written
          exact sound.placed placed (placement_named names e plain _ file wanted)

theorem run_sound (names : ∀ r ∈ task.chain, r.TargetsName) (events : List Event)
    (plain : ∀ e ∈ events.filterMap Event.entry?, e.Plain)
    (done : events.foldlM (step task) (start task) = .ok a) : Sound a := by
  induction events using List.reverseRecOn generalizing a with
  | nil =>
      cases done
      exact start_sound task
  | append_singleton past event ih =>
      rw [List.foldlM_append] at done
      obtain ⟨s, before, stepped⟩ := bind_ok.mp done
      have sound := ih (fun e member => plain e (by simp [member])) before
      have faithful := (run_visited past before).faithful
      rw [List.foldlM_cons] at stepped
      obtain ⟨next, once, rest⟩ := bind_ok.mp stepped
      cases rest
      have outcome := step_ok event once
      cases found : event.entry? with
      | none =>
          rw [found] at outcome
          exact outcome ▸ sound
      | some e =>
          rw [found] at outcome
          exact sound.visited names faithful e (plain e (by simp [found])) outcome

theorem Sound.collected (sound : Sound a) (items : List (Text × Bytes))
    (named : ∀ item ∈ items, NamesFile item.1)
    (done : items.foldlM (addCollected task) a = .ok next) : Sound next := by
  induction items generalizing a with
  | nil =>
      cases done
      exact sound
  | cons item rest ih =>
      obtain ⟨first, others⟩ := List.forall_mem_cons.mp named
      rw [List.foldlM_cons] at done
      obtain ⟨s, added, later⟩ := bind_ok.mp done
      refine ih ?_ others later
      cases (claim_ok _ _ _ _).mp added with
      | inl taken => exact taken.2 ▸ sound
      | inr free =>
          obtain ⟨bytes, _, placed⟩ := placed_of_add_file _ _ _ _ _ free.1 free.2
          exact sound.placed placed first

theorem run_names_files (names : ∀ r ∈ task.chain, r.TargetsName)
    (fresh : ∀ t ∈ task.transformers, t.NamesFiles) (events : List Event)
    (plain : ∀ e ∈ events.filterMap Event.entry?, e.Plain)
    (done : events.foldlM (step task) (start task) = .ok a) :
    ∀ item ∈ a.transformers.flatMap Transformer.output, NamesFile item.1 := by
  have offered : ∀ t ∈ a.transformers, t.NamesFiles := by
    rw [(run_visited events done).offered]
    refine offers_each Transformer.NamesFiles task _ fresh ?_
    intro e member kept t content holds
    have isFile : e.isDirectory = false := by
      unfold isOffered at kept
      by_contra directory
      simp [directory] at kept
    exact t.take_names_files _ _ content (Chain.names_file_mapped names e.path (plain e member isFile))
      names holds
  intro item member
  obtain ⟨t, there, output⟩ := List.mem_flatMap.mp member
  exact t.output_names_files (offered t there) item output

theorem steps_keep_archive_laid (task : Task) (names : ∀ r ∈ task.chain, r.TargetsName)
    (fresh : ∀ t ∈ task.transformers, t.NamesFiles) (events : List Event)
    (plain : ∀ e ∈ events.filterMap Event.entry?, e.Plain)
    (a : Assembly) (visited : events.foldlM (step task) (start task) = .ok a) :
    Laid a.written ∧
    (∀ e : SourceEntry, e.Plain → visit task a e ≠ .error (.archive .duplicateName)) ∧
    ∀ collected rest b, a.transformers.flatMap Transformer.output = collected ++ rest →
      collected.foldlM (addCollected task) a = .ok b →
      Laid b.written ∧ ∀ item ∈ rest, addCollected task b item ≠ .error (.archive .duplicateName) := by
  have sound := run_sound names events plain visited
  have faithful := (run_visited events visited).faithful
  refine ⟨sound.laid, fun e file => sound.visit_accepted names faithful e file, ?_⟩
  intro collected rest b whole done
  have named := run_names_files names fresh events plain visited
  rw [whole] at named
  have later := sound.collected collected (fun item member => named item (by simp [member])) done
  refine ⟨later.laid, fun item member => ?_⟩
  exact later.collected_accepted item (named item (by simp [member]))

def directory (path : Text) : SourceEntry := ⟨path, true, none, none, 0, .ok []⟩

-- Nothing is below the directory `a/e`, so it is not written.
def nested : List Event := [.entry (directory "a/e".toList) ['x'],
  .entry (resource "a/q/t".toList [1]) ['x'], .entry (resource "a/s".toList [2]) ['x'],
  .entry (resource "META-INF/services/a.S".toList [97, 46, 68]) ['x']]

theorem nested_files_are_enclosed : ∃ a b, nested.foldlM (step movedTask) (start movedTask) = .ok a ∧
    finish movedTask a = .ok b ∧ Laid a.written ∧ Laid b.written ∧
    b.written.map Zip.NewEntry.name = ["b/".toList, "b/q/".toList, "b/q/t".toList, "b/s".toList,
      "META-INF/".toList, "META-INF/services/".toList, "META-INF/services/b.S".toList] := by
  have listed : (run movedTask nested).map (List.map Zip.NewEntry.name) =
      .ok ["b/".toList, "b/q/".toList, "b/q/t".toList, "b/s".toList, "META-INF/".toList,
        "META-INF/services/".toList, "META-INF/services/b.S".toList] := by
    decide +kernel
  obtain ⟨written, done, names⟩ := map_ok.mp listed
  obtain ⟨a, b, visited, finished, rfl⟩ := run_ok nested written done
  have rules : ∀ r ∈ movedTask.chain, r.TargetsName := List.forall_mem_singleton.mpr
    (Relocation.unfiltered_targets_name ['a'] ['b'] (by decide) (by decide) (by decide))
  have fresh : ∀ t ∈ movedTask.transformers, t.NamesFiles := by
    simp [movedTask, Transformer.NamesFiles, ServiceMerger.start]
  have plain : ∀ e ∈ nested.filterMap Event.entry?, e.Plain := by
    simp [nested, Event.entry?, resource, directory, SourceEntry.Plain, names_file_iff]
  obtain ⟨before, _, later⟩ := steps_keep_archive_laid movedTask rules fresh nested plain a visited
  obtain ⟨after, _⟩ := later _ [] b (List.append_nil _).symm finished
  exact ⟨a, b, visited, finished, before, after, names⟩

-- An empty target ends in no separator either, and it leaves the name of a directory for a file.
def emptiedTask : Task := { movedTask with chain := [Relocation.unfiltered "foo".toList (some [])] }

theorem emptied_name_is_refused :
    (∀ r ∈ emptiedTask.chain, Text.endsWith ['.'] r.target = false ∧
      Text.endsWith ['/'] r.pathTarget = false) ∧
    run emptiedTask [.entry (resource "META-INF/services/foo".toList [120]) ['x'],
        .entry (resource "META-INF/services/zed".toList [121]) ['x']] =
      .error (.archive .duplicateName) := by
  refine ⟨by decide +kernel, ?_⟩
  have refused : (run emptiedTask [.entry (resource "META-INF/services/foo".toList [120]) ['x'],
      .entry (resource "META-INF/services/zed".toList [121]) ['x']]).map List.length =
      .error (.archive .duplicateName) := by
    decide +kernel
  revert refused
  cases run emptiedTask _ with
  | error f => exact fun same => congrArg Except.error (Except.error.inj same)
  | ok written => exact fun same => nomatch same

end Assembly

theorem Settings.archive_laid (s : Settings) (task : Task) (built : s.task = .ok task)
    (targets : ∀ r ∈ task.chain, r.target ≠ [] ∧ Text.endsWith ['.'] r.target = false)
    (fs : FileSystem) (named : fs.Named) (written : List Zip.NewEntry)
    (done : task.assemble fs = .ok written) : Assembly.Laid written := by
  have names : ∀ r ∈ task.chain, r.TargetsName := fun r member =>
    ⟨s.task_coherent task built r member, (targets r member).1, (targets r member).2⟩
  have plain : ∀ e ∈ (Event.ofInputs fs task.inputs).filterMap Event.entry?, e.Plain :=
    fun e member _ => Event.inputs_name_files fs named task.inputs e member
  have fresh := s.task_names_files task built
  obtain ⟨a, b, visited, finished, rfl⟩ := Assembly.run_ok _ written done
  have sound := Assembly.run_sound names _ plain visited
  exact (sound.collected _ (Assembly.run_names_files names fresh _ plain visited) finished).laid

end Shading
