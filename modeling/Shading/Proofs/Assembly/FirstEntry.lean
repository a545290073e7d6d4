import Mathlib.Data.List.Induction
import Shading.Proofs.Assembly.Steps

set_option autoImplicit false

namespace Shading

open Fallible

namespace Assembly

section Firsts

variable {α : Type}

def firsts (items : List (Text × α)) : List (Text × α) :=
  items.zipIdx.filterMap fun (item, n) =>
    if ((items.take n).map Prod.fst).contains item.1 then none else some item

theorem firsts_append_one (items : List (Text × α)) (item : Text × α) :
    firsts (items ++ [item]) =
      firsts items ++ if item.1 ∈ items.map Prod.fst then [] else [item] := by
  have earlier : items.zipIdx.filterMap (fun (other, n) =>
      if (((items ++ [item]).take n).map Prod.fst).contains other.1 then none else some other) =
      firsts items := by
    refine List.filterMap_congr fun pair member => ?_
    obtain ⟨other, n⟩ := pair
    have bound := List.snd_lt_of_mem_zipIdx member
    dsimp only at bound ⊢
    rw [List.take_append_of_le_length (by omega)]
  have last : ([item].zipIdx (0 + items.length)).filterMap (fun (other, n) =>
      if (((items ++ [item]).take n).map Prod.fst).contains other.1 then none else some other) =
      if item.1 ∈ items.map Prod.fst then [] else [item] := by
    by_cases taken : item.1 ∈ items.map Prod.fst
    · simp [taken]
    · simp [taken]
  calc firsts (items ++ [item]) = _ := by
        unfold firsts
        rw [List.zipIdx_append, List.filterMap_append]
    _ = _ := by rw [earlier, last]

end Firsts

variable {task : Task} {a next : Assembly}

abbrev Placement := Text × Except Failure Zip.NewEntry

def placements (task : Task) (entries : List SourceEntry) : List Placement :=
  entries.filterMap (placement? task)

-- The files that the transformers ask for once they have been offered all entries.
def collected (task : Task) (entries : List SourceEntry) : List Placement :=
  ((entries.foldl (afterOffer task) task.transformers).flatMap Transformer.output).map
    fun (path, content) => (path, .ok (fileEntry task.compression path none none content))

def filesIn (written : List Zip.NewEntry) : List Placement :=
  (written.filter fun e => !e.isDirectory).map fun e => (e.name, .ok e)

-- Of the files that have been asked for, those that came first at their path are written.
structure Holds (wanted : List Placement) (a : Assembly) : Prop where
  files : filesIn a.written = firsts wanted
  taken : ∀ path, path ∈ a.files ↔ path ∈ wanted.map Prod.fst

theorem add_directory_frame (d : EntryPath) (done : a.addDirectory d = .ok next) :
    ∃ added directories, next = { a with written := a.written ++ added, directories } ∧
      filesIn added = [] := by
  unfold addDirectory at done
  by_cases there : a.directories.contains d.path = true
  · rw [if_pos there] at done
    refine ⟨[], a.directories, ?_, rfl⟩
    rw [List.append_nil]
    exact (Except.ok.inj done).symm
  · rw [if_neg there] at done
    obtain ⟨_, same⟩ := (write_ok _ _ _).mp done
    exact ⟨_, _, same, rfl⟩

theorem add_parents_frame (path : Text) (done : a.addParents path = .ok next) :
    ∃ added directories, next = { a with written := a.written ++ added, directories } ∧
      filesIn added = [] := by
  refine fold_invariant addDirectory (fun _ s => ∃ added directories,
    s = { a with written := a.written ++ added, directories } ∧ filesIn added = [])
    ?_ [] _ a next ⟨[], a.directories, by simp, rfl⟩ done
  intro _ s d t grown added
  obtain ⟨before, _, rfl, none⟩ := grown
  obtain ⟨more, directories, rfl, nothing⟩ := add_directory_frame d added
  refine ⟨before ++ more, directories, by simp, ?_⟩
  unfold filesIn at none nothing ⊢
  rw [List.filter_append, List.map_append, none, nothing]
  rfl

theorem Holds.kept {wanted : List Placement} (holds : Holds wanted a) (item : Placement)
    (there : item.1 ∈ a.files) : Holds (wanted ++ [item]) a := by
  have earlier := (holds.taken item.1).mp there
  constructor
  · rw [firsts_append_one, if_pos earlier, List.append_nil]
    exact holds.files
  · intro path
    rw [List.map_append, List.mem_append, ← holds.taken path]
    constructor
    · exact Or.inl
    · intro either
      cases either with
      | inl before => exact before
      | inr same => exact List.mem_singleton.mp same ▸ there

theorem Placed.frame {file : Zip.NewEntry} (placed : Placed a file next) :
    ∃ added directories, filesIn added = [] ∧ next = { a with
      written := a.written ++ added ++ [file]
      files := file.name :: a.files
      directories } := by
  obtain ⟨parents, around, _, rfl⟩ := placed.behind
  obtain ⟨added, directories, rfl, nothing⟩ := add_parents_frame file.name around
  exact ⟨added, directories, nothing, rfl⟩

theorem Holds.placed {wanted : List Placement} (holds : Holds wanted a) (file : Zip.NewEntry)
    (placed : Placed a file next) : Holds (wanted ++ [(file.name, .ok file)]) next := by
  have late : file.name ∉ wanted.map Prod.fst := fun earlier =>
    placed.fresh ((holds.taken file.name).mpr earlier)
  have isFile := placed.isFile
  obtain ⟨added, directories, nothing, rfl⟩ := placed.frame
  constructor
  · rw [firsts_append_one, if_neg late, ← holds.files]
    unfold filesIn at nothing ⊢
    simp only [List.filter_append, List.map_append, nothing, List.append_nil]
    simp [isFile]
  · intro path
    rw [List.map_append, List.mem_append, List.mem_cons, holds.taken path]
    simp only [List.map_cons, List.map_nil, List.mem_singleton]
    exact Or.comm

structure Visited (task : Task) (entries : List SourceEntry) (a : Assembly) : Prop where
  holds : Holds (placements task entries) a
  offered : a.transformers = entries.foldl (afterOffer task) task.transformers

theorem offers_claims (task : Task) (entries : List SourceEntry) (path : Text) :
    ((entries.foldl (afterOffer task) task.transformers).any fun t => t.claims path) =
      task.transformers.any fun t => t.claims path := by
  induction entries using List.reverseRecOn with
  | nil => rfl
  | append_singleton earlier e ih =>
      rw [List.foldl_append, List.foldl_cons, List.foldl_nil, after_offer_claims]
      exact ih

theorem after_offer_each (holds : Transformer → Prop) (task : Task) (transformers : List Transformer)
    (e : SourceEntry) (each : ∀ t ∈ transformers, holds t)
    (taking : isOffered task e = true → ∀ t content, holds t →
      holds (t.take task.chain (task.chain.mapPath e.path) content)) :
    ∀ t ∈ afterOffer task transformers e, holds t := by
  unfold afterOffer
  split
  · rename_i content offered _
    intro t member
    obtain ⟨u, before, rfl⟩ := List.mem_map.mp member
    by_cases claims : u.claims e.path = true
    · rw [if_pos claims]
      exact taking offered u content (each u before)
    · rw [if_neg claims]
      exact each u before
  · exact each

theorem offers_each (holds : Transformer → Prop) (task : Task) (entries : List SourceEntry)
    (each : ∀ t ∈ task.transformers, holds t)
    (taking : ∀ e ∈ entries, isOffered task e = true → ∀ t content, holds t →
      holds (t.take task.chain (task.chain.mapPath e.path) content)) :
    ∀ t ∈ entries.foldl (afterOffer task) task.transformers, holds t := by
  induction entries using List.reverseRecOn with
  | nil => exact each
  | append_singleton earlier e ih =>
      rw [List.foldl_append]
      have before := ih fun other member => taking other (List.mem_append_left [e] member)
      exact after_offer_each holds task _ e before (taking e (by simp))

theorem Visited.faithful {entries : List SourceEntry} (visited : Visited task entries a) :
    Faithful task a := by
  intro path
  unfold isClaimed
  rw [visited.offered]
  exact offers_claims task entries path

theorem Visited.step {entries : List SourceEntry} (visited : Visited task entries a)
    (e : SourceEntry) (done : visit task a e = .ok next) : Visited task (entries ++ [e]) next := by
  have offers : (entries ++ [e]).foldl (afterOffer task) task.transformers =
      afterOffer task a.transformers e := by
    rw [List.foldl_append, visited.offered]
    rfl
  cases visit_ok a next e visited.faithful done with
  | inl nothing =>
      obtain ⟨none, records, rfl⟩ := nothing
      refine ⟨?_, offers.symm⟩
      have same : placements task (entries ++ [e]) = placements task entries := by
        simp [placements, none]
      rw [same]
      exact ⟨visited.holds.files, visited.holds.taken⟩
  | inr something =>
      obtain ⟨target, file, some, still, outcome⟩ := something
      have more : placements task (entries ++ [e]) = placements task entries ++ [(target, file)] := by
        simp [placements, some]
      rw [still] at offers
      cases outcome with
      | inl taken =>
          obtain ⟨there, rfl⟩ := taken
          refine ⟨?_, offers.symm⟩
          rw [more]
          exact visited.holds.kept (target, file) there
      | inr written =>
          obtain ⟨entry, rfl, rfl, placed⟩ := written
          refine ⟨?_, ?_⟩
          · rw [more]
            exact visited.holds.placed entry placed
          · obtain ⟨_, _, _, rfl⟩ := placed.frame
            exact offers.symm

theorem step_ok (event : Event) (done : step task a event = .ok next) :
    match event.entry? with
    | some e => visit task a e = .ok next
    | none => next = a := by
  cases event with
  | input path => exact (Except.ok.inj done).symm
  | archive name => exact (Except.ok.inj done).symm
  | entry e input => exact map_error_ok.mp done
  | failure f => contradiction

theorem run_visited (events : List Event)
    (done : events.foldlM (step task) (start task) = .ok a) :
    Visited task (events.filterMap Event.entry?) a := by
  have opening : Visited task [] (start task) := ⟨⟨rfl, fun path => Iff.rfl⟩, rfl⟩
  refine fold_invariant (step task) (fun past s => Visited task (past.filterMap Event.entry?) s)
    ?_ [] events (start task) a opening done
  intro past s event t visited stepped
  have outcome := step_ok event stepped
  rw [List.filterMap_append]
  cases found : event.entry? with
  | none =>
      rw [found] at outcome
      simpa [found, outcome] using visited
  | some e =>
      rw [found] at outcome
      simpa [found] using visited.step e outcome

theorem Holds.collected {wanted : List Placement} (holds : Holds wanted a) (item : Text × Bytes)
    (done : addCollected task a item = .ok next) :
    Holds (wanted ++ [(item.1, .ok (fileEntry task.compression item.1 none none item.2))]) next := by
  unfold addCollected at done
  cases (claim_ok _ _ _ _).mp done with
  | inl taken =>
      obtain ⟨there, rfl⟩ := taken
      exact holds.kept _ there
  | inr free =>
      obtain ⟨bytes, same, placed⟩ := placed_of_add_file _ _ _ _ _ free.1 free.2
      cases same
      exact holds.placed _ placed

theorem run_ok (events : List Event) (written : List Zip.NewEntry)
    (done : run task events = .ok written) :
    ∃ a b, events.foldlM (step task) (start task) = .ok a ∧ finish task a = .ok b ∧
      written = b.written := by
  obtain ⟨a, visited, rest⟩ := bind_ok.mp done
  obtain ⟨b, finished, final⟩ := bind_ok.mp rest
  exact ⟨a, b, visited, finished, (Except.ok.inj final).symm⟩

theorem run_files (events : List Event) (written : List Zip.NewEntry)
    (done : run task events = .ok written) :
    filesIn written = firsts (placements task (events.filterMap Event.entry?) ++
      collected task (events.filterMap Event.entry?)) := by
  obtain ⟨a, b, stepped, finished, rfl⟩ := run_ok events written done
  have visited := run_visited events stepped
  have holds := fold_invariant (addCollected task) (fun taken s => Holds
    (placements task (events.filterMap Event.entry?) ++ taken.map fun (path, content) =>
      (path, .ok (fileEntry task.compression path none none content))) s) ?_ []
    (a.transformers.flatMap Transformer.output) a b (by simpa using visited.holds) finished
  · unfold collected
    rw [← visited.offered]
    exact holds.files
  · intro taken s item t holds added
    simpa using holds.collected item added

theorem run_without (before after : List Event) (e : SourceEntry) (input : Text)
    (still : ∀ a, before.foldlM (step task) (start task) = .ok a → visit task a e = .ok a) :
    run task (before ++ .entry e input :: after) = run task (before ++ after) := by
  unfold run
  rw [fold_without (step task) before after (.entry e input) (start task)]
  intro a past
  exact map_error_ok.mpr (still a past)

theorem visit_taken (e : SourceEntry) (target : Text) (file : Except Failure Zip.NewEntry)
    (faithful : Faithful task a) (wanted : placement? task e = some (target, file))
    (there : target ∈ a.files) : visit task a e = .ok a := by
  obtain ⟨_, add, outcome, _⟩ := visit_wanted e faithful target file wanted
  rw [outcome]
  exact (claim_ok a a target add).mpr (.inl ⟨there, rfl⟩)

theorem first_entry_wins (task : Task) (events : List Event) :
    (∀ written, run task events = .ok written →
      filesIn written = firsts (placements task (events.filterMap Event.entry?) ++
        collected task (events.filterMap Event.entry?))) ∧
    ∀ before e input after target file, events = before ++ .entry e input :: after →
      placement? task e = some (target, file) →
      target ∈ (placements task (before.filterMap Event.entry?)).map Prod.fst →
      run task events = run task (before ++ after) := by
  refine ⟨run_files events, ?_⟩
  rintro before e input after target file rfl wanted taken
  refine run_without before after e input fun a past => ?_
  have visited := run_visited before past
  exact visit_taken e target file visited.faithful wanted ((visited.holds.taken target).mpr taken)

def resource (path : Text) (content : Bytes) : SourceEntry :=
  ⟨path, false, none, none, content.length, .ok content⟩

def bareClass : Bytes :=
  [0xCA, 0xFE, 0xBA, 0xBE, 0, 0, 0, 61, 0, 1, 0, 33, 0, 0, 0, 0, 0, 0, 0, 0, 0, 0, 0, 0]

def movedTask : Task where
  inputs := []
  destination := []
  chain := [Relocation.unfiltered ['a'] (some ['b'])]
  transformers := [.filter {}, .services (ServiceMerger.start false)]
  exclusions := {}
  compression := .stored
  verbose := false

-- The second class comes to the path of the first, and it is no class at all.
def rival : SourceEntry := resource "b/C.class".toList [0]

def rivals : List Event := [.entry (resource "a/C.class".toList bareClass) ['x'], .entry rival ['x'],
  .entry (resource "META-INF/services/a.S".toList [97, 46, 68]) ['x'],
  .entry (resource "b/t".toList [1]) ['y']]

theorem rival_leaves_no_trace : ∃ written, run movedTask rivals = .ok written ∧
    filesIn written = firsts (placements movedTask (rivals.filterMap Event.entry?) ++
      collected movedTask (rivals.filterMap Event.entry?)) ∧
    run movedTask rivals = run movedTask (rivals.eraseIdx 1) ∧
    written.map (fun e => (e.name, e.content)) = [("b/".toList, []),
      ("b/C.class".toList, bareClass), ("b/t".toList, [1]), ("META-INF/".toList, []),
      ("META-INF/services/".toList, []), ("META-INF/services/b.S".toList, [98, 46, 68])] := by
  have listed : (run movedTask rivals).map (fun written => written.map fun e => (e.name, e.content)) =
      .ok [("b/".toList, []), ("b/C.class".toList, bareClass), ("b/t".toList, [1]),
        ("META-INF/".toList, []), ("META-INF/services/".toList, []),
        ("META-INF/services/b.S".toList, [98, 46, 68])] := by
    decide +kernel
  obtain ⟨written, done, contents⟩ := map_ok.mp listed
  obtain ⟨files, idle⟩ := first_entry_wins movedTask rivals
  refine ⟨written, done, files written done, ?_, contents⟩
  exact idle (rivals.take 1) rival ['x'] (rivals.drop 2) "b/C.class".toList _ rfl rfl
    (by decide +kernel)

end Assembly

end Shading
