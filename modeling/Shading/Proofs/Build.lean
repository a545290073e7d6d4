import Mathlib
import Shading.Build
import Shading.Proofs.FileSystem.Directories

set_option autoImplicit false

namespace Shading

open Fallible FileSystem

variable {fs ready after : FileSystem} {task : Task}

theorem FileSystem.temporary_place_free (directory : Text) (place : Location)
    (chosen : fs.temporaryPlace directory = .ok place) : fs.item? place = none := by
  unfold temporaryPlace at chosen
  obtain ⟨parent, _, chosen⟩ := bind_ok.mp chosen
  dsimp only at chosen
  split at chosen
  · cases chosen
  · rename_i candidate found
    obtain ⟨_, _, same⟩ := bind_ok.mp chosen
    cases same
    simpa using List.find?_some found

theorem FileSystem.remove_temporary (place : Location) (free : fs.item? place = none) :
    (fs.withTemporary place).remove place = fs := remove_put fs place _ free

theorem FileSystem.item_with_temporary (place other : Location) (apart : other ≠ place) :
    (fs.withTemporary place).item? other = fs.item? other := by
  unfold withTemporary
  rw [item_put, if_neg apart]

theorem FileSystem.temporary_impassable (place : Location) :
    Impassable (fs.withTemporary place) place := by
  intro item there
  unfold withTemporary at there
  rw [item_put, if_pos rfl] at there
  cases there
  exact ⟨rfl, rfl⟩

theorem FileSystem.move_place_ok (path : Text) (place : Location)
    (moved : fs.movePlace path = .ok place) :
    fs.targetPlace path = .ok place ∧ Text.endsWith ['/'] path = false ∧
      ∀ item, fs.item? place = some item → item.isDirectory = false := by
  unfold movePlace at moved
  obtain ⟨other, target, moved⟩ := bind_ok.mp moved
  by_cases closed : Text.endsWith ['/'] path = true
  · rw [if_pos closed] at moved
    cases moved
  rw [if_neg closed] at moved
  obtain ⟨_, _, moved⟩ := bind_ok.mp moved
  have open' : Text.endsWith ['/'] path = false := by simpa using closed
  cases there : fs.item? other with
  | none =>
      rw [there] at moved
      cases moved
      exact ⟨target, open', by simp [there]⟩
  | some item =>
      by_cases directory : item.isDirectory = true
      · simp only [there, if_pos directory] at moved
        cases moved
      · simp only [there, if_neg directory] at moved
        cases moved
        exact ⟨target, open', by simpa [there] using directory⟩

-- The way to the place does not lead through a link that stands there.
def FileSystem.Direct (fs : FileSystem) (path : Text) (place : Location) : Prop :=
  ∀ item, fs.item? place = some item → item.isLink = true →
    (fs.remove place).targetPlace path = .ok place

theorem FileSystem.keeps_replaced (fs : FileSystem) (place : Location) (item : Item)
    (inside : place ≠ []) : Keeps (fs.remove place) (fs.put place item) := by
  intro other old there
  by_cases same : other = place
  · rw [same, item_removed fs place inside] at there
    cases there
  · rw [item_remove fs place other same] at there
    rw [item_put, if_neg same]
    exact there

theorem Item.private_readable (content : Bytes) : (Item.privateFile content).isReadable = true := by
  simp [Item.isReadable, Item.privateFile]

theorem FileSystem.read_replaced (path : Text) (place : Location) (content : Bytes)
    (target : fs.targetPlace path = .ok place) (asFile : Text.endsWith ['/'] path = false)
    (other : ∀ item, fs.item? place = some item → item.isDirectory = false)
    (direct : fs.Direct path place) :
    (fs.put place (Item.privateFile content)).contentAt path = .ok content := by
  have without : (fs.remove place).targetPlace path = .ok place := by
    by_cases link : ∃ item, fs.item? place = some item ∧ item.isLink = true
    · obtain ⟨item, there, link⟩ := link
      exact direct item there link
    · refine target_place_without path (fun item there => ⟨other item there, ?_⟩) target
      simpa using fun link' => link ⟨item, there, link'⟩
  obtain ⟨parent, front, name, targets, rfl⟩ := (target_place_ok path place).mp without
  have put : (fs.put (parent ++ [name]) (Item.privateFile content)).item? (parent ++ [name]) =
      some (Item.privateFile content) := by rw [item_put, if_pos rfl]
  have moved := targets.keeps (keeps_replaced fs _ (Item.privateFile content) (by simp)) rfl
  have resolved := moved.resolve _ put rfl (by simp [asFile])
  have found := (find_ok true path _ _).mpr ⟨resolved, put⟩
  exact bind_ok.mpr ⟨_, bind_ok.mpr ⟨_, found, if_pos (Item.private_readable content)⟩, rfl⟩

namespace Task

-- Nothing has changed but that directories around the destination have been created. No file is left
-- that was not there before.
structure LeftAlone (task : Task) (before after : FileSystem) : Prop where
  directories : DirectoriesMade (Path.Around task.workDirectory) before after
  files : ∀ place item, after.item? place = some item → item.isDirectory = false →
    before.item? place = some item
  found : ∀ followLast path found, before.find followLast path = .ok found →
    after.find followLast path = .ok found
  settled : before.isDirectory task.workDirectory = true → after = before

-- What a build has failed for: that there was no place for the temporary file, that the archive could
-- not be put together or written, or that the file could not be moved.
inductive StoppedBy (task : Task) (pack : List Zip.NewEntry → Except Failure Bytes)
    (before after : FileSystem) : Failure → Prop where
  | unprepared (f : Failure) (failed : (task.prepare before).1 = .error f) : StoppedBy task pack before after f
  | unassembled (temporary : Location) (f : Failure) (free : after.item? temporary = none)
      (failed : task.assemble (after.withTemporary temporary) = .error f) :
      StoppedBy task pack before after f
  | unpacked (temporary : Location) (entries : List Zip.NewEntry) (f : Failure)
      (free : after.item? temporary = none)
      (assembled : task.assemble (after.withTemporary temporary) = .ok entries)
      (failed : pack entries = .error f) : StoppedBy task pack before after f
  | unmoved (temporary : Location) (entries : List Zip.NewEntry) (archive : Bytes) (e : FileFault)
      (free : after.item? temporary = none)
      (assembled : task.assemble (after.withTemporary temporary) = .ok entries)
      (complete : pack entries = .ok archive)
      (failed : (after.withTemporary temporary).movePlace task.destination = .error e) :
      StoppedBy task pack before after (.unwritable task.destination e)

structure Delivers (task : Task) (pack : List Zip.NewEntry → Except Failure Bytes)
    (ready after : FileSystem) (temporary place : Location) (entries : List Zip.NewEntry)
    (archive : Bytes) : Prop where
  free : ready.item? temporary = none
  assembled : task.assemble (ready.withTemporary temporary) = .ok entries
  complete : pack entries = .ok archive
  target : ready.targetPlace task.destination = .ok place
  delivered : after = ready.put place (Item.privateFile archive)
  readable : ready.Direct task.destination place → after.contentAt task.destination = .ok archive

theorem LeftAlone.of_directories {before : FileSystem}
    (made : DirectoriesMade (Path.Around task.workDirectory) before after)
    (settled : before.isDirectory task.workDirectory = true → after = before) :
    task.LeftAlone before after where
  directories := made
  files := by
    intro place item there file
    cases old : before.item? place with
    | none =>
        obtain ⟨rfl, _⟩ := made.made place item old there
        cases file
    | some known => exact (made.kept place known old).symm.trans there
  found := made.find
  settled := settled

theorem prepare_left_alone (task : Task) (fs : FileSystem) : task.LeftAlone fs (task.prepare fs).2 := by
  have same : (task.prepare fs).2 = (fs.makeDirectories task.workDirectory.length task.workDirectory).2 := by
    unfold prepare
    dsimp only
    split <;> simp [*]
  rw [same]
  refine .of_directories (make_directories_made _ _ fs) fun directory => ?_
  rw [make_directories_there _ _ directory]

theorem prepare_free (task : Task) (temporary : Location)
    (prepared : task.prepare fs = (.ok temporary, ready)) : ready.item? temporary = none := by
  unfold prepare at prepared
  dsimp only at prepared
  split at prepared
  · cases prepared
  · obtain ⟨chosen, rfl⟩ := Prod.mk.inj prepared
    exact temporary_place_free _ _ (map_error_ok.mp chosen)

theorem build_at_failed (task : Task) (pack : List Zip.NewEntry → Except Failure Bytes)
    (temporary : Location) (free : ready.item? temporary = none) (f : Failure)
    (failed : task.buildAt pack temporary ready = (.error f, after)) :
    after = ready ∧ task.StoppedBy pack fs ready f := by
  simp only [buildAt, remove_temporary temporary free] at failed
  split at failed
  · rename_i cause stopped
    cases failed
    refine ⟨rfl, ?_⟩
    cases bind_error.mp stopped with
    | inl unassembled => exact .unassembled temporary f free unassembled
    | inr later =>
        obtain ⟨entries, assembled, unpacked⟩ := later
        exact .unpacked temporary entries f free assembled unpacked
  · rename_i archive written
    obtain ⟨entries, assembled, complete⟩ := bind_ok.mp written
    split at failed
    · rename_i e unmoved
      cases failed
      exact ⟨rfl, .unmoved temporary entries archive e free assembled complete unmoved⟩
    · cases failed

theorem build_at_done (task : Task) (pack : List Zip.NewEntry → Except Failure Bytes)
    (temporary : Location) (free : ready.item? temporary = none)
    (done : task.buildAt pack temporary ready = (.ok (), after)) :
    ∃ place entries archive, task.Delivers pack ready after temporary place entries archive := by
  simp only [buildAt, remove_temporary temporary free] at done
  split at done
  · cases done
  · rename_i archive written
    obtain ⟨entries, assembled, complete⟩ := bind_ok.mp written
    split at done
    · cases done
    · rename_i place moved
      cases done
      obtain ⟨target, asFile, other⟩ := move_place_ok _ _ moved
      have before := target_place_without _ (temporary_impassable temporary) target
      rw [remove_temporary temporary free] at before
      refine ⟨place, entries, archive, free, assembled, complete, before, rfl, ?_⟩
      refine read_replaced _ place archive before asFile fun item there => ?_
      have apart : place ≠ temporary := by
        rintro rfl
        rw [free] at there
        cases there
      rw [← item_with_temporary temporary place apart] at there
      exact other item there

theorem build_all_or_nothing (task : Task) (pack : List Zip.NewEntry → Except Failure Bytes)
    (fs : FileSystem) :
    match task.buildWith pack fs with
    | (.error f, after) => task.LeftAlone fs after ∧ task.StoppedBy pack fs after f
    | (.ok (), after) => ∃ ready temporary place entries archive,
        task.LeftAlone fs ready ∧ task.Delivers pack ready after temporary place entries archive := by
  have alone := task.prepare_left_alone fs
  unfold buildWith
  cases prepared : task.prepare fs with
  | mk outcome ready =>
      rw [prepared] at alone
      cases outcome with
      | error f => exact ⟨alone, .unprepared f (by rw [prepared])⟩
      | ok temporary =>
          have free := task.prepare_free temporary prepared
          dsimp only
          cases built : task.buildAt pack temporary ready with
          | mk result after =>
              cases result with
              | error f =>
                  obtain ⟨rfl, stopped⟩ := task.build_at_failed pack temporary free f built
                  exact ⟨alone, stopped⟩
              | ok _ =>
                  obtain ⟨place, entries, archive, delivers⟩ := task.build_at_done pack temporary free built
                  exact ⟨ready, temporary, place, entries, archive, alone, delivers⟩

def copyTask (input : Text) : Task where
  inputs := [input]
  destination := "x.jar".toList
  chain := []
  transformers := []
  exclusions := {}
  compression := .stored
  verbose := false

def earlierArchive : FileSystem where
  items := [(["a".toList], Item.newDirectory), (["a".toList, "b".toList], ⟨.file [0x62], 0o644, 0⟩),
    (["x.jar".toList], ⟨.file [0x50], 0o644, 0⟩)]

def copiedEntry : Zip.NewEntry := ⟨"b".toList, false, {}, 0o644, false, [0x62]⟩

def copiedArchive : FileSystem :=
  earlierArchive.put ["x.jar".toList] (Item.privateFile (Zip.write [copiedEntry]))

theorem build_over_earlier_archive :
    (copyTask "c".toList).build earlierArchive = (.error (.noInput "c".toList), earlierArchive) ∧
    (copyTask "c".toList).LeftAlone earlierArchive earlierArchive ∧
    (copyTask "c".toList).StoppedBy packed earlierArchive earlierArchive (.noInput "c".toList) ∧
    (copyTask "a".toList).build earlierArchive = (.ok (), copiedArchive) ∧
    ∃ ready temporary place entries archive, (copyTask "a".toList).LeftAlone earlierArchive ready ∧
      (copyTask "a".toList).Delivers packed ready copiedArchive temporary place entries archive := by
  have failed : (copyTask "c".toList).buildWith packed earlierArchive =
      (.error (.noInput "c".toList), earlierArchive) := by cbv
  have prepared : (copyTask "a".toList).prepare earlierArchive =
      (.ok [".tmp0".toList], earlierArchive) := by cbv
  have read : Event.ofInputs (earlierArchive.withTemporary [".tmp0".toList]) ["a".toList] =
      [.input "a".toList, .entry ⟨"b".toList, false, none, some 0o644, 1, .ok [0x62]⟩ "a".toList] := by cbv
  have moved : (earlierArchive.withTemporary [".tmp0".toList]).movePlace "x.jar".toList =
      .ok ["x.jar".toList] := by cbv
  have assembled : (copyTask "a".toList).assemble (earlierArchive.withTemporary [".tmp0".toList]) =
      .ok [copiedEntry] := by
    unfold assemble
    rw [show (copyTask "a".toList).inputs = ["a".toList] from rfl, read]
    rfl
  have packing : (copyTask "a".toList).assemble (earlierArchive.withTemporary [".tmp0".toList]) >>= packed =
      .ok (Zip.write [copiedEntry]) := by
    rw [assembled]
    rfl
  have done : (copyTask "a".toList).buildWith packed earlierArchive = (.ok (), copiedArchive) := by
    simp only [buildWith, prepared, buildAt, packing]
    rw [show (copyTask "a".toList).destination = "x.jar".toList from rfl, moved]
    rfl
  have alone := build_all_or_nothing (copyTask "c".toList) packed earlierArchive
  have delivers := build_all_or_nothing (copyTask "a".toList) packed earlierArchive
  rw [failed] at alone
  rw [done] at delivers
  exact ⟨failed, alone.1, alone.2, done, delivers⟩

end Task

end Shading
