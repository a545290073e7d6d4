import Mathlib.Data.List.Infix
import Shading.Proofs.Assembly.Steps
import Shading.Proofs.EntryPath

set_option autoImplicit false

namespace Shading

open EntryPath

namespace Assembly

variable {written : List Zip.NewEntry}

def Encloses (d : Zip.NewEntry) (name : Text) : Prop :=
  ∃ segments, Surrounds segments name ∧ d.name = directoryName segments

def Enclosed (before : List Zip.NewEntry) (name : Text) : Prop :=
  ∀ segments, Surrounds segments name →
    ∃ d ∈ before, d.isDirectory = true ∧ d.name = directoryName segments

-- What an archive looks like after any number of whole steps.
structure Laid (written : List Zip.NewEntry) : Prop where
  distinct : (written.map Zip.NewEntry.name).Nodup
  enclosed : ∀ before e, before ++ [e] <+: written → Enclosed before e.name
  followed : ∀ before directories after, written = before ++ directories ++ after →
    directories ≠ [] → (∀ d ∈ directories, d.isDirectory = true) →
    (∀ e ∈ after.head?, e.isDirectory = false) →
    ∃ file rest, after = file :: rest ∧ ∀ d ∈ directories, Encloses d file.name

-- The first file after a directory is below it.
def Needed (d : Zip.NewEntry) (after : List Zip.NewEntry) : Prop :=
  ∃ file, after.find? (fun e => !e.isDirectory) = some file ∧ Encloses d file.name

-- The same while the directories for a file are being written, which comes after them.
def Awaiting (name : Text) (written : List Zip.NewEntry) : Prop :=
  ∀ d after, d :: after <:+ written → d.isDirectory = true →
    Needed d after ∨ (∀ e ∈ after, e.isDirectory = true) ∧ Encloses d name

theorem Needed.append {d : Zip.NewEntry} {after : List Zip.NewEntry} (needed : Needed d after)
    (more : List Zip.NewEntry) : Needed d (after ++ more) := by
  obtain ⟨file, first, encloses⟩ := needed
  refine ⟨file, ?_, encloses⟩
  rw [List.find?_append, first]
  rfl

theorem no_file (directories : List Zip.NewEntry) (all : ∀ d ∈ directories, d.isDirectory = true) :
    directories.find? (fun e => !e.isDirectory) = none := by
  rw [List.find?_eq_none]
  intro d member
  simp [all d member]

theorem suffix_one {d last : Zip.NewEntry} {after : List Zip.NewEntry}
    (suffix : d :: after <:+ written ++ [last]) :
    d = last ∧ after = [] ∨ ∃ shorter, after = shorter ++ [last] ∧ d :: shorter <:+ written := by
  cases List.suffix_concat_iff.mp suffix with
  | inl empty => contradiction
  | inr some =>
      obtain ⟨front, same, suffix⟩ := some
      cases front with
      | nil =>
          obtain ⟨first, others⟩ := List.cons.inj same
          exact .inl ⟨first, others⟩
      | cons e shorter =>
          obtain ⟨first, others⟩ := List.cons.inj same
          exact .inr ⟨shorter, others, first ▸ suffix⟩

theorem Awaiting.directory {name : Text} (awaiting : Awaiting name written) (d : Zip.NewEntry)
    (isDirectory : d.isDirectory = true) (encloses : Encloses d name) :
    Awaiting name (written ++ [d]) := by
  intro other after suffix kind
  cases suffix_one suffix with
  | inl last =>
      obtain ⟨rfl, rfl⟩ := last
      exact .inr ⟨fun e member => absurd member List.not_mem_nil, encloses⟩
  | inr earlier =>
      obtain ⟨shorter, rfl, before⟩ := earlier
      cases awaiting other shorter before kind with
      | inl needed => exact .inl (needed.append [d])
      | inr pending =>
          refine .inr ⟨?_, pending.2⟩
          intro e member
          cases List.mem_append.mp member with
          | inl inside => exact pending.1 e inside
          | inr last => exact List.mem_singleton.mp last ▸ isDirectory

theorem Awaiting.file {file : Zip.NewEntry} (awaiting : Awaiting file.name written)
    (isFile : file.isDirectory = false) (d : Zip.NewEntry) (after : List Zip.NewEntry)
    (suffix : d :: after <:+ written ++ [file]) (isDirectory : d.isDirectory = true) :
    Needed d after := by
  cases suffix_one suffix with
  | inl last =>
      rw [last.1, isFile] at isDirectory
      contradiction
  | inr earlier =>
      obtain ⟨shorter, rfl, before⟩ := earlier
      cases awaiting d shorter before isDirectory with
      | inl needed => exact needed.append [file]
      | inr pending =>
          have first : (shorter ++ [file]).find? (fun e => !e.isDirectory) = some file := by
            rw [List.find?_append, no_file shorter pending.1, Option.none_or, List.find?_cons]
            simp [isFile]
          exact ⟨file, first, pending.2⟩

theorem followed_of_needed
    (needed : ∀ d after, d :: after <:+ written → d.isDirectory = true → Needed d after)
    (before directories after : List Zip.NewEntry)
    (whole : written = before ++ directories ++ after)
    (filled : directories ≠ []) (all : ∀ d ∈ directories, d.isDirectory = true)
    (ended : ∀ e ∈ after.head?, e.isDirectory = false) :
    ∃ file rest, after = file :: rest ∧ ∀ d ∈ directories, Encloses d file.name := by
  have first : ∀ d ∈ directories, ∃ file, after.find? (fun e => !e.isDirectory) = some file ∧
      Encloses d file.name := by
    intro d member
    obtain ⟨outer, inner, rfl⟩ := List.append_of_mem member
    obtain ⟨file, found, encloses⟩ := needed d (inner ++ after) ⟨before ++ outer, by simp [whole]⟩
      (all d member)
    have skipped := no_file inner fun e inside => all e (by simp [inside])
    rw [List.find?_append, skipped, Option.none_or] at found
    exact ⟨file, found, encloses⟩
  cases after with
  | nil =>
      obtain ⟨d, member⟩ := List.exists_mem_of_ne_nil directories filled
      obtain ⟨file, found, _⟩ := first d member
      contradiction
  | cons file rest =>
      have isFile := ended file rfl
      refine ⟨file, rest, rfl, fun d member => ?_⟩
      obtain ⟨other, found, encloses⟩ := first d member
      have same : some file = some other := by
        rw [← found, List.find?_cons]
        simp [isFile]
      exact Option.some.inj same ▸ encloses

-- Directories are kept without the slash at the end of their names. A path is taken before its file
-- is written, so more paths may be taken than there are files.
structure Consistent (taken directories : List Text) (written : List Zip.NewEntry) : Prop where
  distinct : (written.map Zip.NewEntry.name).Nodup
  kinds : ∀ e ∈ written, NamesFile e.name ↔ e.isDirectory = false
  directories : ∀ key, key ∈ directories ↔ key ++ ['/'] ∈ written.map Zip.NewEntry.name
  files : ∀ e ∈ written, e.isDirectory = false → e.name ∈ taken
  enclosed : ∀ before e, before ++ [e] <+: written → Enclosed before e.name

theorem enclosed_one (last : Zip.NewEntry)
    (enclosed : ∀ before e, before ++ [e] <+: written → Enclosed before e.name)
    (around : Enclosed written last.name) (before : List Zip.NewEntry) (e : Zip.NewEntry)
    (begins : before ++ [e] <+: written ++ [last]) : Enclosed before e.name := by
  cases List.prefix_concat_iff.mp begins with
  | inl whole =>
      obtain ⟨same, tail⟩ := List.append_inj' whole rfl
      rw [same, List.singleton_inj.mp tail]
      exact around
  | inr inside => exact enclosed before e inside

theorem names_one (written : List Zip.NewEntry) (last : Zip.NewEntry) :
    (written ++ [last]).map Zip.NewEntry.name = written.map Zip.NewEntry.name ++ [last.name] :=
  List.map_append

theorem closed_name (key : Text) : ¬ NamesFile (key ++ ['/']) := by
  rw [names_file_iff, List.getLast?_concat]
  exact fun different => different rfl

variable {taken directories : List Text}

theorem Consistent.enclosing (consistent : Consistent taken directories written) (name : Text)
    (known : ∀ segments, Surrounds segments name → Text.join ['/'] segments ∈ directories) :
    Enclosed written name := by
  intro segments around
  have named := (consistent.directories _).mp (known segments around)
  obtain ⟨d, member, same⟩ := List.mem_map.mp named
  refine ⟨d, member, ?_, same⟩
  rw [← Bool.not_eq_false]
  intro isFile
  have unclosed := (consistent.kinds d member).mpr isFile
  rw [same] at unclosed
  exact closed_name _ unclosed

theorem Consistent.distinct_one (consistent : Consistent taken directories written)
    (last : Zip.NewEntry) (fresh : last.name ∉ written.map Zip.NewEntry.name) :
    ((written ++ [last]).map Zip.NewEntry.name).Nodup := by
  rw [names_one, List.nodup_append]
  refine ⟨consistent.distinct, by simp, ?_⟩
  intro name member other single same
  rw [List.mem_singleton.mp single] at same
  exact fresh (same ▸ member)

theorem Consistent.directory (consistent : Consistent taken directories written)
    (key : Text) (fresh : key ∉ directories) (d : Zip.NewEntry) (named : d.name = key ++ ['/'])
    (isDirectory : d.isDirectory = true) (around : Enclosed written d.name) :
    Consistent taken (key :: directories) (written ++ [d]) := by
  constructor
  · refine consistent.distinct_one d ?_
    rw [named, ← consistent.directories]
    exact fresh
  · intro e member
    cases List.mem_append.mp member with
    | inl inside => exact consistent.kinds e inside
    | inr last =>
        rw [List.mem_singleton.mp last, named, isDirectory]
        have closed := closed_name key
        simp [closed]
  · intro other
    rw [names_one, List.mem_append, ← consistent.directories other, List.mem_cons,
      List.mem_singleton, named, List.append_left_inj]
    exact Or.comm
  · intro e member isFile
    cases List.mem_append.mp member with
    | inl inside => exact consistent.files e inside isFile
    | inr last =>
        rw [List.mem_singleton.mp last, isDirectory] at isFile
        contradiction
  · exact enclosed_one d consistent.enclosed around

theorem Consistent.file (consistent : Consistent taken directories written) (file : Zip.NewEntry)
    (isFile : file.isDirectory = false) (named : NamesFile file.name)
    (fresh : file.name ∉ written.map Zip.NewEntry.name) (around : Enclosed written file.name) :
    Consistent (file.name :: taken) directories (written ++ [file]) := by
  constructor
  · exact consistent.distinct_one file fresh
  · intro e member
    cases List.mem_append.mp member with
    | inl inside => exact consistent.kinds e inside
    | inr last =>
        rw [List.mem_singleton.mp last, isFile]
        simp [named]
  · intro key
    have other : key ++ ['/'] ≠ file.name := fun same => closed_name key (same ▸ named)
    rw [names_one, List.mem_append, ← consistent.directories key, List.mem_singleton]
    simp [other]
  · intro e member kind
    cases List.mem_append.mp member with
    | inl inside => exact List.mem_cons_of_mem _ (consistent.files e inside kind)
    | inr last =>
        rw [List.mem_singleton.mp last]
        exact List.mem_cons_self ..
  · exact enclosed_one file consistent.enclosed around

theorem Consistent.free (consistent : Consistent taken directories written) (name : Text)
    (named : NamesFile name) (fresh : name ∉ taken) : name ∉ written.map Zip.NewEntry.name := by
  intro there
  obtain ⟨e, member, rfl⟩ := List.mem_map.mp there
  exact fresh (consistent.files e member ((consistent.kinds e member).mp named))

theorem has_name_false (a : Assembly) (name : Text)
    (free : name ∉ a.written.map Zip.NewEntry.name) : a.hasName name = false := by
  rw [← Bool.not_eq_true, has_name_iff]
  intro there
  obtain ⟨e, member, same⟩ := there
  exact free (List.mem_map.mpr ⟨e, member, same⟩)

end Assembly

end Shading
