import Shading.Assembly
import Shading.Proofs.Fallible

set_option autoImplicit false

namespace Shading

open Fallible

def Event.entry? : Event → Option SourceEntry
  | .entry e _ => some e
  | _ => none

namespace Assembly

variable {task : Task} {a next : Assembly}

def claimed (a : Assembly) (path : Text) : Assembly := { a with files := path :: a.files }

def fileEntry (compression : Compression) (path : Text) (time? : Option Zip.Timestamp)
    (mode? : Option Nat) (content : Bytes) : Zip.NewEntry :=
  ⟨path, false, time?.getD {}, permissions false mode?, compression == .deflated, content⟩

-- The file that an entry asks for, and the path at which it wants it.
def placement? (task : Task) (e : SourceEntry) : Option (Text × Except Failure Zip.NewEntry) :=
  if e.isDirectory || task.exclusions.excludes e.path then none
  else if isClass task e.path then
    let target := task.chain.mapClassPath e.path
    some (target, (relocated task.chain e).map (fileEntry task.compression target e.time? none))
  else if task.transformers.any fun t => t.claims e.path then none
  else
    let target := task.chain.mapPath e.path
    some (target, (e.content.mapError Failure.content).map
      (fileEntry task.compression target e.time? e.mode?))

def isOffered (task : Task) (e : SourceEntry) : Bool :=
  !e.isDirectory && !task.exclusions.excludes e.path && !isClass task e.path &&
    task.transformers.any fun t => t.claims e.path

def afterOffer (task : Task) (transformers : List Transformer) (e : SourceEntry) :
    List Transformer :=
  match isOffered task e, e.content with
  | true, .ok content =>
      transformers.map fun t =>
        if t.claims e.path then t.take task.chain (task.chain.mapPath e.path) content else t
  | _, _ => transformers

structure Placed (a : Assembly) (file : Zip.NewEntry) (next : Assembly) : Prop where
  fresh : file.name ∉ a.files
  isFile : file.isDirectory = false
  behind : ∃ parents, (a.claimed file.name).addParents file.name = .ok parents ∧
    parents.hasName file.name = false ∧ next = { parents with written := parents.written ++ [file] }

theorem has_name_iff (a : Assembly) (name : Text) :
    a.hasName name = true ↔ ∃ e ∈ a.written, e.name = name := by
  unfold hasName
  simp only [List.any_eq_true, beq_iff_eq]

theorem write_ok (a next : Assembly) (e : Zip.NewEntry) :
    a.write e = .ok next ↔
      a.hasName e.name = false ∧ next = { a with written := a.written ++ [e] } := by
  unfold write
  by_cases there : a.hasName e.name = true
  · rw [if_pos there]
    constructor
    · intro failed
      contradiction
    · intro free
      exact absurd there (by simp [free.1])
  · rw [if_neg there]
    have free : a.hasName e.name = false := by simpa using there
    constructor
    · intro done
      exact ⟨free, (Except.ok.inj done).symm⟩
    · intro done
      exact congrArg Except.ok done.2.symm

theorem claim_ok (a next : Assembly) (path : Text) (add : Assembly → Except Failure Assembly) :
    a.claim path add = .ok next ↔
      path ∈ a.files ∧ next = a ∨ path ∉ a.files ∧ add (a.claimed path) = .ok next := by
  unfold claim claimed
  by_cases taken : path ∈ a.files
  · simp only [List.contains_eq_mem, taken, decide_true, if_true, true_and, not_true_eq_false,
      false_and, or_false]
    constructor
    · intro done
      exact (Except.ok.inj done).symm
    · intro same
      exact congrArg Except.ok same.symm
  · simp [taken]

theorem claim_error (a : Assembly) (path : Text) (add : Assembly → Except Failure Assembly)
    (f : Failure) (failed : a.claim path add = .error f) :
    path ∉ a.files ∧ add (a.claimed path) = .error f := by
  unfold claim at failed
  by_cases there : a.files.contains path = true
  · rw [if_pos there] at failed
    contradiction
  · rw [if_neg there] at failed
    exact ⟨fun member => there (List.contains_iff_mem.mpr member), failed⟩

theorem add_file_ok (a next : Assembly) (compression : Compression) (path : Text)
    (time? : Option Zip.Timestamp) (mode? : Option Nat) (content : Except FileFault Bytes)
    (done : a.addFile compression path time? mode? content = .ok next) :
    ∃ parents bytes, a.addParents path = .ok parents ∧ content = .ok bytes ∧
      parents.hasName path = false ∧
      next = { parents with
        written := parents.written ++ [fileEntry compression path time? mode? bytes] } := by
  obtain ⟨parents, around, rest⟩ := bind_ok.mp done
  by_cases there : parents.hasName path = true
  · rw [if_pos there] at rest
    contradiction
  · rw [if_neg there] at rest
    have free : parents.hasName path = false := by simpa using there
    cases content with
    | error e => contradiction
    | ok bytes =>
        obtain ⟨_, same⟩ := (write_ok _ _ _).mp rest
        exact ⟨parents, bytes, around, rfl, free, same⟩

theorem placed_of_add_file (compression : Compression) (path : Text) (time? : Option Zip.Timestamp)
    (mode? : Option Nat) (content : Except FileFault Bytes) (fresh : path ∉ a.files)
    (done : (a.claimed path).addFile compression path time? mode? content = .ok next) :
    ∃ bytes, content = .ok bytes ∧
      Placed a (fileEntry compression path time? mode? bytes) next := by
  obtain ⟨parents, bytes, around, read, free, same⟩ := add_file_ok _ _ _ _ _ _ _ done
  exact ⟨bytes, read, fresh, rfl, parents, around, free, same⟩

theorem take_claims (t : Transformer) (chain : Chain) (path : Text) (content : Bytes) :
    (t.take chain path content).claims = t.claims := by
  cases t <;> rfl

theorem after_offer_claims (task : Task) (transformers : List Transformer) (e : SourceEntry)
    (path : Text) :
    ((afterOffer task transformers e).any fun t => t.claims path) =
      transformers.any fun t => t.claims path := by
  unfold afterOffer
  split
  · rw [List.any_map]
    congr 1
    funext t
    by_cases claims : t.claims e.path = true
    · simp [claims, take_claims]
    · simp [claims]
  · rfl

theorem after_offer_still (task : Task) (transformers : List Transformer) (e : SourceEntry)
    (kept : isOffered task e = false) : afterOffer task transformers e = transformers := by
  unfold afterOffer
  rw [kept]

def Faithful (task : Task) (a : Assembly) : Prop :=
  ∀ path, a.isClaimed path = task.transformers.any fun t => t.claims path

theorem relocated_error (chain : Chain) (e : SourceEntry) :
    relocated chain e ≠ .error (.archive .duplicateName) := by
  unfold relocated
  cases e.content with
  | error fault =>
      intro failed
      cases failed
  | ok content =>
      dsimp only
      cases ClassFile.relocate chain content with
      | error fault =>
          intro failed
          cases failed
      | ok bytes =>
          intro failed
          cases failed

theorem visit_unwanted (e : SourceEntry) (faithful : Faithful task a)
    (unwanted : placement? task e = none) :
    (∃ records, visit task a e =
      .ok { a with records, transformers := afterOffer task a.transformers e }) ∨
    ∃ fault, visit task a e = .error (.content fault) := by
  have still (kept : isOffered task e = false) := after_offer_still task a.transformers e kept
  unfold visit
  by_cases directory : e.isDirectory = true
  · have kept : isOffered task e = false := by simp [isOffered, directory]
    rw [if_pos directory, still kept]
    exact .inl ⟨_, rfl⟩
  rw [if_neg directory]
  by_cases excluded : task.exclusions.excludes e.path = true
  · have kept : isOffered task e = false := by simp [isOffered, excluded]
    rw [if_pos excluded, still kept]
    exact .inl ⟨_, rfl⟩
  rw [if_neg excluded]
  by_cases isClass : isClass task e.path = true
  · simp [placement?, directory, excluded, isClass] at unwanted
  rw [if_neg isClass, faithful e.path]
  by_cases claims : (task.transformers.any fun t => t.claims e.path) = true
  · have offered : isOffered task e = true := by
      unfold isOffered
      rw [claims]
      simp [directory, excluded, isClass]
    rw [if_pos claims]
    unfold transform afterOffer
    rw [offered]
    cases e.content with
    | error fault => exact .inr ⟨fault, rfl⟩
    | ok content => exact .inl ⟨_, rfl⟩
  · simp only [placement?, directory, excluded, isClass, claims] at unwanted
    contradiction

-- An entry that asks for a file. A class is read before there is a file for it; any other file is
-- read when it is written.
theorem visit_wanted (e : SourceEntry) (faithful : Faithful task a) (target : Text)
    (file : Except Failure Zip.NewEntry) (wanted : placement? task e = some (target, file)) :
    isOffered task e = false ∧ ∃ add, visit task a e = a.claim target add ∧
      ∀ b, (∃ mode? content, add b = addFile b task.compression target e.time? mode? content ∧
          file = (content.mapError Failure.content).map
            (fileEntry task.compression target e.time? mode?)) ∨
        ∃ f, add b = .error f ∧ f ≠ .archive .duplicateName := by
  unfold placement? at wanted
  unfold visit
  by_cases directory : e.isDirectory = true
  · simp [directory] at wanted
  by_cases excluded : task.exclusions.excludes e.path = true
  · simp [excluded] at wanted
  rw [if_neg directory, if_neg excluded]
  rw [if_neg (by simp [directory, excluded])] at wanted
  by_cases isClass : isClass task e.path = true
  · rw [if_pos isClass] at wanted ⊢
    cases wanted
    unfold addClass
    refine ⟨by simp [isOffered, isClass], _, rfl, fun b => ?_⟩
    cases moved : relocated task.chain e with
    | error f => exact .inr ⟨f, rfl, fun same => relocated_error task.chain e (same ▸ moved)⟩
    | ok content => exact .inl ⟨none, .ok content, rfl, rfl⟩
  rw [if_neg isClass] at wanted ⊢
  rw [faithful e.path]
  by_cases claims : (task.transformers.any fun t => t.claims e.path) = true
  · rw [if_pos claims] at wanted
    contradiction
  · rw [if_neg claims] at wanted ⊢
    cases wanted
    unfold copy
    refine ⟨?_, _, rfl, fun b => .inl ⟨e.mode?, e.content, rfl, rfl⟩⟩
    unfold isOffered
    rw [Bool.eq_false_iff.mpr claims, Bool.and_false]

theorem visit_ok (a next : Assembly) (e : SourceEntry) (faithful : Faithful task a)
    (done : visit task a e = .ok next) :
    (placement? task e = none ∧ ∃ records,
      next = { a with records, transformers := afterOffer task a.transformers e }) ∨
    ∃ target file, placement? task e = some (target, file) ∧
      afterOffer task a.transformers e = a.transformers ∧
      (target ∈ a.files ∧ next = a ∨
        ∃ entry, file = .ok entry ∧ entry.name = target ∧ Placed a entry next) := by
  cases route : placement? task e with
  | none =>
      cases visit_unwanted e faithful route with
      | inl kept =>
          obtain ⟨records, outcome⟩ := kept
          exact .inl ⟨rfl, records, Except.ok.inj (done.symm.trans outcome)⟩
      | inr failed =>
          obtain ⟨fault, outcome⟩ := failed
          rw [outcome] at done
          contradiction
  | some wanted =>
      obtain ⟨target, file⟩ := wanted
      obtain ⟨kept, add, outcome, adds⟩ := visit_wanted e faithful target file route
      refine .inr ⟨target, file, rfl, after_offer_still task a.transformers e kept, ?_⟩
      rw [outcome] at done
      cases (claim_ok _ _ _ _).mp done with
      | inl taken => exact .inl taken
      | inr free =>
          obtain ⟨fresh, added⟩ := free
          cases adds (a.claimed target) with
          | inl written =>
              obtain ⟨mode?, content, same, rfl⟩ := written
              rw [same] at added
              obtain ⟨bytes, read, placed⟩ := placed_of_add_file _ _ _ _ _ fresh added
              exact .inr ⟨_, map_ok.mpr ⟨bytes, map_error_ok.mpr read, rfl⟩, rfl, placed⟩
          | inr failed =>
              obtain ⟨f, same, _⟩ := failed
              rw [same] at added
              contradiction

end Assembly

end Shading
