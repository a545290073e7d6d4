import Mathlib.Data.List.Nodup
import Shading.Proofs.TextOrder
import Shading.Resource.Services

set_option autoImplicit false

namespace Shading.ServiceEntries

-- The first entry has the path, comes behind it or comes before it.
theorem extend_cons (path other : Text) (lines present : List Text) (rest : ServiceEntries) :
    (path = other ∧ extend path lines ((other, present) :: rest) = (other, present ++ lines) :: rest) ∨
    (path ≠ other ∧ Text.before path other = true ∧
      extend path lines ((other, present) :: rest) = (path, lines) :: (other, present) :: rest) ∨
    (path ≠ other ∧ Text.before path other ≠ true ∧
      extend path lines ((other, present) :: rest) = (other, present) :: extend path lines rest) := by
  by_cases same : path = other
  · exact .inl ⟨same, if_pos same⟩
  by_cases earlier : Text.before path other = true
  · exact .inr (.inl ⟨same, earlier, (if_neg same).trans (if_pos earlier)⟩)
  · exact .inr (.inr ⟨same, earlier, (if_neg same).trans (if_neg earlier)⟩)

theorem mem_extend (path : Text) (lines : List Text) (entries : ServiceEntries)
    (entry : Text × List Text) (member : entry ∈ extend path lines entries) :
    entry.1 = path ∨ ∃ other ∈ entries, other.1 = entry.1 := by
  induction entries with
  | nil => exact .inl (List.mem_singleton.mp member ▸ rfl)
  | cons first rest ih =>
      obtain ⟨other, present⟩ := first
      rcases extend_cons path other lines present rest with
        ⟨same, extended⟩ | ⟨_, _, extended⟩ | ⟨_, _, extended⟩
      · rw [extended] at member
        cases List.mem_cons.mp member with
        | inl here => exact .inl (here ▸ same.symm)
        | inr later => exact .inr ⟨entry, by simp [later], rfl⟩
      · rw [extended] at member
        cases List.mem_cons.mp member with
        | inl here => exact .inl (here ▸ rfl)
        | inr later => exact .inr ⟨entry, later, rfl⟩
      · rw [extended] at member
        cases List.mem_cons.mp member with
        | inl here => exact .inr ⟨(other, present), by simp, here ▸ rfl⟩
        | inr later =>
            cases ih later with
            | inl new => exact .inl new
            | inr old =>
                obtain ⟨kept, there, named⟩ := old
                exact .inr ⟨kept, by simp [there], named⟩

theorem lookup_extend (path : Text) (lines : List Text) (entries : ServiceEntries) :
    ∃ present, (present = [] ∨ entries.lookup path = some present) ∧
      (extend path lines entries).lookup path = some (present ++ lines) := by
  induction entries with
  | nil => exact ⟨[], .inl rfl, List.lookup_cons_self⟩
  | cons first rest ih =>
      obtain ⟨other, present⟩ := first
      rcases extend_cons path other lines present rest with
        ⟨same, extended⟩ | ⟨_, _, extended⟩ | ⟨apart, _, extended⟩
      · rw [extended]
        subst same
        exact ⟨present, .inr (by simp), by simp⟩
      · rw [extended]
        exact ⟨[], .inl rfl, by simp⟩
      · rw [extended]
        obtain ⟨before, known, found⟩ := ih
        have differs : (path == other) = false := by simpa using apart
        refine ⟨before, ?_, ?_⟩
        · rw [List.lookup_cons, differs]
          exact known
        · rw [List.lookup_cons, differs]
          exact found

theorem lookup_extend_other (path elsewhere : Text) (lines : List Text) (entries : ServiceEntries)
    (apart : elsewhere ≠ path) :
    (extend path lines entries).lookup elsewhere = entries.lookup elsewhere := by
  have differs : (elsewhere == path) = false := by simpa using apart
  induction entries with
  | nil => exact List.lookup_cons.trans (by rw [differs])
  | cons first rest ih =>
      obtain ⟨other, present⟩ := first
      rcases extend_cons path other lines present rest with
        ⟨same, extended⟩ | ⟨_, _, extended⟩ | ⟨_, _, extended⟩
      · rw [extended, ← same, List.lookup_cons, List.lookup_cons, differs]
      · rw [extended, List.lookup_cons, differs]
      · rw [extended, List.lookup_cons, List.lookup_cons, ih]

theorem lines_extend (path : Text) (lines : List Text) (entries : ServiceEntries) :
    ((extend path lines entries).flatMap Prod.snd).Perm (entries.flatMap Prod.snd ++ lines) := by
  induction entries with
  | nil => exact .of_eq (List.append_nil lines)
  | cons first rest ih =>
      obtain ⟨other, present⟩ := first
      rcases extend_cons path other lines present rest with
        ⟨_, extended⟩ | ⟨_, _, extended⟩ | ⟨_, _, extended⟩
      · rw [extended, List.flatMap_cons, List.flatMap_cons, List.append_assoc, List.append_assoc]
        exact List.perm_append_comm.append_left present
      · rw [extended, List.flatMap_cons]
        exact List.perm_append_comm
      · rw [extended, List.flatMap_cons, List.flatMap_cons, List.append_assoc]
        exact ih.append_left present

def Ordered (entries : ServiceEntries) : Prop :=
  entries.Pairwise fun a b => Text.before a.1 b.1 = true

variable {entries others : ServiceEntries}

theorem Ordered.extend (ordered : entries.Ordered) (path : Text) (lines : List Text) :
    (extend path lines entries).Ordered := by
  induction entries with
  | nil => exact List.pairwise_singleton _ _
  | cons first rest ih =>
      obtain ⟨other, present⟩ := first
      obtain ⟨behind, later⟩ := List.pairwise_cons.mp ordered
      rcases extend_cons path other lines present rest with
        ⟨_, extended⟩ | ⟨_, earlier, extended⟩ | ⟨apart, late, extended⟩
      · rw [extended]
        exact List.pairwise_cons.mpr ⟨behind, later⟩
      · rw [extended]
        refine List.pairwise_cons.mpr ⟨fun entry member => ?_, ordered⟩
        rcases List.mem_cons.mp member with rfl | inside
        · exact earlier
        · exact Text.before_trans path other entry.1 earlier (behind entry inside)
      · rw [extended]
        refine List.pairwise_cons.mpr ⟨fun entry member => ?_, ih later⟩
        rcases mem_extend path lines rest entry member with here | ⟨kept, there, named⟩
        · rw [here]
          exact Text.before_total path other apart late
        · rw [← named]
          exact behind kept there

theorem Ordered.mem_iff (ordered : entries.Ordered) (path : Text) (lines : List Text) :
    (path, lines) ∈ entries ↔ entries.lookup path = some lines := by
  rw [List.lookup_eq_some_iff]
  constructor
  · intro member
    obtain ⟨front, back, rfl⟩ := List.append_of_mem member
    refine ⟨front, back, rfl, fun entry inside => ?_⟩
    have earlier := (List.pairwise_append.mp ordered).2.2 entry inside (path, lines) List.mem_cons_self
    rw [bne_iff_ne]
    rintro rfl
    rw [Text.before_irrefl] at earlier
    contradiction
  · rintro ⟨front, back, rfl, _⟩
    exact List.mem_append_right front List.mem_cons_self

theorem Ordered.nodup (ordered : entries.Ordered) : entries.Nodup := by
  refine ordered.imp fun earlier same => ?_
  rw [same, Text.before_irrefl] at earlier
  contradiction

theorem Ordered.eq_of_lookup (ordered : entries.Ordered) (also : others.Ordered)
    (same : ∀ path, entries.lookup path = others.lookup path) : entries = others := by
  have alike : entries.Perm others :=
    (List.perm_ext_iff_of_nodup ordered.nodup also.nodup).mpr fun (path, lines) => by
      rw [ordered.mem_iff, also.mem_iff, same]
  refine alike.eq_of_pairwise (fun a b _ _ first second => ?_) ordered also
  have loop := Text.before_trans a.1 b.1 a.1 first second
  rw [Text.before_irrefl] at loop
  contradiction

theorem Ordered.lookup_extend (ordered : entries.Ordered) (path : Text) (lines : List Text) :
    (ServiceEntries.extend path lines entries).lookup path =
      some ((entries.lookup path).getD [] ++ lines) := by
  induction entries with
  | nil => exact List.lookup_cons_self
  | cons first rest ih =>
      obtain ⟨other, present⟩ := first
      obtain ⟨behind, later⟩ := List.pairwise_cons.mp ordered
      rcases extend_cons path other lines present rest with
        ⟨same, extended⟩ | ⟨apart, earlier, extended⟩ | ⟨apart, _, extended⟩
      · rw [extended]
        simp [same]
      · -- The path comes before all that are there, so it is not one of them.
        have absent : rest.lookup path = none := by
          rw [List.lookup_eq_none_iff]
          intro entry member
          have between := Text.before_trans path other entry.1 earlier (behind entry member)
          rw [bne_iff_ne]
          rintro rfl
          rw [Text.before_irrefl] at between
          contradiction
        have differs : (path == other) = false := by simpa using apart
        rw [extended, List.lookup_cons_self, List.lookup_cons, differs, absent]
        rfl
      · have differs : (path == other) = false := by simpa using apart
        rw [extended, List.lookup_cons, List.lookup_cons, differs]
        exact ih later

end Shading.ServiceEntries
