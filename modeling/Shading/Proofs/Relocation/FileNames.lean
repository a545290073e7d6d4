import Shading.Assembly
import Shading.Proofs.EntryPath
import Shading.Proofs.Relocation.FirstRule
import Shading.Proofs.Resource.ServiceEntries

set_option autoImplicit false

namespace Shading

open EntryPath

namespace Relocation

variable {r : Relocation}

structure TargetsName (r : Relocation) : Prop where
  coherent : r.Coherent
  filled : r.target ≠ []
  unclosed : Text.endsWith ['.'] r.target = false

theorem unfiltered_targets_name (pattern target : Text) (filled : target ≠ [])
    (undotted : Text.endsWith ['.'] target = false) (unslashed : Text.endsWith ['/'] target = false) :
    (unfiltered pattern (some target)).TargetsName := by
  refine ⟨unfiltered_coherent pattern (some target), ?_, ?_⟩
  · exact fun empty => filled (List.map_eq_nil_iff.mp empty)
  · rw [← Bool.not_eq_true, Text.ends_with_last] at undotted unslashed ⊢
    intro dotted
    unfold unfiltered Text.dotted Text.exchange at dotted
    rw [List.getLast?_map, Option.map_eq_some_iff] at dotted
    obtain ⟨last, ends, same⟩ := dotted
    by_cases slash : last = '/'
    · exact unslashed (slash ▸ ends)
    · rw [if_neg slash] at same
      exact undotted (same ▸ ends)

theorem TargetsName.path_target (names : r.TargetsName) :
    r.pathTarget ≠ [] ∧ NamesFile r.pathTarget := by
  have unclosed := names.unclosed
  rw [← Bool.not_eq_true, Text.ends_with_last] at unclosed
  rw [names.coherent.target]
  refine ⟨fun empty => names.filled (List.map_eq_nil_iff.mp empty), ?_⟩
  rw [names_file_iff]
  intro closed
  unfold Text.slashed Text.exchange at closed
  rw [List.getLast?_map, Option.map_eq_some_iff] at closed
  obtain ⟨last, ends, same⟩ := closed
  by_cases dot : last = '.'
  · exact unclosed (dot ▸ ends)
  · rw [if_neg dot] at same
    exact names.coherent.dottedTarget (same ▸ List.mem_of_getLast? ends)

theorem TargetsName.class_target (names : r.TargetsName) : NamesFile r.target := by
  rw [names_file_iff]
  exact fun closed => names.coherent.dottedTarget (List.mem_of_getLast? closed)

theorem names_file_replaced (pattern replacement name : Text) (filled : replacement ≠ [])
    (first : NamesFile replacement) (second : NamesFile name) :
    NamesFile (Text.replaceFirst pattern replacement name) := by
  rw [names_file_iff] at first second ⊢
  cases Text.replace_first_last pattern replacement name filled with
  | inl same => exact same ▸ second
  | inr last => exact last ▸ first

theorem TargetsName.move_path (names : r.TargetsName) (path : Text) (file : NamesFile path) :
    NamesFile (r.movePath path) :=
  names_file_replaced _ _ path names.path_target.1 names.path_target.2 file

theorem TargetsName.move_class (names : r.TargetsName) (name : Text) (file : NamesFile name) :
    NamesFile (r.moveClass name) :=
  names_file_replaced _ _ name names.filled names.class_target file

end Relocation

theorem Chain.names_file_opening (name : Text) : NamesFile (splitWrapper name).1 := by
  unfold splitWrapper
  dsimp only
  split
  · rw [names_file_iff, List.getLast?_concat]
    decide
  · exact (names_file_iff []).mpr (by decide)

variable {chain : Chain}

theorem Chain.names_file_mapped (names : ∀ r ∈ chain, r.TargetsName) (path : Text)
    (file : NamesFile path) : NamesFile (chain.mapPath path) := by
  cases own : isPlatformName path with
  | true =>
      rw [map_path_platform chain path own]
      exact file
  | false =>
      have whole := split_wrapper_append path
      have inner : NamesFile (splitWrapper path).2 := by
        rw [← whole] at file
        exact names_file_tail _ _ file
      rw [map_path_own chain path own]
      rcases move_first_cases chain (splitWrapper path).2 with ⟨r, listed, _, moved⟩ | ⟨_, stays⟩
      · rw [moved]
        exact names_file_append _ _ (names_file_opening path) ((names r listed).move_path _ inner)
      · rw [stays, whole]
        exact file

theorem Chain.names_file_class_path (chain : Chain) (path : Text) :
    NamesFile (chain.mapClassPath path) := by
  unfold mapClassPath
  rw [names_file_iff, List.getLast?_append, show classSuffix.getLast? = some 's' from rfl]
  simp

theorem ServiceMerger.names_file_target (names : ∀ r ∈ chain, r.TargetsName) (path : Text)
    (file : NamesFile path) : NamesFile (target chain path) := by
  unfold target
  induction chain generalizing path with
  | nil => exact file
  | cons r rest ih =>
      obtain ⟨first, others⟩ := List.forall_mem_cons.mp names
      refine ih others (movePath path r) ?_
      unfold movePath
      by_cases applies : r.appliesToClass (Text.lastSegment path) = true
      · rw [if_pos applies]
        exact first.move_class path file
      · rw [if_neg applies]
        exact file

namespace Transformer

def NamesFiles : Transformer → Prop
  | filter _ => True
  | services merger => ∀ entry ∈ merger.entries, NamesFile entry.1

theorem take_names_files (t : Transformer) (chain : Chain) (path : Text) (content : Bytes)
    (file : NamesFile path) (names : ∀ r ∈ chain, r.TargetsName) (collected : t.NamesFiles) :
    (t.take chain path content).NamesFiles := by
  cases t with
  | filter accepted => trivial
  | services merger =>
      intro entry member
      cases ServiceEntries.mem_extend _ _ _ entry member with
      | inl new => exact new ▸ ServiceMerger.names_file_target names path file
      | inr old =>
          obtain ⟨other, there, same⟩ := old
          exact same ▸ collected other there

theorem output_names_files (t : Transformer) (collected : t.NamesFiles) :
    ∀ item ∈ t.output, NamesFile item.1 := by
  intro item member
  cases t with
  | filter accepted => contradiction
  | services merger =>
      obtain ⟨entry, kept, rfl⟩ := List.mem_map.mp member
      exact collected entry (List.mem_filter.mp kept).1

end Transformer

end Shading
