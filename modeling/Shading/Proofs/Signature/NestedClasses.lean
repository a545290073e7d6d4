import Shading.Proofs.Relocation.NestedNames
import Shading.Proofs.Signature.ClassTypes

set_option autoImplicit false

namespace Shading

open Signature SignaturePiece

namespace Signature

def binaryNameOf (type : Text × List Text) : Text := type.2.foldl binaryName type.1

mutual
theorem TailTree.nested_names_named (t : TailTree) (proper : t.Proper) :
    ∀ name ∈ t.nestedNames, Named nameStops name := by
  cases t with
  | plain next => exact next.nested_names_named proper
  | generic arguments next => exact next.nested_names_named proper.2

theorem NextTree.nested_names_named (next : NextTree) (proper : next.Proper) :
    ∀ name ∈ next.nestedNames, Named nameStops name := by
  cases next with
  | stop => nofun
  | nested name tail =>
      exact List.forall_mem_cons.mpr ⟨proper.1, tail.nested_names_named proper.2⟩
end

theorem Carries.binary_name {f : Text → Option Text} {p : Text → Prop} (carries : Carries f p)
    (outer : Text) (names : List Text) (holds : p outer) (named : ∀ name ∈ names, Named nameStops name) :
    (f (binaryNameOf (outer, names))).getD (binaryNameOf (outer, names)) =
      binaryNameOf ((f outer).getD outer, names) := by
  induction names generalizing outer with
  | nil => rfl
  | cons name rest ih =>
      obtain ⟨first, others⟩ := List.forall_mem_cons.mp named
      have inner := ih (binaryName outer name) (carries.nested outer name holds first) others
      rw [carries.carried outer name holds first] at inner
      exact inner

end Signature

namespace Chain

def Unwrapped (name : Text) : Prop := name.head? ≠ some 'L' ∧ name.head? ≠ some '['

instance (name : Text) : Decidable (Unwrapped name) := instDecidableAnd

theorem Unwrapped.split {name : Text} (unwrapped : Unwrapped name) : splitWrapper name = ([], name) := by
  cases name with
  | nil => rfl
  | cons c rest =>
      exact split_wrapper_other c rest (fun same => unwrapped.1 (congrArg some same))
        fun same => unwrapped.2 (congrArg some same)

theorem Unwrapped.nested {outer : Text} (unwrapped : Unwrapped outer) (name : Text) :
    Unwrapped (binaryName outer name) := by
  cases outer with
  | nil => exact ⟨by simp [binaryName], by simp [binaryName]⟩
  | cons c rest => exact unwrapped

theorem carries_nested (chain : Chain) (free : ∀ r ∈ chain, r.Unfiltered ∧ '$' ∉ r.pathPattern) :
    Carries chain.mapName? fun name => Named nameStops name ∧ Unwrapped name where
  nested outer name holds named := ⟨named_binary outer name holds.1 named, holds.2.nested name⟩
  carried outer name holds named := by
    have plain : '.' ∉ outer := fun dot => holds.1.2 '.' dot (by decide)
    have plain' : '.' ∉ name := fun dot => named.2 '.' dot (by decide)
    refine chain.map_path_nested free outer name plain plain' ?_
    rw [holds.2.split, (holds.2.nested name).split]

-- Before and after have the same number of parts, and the class that they name together, and each
-- class around it, is the one that the chain makes of it.
def TypeFollows (chain : Chain) (before after : Text × List Text) : Prop :=
  Unwrapped before.1 → after.2.length = before.2.length ∧
    ∀ n, binaryNameOf (after.1, after.2.take n) = chain.mapPath (binaryNameOf (before.1, before.2.take n))

theorem types_follow (chain : Chain) (free : ∀ r ∈ chain, r.Unfiltered ∧ '$' ∉ r.pathPattern) :
    EachType chain.mapName? chain.TypeFollows := by
  intro name tail named proper unwrapped
  have carries := chain.carries_nested free
  have holds : Named nameStops name ∧ Unwrapped name := ⟨named, unwrapped⟩
  have same := tail.nested_names_carried carries proper name holds
  refine ⟨congrArg List.length same, fun n => ?_⟩
  have parts : ∀ part ∈ tail.nestedNames.take n, Named nameStops part := fun part listed =>
    tail.nested_names_named proper part (List.mem_of_mem_take listed)
  rw [same]
  exact (carries.binary_name name (tail.nestedNames.take n) holds parts).symm

theorem unmarked_path_pattern (pattern : Text) (target? : Option Text) (unmarked : '$' ∉ pattern) :
    '$' ∉ (Relocation.unfiltered pattern target?).pathPattern := by
  intro member
  obtain ⟨c, listed, same⟩ := List.mem_map.mp member
  by_cases dot : c = '.'
  · rw [if_pos dot] at same
    contradiction
  · rw [if_neg dot] at same
    exact unmarked (same ▸ listed)

theorem nested_classes_follow (chain : Chain)
    (built : ∀ r ∈ chain, ∃ pattern target?, r = Relocation.unfiltered pattern target? ∧ '$' ∉ pattern)
    (s t : Text) (renamed : rename chain.mapName? s = .ok t) :
    (∃ tree : Tree, tree.Proper ∧ s = tree.print) ∧
    ∀ tree : Tree, tree.Proper → s = tree.print → t = (tree.rename chain.mapName?).print ∧
      List.Forall₂ chain.TypeFollows tree.classTypes (tree.rename chain.mapName?).classTypes := by
  have free : ∀ r ∈ chain, r.Unfiltered ∧ '$' ∉ r.pathPattern := by
    intro r listed
    obtain ⟨pattern, target?, rfl, unmarked⟩ := built r listed
    exact ⟨⟨rfl, rfl⟩, unmarked_path_pattern pattern target? unmarked⟩
  obtain ⟨tree, proper, same, _⟩ := rename_ok _ _ _ renamed
  refine ⟨⟨tree, proper, same⟩, ?_⟩
  intro tree proper same
  subst same
  cases renamed.symm.trans (rename_print chain.mapName? tree proper)
  exact ⟨rfl, tree.class_types_related (chain.types_follow free) proper⟩

-- A class of the platform around one that moves to a package with the mark of nested classes.
def nestedArgument : Tree where
  parameters := none
  items := [.type (.mk 0 (.object "java/util/Map".toList (.generic
    (.type ['+'] (.mk 1 (.object "org/words/Map".toList (.generic (.any .close)
      (.nested "Entry$1".toList (.plain (.nested "Key".toList (.plain .stop))))))) .close)
    (.nested "Entry".toList (.plain .stop)))))]

theorem nested_argument_proper : nestedArgument.Proper where
  parameters := nofun
  items := by
    refine List.forall_mem_singleton.mpr ⟨⟨by decide, ⟨⟨by decide, ⟨by decide, trivial, ?_⟩, trivial⟩, ?_⟩⟩, nofun⟩
    · exact ⟨by decide, by decide, trivial⟩
    · exact ⟨by decide, trivial⟩
  filled := nofun

def wordsChain : Chain :=
  [Relocation.unfiltered "java".toList none, Relocation.unfiltered "org.words".toList (some "shop$words".toList)]

theorem nested_argument_follows :
    (∀ r ∈ wordsChain, ∃ pattern target?, r = Relocation.unfiltered pattern target? ∧ '$' ∉ pattern) ∧
    rename wordsChain.mapName? "Ljava/util/Map<+[Lorg/words/Map<*>.Entry$1.Key;>.Entry;".toList =
      .ok "Ljava/util/Map<+[Lshop$words/Map<*>.Entry$1.Key;>.Entry;".toList ∧
    List.Forall₂ wordsChain.TypeFollows nestedArgument.classTypes
      (nestedArgument.rename wordsChain.mapName?).classTypes ∧
    wordsChain.mapPath "org/words/Map$Entry$1$Key".toList = "shop$words/Map$Entry$1$Key".toList := by
  have built : ∀ r ∈ wordsChain,
      ∃ pattern target?, r = Relocation.unfiltered pattern target? ∧ '$' ∉ pattern :=
    List.forall_mem_cons.mpr ⟨⟨_, _, rfl, by decide⟩, List.forall_mem_singleton.mpr ⟨_, _, rfl, by decide⟩⟩
  have renamed : rename wordsChain.mapName? "Ljava/util/Map<+[Lorg/words/Map<*>.Entry$1.Key;>.Entry;".toList =
      .ok "Ljava/util/Map<+[Lshop$words/Map<*>.Entry$1.Key;>.Entry;".toList := by decide +kernel
  obtain ⟨_, follow⟩ := nested_classes_follow wordsChain built _ _ renamed
  exact ⟨built, renamed, (follow nestedArgument nested_argument_proper (by decide +kernel)).2, by decide +kernel⟩

end Chain

end Shading
