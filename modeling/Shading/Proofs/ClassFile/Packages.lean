import Shading.Proofs.ClassFile.References
import Shading.Proofs.Relocation.Eligibility
import Shading.Proofs.Relocation.FirstRule

set_option autoImplicit false

namespace Shading

open Fallible

theorem Text.prefix_in_directory (start directory name : Text)
    (above : ∀ rest, rest ≠ [] → start ≠ directory ++ '/' :: rest) :
    start <+: directory ++ '/' :: name ↔ start <+: directory ++ ['/'] := by
  have whole : directory ++ '/' :: name = directory ++ ['/'] ++ name := by simp
  rw [whole]
  constructor
  · intro begins
    rcases List.prefix_or_prefix_of_prefix begins (List.prefix_append _ name) with inside | ⟨rest, below⟩
    · exact inside
    · cases rest with
      | nil => exact ⟨[], by rw [List.append_nil, ← below, List.append_nil]⟩
      | cons c rest => exact absurd (by simp [← below]) (above (c :: rest) (List.cons_ne_nil c rest))
  · exact fun begins => begins.trans (List.prefix_append _ name)

namespace Relocation

theorem stem_in_directory (directory name : Text) (plain : '.' ∉ name) :
    stem (directory ++ '/' :: name) = directory ++ '/' :: name := by
  unfold stem
  cases cut : Text.dropEnd? classSuffix (directory ++ '/' :: name) with
  | none => rfl
  | some front =>
      have whole := (Text.drop_end_some _ _ _).mp cut
      have behind : classSuffix <:+ directory ++ '/' :: name := ⟨front, whole.symm⟩
      rcases List.suffix_or_suffix_of_suffix behind (List.suffix_append directory ('/' :: name)) with inside | around
      · rcases List.suffix_cons_iff.mp inside with same | later
        · cases same
        · exact absurd (later.subset List.mem_cons_self) plain
      · have slash : '/' ∈ classSuffix := around.subset List.mem_cons_self
        exact absurd slash (by decide)

variable {r : Relocation}

theorem Unfiltered.applies_in_directory (free : r.Unfiltered) (directory name : Text) (plain : '.' ∉ name)
    (unrooted : ∀ rest, directory ++ '/' :: name ≠ '/' :: rest) :
    r.appliesToPath (directory ++ '/' :: name) = true ↔ r.pathPattern <+: directory ++ '/' :: name := by
  rw [Relocation.applies_iff, relative_stem_unrooted _ unrooted, stem_in_directory directory name plain]
  refine ⟨fun applies => applies.2.1, fun begins => ⟨fun bare => ?_, begins, admits_unfiltered r free _⟩⟩
  have slash : '/' ∈ classSuffix := bare ▸ List.mem_append_right directory List.mem_cons_self
  exact absurd slash (by decide)

-- The pattern does not end in a slash, so it begins the directory and the slash stays behind it.
theorem move_in_directory (open' : r.pathPattern.getLast? ≠ some '/') (directory name : Text)
    (begins : r.pathPattern <+: directory ++ ['/']) :
    r.movePath (directory ++ '/' :: name) = r.movePath directory ++ '/' :: name := by
  rcases List.prefix_concat_iff.mp begins with ends | within
  · exact absurd (by rw [ends, List.getLast?_concat]) open'
  · exact Text.replace_first_append _ _ directory ('/' :: name) within.isInfix

end Relocation

namespace Chain

-- A name that is not empty and looks like neither a descriptor nor a rooted path.
def PackageName (package : Text) : Prop := ∃ c rest, package = c :: rest ∧ c ≠ '/' ∧ c ≠ 'L' ∧ c ≠ '['

-- No rule has filters, or a pattern that ends in a slash or reaches below the package.
def Above (chain : Chain) (package : Text) : Prop :=
  ∀ r ∈ chain, r.Unfiltered ∧ r.pathPattern.getLast? ≠ some '/' ∧
    ∀ rest, rest ≠ [] → r.pathPattern ≠ package ++ '/' :: rest

-- The new name of a package: that which the first rule makes of it that applies to the paths below it.
def movePackage (chain : Chain) (package : Text) : Text :=
  ((chain.find? fun r => r.appliesToPath (package ++ ['/'])).map fun r => r.movePath package).getD package

variable {chain : Chain} {package : Text}

theorem PackageName.unrooted (named : PackageName package) (name rest : Text) :
    package ++ '/' :: name ≠ '/' :: rest := by
  obtain ⟨c, others, rfl, slash, _⟩ := named
  exact fun same => slash (List.cons.inj same).1

theorem PackageName.split (named : PackageName package) (name : Text) :
    splitWrapper (package ++ '/' :: name) = ([], package ++ '/' :: name) := by
  obtain ⟨c, others, rfl, _, letter, bracket⟩ := named
  exact split_wrapper_other c _ letter bracket

theorem platform_in_directory (package name : Text) :
    isPlatformName (package ++ '/' :: name) = isPlatformName (package ++ ['/']) := by
  have ends : ∀ start ∈ platformPrefixes, start.getLast? = some '/' ∧ '/' ∉ start.dropLast := by decide
  unfold isPlatformName
  rw [Bool.eq_iff_iff, List.any_eq_true, List.any_eq_true]
  refine exists_congr fun start => and_congr_right fun listed => ?_
  rw [Text.startsWith, Text.startsWith, List.isPrefixOf_iff_prefix, List.isPrefixOf_iff_prefix]
  refine Text.prefix_in_directory start package name fun rest filled below => (ends start listed).2 ?_
  rw [below, List.dropLast_append_of_ne_nil (List.cons_ne_nil _ _), List.dropLast_cons_of_ne_nil filled]
  exact List.mem_append_right package List.mem_cons_self

theorem Above.move_first (above : chain.Above package) (named : PackageName package) (name : Text)
    (plain : '.' ∉ name) : chain.moveFirst (package ++ '/' :: name) = chain.movePackage package ++ '/' :: name := by
  have same : ∀ r ∈ chain, r.appliesToPath (package ++ '/' :: name) = r.appliesToPath (package ++ ['/']) := by
    intro r listed
    obtain ⟨free, _, outside⟩ := above r listed
    rw [Bool.eq_iff_iff, free.applies_in_directory package name plain (named.unrooted name),
      free.applies_in_directory package [] List.not_mem_nil (named.unrooted []),
      Text.prefix_in_directory _ package name outside]
  unfold moveFirst movePackage
  rw [List.find?_congr same]
  cases found : chain.find? fun r => r.appliesToPath (package ++ ['/']) with
  | none => rfl
  | some r =>
      obtain ⟨free, open', _⟩ := above r (List.mem_of_find?_eq_some found)
      have applies : r.appliesToPath (package ++ ['/']) = true := by simpa using List.find?_some found
      exact r.move_in_directory open' package name
        ((free.applies_in_directory package [] List.not_mem_nil (named.unrooted [])).mp applies)

theorem Above.map_name (above : chain.Above package) (named : PackageName package) (name : Text)
    (plain : '.' ∉ name) : chain.mapName? (package ++ '/' :: name) =
      if isPlatformName (package ++ ['/']) then none else some (chain.movePackage package ++ '/' :: name) := by
  split
  · rename_i own
    exact map_name_platform chain _ ((platform_in_directory package name).trans own)
  · rename_i other
    rw [Bool.not_eq_true, ← platform_in_directory package name] at other
    rw [map_name_own chain _ other, named.split name, above.move_first named name plain]
    rfl

end Chain

namespace ClassFile

variable {chain : Chain} {c after : ClassFile} {pool : Pool} {f : Repointing}

theorem Renamed.package_after (renamed : Renamed chain c after pool f) (index : Nat) (n : UInt16) (p q : Text)
    (slot : c.pool.slots[index]? = some (.package n)) (read : c.pool.text n = .ok p)
    (wanted : Role.rename chain .packageName p = .ok q) :
    ∃ m, after.pool.slots[index]? = some (.package m) ∧ after.pool.text m = .ok q := by
  have follows := renamed.follows _ (slot_used c _ _ slot ⟨n, .packageName⟩ List.mem_cons_self)
  obtain ⟨s, answer, final⟩ := follows.renamed_text p read
  cases wanted.symm.trans answer
  exact ⟨_, renamed.slot_after _ _ slot nofun, final⟩

theorem packages_follow_classes (chain : Chain) (package : Text) (named : Chain.PackageName package)
    (above : chain.Above package) (name : Text) (plain : '.' ∉ name) :
    ∃ moved, Role.rename chain .packageName package = .ok moved ∧
      Role.rename chain .className (package ++ '/' :: name) = .ok (moved ++ '/' :: name) ∧
      chain.mapPath (package ++ '/' :: name) = moved ++ '/' :: name ∧
      ∀ c after : ClassFile, c.rename chain = .ok after →
        (∀ (index : Nat) (n : UInt16), c.pool.slots[index]? = some (.package n) → c.pool.text n = .ok package →
          ∃ m, after.pool.slots[index]? = some (.package m) ∧ after.pool.text m = .ok moved) ∧
        ∀ index, c.pool.className index = .ok (package ++ '/' :: name) →
          after.pool.className index = .ok (moved ++ '/' :: name) := by
  have single : Text.startsWith ['['] (package ++ '/' :: name) = false := by
    obtain ⟨c, others, rfl, _, _, bracket⟩ := named
    show ('[' == c && true) = false
    rw [beq_false_of_ne bracket.symm]
    rfl
  have directory := above.map_name named [] List.not_mem_nil
  have inside := above.map_name named name plain
  obtain ⟨moved, packaged, mapped⟩ : ∃ moved, Role.rename chain .packageName package = .ok moved ∧
      chain.mapPath (package ++ '/' :: name) = moved ++ '/' :: name := by
    show ∃ moved, Except.ok (((chain.mapName? (package ++ ['/'])).bind (Text.dropEnd? ['/'])).getD package) =
      .ok moved ∧ (chain.mapName? (package ++ '/' :: name)).getD (package ++ '/' :: name) = moved ++ '/' :: name
    rw [directory, inside]
    split
    · exact ⟨package, rfl, rfl⟩
    · refine ⟨chain.movePackage package, ?_, rfl⟩
      rw [Option.bind_some, (Text.drop_end_some _ _ _).mpr rfl, Option.getD_some]
  refine ⟨moved, packaged, ?_, mapped, fun c after renamed => ?_⟩
  · refine (if_neg ?_).trans (congrArg Except.ok mapped)
    rw [single]
    exact Bool.false_ne_true
  · obtain ⟨pool, f, done⟩ := rename_renamed chain c after renamed
    refine ⟨fun index n slot read => done.package_after index n package moved slot read packaged, ?_⟩
    intro index read
    rw [done.class_name_after index _ read single, mapped]

-- The first pattern begins with the text of the package, but it is that of another package.
theorem nested_package_follows : ∃ moved,
    Role.rename [.unfiltered "org.antlr.v4x".toList none, .unfiltered "org".toList (some "com.acme".toList)]
        .packageName "org/antlr/v4".toList = .ok moved ∧
      Role.rename [.unfiltered "org.antlr.v4x".toList none, .unfiltered "org".toList (some "com.acme".toList)]
        .className "org/antlr/v4/Tool".toList = .ok (moved ++ "/Tool".toList) ∧
      moved = "com/acme/antlr/v4".toList := by
  have named : Chain.PackageName "org/antlr/v4".toList := ⟨'o', _, rfl, by decide, by decide, by decide⟩
  have above : Chain.Above [.unfiltered "org.antlr.v4x".toList none, .unfiltered "org".toList (some "com.acme".toList)]
      "org/antlr/v4".toList := by
    have outside : ∀ r ∈ [Relocation.unfiltered "org.antlr.v4x".toList none,
        .unfiltered "org".toList (some "com.acme".toList)], ¬ "org/antlr/v4/".toList <+: r.pathPattern ∧
          r.pathPattern.getLast? ≠ some '/' ∧ r.includes = [] ∧ r.excludes = [] := by decide
    intro r listed
    obtain ⟨apart, open', free⟩ := outside r listed
    exact ⟨free, open', fun rest _ below => apart ⟨rest, below.symm⟩⟩
  obtain ⟨moved, packaged, inside, _⟩ := packages_follow_classes _ _ named above "Tool".toList (by decide)
  refine ⟨moved, packaged, inside, ?_⟩
  exact Except.ok.inj (packaged.symm.trans (by decide))

end ClassFile

end Shading
