import Shading.ClassPattern
import Shading.Proofs.Relocation.ClassPath
import Shading.Proofs.Relocation.FirstRule
import Shading.Proofs.Resource.Providers
import Shading.Proofs.Resource.ServiceEntries

set_option autoImplicit false

namespace Shading

def DottedName (c : Text) : Prop := ∃ parts : List Text, parts ≠ [] ∧
  (∀ part ∈ parts, part ≠ [] ∧ part.all ClassPattern.isIdentifierPart = true) ∧ c = Text.join ['.'] parts

theorem blank_not_identifier (d : Char) (blank : Text.isBlank d = true) :
    ClassPattern.isIdentifierPart d = false := by
  have blanks : ∀ n ∈ ([9, 10, 11, 12, 13, 0x20, 0x85, 0xA0, 0x1680, 0x2000, 0x2001, 0x2002, 0x2003,
      0x2004, 0x2005, 0x2006, 0x2007, 0x2008, 0x2009, 0x200A, 0x2028, 0x2029, 0x202F, 0x205F,
      0x3000] : List Nat), ClassPattern.isIdentifierPart (Char.ofNat n) = false := by decide +kernel
  rw [← Char.ofNat_toNat d]
  apply blanks
  simp only [Text.isBlank, Bool.or_eq_true, Bool.and_eq_true, decide_eq_true_eq, beq_iff_eq] at blank
  simp only [List.mem_cons, List.not_mem_nil, or_false]
  omega

namespace DottedName

variable {c : Text}

theorem without (named : DottedName c) (d : Char) (dot : d ≠ '.')
    (other : ClassPattern.isIdentifierPart d = false) : d ∉ c := by
  obtain ⟨parts, _, identifiers, rfl⟩ := named
  intro member
  rcases Text.mem_join '.' parts d member with same | ⟨part, listed, inside⟩
  · exact dot same
  · have letter := List.all_eq_true.mp (identifiers part listed).2 d inside
    rw [other] at letter
    cases letter

theorem opening (named : DottedName c) : ∃ d rest, c = d :: rest ∧ Text.isBlank d = false := by
  obtain ⟨parts, filled, identifiers, rfl⟩ := named
  obtain ⟨first, others, rfl⟩ := List.exists_cons_of_ne_nil filled
  obtain ⟨nonempty, letters⟩ := identifiers first List.mem_cons_self
  obtain ⟨d, tail, rfl⟩ := List.exists_cons_of_ne_nil nonempty
  obtain ⟨rest, same⟩ := Text.join_begins '.' (d :: tail) others
  refine ⟨d, tail ++ rest, same.symm, ?_⟩
  by_contra blank
  rw [Bool.not_eq_false] at blank
  have letter := List.all_eq_true.mp letters d List.mem_cons_self
  rw [blank_not_identifier d blank] at letter
  cases letter

theorem class_name (named : DottedName c) : ClassName (Text.slashed c) := by
  have kept (d : Char) (dot : d ≠ '.') (slash : d ≠ '/')
      (other : ClassPattern.isIdentifierPart d = false) : d ∉ Text.slashed c := by
    intro member
    obtain ⟨e, inside, same⟩ := List.mem_map.mp member
    by_cases stop : e = '.'
    · rw [if_pos stop] at same
      exact slash same.symm
    · rw [if_neg stop] at same
      exact named.without d dot other (same ▸ inside)
  refine ⟨?_, ?_, ?_⟩
  · obtain ⟨d, rest, rfl, _⟩ := named.opening
    exact List.cons_ne_nil _ _
  · intro d member special
    simp only [List.mem_cons, List.not_mem_nil, or_false] at special
    rcases special with rfl | rfl | rfl | rfl
    · exact Text.dot_not_mem_slashed c member
    · exact kept ';' (by decide) (by decide) (by decide) member
    · exact kept '[' (by decide) (by decide) (by decide) member
    · exact kept '<' (by decide) (by decide) (by decide) member
  · intro directory release begins
    obtain ⟨number, _, _, rfl⟩ := release
    have dash : '-' ∈ versionsDirectory := by decide
    exact kept '-' (by decide) (by decide) (by decide)
      (begins.subset (List.mem_append_left _ (List.mem_append_left _ dash)))

end DottedName

theorem ServiceLine.move_stays (line : Text) (code : '#' ∉ line) (rules : List Relocation)
    (none : ∀ r ∈ rules, r.appliesToClass line = false) : rules.foldl move line = line := by
  induction rules with
  | nil => rfl
  | cons r rest ih =>
      obtain ⟨first, others⟩ := List.forall_mem_cons.mp none
      rw [List.foldl_cons, move_code line code, Relocation.renameClass, first]
      exact ih others

namespace ServiceMerger

theorem read_lines_listed (stripComments : Bool) (content : Bytes) (c : Text) (named : DottedName c)
    (listed : c ∈ Text.lines (Text.Utf8.decodeLossy content)) : c ∈ readLines stripComments content := by
  cases stripComments with
  | false => exact listed
  | true =>
      have code : '#' ∉ c := named.without '#' (by decide) (by decide)
      refine List.mem_filter.mpr ⟨List.mem_map.mpr ⟨c, listed, ServiceLine.strip_code c code⟩, ?_⟩
      obtain ⟨d, rest, rfl, filled⟩ := named.opening
      rw [Bool.not_eq_true', Bool.eq_false_iff]
      intro idle
      have blank := ServiceLine.blank_of_idle _ code idle d List.mem_cons_self
      rw [filled] at blank
      contradiction

theorem contribution_line (stripComments : Bool) (chain : Chain) (content : Bytes) (k : Nat) (c : Text)
    (line : (readLines stripComments content)[k]? = some c) :
    (contribution stripComments chain content)[k]? = some (chain.foldl ServiceLine.move c) := by
  unfold contribution
  rw [List.getElem?_map, line]
  rfl

end ServiceMerger

namespace Chain

def behindFirst (path : Text) : Chain → Chain
  | [] => []
  | r :: rest => if r.appliesToPath path then rest else behindFirst path rest

-- All rules are left for a class of the platform, as none moves its entry.
def unused (chain : Chain) (path : Text) : Chain :=
  if isPlatformName path then chain else behindFirst path chain

theorem lines_move_first (chain : Chain) (coherent : ∀ r ∈ chain, r.Coherent) (c : Text) (plain : '/' ∉ c)
    (code : '#' ∉ c) : chain.foldl ServiceLine.move c =
      (behindFirst (Text.slashed c) chain).foldl ServiceLine.move
        (Text.dotted (chain.moveFirst (Text.slashed c))) := by
  induction chain with
  | nil => exact (Text.dotted_slashed c plain).symm
  | cons r rest ih =>
      obtain ⟨first, others⟩ := List.forall_mem_cons.mp coherent
      rw [List.foldl_cons, ServiceLine.move_code c code, Relocation.renameClass, r.applies_to_class_plain c plain, behindFirst,
        move_first_cons]
      by_cases applies : r.appliesToPath (Text.slashed c) = true
      · rw [if_pos applies, if_pos applies, if_pos applies, first.move_path_slashed c plain,
          Text.dotted_slashed _ (first.move_class_plain c plain)]
      · rw [if_neg applies, if_neg applies, if_neg applies]
        exact ih others

theorem map_path_unwrapped (chain : Chain) (name : Text) (own : isPlatformName name = false)
    (unwrapped : (splitWrapper name).1 = []) : chain.mapPath name = chain.moveFirst name := by
  have whole := split_wrapper_append name
  rw [unwrapped, List.nil_append] at whole
  rw [map_path_own chain name own, unwrapped, whole, List.nil_append]

theorem lines_move_on (chain : Chain) (coherent : ∀ r ∈ chain, r.Coherent) (c : Text) (plain : '/' ∉ c)
    (code : '#' ∉ c) (unwrapped : (splitWrapper (Text.slashed c)).1 = []) :
    chain.foldl ServiceLine.move c = (chain.unused (Text.slashed c)).foldl ServiceLine.move
      (Text.dotted (chain.mapPath (Text.slashed c))) := by
  unfold unused
  cases platform : isPlatformName (Text.slashed c) with
  | true =>
      rw [chain.map_path_platform _ platform, Text.dotted_slashed c plain]
      rfl
  | false =>
      rw [map_path_unwrapped chain _ platform unwrapped]
      exact chain.lines_move_first coherent c plain code

end Chain

namespace ServiceMerger

theorem lines_follow_classes (chain : Chain) (coherent : ∀ r ∈ chain, r.Coherent) (c : Text)
    (named : DottedName c) (unwrapped : (Chain.splitWrapper (Text.slashed c)).1 = []) (m : ServiceMerger)
    (path : Text) (content : Bytes) (listed : c ∈ Text.lines (Text.Utf8.decodeLossy content)) :
    chain.mapClassPath (Text.slashed c ++ classSuffix) = chain.mapPath (Text.slashed c) ++ classSuffix ∧
    ∃ line present,
      line = (chain.unused (Text.slashed c)).foldl ServiceLine.move
        (Text.dotted (chain.mapPath (Text.slashed c))) ∧
      ('#' ∉ Text.dotted (chain.mapPath (Text.slashed c)) →
        (∀ r ∈ chain.unused (Text.slashed c),
          r.appliesToClass (Text.dotted (chain.mapPath (Text.slashed c))) = false) →
        line = Text.dotted (chain.mapPath (Text.slashed c))) ∧
      c ∈ readLines m.stripComments content ∧
      (present = [] ∨ m.entries.lookup (target chain path) = some present) ∧
      (m.collect chain path content).entries.lookup (target chain path) =
        some (present ++ contribution m.stripComments chain content) ∧
      ∀ k : Nat, (readLines m.stripComments content)[k]? = some c →
        (contribution m.stripComments chain content)[k]? = some line := by
  have plain : '/' ∉ c := named.without '/' (by decide) (by decide)
  have code : '#' ∉ c := named.without '#' (by decide) (by decide)
  have entry := named.class_name.map_class_path chain [] (.inl rfl)
  obtain ⟨present, known, found⟩ := ServiceEntries.lookup_extend (target chain path)
    (contribution m.stripComments chain content) m.entries
  refine ⟨entry, _, present, rfl, fun code none => ServiceLine.move_stays _ code _ none, ?_, known, found, ?_⟩
  · exact read_lines_listed m.stripComments content c named listed
  · intro k line
    rw [contribution_line m.stripComments chain content k c line,
      chain.lines_move_on coherent c plain code unwrapped]

def antlrMovedTwice : Chain :=
  [Relocation.unfiltered "org.antlr".toList (some "org.shaded.antlr".toList),
    Relocation.unfiltered "org.shaded".toList (some "com.acme".toList)]

theorem antlr_moved_twice_coherent : ∀ r ∈ antlrMovedTwice, r.Coherent :=
  List.forall_mem_cons.mpr ⟨Relocation.unfiltered_coherent _ _,
    List.forall_mem_singleton.mpr (Relocation.unfiltered_coherent _ _)⟩

theorem antlr_name_dotted : DottedName "org.antlr.Impl".toList :=
  ⟨["org".toList, "antlr".toList, "Impl".toList], by decide, by decide +kernel, by decide +kernel⟩

-- The entry of the class is moved once, and its line by the second rule as well.
theorem antlr_line_moves_on :
    (Chain.splitWrapper (Text.slashed "org.antlr.Impl".toList)).1 = [] ∧
    antlrMovedTwice.mapClassPath (Text.slashed "org.antlr.Impl".toList ++ classSuffix) =
      "org/shaded/antlr/Impl".toList ++ classSuffix ∧
    (contribution true antlrMovedTwice (Text.utf8 "org.antlr.Impl".toList))[0]? =
      some (ServiceLine.move "org.shaded.antlr.Impl".toList
        (Relocation.unfiltered "org.shaded".toList (some "com.acme".toList))) := by
  have unwrapped : (Chain.splitWrapper (Text.slashed "org.antlr.Impl".toList)).1 = [] := by decide +kernel
  have stem : antlrMovedTwice.mapPath (Text.slashed "org.antlr.Impl".toList) =
      "org/shaded/antlr/Impl".toList := by decide +kernel
  obtain ⟨entry, line, _, moved, _, _, _, _, each⟩ :=
    lines_follow_classes antlrMovedTwice antlr_moved_twice_coherent _ antlr_name_dotted unwrapped (start true)
      "META-INF/services/org.antlr.Tool".toList (Text.utf8 "org.antlr.Impl".toList) (by decide +kernel)
  rw [stem] at entry moved
  have first : line = ServiceLine.move "org.shaded.antlr.Impl".toList
      (Relocation.unfiltered "org.shaded".toList (some "com.acme".toList)) := moved
  exact ⟨unwrapped, entry, first ▸ each 0 (by decide +kernel)⟩

def javaMoved : Chain := [Relocation.unfiltered "java".toList (some "shaded".toList)]

-- The second rule moves the line of a class on whose entry stays where the first rule has put it, and
-- a rule moves the line of a class of the platform.
theorem lines_leave_their_classes :
    (contribution false antlrMovedTwice (Text.utf8 "org.antlr.Impl".toList) = ["com.acme.antlr.Impl".toList] ∧
      antlrMovedTwice.mapClassPath "org/antlr/Impl.class".toList = "org/shaded/antlr/Impl.class".toList ∧
      Text.dotted (antlrMovedTwice.mapPath "org/antlr/Impl".toList) ≠ "com.acme.antlr.Impl".toList) ∧
    contribution false javaMoved (Text.utf8 "java.Impl".toList) = ["shaded.Impl".toList] ∧
      javaMoved.mapClassPath "java/Impl.class".toList = "java/Impl.class".toList ∧
      Text.dotted (javaMoved.mapPath "java/Impl".toList) ≠ "shaded.Impl".toList := by
  decide +kernel

end ServiceMerger

end Shading
