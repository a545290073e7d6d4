import Mathlib.Data.List.Induction
import Shading.Proofs.EntryPath
import Shading.Proofs.Resource.ServiceEntries
import Shading.Proofs.Text.Blanks

set_option autoImplicit false

namespace Shading

structure Descriptor where
  chain : Chain
  path : Text
  content : Bytes

namespace Descriptor

def target (d : Descriptor) : Text := ServiceMerger.target d.chain d.path

def lines (stripComments : Bool) (d : Descriptor) : List Text :=
  (ServiceMerger.readLines stripComments d.content).map fun line => d.chain.foldl ServiceLine.move line

-- What descriptors bring to a path, one after the other.
def linesAt (stripComments : Bool) (ds : List Descriptor) (path : Text) : List Text :=
  (ds.filter fun d => d.target = path).flatMap (lines stripComments)

theorem lines_at_append (stripComments : Bool) (ds others : List Descriptor) (path : Text) :
    linesAt stripComments (ds ++ others) path =
      linesAt stripComments ds path ++ linesAt stripComments others path := by
  unfold linesAt
  rw [List.filter_append, List.flatMap_append]

theorem lines_at_one (stripComments : Bool) (d : Descriptor) (path : Text) :
    linesAt stripComments [d] path = if d.target = path then d.lines stripComments else [] := by
  unfold linesAt
  by_cases here : d.target = path
  · rw [if_pos here, List.filter_cons_of_pos (by simpa using here)]
    simp
  · rw [if_neg here, List.filter_cons_of_neg (by simpa using here)]
    rfl

theorem lines_at_nowhere (stripComments : Bool) (ds : List Descriptor) (path : Text)
    (nowhere : path ∉ ds.map target) : linesAt stripComments ds path = [] := by
  have none : ds.filter (fun d => d.target = path) = [] :=
    List.filter_eq_nil_iff.mpr fun d member same =>
      nowhere (List.mem_map.mpr ⟨d, member, of_decide_eq_true same⟩)
  rw [linesAt, none, List.flatMap_nil]

theorem lines_at_exchanged (stripComments : Bool) (before after : List Descriptor) (a b : Descriptor)
    (apart : a.target ≠ b.target) (path : Text) :
    linesAt stripComments (before ++ b :: a :: after) path =
      linesAt stripComments (before ++ a :: b :: after) path := by
  have pair : linesAt stripComments [b, a] path = linesAt stripComments [a, b] path := by
    have each (c d : Descriptor) : linesAt stripComments [c, d] path =
        linesAt stripComments [c] path ++ linesAt stripComments [d] path :=
      lines_at_append stripComments [c] [d] path
    rw [each, each, lines_at_one, lines_at_one]
    by_cases first : a.target = path
    · have other : b.target ≠ path := fun same => apart (first.trans same.symm)
      rw [if_neg other, List.nil_append, List.append_nil]
    · rw [if_neg first, List.nil_append, List.append_nil]
  have split (c d : Descriptor) : before ++ c :: d :: after = before ++ ([c, d] ++ after) := rfl
  rw [split, split, lines_at_append, lines_at_append, lines_at_append stripComments before,
    lines_at_append stripComments [a, b], pair]

end Descriptor

namespace ServiceMerger

def collectAll (m : ServiceMerger) (ds : List Descriptor) : ServiceMerger :=
  ds.foldl (fun m d => m.collect d.chain d.path d.content) m

structure Collected (stripComments : Bool) (ds : List Descriptor) (entries : ServiceEntries) : Prop where
  ordered : entries.Ordered
  lookup : ∀ path, entries.lookup path = if path ∈ ds.map Descriptor.target then
    some (Descriptor.linesAt stripComments ds path) else none
  all : (entries.flatMap Prod.snd).Perm (ds.flatMap (Descriptor.lines stripComments))

variable {stripComments : Bool} {ds : List Descriptor} {entries : ServiceEntries}

theorem Collected.one_more (collected : Collected stripComments ds entries) (d : Descriptor) :
    Collected stripComments (ds ++ [d])
      (ServiceEntries.extend d.target (d.lines stripComments) entries) where
  ordered := collected.ordered.extend _ _
  lookup := by
    intro path
    rw [Descriptor.lines_at_append, Descriptor.lines_at_one, List.map_append]
    by_cases here : path = d.target
    · have listed : path ∈ ds.map Descriptor.target ++ [d].map Descriptor.target := by simp [here]
      rw [if_pos here.symm, if_pos listed, here, collected.ordered.lookup_extend, collected.lookup]
      by_cases known : d.target ∈ ds.map Descriptor.target
      · rw [if_pos known, Option.getD_some]
      · rw [if_neg known, Option.getD_none, Descriptor.lines_at_nowhere _ _ _ known]
    · have same : (path ∈ ds.map Descriptor.target ++ [d].map Descriptor.target) =
          (path ∈ ds.map Descriptor.target) := by simp [here]
      rw [if_neg (Ne.symm here), List.append_nil, ServiceEntries.lookup_extend_other _ _ _ _ here,
        collected.lookup]
      simp only [same]
  all := by
    rw [List.flatMap_append]
    refine (ServiceEntries.lines_extend _ _ _).trans ?_
    simpa using collected.all.append_right (d.lines stripComments)

theorem collect_all_strips (m : ServiceMerger) (ds : List Descriptor) :
    (m.collectAll ds).stripComments = m.stripComments := by
  induction ds generalizing m with
  | nil => rfl
  | cons d rest ih => exact ih _

theorem collected_all (services : PatternSet) (stripComments : Bool) (ds : List Descriptor) :
    Collected stripComments ds (collectAll ⟨services, stripComments, []⟩ ds).entries := by
  induction ds using List.reverseRecOn with
  | nil => exact ⟨.nil, fun _ => rfl, .nil⟩
  | append_singleton earlier d ih =>
      have step : (collectAll ⟨services, stripComments, []⟩ (earlier ++ [d])).entries =
          ServiceEntries.extend d.target (d.lines stripComments)
            (collectAll ⟨services, stripComments, []⟩ earlier).entries := by
        have strips := collect_all_strips ⟨services, stripComments, []⟩ earlier
        unfold collectAll at strips ⊢
        rw [List.foldl_append, List.foldl_cons, List.foldl_nil, collect, strips]
        rfl
      rw [step]
      exact ih.one_more d

theorem Collected.exchanged {before after : List Descriptor} {a b : Descriptor} {others : ServiceEntries}
    (collected : Collected stripComments (before ++ a :: b :: after) entries)
    (also : Collected stripComments (before ++ b :: a :: after) others)
    (apart : a.target ≠ b.target) : others = entries := by
  refine also.ordered.eq_of_lookup collected.ordered fun path => ?_
  have same : (path ∈ (before ++ b :: a :: after).map Descriptor.target) =
      (path ∈ (before ++ a :: b :: after).map Descriptor.target) := by
    simp only [List.map_append, List.map_cons, List.mem_append, List.mem_cons, or_left_comm]
  rw [also.lookup, collected.lookup, Descriptor.lines_at_exchanged stripComments before after a b apart]
  simp only [same]

end ServiceMerger

namespace Text

theorem mem_close_lines (parts : List Text) (line : Text) (member : line ∈ closeLines parts) :
    ∃ part ∈ parts, line <+: part := by
  induction parts with
  | nil => cases member
  | cons first rest ih =>
      cases rest with
      | nil =>
          unfold closeLines at member
          by_cases empty : first.isEmpty = true
          · rw [if_pos empty] at member
            cases member
          · rw [if_neg empty] at member
            exact ⟨first, List.mem_cons_self, List.mem_singleton.mp member ▸ List.prefix_refl line⟩
      | cons second others =>
          rcases List.mem_cons.mp member with rfl | later
          · refine ⟨first, List.mem_cons_self, ?_⟩
            cases cut : dropEnd? ['\r'] first with
            | none => exact List.prefix_refl first
            | some front => exact ⟨['\r'], ((drop_end_some _ _ _).mp cut).symm⟩
          · obtain ⟨part, listed, start⟩ := ih later
            exact ⟨part, List.mem_cons_of_mem first listed, start⟩

theorem newline_not_mem_lines (s line : Text) (member : line ∈ lines s) : '\n' ∉ line := by
  obtain ⟨part, listed, start⟩ := mem_close_lines _ line member
  exact fun inside => split_plain '\n' s part listed (start.subset inside)

theorem split_join (mark : Char) (parts : List Text) (filled : parts ≠ []) :
    split mark (join [mark] parts) = parts.flatMap (split mark) := by
  induction parts with
  | nil => contradiction
  | cons first rest ih =>
      cases rest with
      | nil => simp [join]
      | cons second others =>
          have cut (tail : Text) : split mark (first ++ mark :: tail) = split mark first ++ split mark tail :=
            List.splitOn_append_cons_self first tail
          unfold join at ih ⊢
          rw [List.intercalate_cons_cons, List.append_assoc, List.singleton_append, cut,
            ih (List.cons_ne_nil second others)]
          rfl

end Text

theorem ServiceLine.newline_not_mem_move (line : Text) (r : Relocation) (plain : '\n' ∉ line)
    (target : '\n' ∉ r.target) : '\n' ∉ move line r := by
  have moved (code : Text) (free : '\n' ∉ code) : '\n' ∉ r.moveClass code := fun member =>
    (Text.mem_replace_first _ _ _ _ member).elim target free
  unfold move
  split
  · exact plain
  · rename_i code comment _ cut
    obtain ⟨whole, _⟩ := (Text.cut_at_some _ _ _ _).mp cut
    have code_free : '\n' ∉ Text.trim code := fun member =>
      plain (whole ▸ List.mem_append_left _ (Text.mem_trim _ _ member))
    have comment_free : '\n' ∉ Text.trim comment := fun member =>
      plain (whole ▸ List.mem_append_right _ (List.mem_cons_of_mem _ (Text.mem_trim _ _ member)))
    dsimp only
    split
    · have between : '\n' ∉ "  # ".toList := by decide
      simp only [List.mem_append, not_or]
      exact ⟨⟨moved _ code_free, between⟩, comment_free⟩
    · exact plain
  · split
    · exact moved line plain
    · exact plain

theorem ServiceMerger.newline_not_mem_read_lines (stripComments : Bool) (content : Bytes) (line : Text)
    (member : line ∈ readLines stripComments content) : '\n' ∉ line := by
  cases stripComments with
  | false => exact Text.newline_not_mem_lines _ line member
  | true =>
      obtain ⟨kept, _⟩ := List.mem_filter.mp member
      obtain ⟨whole, read, rfl⟩ := List.mem_map.mp kept
      have plain := Text.newline_not_mem_lines _ whole read
      unfold ServiceLine.strip
      split
      · rename_i c code comment cut
        obtain ⟨split, _⟩ := (Text.cut_at_some _ _ _ _).mp cut
        exact fun inside => plain (split ▸ List.mem_append_left _ (Text.mem_trim _ _ inside))
      · exact plain

theorem Descriptor.newline_not_mem_lines (stripComments : Bool) (d : Descriptor)
    (targets : ∀ r ∈ d.chain, '\n' ∉ r.target) (line : Text) (member : line ∈ d.lines stripComments) :
    '\n' ∉ line := by
  obtain ⟨kept, read, rfl⟩ := List.mem_map.mp member
  have plain := ServiceMerger.newline_not_mem_read_lines stripComments d.content kept read
  clear read member
  generalize d.chain = rules at targets
  induction rules generalizing kept with
  | nil => exact plain
  | cons r rest ih =>
      obtain ⟨first, others⟩ := List.forall_mem_cons.mp targets
      exact ih _ (ServiceLine.newline_not_mem_move kept r plain first) others

namespace ServiceMerger

-- What has to be written of descriptors, and the entries with their lines that it comes from.
structure Merged (stripComments : Bool) (ds : List Descriptor) (written : List (Text × Bytes))
    (entries : ServiceEntries) : Prop where
  bodies : written = entries.map fun e => (e.1, Text.utf8 (Text.join ['\n'] e.2))
  ordered : entries.Pairwise fun a b => Bytes.Before (Text.utf8 a.1) (Text.utf8 b.1)
  gathered : ∀ path lines, (path, lines) ∈ entries ↔
    lines = Descriptor.linesAt stripComments ds path ∧ lines ≠ []
  each : (entries.flatMap Prod.snd).Perm (ds.flatMap (Descriptor.lines stripComments))
  apart : ∀ e ∈ entries, Text.split '\n' (Text.join ['\n'] e.2) = e.2.flatMap (Text.split '\n')
  whole : (∀ d ∈ ds, ∀ r ∈ d.chain, '\n' ∉ r.target) →
    ∀ e ∈ entries, Text.split '\n' (Text.join ['\n'] e.2) = e.2

theorem lines_of_filled (entries : ServiceEntries) :
    (entries.filter fun e => !e.2.isEmpty).flatMap Prod.snd = entries.flatMap Prod.snd := by
  induction entries with
  | nil => rfl
  | cons first rest ih =>
      obtain ⟨path, lines⟩ := first
      cases lines with
      | nil => exact ih
      | cons line others => exact congrArg ((line :: others) ++ ·) ih

variable {stripComments : Bool} {ds : List Descriptor} {entries : ServiceEntries}

theorem Collected.written (collected : Collected stripComments ds entries) :
    Merged stripComments ds ((entries.filter fun e => !e.2.isEmpty).map fun e =>
      (e.1, Text.utf8 (Text.join ['\n'] e.2))) (entries.filter fun e => !e.2.isEmpty) := by
  have gathered (path : Text) (lines : List Text) :
      (path, lines) ∈ entries.filter (fun e => !e.2.isEmpty) ↔
        lines = Descriptor.linesAt stripComments ds path ∧ lines ≠ [] := by
    rw [List.mem_filter, collected.ordered.mem_iff, collected.lookup]
    by_cases known : path ∈ ds.map Descriptor.target
    · rw [if_pos known, Option.some_inj, eq_comm]
      simp
    · rw [if_neg known, Descriptor.lines_at_nowhere _ _ _ known]
      constructor
      · rintro ⟨found, _⟩
        contradiction
      · rintro ⟨rfl, filled⟩
        contradiction
  have filled (e : Text × List Text) (member : e ∈ entries.filter fun e => !e.2.isEmpty) : e.2 ≠ [] :=
    ((gathered e.1 e.2).mp member).2
  refine ⟨rfl, ?_, gathered, ?_, fun e member => Text.split_join '\n' e.2 (filled e member),
    fun targets e member => ?_⟩
  · exact (collected.ordered.filter _).imp fun earlier => Text.utf8_of_before _ _ earlier
  · rw [lines_of_filled]
    exact collected.all
  · refine List.splitOn_intercalate '\n' (fun line inside => ?_) (filled e member)
    rw [((gathered e.1 e.2).mp member).1] at inside
    obtain ⟨d, chosen, kept⟩ := List.mem_flatMap.mp inside
    exact d.newline_not_mem_lines stripComments (targets d (List.mem_filter.mp chosen).1) line kept

theorem descriptors_merge_in_order (services : PatternSet) (stripComments : Bool) (ds : List Descriptor) :
    (∃ entries, Merged stripComments ds (collectAll ⟨services, stripComments, []⟩ ds).output entries) ∧
    ∀ before a b after, ds = before ++ a :: b :: after → a.target ≠ b.target →
      (collectAll ⟨services, stripComments, []⟩ (before ++ b :: a :: after)).output =
        (collectAll ⟨services, stripComments, []⟩ ds).output := by
  refine ⟨⟨_, (collected_all services stripComments ds).written⟩, ?_⟩
  rintro before a b after rfl apart
  have same := (collected_all services stripComments (before ++ a :: b :: after)).exchanged
    (collected_all services stripComments (before ++ b :: a :: after)) apart
  unfold output
  rw [same]

def oldTool : Descriptor where
  chain := [Relocation.unfiltered "old".toList (some "new".toList)]
  path := "META-INF/services/old.Tool".toList
  content := Text.utf8 "old.First".toList

def newTool : Descriptor := ⟨[], "META-INF/services/new.Tool".toList, Text.utf8 "new.Second\n".toList⟩

def otherTool : Descriptor := ⟨[], "META-INF/services/a.Tool".toList, Text.utf8 "a.Only\n".toList⟩

def toolsWritten : List (Text × Bytes) :=
  [("META-INF/services/a.Tool".toList, Text.utf8 "a.Only".toList),
    ("META-INF/services/new.Tool".toList, Text.utf8 "new.First\nnew.Second".toList)]

-- A service that is renamed meets another one, and the descriptor between them can come first.
theorem renamed_tool_joins_the_other :
    (∃ entries, Merged false [oldTool, otherTool, newTool] toolsWritten entries) ∧
      (collectAll (start false) [otherTool, oldTool, newTool]).output = toolsWritten := by
  obtain ⟨entries, exchanged⟩ :=
    descriptors_merge_in_order (start false).services false [oldTool, otherTool, newTool]
  have written : (collectAll ⟨(start false).services, false, []⟩ [oldTool, otherTool, newTool]).output =
      toolsWritten := by decide +kernel
  rw [written] at entries exchanged
  exact ⟨entries, exchanged [] oldTool otherTool [newTool] rfl (by decide +kernel)⟩

end ServiceMerger

end Shading
