import Mathlib.Data.List.Forall2
import Shading.Proofs.Relocation.Eligibility
import Shading.Proofs.Text.Blanks
import Shading.Resource.Services

set_option autoImplicit false

namespace Shading

namespace Relocation

-- Pattern and target are words that cannot be taken for a part of a comment.
structure Solid (r : Relocation) : Prop where
  coherent : r.Coherent
  filledPattern : r.pattern ≠ []
  unblankedPattern : Text.Unblanked r.pattern
  filledTarget : r.target ≠ []
  unblankedTarget : Text.Unblanked r.target
  unmarkedTarget : '#' ∉ r.target

variable {r : Relocation}

namespace Solid

theorem opening (solid : r.Solid) (name : Text) (applies : r.appliesToClass name = true) :
    ∃ c, name.head? = some c ∧ Text.isBlank c = false := by
  obtain ⟨lead, rest, short, whole⟩ := solid.coherent.class_opens name applies
  obtain ⟨c, more, pattern⟩ := List.exists_cons_of_ne_nil solid.filledPattern
  cases short with
  | inl nothing =>
      have unblanked := solid.unblankedPattern c (pattern ▸ List.mem_cons_self)
      exact ⟨c, by rw [whole, nothing, pattern]; rfl, unblanked⟩
  | inr dot => exact ⟨'.', by rw [whole, dot]; rfl, by decide⟩

theorem missed_behind_blank (solid : r.Solid) (name : Text) (c : Char) (first : name.head? = some c)
    (blank : Text.isBlank c = true) : r.appliesToClass name = false := by
  rw [Bool.eq_false_iff]
  intro applies
  obtain ⟨d, first', unblanked⟩ := solid.opening name applies
  rw [first, Option.some.injEq] at first'
  rw [first', unblanked] at blank
  contradiction

theorem missed_nil (solid : r.Solid) : r.appliesToClass [] = false := by
  rw [Bool.eq_false_iff]
  intro applies
  obtain ⟨c, first, _⟩ := solid.opening [] applies
  cases first

theorem rename_nil (solid : r.Solid) : r.renameClass [] = [] := by
  rw [renameClass, solid.missed_nil]
  rfl

theorem rename_blank (solid : r.Solid) (name : Text) (blank : Text.Blank name) : r.renameClass name = name := by
  cases name with
  | nil => exact solid.rename_nil
  | cons c rest =>
      rw [renameClass, solid.missed_behind_blank _ c rfl (blank c List.mem_cons_self)]
      rfl

theorem rename_unmarked (solid : r.Solid) (name : Text) (plain : '#' ∉ name) : '#' ∉ r.renameClass name := by
  unfold renameClass
  split
  · intro member
    cases Text.mem_replace_first _ _ _ _ member with
    | inl inside => exact solid.unmarkedTarget inside
    | inr outside => exact plain outside
  · exact plain

theorem rename_trimmed (solid : r.Solid) (name : Text) (trimmed : Text.trim name = name) :
    Text.trim (r.renameClass name) = r.renameClass name := by
  unfold renameClass
  split
  · exact Text.replaced_trimmed _ _ name solid.filledTarget solid.unblankedTarget trimmed
  · exact trimmed

theorem move_trim (solid : r.Solid) (name : Text) : Text.trim (r.moveClass name) = r.moveClass (Text.trim name) :=
  Text.trim_replace_first solid.filledPattern solid.unblankedPattern _ name solid.filledTarget solid.unblankedTarget

theorem move_nil_iff (solid : r.Solid) (name : Text) : r.moveClass name = [] ↔ name = [] := by
  unfold moveClass
  by_cases within : r.pattern <:+: name
  · obtain ⟨front, back, whole, moved⟩ := Text.replace_first_within _ name within
    rw [moved, whole]
    simp [solid.filledPattern, solid.filledTarget]
  · rw [Text.replace_first_missing _ _ _ within]

-- Blanks matter to a rule through what it is asked, not through what it does.
theorem trim_rename_iff (solid : r.Solid) (name : Text) :
    Text.trim (r.renameClass name) = r.renameClass (Text.trim name) ↔
      r.target = r.pattern ∨ r.appliesToClass name = r.appliesToClass (Text.trim name) := by
  unfold renameClass
  cases whole : r.appliesToClass name with
  | true =>
      cases trimmed : r.appliesToClass (Text.trim name) with
      | true => simp [solid.move_trim name]
      | false =>
          have within := (Text.infix_trim_iff solid.filledPattern solid.unblankedPattern name).mpr
            (solid.coherent.pattern_within_class name whole)
          simpa [solid.move_trim name] using r.move_class_same_iff _ within
  | false =>
      cases trimmed : r.appliesToClass (Text.trim name) with
      | true =>
          have within := solid.coherent.pattern_within_class _ trimmed
          simpa [eq_comm] using r.move_class_same_iff _ within
      | false => simp

theorem applies_before_blanks (solid : r.Solid) (free : r.Unfiltered) (name : Text) {back : Text}
    (blank : Text.Blank back) : r.appliesToClass (name ++ back) = r.appliesToClass name := by
  have absent (c : Char) (filled : Text.isBlank c = false) : c ∉ back := by
    intro member
    rw [blank c member] at filled
    contradiction
  have same : Text.slashed back = back := Text.exchange_absent '.' '/' back (absent '.' (by decide))
  have apart : back.head? ≠ some '/' := fun first => absent '/' (by decide) (List.mem_of_mem_head? first)
  have unblanked : Text.Unblanked r.pathPattern := by
    rw [solid.coherent.pattern]
    intro c member
    obtain ⟨d, inside, rfl⟩ := List.mem_map.mp member
    split
    · decide
    · exact solid.unblankedPattern d inside
  have undotted := Text.dot_not_mem_slashed (name ++ back)
  rw [Bool.eq_iff_iff, applies_to_class_iff, applies_to_class_iff, free.applies_iff _ undotted,
    free.applies_iff _ (Text.dot_not_mem_slashed name)]
  rw [Text.slashed_append, same] at undotted ⊢
  rw [relative_stem_append _ _ undotted apart, Text.prefix_before_blanks unblanked _ blank, List.mem_append]
  simp [absent '/' (by decide)]

theorem applies_trim_iff (solid : r.Solid) (free : r.Unfiltered) (line : Text) :
    r.appliesToClass line = r.appliesToClass (Text.trim line) ↔
      (r.appliesToClass (Text.trim line) = true → ∀ c, line.head? = some c → Text.isBlank c = false) := by
  constructor
  · intro alike applies c first
    by_contra blank
    rw [← alike, solid.missed_behind_blank line c first (by simpa using blank)] at applies
    contradiction
  · intro opening
    obtain ⟨front, back, blank, blank', whole⟩ := Text.trim_split line
    cases front with
    | nil =>
        have same := solid.applies_before_blanks free (Text.trim line) blank'
        rw [List.nil_append] at whole
        rwa [← whole] at same
    | cons c more =>
        have first : line.head? = some c := congrArg List.head? whole
        have blankFirst := blank c List.mem_cons_self
        have missed : r.appliesToClass (Text.trim line) = false := by
          rw [Bool.eq_false_iff]
          intro applies
          rw [opening applies c first] at blankFirst
          contradiction
        rw [missed, solid.missed_behind_blank line c first blankFirst]

theorem rename_not_blank (solid : r.Solid) (name : Text) (filled : ¬ Text.Blank name) :
    ¬ Text.Blank (r.renameClass name) := by
  unfold renameClass
  split
  · rename_i applies
    obtain ⟨front, back, _, moved⟩ :=
      Text.replace_first_within _ name (solid.coherent.pattern_within_class name applies)
    intro blank
    rw [moveClass, moved] at blank
    refine solid.filledTarget (Text.empty_of_blank (fun c member => ?_) solid.unblankedTarget)
    exact blank c (List.mem_append_left back (List.mem_append_right front member))
  · exact filled

end Solid

end Relocation

namespace Chain

theorem rename_blank (chain : Chain) (solid : ∀ r ∈ chain, r.Solid) (name : Text) (blank : Text.Blank name) :
    chain.renameClass name = name := by
  refine chain.rename_kept (fun moved => moved = name) ?_ name rfl
  rintro r listed _ rfl
  exact (solid r listed).rename_blank _ blank

end Chain

namespace ServiceLine

-- What a line declares. It is empty where the line is blank or only a comment.
def provider (line : Text) : Text := Text.trim (line.takeWhile (· != '#'))

theorem provider_code (line : Text) (code : '#' ∉ line) : provider line = Text.trim line := by
  rw [provider, List.takeWhile_eq_self_iff.mpr (Text.differs_of_not_mem '#' line code)]

theorem cut_code (line : Text) (code : '#' ∉ line) : Text.cutAt? '#' line = none := by
  cases cut : Text.cutAt? '#' line with
  | none => rfl
  | some parts =>
      obtain ⟨whole, _⟩ := (Text.cut_at_some '#' line parts.1 parts.2).mp cut
      exact absurd (whole ▸ List.mem_append_right _ List.mem_cons_self) code

variable {r : Relocation}

theorem move_code (line : Text) (code : '#' ∉ line) (r : Relocation) : move line r = r.renameClass line := by
  unfold move
  rw [cut_code line code]
  rfl

theorem provider_move_code (solid : r.Solid) (line : Text) (code : '#' ∉ line) :
    provider (move line r) = Text.trim (r.renameClass line) := by
  rw [move_code line code, provider_code _ (solid.rename_unmarked line code)]

theorem move_all_code (chain : Chain) (solid : ∀ r ∈ chain, r.Solid) (line : Text) (code : '#' ∉ line) :
    chain.foldl move line = chain.renameClass line := by
  induction chain generalizing line with
  | nil => rfl
  | cons r rest ih =>
      obtain ⟨first, others⟩ := List.forall_mem_cons.mp solid
      rw [List.foldl_cons, move_code line code]
      exact ih others _ (first.rename_unmarked line code)

/-- A line with a comment, in front of which it declares `x`. -/
def Commented (x line : Text) : Prop :=
  ∃ code comment, line = code ++ '#' :: comment ∧ '#' ∉ code ∧ Text.trim code = x

theorem commented_of_mark (line : Text) (mark : '#' ∈ line) : ∃ x, Commented x line := by
  obtain ⟨code, comment, whole, plain⟩ := List.eq_append_cons_of_mem mark
  exact ⟨_, code, comment, whole, plain, rfl⟩

variable {x line : Text}

theorem Commented.declares (commented : Commented x line) : provider line = x := by
  obtain ⟨code, comment, rfl, plain, trimmed⟩ := commented
  rw [provider, List.takeWhile_append_of_pos (Text.differs_of_not_mem '#' code plain),
    List.takeWhile_cons_of_neg (by simp), List.append_nil, trimmed]

theorem Commented.trimmed (commented : Commented x line) : Text.trim x = x := by
  obtain ⟨code, _, _, _, rfl⟩ := commented
  exact Text.trim_trim code

theorem Commented.unmarked (commented : Commented x line) : '#' ∉ x := by
  obtain ⟨code, _, _, plain, rfl⟩ := commented
  exact fun member => plain (Text.mem_trim code '#' member)

theorem move_commented (solid : r.Solid) (code comment : Text) (plain : '#' ∉ code) :
    move (code ++ '#' :: comment) r =
      if r.appliesToClass (Text.trim code) then r.moveClass (Text.trim code) ++ "  # ".toList ++ Text.trim comment
      else code ++ '#' :: comment := by
  have cut := (Text.cut_at_some '#' _ code comment).mpr ⟨rfl, plain⟩
  unfold move
  rw [cut]
  cases code with
  | nil =>
      have missed : r.appliesToClass (Text.trim []) = false := solid.missed_nil
      rw [missed]
      rfl
  | cons c more => rfl

theorem Commented.move (solid : r.Solid) (commented : Commented x line) :
    Commented (r.renameClass x) (move line r) := by
  have trimmed := solid.rename_trimmed x commented.trimmed
  have unmarked := solid.rename_unmarked x commented.unmarked
  obtain ⟨code, comment, rfl, plain, rfl⟩ := commented
  rw [move_commented solid code comment plain]
  unfold Relocation.renameClass at trimmed unmarked ⊢
  by_cases applies : r.appliesToClass (Text.trim code) = true
  · rw [if_pos applies] at trimmed unmarked ⊢
    rw [if_pos applies]
    have spaces : Text.Blank [' ', ' '] := by decide
    refine ⟨r.moveClass (Text.trim code) ++ [' ', ' '], ' ' :: Text.trim comment, ?_, ?_, ?_⟩
    · simp
    · simpa using unmarked
    · rw [Text.trim_before spaces, trimmed]
  · rw [if_neg applies, if_neg applies]
    exact ⟨code, comment, rfl, plain, rfl⟩

theorem Commented.moveAll (chain : Chain) (solid : ∀ r ∈ chain, r.Solid) (commented : Commented x line) :
    Commented (chain.renameClass x) (chain.foldl ServiceLine.move line) := by
  -- the next rule finds the provider as the rules before it have left it
  induction chain generalizing x line with
  | nil => exact commented
  | cons r rest ih =>
      obtain ⟨first, others⟩ := List.forall_mem_cons.mp solid
      exact ih others (commented.move first)

theorem provider_moved (solid : r.Solid) (line : Text) :
    provider (move line r) = provider line ∨ provider (move line r) = r.moveClass (provider line) := by
  by_cases mark : '#' ∈ line
  · obtain ⟨x, commented⟩ := commented_of_mark line mark
    rw [(commented.move solid).declares, commented.declares, Relocation.renameClass]
    split
    · exact .inr rfl
    · exact .inl rfl
  · rw [provider_move_code solid line mark, provider_code line mark, Relocation.renameClass]
    split
    · exact .inr (solid.move_trim line)
    · exact .inl rfl

theorem provider_moved_nil_iff (solid : r.Solid) (line : Text) : provider (move line r) = [] ↔ provider line = [] := by
  cases provider_moved solid line with
  | inl same => rw [same]
  | inr moved => rw [moved, solid.move_nil_iff]

theorem provider_renamed_iff (solid : r.Solid) (line : Text) :
    provider (move line r) = r.renameClass (provider line) ↔ r.target = r.pattern ∨
      ('#' ∉ line → r.appliesToClass line = r.appliesToClass (Text.trim line)) := by
  by_cases mark : '#' ∈ line
  · obtain ⟨x, commented⟩ := commented_of_mark line mark
    rw [(commented.move solid).declares, commented.declares]
    exact iff_of_true rfl (.inr fun plain => absurd mark plain)
  · rw [provider_move_code solid line mark, provider_code line mark, solid.trim_rename_iff]
    exact or_congr_right ⟨fun alike _ => alike, fun alike => alike mark⟩

theorem strip_code (line : Text) (code : '#' ∉ line) : strip line = line := by
  unfold strip
  rw [cut_code line code]

theorem idle_of_blank (line : Text) (blank : Text.Blank line) : isIdle line = true := by
  unfold isIdle
  rw [(Text.trim_nil_iff line).mpr blank]
  rfl

theorem blank_of_idle (line : Text) (code : '#' ∉ line) (idle : isIdle line = true) : Text.Blank line := by
  rw [← Text.trim_nil_iff]
  cases trimmed : Text.trim line with
  | nil => rfl
  | cons c rest =>
      have other : c ≠ '#' := by
        rintro rfl
        exact code (Text.mem_trim line '#' (trimmed ▸ List.mem_cons_self))
      unfold isIdle at idle
      rw [trimmed] at idle
      simp [Text.startsWith, List.isPrefixOf, other.symm] at idle

theorem idle_comment (comment : Text) : isIdle ('#' :: comment) = true := by
  obtain ⟨tail, trimmed⟩ := Text.trim_opening '#' comment (by decide)
  unfold isIdle
  rw [trimmed]
  rfl

theorem strip_cases (line : Text) :
    strip line = line ∧ ('#' ∉ line ∨ ∃ comment, line = '#' :: comment) ∨ Commented (strip line) line := by
  by_cases mark : '#' ∈ line
  · obtain ⟨code, comment, rfl, plain⟩ := List.eq_append_cons_of_mem mark
    have cut := (Text.cut_at_some '#' _ code comment).mpr ⟨rfl, plain⟩
    unfold strip
    rw [cut]
    cases code with
    | nil => exact .inl ⟨rfl, .inr ⟨comment, rfl⟩⟩
    | cons c more => exact .inr ⟨c :: more, comment, rfl, plain, rfl⟩
  · exact .inl ⟨strip_code line mark, .inl mark⟩

theorem strip_busy (line : Text) (busy : isIdle (strip line) = false) :
    '#' ∉ strip line ∧ ¬ Text.Blank (strip line) ∧ (strip line = line ∨ Commented (strip line) line) := by
  have filled : ¬ Text.Blank (strip line) := fun blank => by
    rw [idle_of_blank _ blank] at busy
    contradiction
  rcases strip_cases line with ⟨same, plain | ⟨comment, rfl⟩⟩ | commented
  · exact ⟨same.symm ▸ plain, filled, .inl same⟩
  · rw [same, idle_comment] at busy
    contradiction
  · exact ⟨commented.unmarked, filled, .inr commented⟩

theorem strip_idle (line : Text) (idle : isIdle (strip line) = true) :
    '#' ∉ line ∧ Text.Blank line ∨ Commented [] line := by
  rcases strip_cases line with ⟨same, plain | ⟨comment, rfl⟩⟩ | commented
  · rw [same] at idle
    exact .inl ⟨plain, blank_of_idle line plain idle⟩
  · exact .inr ⟨[], comment, rfl, List.not_mem_nil, rfl⟩
  · have nothing := (Text.trim_nil_iff _).mpr (blank_of_idle _ commented.unmarked idle)
    rw [commented.trimmed] at nothing
    rw [nothing] at commented
    exact .inr commented

variable {chain : Chain}

theorem move_all_idle (solid : ∀ r ∈ chain, r.Solid) (line : Text) (idle : isIdle (strip line) = true) :
    provider (chain.foldl move line) = [] := by
  cases strip_idle line idle with
  | inl plain =>
      rw [move_all_code chain solid line plain.1, chain.rename_blank solid line plain.2, provider_code line plain.1,
        (Text.trim_nil_iff line).mpr plain.2]
  | inr commented =>
      rw [(commented.moveAll chain solid).declares]
      exact chain.rename_blank solid [] Text.blank_nil

theorem move_all_stripped (solid : ∀ r ∈ chain, r.Solid) (line : Text) (busy : isIdle (strip line) = false) :
    provider (chain.foldl move (strip line)) = provider (chain.foldl move line) := by
  obtain ⟨code, _, same | commented⟩ := strip_busy line busy
  · rw [same]
  · have unmarked := chain.rename_kept _ (fun r listed => (solid r listed).rename_unmarked) _ code
    have trimmed := chain.rename_kept _ (fun r listed => (solid r listed).rename_trimmed) _ commented.trimmed
    rw [(commented.moveAll chain solid).declares, move_all_code chain solid _ code, provider_code _ unmarked, trimmed]

end ServiceLine

namespace ServiceMerger

def providers (lines : List Text) : List Text :=
  (lines.map ServiceLine.provider).filter fun x => !x.isEmpty

theorem providers_skip (line : Text) (rest : List Text) (nothing : ServiceLine.provider line = []) :
    providers (line :: rest) = providers rest := by
  unfold providers
  rw [List.map_cons, nothing]
  rfl

theorem providers_alike (line line' : Text) (rest rest' : List Text)
    (same : ServiceLine.provider line = ServiceLine.provider line') (others : providers rest = providers rest') :
    providers (line :: rest) = providers (line' :: rest') := by
  unfold providers at others ⊢
  rw [List.map_cons, List.map_cons, List.filter_cons, List.filter_cons, same, others]

theorem providers_declared (lines : List Text) : providers lines =
    (lines.filter fun line => !(ServiceLine.provider line).isEmpty).map ServiceLine.provider := List.filter_map

theorem providers_in_place (step : Text → Text) (lines : List Text)
    (kept : ∀ line, ServiceLine.provider (step line) = [] ↔ ServiceLine.provider line = []) :
    providers (lines.map step) = (lines.filter fun line => !(ServiceLine.provider line).isEmpty).map fun line =>
      ServiceLine.provider (step line) := by
  rw [providers_declared, List.filter_map, List.map_map]
  congr 1
  refine List.filter_congr fun line _ => ?_
  rw [Bool.eq_iff_iff]
  simp [kept]

theorem providers_map_iff (step rename : Text → Text) (lines : List Text)
    (kept : ∀ line, ServiceLine.provider (step line) = [] ↔ ServiceLine.provider line = [])
    (nothing : rename [] = []) :
    providers (lines.map step) = (providers lines).map rename ↔
      ∀ line ∈ lines, ServiceLine.provider (step line) = rename (ServiceLine.provider line) := by
  rw [providers_in_place step lines kept, providers_declared, List.map_map, List.map_inj_left]
  constructor
  · intro each line member
    cases declared : ServiceLine.provider line with
    | nil => rw [(kept line).mpr declared, nothing]
    | cons c rest =>
        rw [← declared]
        exact each line (List.mem_filter.mpr ⟨member, by rw [declared]; rfl⟩)
  · intro each line member
    exact each line (List.mem_of_mem_filter member)

variable {chain : Chain}

theorem providers_stripped (solid : ∀ r ∈ chain, r.Solid) (content : Bytes) :
    providers (contribution true chain content) = providers (contribution false chain content) := by
  show providers ((((Text.lines (Text.Utf8.decodeLossy content)).map ServiceLine.strip).filter
    fun line => !ServiceLine.isIdle line).map fun line => chain.foldl ServiceLine.move line) =
    providers ((Text.lines (Text.Utf8.decodeLossy content)).map fun line => chain.foldl ServiceLine.move line)
  induction Text.lines (Text.Utf8.decodeLossy content) with
  | nil => rfl
  | cons line rest ih =>
      rw [List.map_cons, List.map_cons, List.filter_cons]
      cases idle : ServiceLine.isIdle (ServiceLine.strip line) with
      | true =>
          rw [providers_skip _ _ (ServiceLine.move_all_idle solid line idle)]
          exact ih
      | false => exact providers_alike _ _ _ _ (ServiceLine.move_all_stripped solid line idle) ih

theorem providers_contribution (solid : ∀ r ∈ chain, r.Solid) (stripComments : Bool) (content : Bytes) :
    providers (contribution stripComments chain content) =
      providers ((Text.lines (Text.Utf8.decodeLossy content)).map fun line => chain.foldl ServiceLine.move line) := by
  cases stripComments with
  | true => exact providers_stripped solid content
  | false => rfl

-- Without comments only lines with a provider are left, and these keep one.
theorem stripped_lines_declare (solid : ∀ r ∈ chain, r.Solid) (content : Bytes) :
    ∀ line ∈ contribution true chain content, Text.trim line ≠ [] ∧ '#' ∉ line := by
  intro line member
  obtain ⟨read, listed, rfl⟩ := List.mem_map.mp member
  obtain ⟨stripped, busy⟩ := List.mem_filter.mp listed
  obtain ⟨whole, _, rfl⟩ := List.mem_map.mp stripped
  obtain ⟨unmarked, filled, _⟩ := ServiceLine.strip_busy whole (by simpa using busy)
  rw [ServiceLine.move_all_code chain solid _ unmarked, ne_eq, Text.trim_nil_iff]
  exact ⟨chain.rename_kept _ (fun r listed => (solid r listed).rename_not_blank) _ filled,
    chain.rename_kept _ (fun r listed => (solid r listed).rename_unmarked) _ unmarked⟩

theorem stripping_keeps_providers (solid : ∀ r ∈ chain, r.Solid) (m : ServiceMerger) (path : Text) (content : Bytes) :
    let stripped := contribution true chain content
    let whole := contribution false chain content
    (({ m with stripComments := true }).collect chain path content).entries =
      ServiceEntries.extend (target chain path) stripped m.entries ∧
    (({ m with stripComments := false }).collect chain path content).entries =
      ServiceEntries.extend (target chain path) whole m.entries ∧
    providers stripped = providers whole ∧
    ∀ line ∈ stripped, Text.trim line ≠ [] ∧ '#' ∉ line :=
  ⟨rfl, rfl, providers_stripped solid content, stripped_lines_declare solid content⟩

def wordsMoved : Relocation := Relocation.unfiltered "org.words".toList (some "com.shop.words".toList)

theorem words_moved_solid : wordsMoved.Solid :=
  ⟨Relocation.unfiltered_coherent _ _, by decide, by decide, by decide, by decide, by decide⟩

def wordsMovedTwice : Chain := [wordsMoved, Relocation.unfiltered "com.shop".toList (some "net.shop".toList)]

theorem words_moved_twice_solid : ∀ r ∈ wordsMovedTwice, r.Solid :=
  List.forall_mem_cons.mpr ⟨words_moved_solid, List.forall_mem_singleton.mpr
    ⟨Relocation.unfiltered_coherent _ _, by decide, by decide, by decide, by decide, by decide⟩⟩

def commentedWords : Bytes := Text.utf8 "# all\n\n org.words.A #first".toList

theorem words_declared_alike :
    (∀ r ∈ wordsMovedTwice, r.Solid) ∧
    contribution true wordsMovedTwice commentedWords = ["net.shop.words.A".toList] ∧
    contribution false wordsMovedTwice commentedWords = ["# all".toList, [], "net.shop.words.A  # first".toList] ∧
    providers (contribution true wordsMovedTwice commentedWords) =
      providers (contribution false wordsMovedTwice commentedWords) := by
  obtain ⟨_, _, alike, _⟩ := stripping_keeps_providers words_moved_twice_solid (start true)
    "META-INF/services/org.Tool".toList commentedWords
  exact ⟨words_moved_twice_solid, by decide +kernel, by decide +kernel, alike⟩

variable {r : Relocation}

theorem providers_follow_rule (solid : r.Solid) (m : ServiceMerger) (path : Text) (content : Bytes) :
    let lines := Text.lines (Text.Utf8.decodeLossy content)
    let moved := contribution m.stripComments [r] content
    (m.collect [r] path content).entries = ServiceEntries.extend (target [r] path) moved m.entries ∧
    List.Forall₂ (fun x y => y = x ∨ y = r.moveClass x) (providers lines) (providers moved) ∧
    (providers moved = (providers lines).map r.renameClass ↔ r.target = r.pattern ∨
      ∀ line ∈ lines, '#' ∉ line → r.appliesToClass line = r.appliesToClass (Text.trim line)) ∧
    (r.Unfiltered → ∀ line, r.appliesToClass line = r.appliesToClass (Text.trim line) ↔
      (r.appliesToClass (Text.trim line) = true → ∀ c, line.head? = some c → Text.isBlank c = false)) := by
  intro lines moved
  have whole : providers moved = providers (lines.map fun line => ServiceLine.move line r) :=
    providers_contribution (List.forall_mem_singleton.mpr solid) m.stripComments content
  have kept (line : Text) := ServiceLine.provider_moved_nil_iff solid line
  refine ⟨rfl, ?_, ?_, fun free => solid.applies_trim_iff free⟩
  · rw [whole, providers_in_place _ lines kept, providers_declared, List.forall₂_map_left_iff,
      List.forall₂_map_right_iff, List.forall₂_same]
    exact fun line _ => ServiceLine.provider_moved solid line
  · rw [whole, providers_map_iff _ _ lines kept solid.rename_nil]
    simp only [ServiceLine.provider_renamed_iff solid, forall_or_left]

def shopDescriptor : Bytes := Text.utf8 "  org.words.A # first\n \norg.other.B\n".toList

theorem words_providers_follow :
    wordsMoved.Solid ∧ providers (contribution true [wordsMoved] shopDescriptor) =
      ["com.shop.words.A".toList, "org.other.B".toList] := by
  obtain ⟨_, _, same, _⟩ := providers_follow_rule words_moved_solid (start true)
    "META-INF/services/org.Tool".toList shopDescriptor
  exact ⟨words_moved_solid, (same.mpr (.inr (by decide +kernel))).trans (by decide +kernel)⟩

def indentedWords : Text := "  org.words.A".toList

-- Blanks in front of a provider keep the rule from it, with and without the comments, unless the line has one.
theorem indented_provider_missed :
    wordsMoved.Solid ∧ Text.trim indentedWords = "org.words.A".toList ∧
    wordsMoved.appliesToClass "org.words.A".toList = true ∧
    (∀ stripComments, contribution stripComments [wordsMoved] (Text.utf8 indentedWords) = [indentedWords]) ∧
    contribution false [wordsMoved] (Text.utf8 (indentedWords ++ " # first".toList)) =
      ["com.shop.words.A  # first".toList] ∧
    ∀ stripComments, providers (contribution stripComments [wordsMoved] (Text.utf8 indentedWords)) ≠
      (providers [indentedWords]).map wordsMoved.renameClass := by
  refine ⟨words_moved_solid, ?_⟩
  decide +kernel

end ServiceMerger

end Shading
