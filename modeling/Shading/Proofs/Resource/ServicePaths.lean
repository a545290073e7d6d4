import Shading.Proofs.Relocation.Eligibility
import Shading.Resource.Services

set_option autoImplicit false

namespace Shading

namespace Text

theorem last_segment_behind (directory name : Text) (plain : '/' ∉ name) :
    lastSegment (directory ++ '/' :: name) = name := by
  have keep : ∀ c ∈ name.reverse, (c != '/') = true :=
    differs_of_not_mem '/' name.reverse fun member => plain (List.mem_reverse.mp member)
  rw [lastSegment, List.reverse_append, List.reverse_cons, List.append_assoc, List.takeWhile_append_of_pos keep,
    List.singleton_append, List.takeWhile_cons_of_neg (by simp), List.append_nil, List.reverse_reverse]

theorem last_slash_unique {directory directory' name name' : Text} (plain : '/' ∉ name) (plain' : '/' ∉ name')
    (same : directory ++ '/' :: name = directory' ++ '/' :: name') : directory = directory' ∧ name = name' := by
  have names := congrArg lastSegment same
  rw [last_segment_behind _ _ plain, last_segment_behind _ _ plain'] at names
  subst names
  exact ⟨List.append_cancel_right same, rfl⟩

end Text

namespace Relocation

def Spares (r : Relocation) (s : Text) : Prop := r.pattern <:+: s → r.target = r.pattern

theorem move_class_self (r : Relocation) (same : r.target = r.pattern) (name : Text) : r.moveClass name = name := by
  by_cases within : r.pattern <:+: name
  · exact (r.move_class_same_iff name within).mpr same
  · exact Text.replace_first_missing _ _ _ within

end Relocation

/-- The path of a descriptor, cut before the name of its service. -/
structure ServicePlace where
  directory : Text
  name : Text

namespace ServicePlace

def path (place : ServicePlace) : Text := place.directory ++ '/' :: place.name

-- The rule is asked about the name, and moves what comes first of the directory and the name.
def move (place : ServicePlace) (r : Relocation) : ServicePlace :=
  if r.appliesToClass place.name then
    if r.pattern <:+: place.directory then { place with directory := r.moveClass place.directory }
    else { place with name := r.moveClass place.name }
  else place

variable {place : ServicePlace} {r : Relocation}

theorem move_plain (coherent : r.Coherent) (plain : '/' ∉ place.name) : '/' ∉ (place.move r).name := by
  unfold move
  split
  · split
    · exact plain
    · exact coherent.move_class_plain place.name plain
  · exact plain

theorem path_move (coherent : r.Coherent) (plain : '/' ∉ place.name) :
    ServiceMerger.movePath place.path r = (place.move r).path := by
  unfold ServiceMerger.movePath move path
  rw [Text.last_segment_behind _ _ plain]
  split
  · split
    · rename_i within
      exact Text.replace_first_append _ _ place.directory ('/' :: place.name) within
    · rename_i missing
      exact Text.replace_first_behind '/' _ _ place.directory place.name coherent.dottedPattern missing
  · rfl

theorem move_spared (spares : r.appliesToClass place.name = true → r.Spares place.directory) :
    place.move r = ⟨place.directory, r.renameClass place.name⟩ := by
  unfold move Relocation.renameClass
  split
  · rename_i applies
    split
    · rename_i within
      have same := spares applies within
      rw [r.move_class_self same, r.move_class_self same]
    · rfl
  · rfl

theorem path_moved_iff (coherent : r.Coherent) (plain : '/' ∉ place.name)
    (applies : r.appliesToClass place.name = true) :
    ServiceMerger.movePath place.path r = place.directory ++ '/' :: r.moveClass place.name ↔
      r.Spares place.directory := by
  rw [path_move coherent plain]
  constructor
  · intro stays within
    have moved : place.move r = { place with directory := r.moveClass place.directory } := by
      rw [move, if_pos applies, if_pos within]
    rw [moved] at stays
    obtain ⟨directory, _⟩ := Text.last_slash_unique plain (coherent.move_class_plain place.name plain) stays
    exact (r.move_class_same_iff _ within).mp directory
  · intro spares
    rw [move_spared fun _ => spares, Relocation.renameClass, if_pos applies]
    rfl

theorem path_displaced (coherent : r.Coherent) (plain : '/' ∉ place.name)
    (applies : r.appliesToClass place.name = true) (exchanges : ¬ r.Spares place.directory) :
    ServiceMerger.movePath place.path r = r.moveClass place.directory ++ '/' :: place.name := by
  have within : r.pattern <:+: place.directory := by
    by_contra missing
    exact exchanges fun within => absurd within missing
  rw [path_move coherent plain, move, if_pos applies, if_pos within]
  rfl

def moveAll (place : ServicePlace) (chain : Chain) : ServicePlace := chain.foldl move place

theorem target_path (chain : Chain) (coherent : ∀ r ∈ chain, r.Coherent) (place : ServicePlace)
    (plain : '/' ∉ place.name) :
    ServiceMerger.target chain place.path = (place.moveAll chain).path ∧ '/' ∉ (place.moveAll chain).name := by
  induction chain generalizing place with
  | nil => exact ⟨rfl, plain⟩
  | cons r rest ih =>
      obtain ⟨first, others⟩ := List.forall_mem_cons.mp coherent
      have later := ih others (place.move r) (move_plain first plain)
      rw [← path_move first plain] at later
      exact later

-- Each rule is asked about what the rules before it have made of the name.
def Spared (place : ServicePlace) (chain : Chain) : Prop :=
  ∀ before r after, chain = before ++ r :: after →
    r.appliesToClass (Chain.renameClass before place.name) = true → r.Spares place.directory

theorem move_all_spared (chain : Chain) (place : ServicePlace) (spared : place.Spared chain) :
    place.moveAll chain = ⟨place.directory, chain.renameClass place.name⟩ := by
  induction chain generalizing place with
  | nil => rfl
  | cons r rest ih =>
      have first : place.move r = ⟨place.directory, r.renameClass place.name⟩ := move_spared (spared [] r rest rfl)
      have others : (place.move r).Spared rest := by
        intro before r' after split applies
        rw [first] at applies ⊢
        exact spared (r :: before) r' after (congrArg (r :: ·) split) applies
      have later := ih (place.move r) others
      rw [first] at later
      rw [moveAll, List.foldl_cons, first]
      exact later

end ServicePlace

namespace ServiceMerger

theorem descriptors_keep_directories (directory name : Text) (plain : '/' ∉ name) :
    (∀ r : Relocation, r.Coherent → r.appliesToClass name = true →
      (movePath (directory ++ '/' :: name) r = directory ++ '/' :: r.moveClass name ↔ r.Spares directory) ∧
      (¬ r.Spares directory → movePath (directory ++ '/' :: name) r = r.moveClass directory ++ '/' :: name)) ∧
    ∀ chain : Chain, (∀ r ∈ chain, r.Coherent) → ∀ (m : ServiceMerger) (content : Bytes),
      let place : ServicePlace := ⟨directory, name⟩
      (m.collect chain (directory ++ '/' :: name) content).entries =
        ServiceEntries.extend (place.moveAll chain).path (contribution m.stripComments chain content) m.entries ∧
      '/' ∉ (place.moveAll chain).name ∧
      (place.Spared chain → place.moveAll chain = ⟨directory, chain.renameClass name⟩) := by
  constructor
  · intro r coherent applies
    let place : ServicePlace := ⟨directory, name⟩
    exact ⟨place.path_moved_iff coherent plain applies, place.path_displaced coherent plain applies⟩
  · intro chain coherent m content place
    obtain ⟨target, plain'⟩ := place.target_path chain coherent plain
    refine ⟨?_, plain', place.move_all_spared chain⟩
    rw [← target]
    rfl

def servicesDirectory : Text := "META-INF/services".toList

def antlrTool : ServicePlace := ⟨servicesDirectory, "org.antlr.Tool".toList⟩

def antlrMoved : Relocation := Relocation.unfiltered "org.antlr".toList (some "com.acme".toList)

theorem antlr_tool_keeps_directory :
    '/' ∉ antlrTool.name ∧ antlrMoved.Coherent ∧ antlrMoved.appliesToClass antlrTool.name = true ∧
    movePath antlrTool.path antlrMoved = "META-INF/services/com.acme.Tool".toList ∧
    ((start true).collect [antlrMoved] antlrTool.path (Text.utf8 "org.antlr.Impl".toList)).entries =
      [("META-INF/services/com.acme.Tool".toList, contribution true [antlrMoved] (Text.utf8 "org.antlr.Impl".toList))] := by
  have plain : '/' ∉ antlrTool.name := by decide
  have coherent : antlrMoved.Coherent := Relocation.unfiltered_coherent _ _
  have applies : antlrMoved.appliesToClass antlrTool.name = true := by decide +kernel
  have missing : ¬ antlrMoved.pattern <:+: servicesDirectory := by decide +kernel
  have spares : antlrMoved.Spares servicesDirectory := fun within => absurd within missing
  obtain ⟨step, run⟩ := descriptors_keep_directories servicesDirectory antlrTool.name plain
  obtain ⟨entries, _, stays⟩ :=
    run [antlrMoved] (List.forall_mem_singleton.mpr coherent) (start true) (Text.utf8 "org.antlr.Impl".toList)
  have spared : antlrTool.Spared [antlrMoved] := by
    intro before r after split _
    have listed : r ∈ [antlrMoved] := split ▸ List.mem_append_right before List.mem_cons_self
    rw [List.mem_singleton.mp listed]
    exact spares
  have moved := (step antlrMoved coherent applies).1.mpr spares
  rw [stays spared] at entries
  refine ⟨plain, coherent, applies, moved.trans (by decide +kernel), entries.trans ?_⟩
  have path : servicesDirectory ++ '/' :: Chain.renameClass [antlrMoved] antlrTool.name =
      "META-INF/services/com.acme.Tool".toList := by decide +kernel
  exact congrArg (fun path => [(path, _)]) path

def servicesMoved : Relocation := Relocation.unfiltered "services".toList (some "shaded.services".toList)

theorem pattern_found_in_directory :
    '/' ∉ "services.Tool".toList ∧ servicesMoved.appliesToClass "services.Tool".toList = true ∧
    movePath "META-INF/services/services.Tool".toList servicesMoved =
      "META-INF/shaded.services/services.Tool".toList ∧
    movePath "META-INF/services/services.Tool".toList servicesMoved ≠
      servicesDirectory ++ '/' :: servicesMoved.moveClass "services.Tool".toList := by
  decide +kernel

end ServiceMerger

end Shading
