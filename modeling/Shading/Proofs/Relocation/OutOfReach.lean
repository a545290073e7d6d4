import Shading.Proofs.Relocation.NestedNames
import Shading.Proofs.Signature.Composition

set_option autoImplicit false

namespace Shading

open Signature SignaturePiece

def Text.isWord (c : Char) : Bool := c.isAlphanum || c == '_'

-- Words that are not empty, with a dot or a slash between any two of them, and no `L` in front.
def PackageText (s : Text) : Prop := ∃ parts : List Text, parts ≠ [] ∧
  (∀ part ∈ parts, part ≠ [] ∧ part.all Text.isWord = true) ∧
    Text.slashed s = Text.join ['/'] parts ∧ s.head? ≠ some 'L'

structure PackagePath (path : Text) : Prop where
  opening : ∃ c rest, path = c :: rest ∧ Text.isWord c = true ∧ c ≠ 'L'
  chars : ∀ c ∈ path, Text.isWord c = true ∨ c = '/'

theorem package_text_path (s : Text) (package : PackageText s) : PackagePath (Text.slashed s) := by
  obtain ⟨parts, filled, words, whole, free⟩ := package
  constructor
  · obtain ⟨first, others, rfl⟩ := List.exists_cons_of_ne_nil filled
    obtain ⟨nonempty, letters⟩ := words first List.mem_cons_self
    obtain ⟨c, tail, rfl⟩ := List.exists_cons_of_ne_nil nonempty
    have word : Text.isWord c = true := List.all_eq_true.mp letters c List.mem_cons_self
    obtain ⟨rest, same⟩ := Text.join_begins '/' (c :: tail) others
    rw [← whole] at same
    refine ⟨c, tail ++ rest, same.symm, word, ?_⟩
    rintro rfl
    cases s with
    | nil => cases same
    | cons d others =>
        have first : 'L' = if d = '.' then '/' else d := (List.cons.inj same).1
        split at first
        · cases first
        · exact free (congrArg some first.symm)
  · intro c member
    rw [whole] at member
    rcases Text.mem_join '/' parts c member with slash | ⟨part, listed, inside⟩
    · exact .inr slash
    · exact .inl (List.all_eq_true.mp (words part listed).2 c inside)

namespace PackagePath

variable {path : Text}

theorem without (package : PackagePath path) (c : Char) (other : Text.isWord c = false)
    (differs : c ≠ '/') : c ∉ path := by
  intro member
  rcases package.chars c member with word | slash
  · rw [other] at word
    cases word
  · exact differs slash

theorem slashed (package : PackagePath path) : Text.slashed path = path :=
  Text.exchange_absent _ _ _ (package.without '.' (by decide) (by decide))

theorem named (package : PackagePath path) : ∃ c tail, path = c :: tail ∧ c ≠ '/' := by
  obtain ⟨c, tail, form, word, _⟩ := package.opening
  refine ⟨c, tail, form, ?_⟩
  rintro rfl
  cases word

theorem not_slash_first (package : PackagePath path) (rest tail : Text) : path ++ rest ≠ '/' :: tail := by
  obtain ⟨c, others, rfl, other⟩ := package.named
  exact fun same => other (List.cons.inj same).1

end PackagePath

theorem Text.opens_slashed (start x : Text) (package : PackagePath start) (opens : Opens start x) :
    Opens start (slashed x) := by
  obtain ⟨lead, rest, short, rfl⟩ := opens
  refine ⟨lead, slashed rest, short, ?_⟩
  rw [slashed_append, slashed_append, package.slashed]
  rcases short with rfl | rfl <;> rfl

theorem Text.opens_first (start x : Text) (package : PackagePath start) (opens : Opens start x) :
    ∃ c rest, x = c :: rest ∧ c ≠ 'L' ∧ (isWord c = true ∨ c = '/') := by
  obtain ⟨lead, rest, short, rfl⟩ := opens
  obtain ⟨c, tail, form, word, free⟩ := package.opening
  rcases short with rfl | rfl
  · exact ⟨c, tail ++ rest, by rw [form]; rfl, free, .inl word⟩
  · exact ⟨'/', start ++ rest, rfl, by decide, .inr rfl⟩

theorem Text.opens_comparable (a b x : Text) (first : PackagePath a) (second : PackagePath b)
    (opens : Opens a x) (opens' : Opens b x) : a <+: b ∨ b <+: a := by
  have compare (rest rest' : Text) (same : a ++ rest = b ++ rest') : a <+: b ∨ b <+: a :=
    List.prefix_or_prefix_of_prefix ⟨rest, same⟩ ⟨rest', rfl⟩
  obtain ⟨lead, rest, short, rfl⟩ := opens
  obtain ⟨lead', rest', short', same⟩ := opens'
  -- Neither package begins with a slash, so both have one in front or none has.
  rcases short with rfl | rfl <;> rcases short' with rfl | rfl
  · exact compare rest rest' same
  · exact absurd same (first.not_slash_first rest _)
  · exact absurd same.symm (second.not_slash_first rest' _)
  · exact compare rest rest' (List.cons.inj same).2

namespace Relocation

structure BetweenPackages (r : Relocation) : Prop where
  free : r.Unfiltered
  coherent : r.Coherent
  pattern : PackagePath r.pathPattern
  target : PackagePath r.pathTarget

theorem unfiltered_between_packages (pattern : Text) (target? : Option Text) (package : PackageText pattern)
    (targets : ∀ target, target? = some target → PackageText target) :
    (unfiltered pattern target?).BetweenPackages where
  free := ⟨rfl, rfl⟩
  coherent := unfiltered_coherent pattern target?
  pattern := package_text_path pattern package
  target := by
    cases target? with
    | some target => exact package_text_path target (targets target rfl)
    | none =>
        obtain ⟨_, chars⟩ := package_text_path pattern package
        refine ⟨⟨'h', _, rfl, by decide, by decide⟩, fun c member => ?_⟩
        rcases List.mem_append.mp member with hidden | behind
        · have words : ∀ c ∈ hiddenPackage, Text.isWord c = true := List.all_iff_forall_prop.mp rfl
          exact .inl (words c hidden)
        · rcases List.mem_cons.mp behind with slash | inside
          · exact .inr slash
          · exact chars c inside

variable {r : Relocation}

theorem BetweenPackages.move_path (between : r.BetweenPackages) (lead rest : Text)
    (short : lead = [] ∨ lead = ['/']) :
    r.movePath (lead ++ r.pathPattern ++ rest) = lead ++ r.pathTarget ++ rest :=
  Text.replace_first_opens _ _ lead rest between.pattern.named short

end Relocation

namespace Chain

structure OutOfReach (chain : Chain) : Prop where
  packages : ∀ r ∈ chain, r.BetweenPackages
  apart : ∀ r ∈ chain, ∀ q ∈ chain, ¬ q.pathTarget <+: r.pathPattern ∧ ¬ r.pathPattern <+: q.pathTarget

def Moved (chain : Chain) (x : Text) : Prop := ∃ r ∈ chain, Text.Opens r.pathTarget (Text.slashed x)

variable {chain : Chain} {x : Text}

theorem OutOfReach.opening (reach : chain.OutOfReach) (moved : chain.Moved x) :
    ∃ c rest, x = c :: rest ∧ c ≠ 'L' ∧ c ≠ '[' := by
  obtain ⟨r, listed, opens⟩ := moved
  obtain ⟨c, rest, same, letter, kind⟩ := Text.opens_first _ _ (reach.packages r listed).target opens
  cases x with
  | nil => cases same
  | cons d tail =>
      have first : (if d = '.' then '/' else d) = c := (List.cons.inj same).1
      refine ⟨d, tail, rfl, ?_, ?_⟩
      · rintro rfl
        exact letter first.symm
      · rintro rfl
        rw [← first] at kind
        revert kind
        decide

theorem OutOfReach.untouched (reach : chain.OutOfReach) (moved : chain.Moved x) :
    ∀ q ∈ chain, q.appliesToPath x = false ∧ q.appliesToClass x = false := by
  intro q listed
  obtain ⟨r, listed', opens⟩ := moved
  have between := reach.packages q listed
  have closed : ¬ Text.Opens q.pathPattern (Text.slashed x) := by
    intro reached
    obtain ⟨below, above⟩ := reach.apart q listed r listed'
    rcases Text.opens_comparable _ _ _ between.pattern (reach.packages r listed').target reached opens
      with shorter | longer
    · exact above shorter
    · exact below longer
  constructor
  · by_contra applies
    rw [Bool.not_eq_false] at applies
    exact closed (Text.opens_slashed _ _ between.pattern (q.opens_of_applies x applies))
  · by_contra applies
    rw [Bool.not_eq_false, Relocation.appliesToClass, Bool.and_eq_true] at applies
    exact closed (q.opens_of_applies _ applies.2)

theorem OutOfReach.moved_path (reach : chain.OutOfReach) (r : Relocation) (listed : r ∈ chain)
    (applies : r.appliesToPath x = true) : chain.Moved (r.movePath x) := by
  have between := reach.packages r listed
  obtain ⟨lead, rest, short, rfl⟩ := r.opens_of_applies x applies
  rw [between.move_path lead rest short]
  exact ⟨r, listed, Text.opens_slashed _ _ between.target ⟨lead, rest, short, rfl⟩⟩

theorem OutOfReach.moved_class (reach : chain.OutOfReach) (r : Relocation) (listed : r ∈ chain)
    (applies : r.appliesToClass x = true) : chain.Moved (r.moveClass x) := by
  have between := reach.packages r listed
  rw [Relocation.appliesToClass, Bool.and_eq_true, Bool.not_eq_true', List.contains_eq_mem,
    decide_eq_false_iff_not] at applies
  obtain ⟨plain, applies⟩ := applies
  obtain ⟨lead, rest, short, same⟩ := r.opens_of_applies _ applies
  refine ⟨r, listed, lead, rest, short, ?_⟩
  rw [← between.coherent.move_path_slashed x plain, same, between.move_path lead rest short]

theorem map_name_stays (chain : Chain) (name : Text)
    (none : ∀ r ∈ chain, r.appliesToPath (splitWrapper name).2 = false) :
    chain.mapName? name = Option.none ∨ chain.mapName? name = some name := by
  cases own : isPlatformName name with
  | true => exact .inl (map_name_platform chain name own)
  | false =>
      right
      rw [map_name_own chain name own, move_first_idle none, split_wrapper_append]

theorem map_path_stays (chain : Chain) (name : Text)
    (none : ∀ r ∈ chain, r.appliesToPath (splitWrapper name).2 = false) : chain.mapPath name = name := by
  unfold mapPath
  rcases map_name_stays chain name none with absent | same
  · rw [absent, Option.getD_none]
  · rw [same, Option.getD_some]

theorem map_name_moves (chain : Chain) (name y : Text) (mapped : chain.mapName? name = some y) :
    y = name ∨ ∃ r ∈ chain, r.appliesToPath (splitWrapper name).2 = true ∧
      y = (splitWrapper name).1 ++ r.movePath (splitWrapper name).2 := by
  cases own : isPlatformName name with
  | true =>
      rw [map_name_platform chain name own] at mapped
      contradiction
  | false =>
      rw [map_name_own chain name own] at mapped
      cases mapped
      rcases move_first_cases chain (splitWrapper name).2 with ⟨r, listed, applies, moved⟩ | ⟨_, stays⟩
      · exact .inr ⟨r, listed, applies, by rw [moved]⟩
      · rw [stays]
        exact .inl (split_wrapper_append name)

theorem OutOfReach.map_name_again (reach : chain.OutOfReach) (name y : Text)
    (mapped : chain.mapName? name = some y) : chain.mapName? y = none ∨ chain.mapName? y = some y := by
  rcases map_name_moves chain name y mapped with rfl | ⟨r, listed, applies, rfl⟩
  · exact .inr mapped
  · have moved := reach.moved_path r listed applies
    obtain ⟨c, rest, form, letter, bracket⟩ := reach.opening moved
    apply map_name_stays
    intro q member
    rw [form, split_wrapper_again name c rest letter bracket, ← form]
    exact (reach.untouched moved q member).1

theorem OutOfReach.map_path_again (reach : chain.OutOfReach) (name : Text) :
    chain.mapPath (chain.mapPath name) = chain.mapPath name := by
  unfold mapPath
  cases mapped : chain.mapName? name with
  | none => rw [Option.getD_none, mapped, Option.getD_none]
  | some y =>
      rw [Option.getD_some]
      rcases reach.map_name_again name y mapped with none | same
      · rw [none, Option.getD_none]
      · rw [same, Option.getD_some]

theorem OutOfReach.map_path_first (reach : chain.OutOfReach) (name : Text) (first : name.head? ≠ some '[') :
    (chain.mapPath name).head? ≠ some '[' := by
  unfold mapPath
  cases mapped : chain.mapName? name with
  | none => exact first
  | some y =>
      rw [Option.getD_some]
      rcases map_name_moves chain name y mapped with rfl | ⟨r, listed, applies, rfl⟩
      · exact first
      · obtain ⟨c, rest, form, _, bracket⟩ := reach.opening (reach.moved_path r listed applies)
        rcases split_wrapper_form name with ⟨brackets, d, tail, all, rfl, split⟩ | split
        · rw [split]
          cases brackets with
          | nil => exact fun same => by cases same
          | cons d brackets =>
              have opened : d = '[' := by simpa using all d List.mem_cons_self
              subst opened
              exact absurd rfl first
        · rw [split] at form ⊢
          dsimp only at form ⊢
          rw [form]
          intro same
          exact bracket (Option.some.inj same)

theorem OutOfReach.map_string_again (reach : chain.OutOfReach) (value : Text) :
    chain.mapString (chain.mapString value) = chain.mapString value := by
  cases found : chain.mapInner? (splitWrapper value).2 with
  | none =>
      have same : chain.mapString value = value := by
        unfold mapString
        dsimp only
        rw [found]
      rw [same, same]
  | some y =>
      have moves : chain.mapString value = (splitWrapper value).1 ++ y := by
        unfold mapString
        dsimp only
        rw [found]
      have moved : chain.Moved y := by
        obtain ⟨r, listed, answer⟩ := List.exists_of_findSome?_eq_some found
        split at answer
        · rename_i applies
          cases answer
          exact reach.moved_class r listed applies
        · split at answer
          · rename_i applies
            cases answer
            exact reach.moved_path r listed applies
          · cases answer
      obtain ⟨c, rest, form, letter, bracket⟩ := reach.opening moved
      have none : chain.mapInner? y = none := by
        refine List.findSome?_eq_none_iff.mpr fun q member => ?_
        obtain ⟨path, class'⟩ := reach.untouched moved q member
        rw [path, class']
        rfl
      rw [moves, form, mapString, split_wrapper_again value c rest letter bracket, ← form]
      dsimp only
      rw [none]

theorem OutOfReach.map_package_again (reach : chain.OutOfReach) (text s : Text)
    (renamed : ((chain.mapName? (text ++ ['/'])).bind (Text.dropEnd? ['/'])).getD text = s) :
    ((chain.mapName? (s ++ ['/'])).bind (Text.dropEnd? ['/'])).getD s = s := by
  cases mapped : (chain.mapName? (text ++ ['/'])).bind (Text.dropEnd? ['/']) with
  | none =>
      rw [mapped, Option.getD_none] at renamed
      rw [← renamed, mapped, Option.getD_none]
  | some front =>
      rw [mapped, Option.getD_some] at renamed
      obtain ⟨y, moved, cut⟩ := Option.bind_eq_some_iff.mp mapped
      have whole := (Text.drop_end_some _ _ _).mp cut
      rw [← renamed, ← whole]
      rcases reach.map_name_again _ y moved with none | same
      · rw [none]
        rfl
      · rw [same, Option.bind_some, cut, Option.getD_some]

-- A wrapper stays when a nested class is named, but for one that had no name in it before.
theorem split_wrapper_nested (outer name : Text) :
    splitWrapper (binaryName outer name) =
        ((splitWrapper outer).1, binaryName (splitWrapper outer).2 name) ∨
      ∃ brackets, (∀ d ∈ brackets, (d == '[') = true) ∧ outer = brackets ++ ['L'] ∧
        (splitWrapper outer).2 = outer ∧ (splitWrapper (binaryName outer name)).2 = '$' :: name := by
  rcases split_wrapper_form outer with ⟨brackets, c, rest, all, rfl, split⟩ | split
  · left
    have form : binaryName (brackets ++ 'L' :: c :: rest) name =
        brackets ++ 'L' :: c :: (rest ++ '$' :: name) := by simp [binaryName]
    rw [split, form, split_wrapper_object brackets all c _]
    rfl
  · rcases split_wrapper_form (binaryName outer name) with ⟨brackets, c, rest, all, same, split'⟩ | split'
    · right
      rcases List.append_eq_append_iff.mp same with ⟨inside, front, behind⟩ | ⟨inside, front, behind⟩
      · cases inside with
        | nil => cases behind
        | cons d inside =>
            have mark := all d (by rw [front]; exact List.mem_append_right _ List.mem_cons_self)
            rw [← (List.cons.inj behind).1] at mark
            cases mark
      · cases inside with
        | nil => cases behind
        | cons d inside =>
            obtain ⟨rfl, later⟩ := List.cons.inj behind
            cases inside with
            | nil =>
                obtain ⟨rfl, rfl⟩ := List.cons.inj later
                exact ⟨brackets, all, front, by rw [split], by rw [split']⟩
            | cons d more =>
                rw [front, split_wrapper_object brackets all d more] at split
                exact absurd (congrArg Prod.fst split) (by simp)
    · left
      rw [split', split]

theorem OutOfReach.applies_first (reach : chain.OutOfReach) (r : Relocation) (listed : r ∈ chain)
    (c : Char) (rest : Text) (applies : r.appliesToPath (c :: rest) = true) :
    c ≠ 'L' ∧ (Text.isWord c = true ∨ c = '/') := by
  obtain ⟨d, tail, same, letter, kind⟩ :=
    Text.opens_first _ _ (reach.packages r listed).pattern (r.opens_of_applies _ applies)
  rw [(List.cons.inj same).1]
  exact ⟨letter, kind⟩

theorem OutOfReach.wrapper_stays (reach : chain.OutOfReach) (brackets : Text)
    (all : ∀ d ∈ brackets, (d == '[') = true) (r : Relocation) (listed : r ∈ chain) :
    r.appliesToPath (brackets ++ ['L']) = false := by
  by_contra applies
  rw [Bool.not_eq_false] at applies
  cases brackets with
  | nil => exact (reach.applies_first r listed 'L' [] applies).1 rfl
  | cons d brackets =>
      have bracket : d = '[' := by simpa using all d List.mem_cons_self
      subst bracket
      have kind := (reach.applies_first r listed '[' _ applies).2
      revert kind
      decide

theorem OutOfReach.nested_stays (reach : chain.OutOfReach) (name : Text) (r : Relocation)
    (listed : r ∈ chain) : r.appliesToPath ('$' :: name) = false := by
  by_contra applies
  rw [Bool.not_eq_false] at applies
  have kind := (reach.applies_first r listed '$' name applies).2
  revert kind
  decide

theorem OutOfReach.map_nested (reach : chain.OutOfReach) (outer name : Text) (plain : '.' ∉ outer)
    (plain' : '.' ∉ name) :
    chain.mapPath (binaryName outer name) = binaryName (chain.mapPath outer) name := by
  rcases split_wrapper_nested outer name with split | ⟨brackets, all, rfl, whole, alone⟩
  · refine chain.map_path_nested (fun r listed => ?_) outer name plain plain' split
    have between := reach.packages r listed
    exact ⟨between.free, between.pattern.without '$' (by decide) (by decide)⟩
  · rw [map_path_stays chain (binaryName _ name), map_path_stays chain (brackets ++ ['L'])]
    · intro r listed
      rw [whole]
      exact reach.wrapper_stays brackets all r listed
    · intro r listed
      rw [alone]
      exact reach.nested_stays name r listed

theorem OutOfReach.map_named (reach : chain.OutOfReach) (name : Text) (named : Named nameStops name) :
    Named nameStops (chain.mapPath name) := by
  unfold mapPath
  cases mapped : chain.mapName? name with
  | none => exact named
  | some y =>
      rw [Option.getD_some]
      rcases map_name_moves chain name y mapped with rfl | ⟨r, listed, applies, rfl⟩
      · exact named
      · obtain ⟨c, rest, form, _⟩ := reach.opening (reach.moved_path r listed applies)
        refine ⟨by simp [form], fun d member => ?_⟩
        rcases List.mem_append.mp member with wrapper | inside
        · exact named.2 d (split_wrapper_append name ▸ List.mem_append_left _ wrapper)
        · rcases Text.mem_replace_first _ _ _ _ inside with target | old
          · have other : ∀ e ∈ nameStops, Text.isWord e = false ∧ e ≠ '/' := List.all_iff_forall_prop.mp rfl
            intro stop
            obtain ⟨word, slash⟩ := other d stop
            exact (reach.packages r listed).target.without d word slash target
          · exact named.2 d (split_wrapper_append name ▸ List.mem_append_right _ old)

theorem OutOfReach.nesting (reach : chain.OutOfReach) : Nesting chain.mapName? where
  named := reach.map_named
  nested outer name named inner := reach.map_nested outer name (fun dot => named.2 '.' dot (by decide))
    fun dot => inner.2 '.' dot (by decide)

end Chain

end Shading
