import Mathlib.Data.List.Induction
import Shading.FileSystem
import Shading.Proofs.Fallible

set_option autoImplicit false

namespace Shading

def Item.isLink (item : Item) : Bool :=
  match item.node with
  | .link _ => true
  | _ => false

namespace FileSystem

open Fallible

variable {fs after : FileSystem}

theorem lookup_put_item (place other : Location) (item : Item) (items : List (Location × Item)) :
    (putItem place item items).lookup other =
      if other = place then some item else items.lookup other := by
  induction items with
  | nil => by_cases same : other = place <;> simp [putItem, List.lookup_cons, same, beq_false_of_ne]
  | cons first rest ih =>
      obtain ⟨known, old⟩ := first
      by_cases there : known = place
      · by_cases same : other = place <;> simp [putItem, List.lookup_cons, there, same, beq_false_of_ne]
      · by_cases here : other = known
        · simp [putItem, there, here]
        · simp [putItem, List.lookup_cons, there, beq_false_of_ne here, ih]

theorem lookup_filtered (place other : Location) (items : List (Location × Item)) :
    (items.filter fun entry => entry.1 != place).lookup other =
      if other = place then none else items.lookup other := by
  induction items with
  | nil => simp
  | cons first rest ih =>
      obtain ⟨known, old⟩ := first
      by_cases gone : known = place
      · rw [List.filter_cons_of_neg (by simp [gone]), ih]
        by_cases same : other = place <;> simp [List.lookup_cons, gone, same, beq_false_of_ne]
      · by_cases here : other = known
        · simp [gone, here]
        · simp [List.lookup_cons, gone, beq_false_of_ne here, ih]

theorem filter_put_item (place : Location) (item : Item) (items : List (Location × Item))
    (free : ∀ entry ∈ items, entry.1 ≠ place) :
    (putItem place item items).filter (fun entry => entry.1 != place) = items := by
  induction items with
  | nil => simp [putItem]
  | cons first rest ih =>
      obtain ⟨here, others⟩ := List.forall_mem_cons.mp free
      simp [putItem, here, ih others]

theorem item_put (fs : FileSystem) (place other : Location) (item : Item) :
    (fs.put place item).item? other = if other = place then some item else fs.item? other := by
  simp only [item?, put, lookup_put_item]
  by_cases same : other = place <;> simp [same]

theorem item_remove (fs : FileSystem) (place other : Location) (apart : other ≠ place) :
    (fs.remove place).item? other = fs.item? other := by
  simp [item?, remove, lookup_filtered, apart]

theorem item_removed (fs : FileSystem) (place : Location) (inside : place ≠ []) :
    (fs.remove place).item? place = none := by
  simp [item?, remove, lookup_filtered, inside]

theorem remove_put (fs : FileSystem) (place : Location) (item : Item) (absent : fs.item? place = none) :
    (fs.put place item).remove place = fs := by
  have unlisted : fs.items.lookup place = none := by
    cases found : fs.items.lookup place with
    | none => rfl
    | some old => simp [item?, found] at absent
  have free : ∀ entry ∈ fs.items, entry.1 ≠ place := by
    intro entry member same
    have other := List.lookup_eq_none_iff.mp unlisted entry member
    simp [same] at other
  simp only [put, remove, filter_put_item place item fs.items free]

theorem check_directory_ok (fs : FileSystem) (place : Location) :
    fs.checkDirectory place = .ok () ↔
      ∃ item, fs.item? place = some item ∧ item.isDirectory = true ∧ item.isSearchable = true := by
  unfold checkDirectory
  cases fs.item? place with
  | none => simp
  | some item =>
      by_cases directory : item.isDirectory = true
      · by_cases searchable : item.isSearchable = true <;> simp [directory, searchable]
      · simp [directory]

structure Plain (name : Text) : Prop where
  notHere : name ≠ ['.']
  notUp : name ≠ ['.', '.']
  short : Text.utf8Size name ≤ nameLimit

-- From a place the names lead to another one, over no more than the given number of links.
inductive Leads (fs : FileSystem) (followLast : Bool) : Nat → Location → List Text → Location → Prop where
  | here (links : Nat) (place : Location) : Leads fs followLast links place [] place
  | stay (links : Nat) (place found : Location) (rest : List Text)
      (inside : fs.checkDirectory place = .ok ()) (later : Leads fs followLast links place rest found) :
      Leads fs followLast links place (['.'] :: rest) found
  | up (links : Nat) (place found : Location) (rest : List Text)
      (inside : fs.checkDirectory place = .ok ())
      (later : Leads fs followLast links place.dropLast rest found) :
      Leads fs followLast links place (['.', '.'] :: rest) found
  | down (links : Nat) (place found : Location) (name : Text) (rest : List Text) (item : Item)
      (inside : fs.checkDirectory place = .ok ()) (plain : Plain name)
      (there : fs.item? (place ++ [name]) = some item) (other : item.isLink = false)
      (later : Leads fs followLast links (place ++ [name]) rest found) :
      Leads fs followLast links place (name :: rest) found
  | link (links : Nat) (place found : Location) (name target : Text) (rest : List Text) (mode : Nat)
      (modified : Int) (inside : fs.checkDirectory place = .ok ()) (plain : Plain name)
      (there : fs.item? (place ++ [name]) = some ⟨.link target, mode, modified⟩)
      (followed : rest ≠ [] ∨ followLast = true)
      (later : Leads fs followLast links (startFrom place target) (pathNames target ++ rest) found) :
      Leads fs followLast (links + 1) place (name :: rest) found
  | last (links : Nat) (place : Location) (name target : Text) (mode : Nat) (modified : Int)
      (inside : fs.checkDirectory place = .ok ()) (plain : Plain name)
      (there : fs.item? (place ++ [name]) = some ⟨.link target, mode, modified⟩)
      (unfollowed : followLast = false) :
      Leads fs followLast links place [name] (place ++ [name])

theorem leads_of_walk (followLast : Bool) (links : Nat) (place found : Location) (names : List Text)
    (walked : fs.walk followLast links place names = .ok found) :
    Leads fs followLast links place names found := by
  fun_induction walk fs followLast links place names with
  | case1 links place =>
      cases walked
      exact .here _ _
  | case2 => cases walked
  | case3 links place rest inside ih => exact .stay links place found rest inside (ih walked)
  | case4 links place rest inside _ ih => exact .up links place found rest inside (ih walked)
  | case5 => cases walked
  | case6 => cases walked
  | case7 links place name rest inside notHere notUp short target mode modified there ends =>
      cases walked
      obtain ⟨rfl, unfollowed⟩ : rest = [] ∧ followLast = false := by simpa using ends
      exact .last links place name target mode modified inside ⟨notHere, notUp, Nat.le_of_not_lt short⟩
        there unfollowed
  | case8 => cases walked
  | case9 place name rest inside notHere notUp short target mode modified there goes links ih =>
      have followed : rest ≠ [] ∨ followLast = true := by
        by_cases last : rest = []
        · exact .inr (by simpa [last] using goes)
        · exact .inl last
      exact .link links place found name target rest mode modified inside
        ⟨notHere, notUp, Nat.le_of_not_lt short⟩ there followed (ih walked)
  | case10 links place name rest inside notHere notUp short item other there ih =>
      have free : item.isLink = false := by
        obtain ⟨node, mode, modified⟩ := item
        cases node with
        | link target => exact absurd rfl (other target mode modified)
        | file content => rfl
        | directory => rfl
      exact .down links place found name rest item inside ⟨notHere, notUp, Nat.le_of_not_lt short⟩
        there free (ih walked)

theorem walk_of_leads (followLast : Bool) (links : Nat) (place found : Location) (names : List Text)
    (leads : Leads fs followLast links place names found) :
    fs.walk followLast links place names = .ok found := by
  induction leads with
  | here links place => simp [walk]
  | stay links place found rest inside later ih => simp [walk, inside, ih]
  | up links place found rest inside later ih => simp [walk, inside, ih]
  | down links place found name rest item inside plain there other later ih =>
      obtain ⟨node, mode, modified⟩ := item
      cases node with
      | link target => cases other
      | file content =>
          simp [walk, inside, plain.notHere, plain.notUp, Nat.not_lt.mpr plain.short, there, ih]
      | directory =>
          simp [walk, inside, plain.notHere, plain.notUp, Nat.not_lt.mpr plain.short, there, ih]
  | link links place found name target rest mode modified inside plain there followed later ih =>
      have goes : (rest.isEmpty && !followLast) = false := by
        cases followed with
        | inl more => simp [more]
        | inr follows => simp [follows]
      simp [walk, inside, plain.notHere, plain.notUp, Nat.not_lt.mpr plain.short, there, goes, ih]
  | last links place name target mode modified inside plain there unfollowed =>
      simp [walk, inside, plain.notHere, plain.notUp, Nat.not_lt.mpr plain.short, there, unfollowed]

theorem walk_ok (followLast : Bool) (links : Nat) (place found : Location) (names : List Text) :
    fs.walk followLast links place names = .ok found ↔ Leads fs followLast links place names found :=
  ⟨leads_of_walk followLast links place found names, walk_of_leads followLast links place found names⟩

theorem Leads.split {links : Nat} {place found : Location} {names : List Text}
    (leads : Leads fs true links place names found) (front behind : List Text)
    (parts : names = front ++ behind) :
    ∃ left middle, Leads fs true links place front middle ∧ Leads fs true left middle behind found := by
  induction leads generalizing front with
  | here links place =>
      obtain ⟨rfl, rfl⟩ := List.append_eq_nil_iff.mp parts.symm
      exact ⟨links, place, .here links place, .here links place⟩
  | stay links place found rest inside later ih =>
      cases front with
      | nil =>
          cases (parts : _ = behind)
          exact ⟨links, place, .here links place, .stay links place found rest inside later⟩
      | cons first front =>
          obtain ⟨rfl, rest⟩ := List.cons.inj parts
          obtain ⟨left, middle, before, after⟩ := ih front rest
          exact ⟨left, middle, .stay links place middle front inside before, after⟩
  | up links place found rest inside later ih =>
      cases front with
      | nil =>
          cases (parts : _ = behind)
          exact ⟨links, place, .here links place, .up links place found rest inside later⟩
      | cons first front =>
          obtain ⟨rfl, rest⟩ := List.cons.inj parts
          obtain ⟨left, middle, before, after⟩ := ih front rest
          exact ⟨left, middle, .up links place middle front inside before, after⟩
  | down links place found name rest item inside plain there other later ih =>
      cases front with
      | nil =>
          cases (parts : _ = behind)
          exact ⟨links, place, .here links place,
            .down links place found name rest item inside plain there other later⟩
      | cons first front =>
          obtain ⟨rfl, rest⟩ := List.cons.inj parts
          obtain ⟨left, middle, before, after⟩ := ih front rest
          exact ⟨left, middle, .down links place middle name front item inside plain there other before, after⟩
  | link links place found name target rest mode modified inside plain there followed later ih =>
      cases front with
      | nil =>
          cases (parts : _ = behind)
          exact ⟨links + 1, place, .here _ place, .link links place found name target rest mode
            modified inside plain there followed later⟩
      | cons first front =>
          obtain ⟨rfl, rest⟩ := List.cons.inj parts
          obtain ⟨left, middle, before, after⟩ := ih (pathNames target ++ front) (by simp [rest])
          exact ⟨left, middle, .link links place middle name target front mode modified inside plain there
            (.inr rfl) before, after⟩
  | last links place name target mode modified inside plain there unfollowed => cases unfollowed

theorem Leads.append {links : Nat} {place middle found : Location} {front behind : List Text}
    (leads : Leads fs true links place front middle)
    (later : ∀ left, Leads fs true left middle behind found) :
    Leads fs true links place (front ++ behind) found := by
  induction leads with
  | here links place => exact later links
  | stay links place middle rest inside _ ih => exact .stay links place found _ inside (ih later)
  | up links place middle rest inside _ ih => exact .up links place found _ inside (ih later)
  | down links place middle name rest item inside plain there other _ ih =>
      exact .down links place found name _ item inside plain there other (ih later)
  | link links place middle name target rest mode modified inside plain there followed _ ih =>
      have whole := ih later
      rw [List.append_assoc] at whole
      exact .link links place found name target _ mode modified inside plain there (.inr rfl) whole
  | last links place name target mode modified inside plain there unfollowed => cases unfollowed

def Keeps (fs after : FileSystem) : Prop :=
  ∀ place item, fs.item? place = some item → after.item? place = some item

theorem Keeps.trans {last : FileSystem} (first : Keeps fs after) (second : Keeps after last) :
    Keeps fs last := fun place item there => second place item (first place item there)

theorem Keeps.check (keeps : Keeps fs after) (place : Location)
    (inside : fs.checkDirectory place = .ok ()) : after.checkDirectory place = .ok () := by
  obtain ⟨item, there, legal⟩ := (check_directory_ok fs place).mp inside
  exact (check_directory_ok after place).mpr ⟨item, keeps place item there, legal⟩

theorem Keeps.leads (keeps : Keeps fs after) {followLast : Bool} {links : Nat} {place found : Location}
    {names : List Text} (leads : Leads fs followLast links place names found) :
    Leads after followLast links place names found := by
  induction leads with
  | here links place => exact .here links place
  | stay links place found rest inside _ ih => exact .stay links place found rest (keeps.check place inside) ih
  | up links place found rest inside _ ih => exact .up links place found rest (keeps.check place inside) ih
  | down links place found name rest item inside plain there other _ ih =>
      exact .down links place found name rest item (keeps.check place inside) plain
        (keeps _ item there) other ih
  | link links place found name target rest mode modified inside plain there followed _ ih =>
      exact .link links place found name target rest mode modified (keeps.check place inside) plain
        (keeps _ _ there) followed ih
  | last links place name target mode modified inside plain there unfollowed =>
      exact .last links place name target mode modified (keeps.check place inside) plain
        (keeps _ _ there) unfollowed

def Impassable (fs : FileSystem) (place : Location) : Prop :=
  ∀ item, fs.item? place = some item → item.isDirectory = false ∧ item.isLink = false

theorem entered_apart {place gone : Location} (closed : Impassable fs gone)
    (inside : fs.checkDirectory place = .ok ()) : place ≠ gone := by
  rintro rfl
  obtain ⟨item, there, directory, _⟩ := (check_directory_ok fs place).mp inside
  rw [(closed item there).1] at directory
  cases directory

theorem check_without {place gone : Location} (closed : Impassable fs gone)
    (inside : fs.checkDirectory place = .ok ()) : (fs.remove gone).checkDirectory place = .ok () := by
  have same := item_remove fs gone place (entered_apart closed inside)
  rw [check_directory_ok] at inside ⊢
  rw [same]
  exact inside

theorem Leads.without {followLast : Bool} {links : Nat} {place found gone : Location} {names : List Text}
    (leads : Leads fs followLast links place names found) (closed : Impassable fs gone)
    (ends : fs.checkDirectory found = .ok ()) :
    Leads (fs.remove gone) followLast links place names found := by
  induction leads with
  | here links place => exact .here links place
  | stay links place found rest inside _ ih => exact .stay links place found rest (check_without closed inside) (ih ends)
  | up links place found rest inside _ ih => exact .up links place found rest (check_without closed inside) (ih ends)
  | down links place found name rest item inside plain there other later ih =>
      have elsewhere : place ++ [name] ≠ gone := by
        cases later with
        | here => exact entered_apart closed ends
        | stay _ _ _ _ within => exact entered_apart closed within
        | up _ _ _ _ within => exact entered_apart closed within
        | down _ _ _ _ _ _ within => exact entered_apart closed within
        | link _ _ _ _ _ _ _ _ within => exact entered_apart closed within
        | last _ _ _ _ _ _ within => exact entered_apart closed within
      refine .down links place found name rest item (check_without closed inside) plain ?_ other (ih ends)
      rw [item_remove fs gone _ elsewhere]
      exact there
  | link links place found name target rest mode modified inside plain there followed _ ih =>
      refine .link links place found name target rest mode modified (check_without closed inside) plain ?_
        followed (ih ends)
      rw [item_remove fs gone _ ?_]
      · exact there
      · rintro rfl
        cases (closed _ there).2
  | last links place name target mode modified inside plain there unfollowed =>
      obtain ⟨item, same, directory, _⟩ := (check_directory_ok fs _).mp ends
      rw [there] at same
      cases same
      cases directory

def Usable (path : Text) : Prop := path ≠ [] ∧ '\x00' ∉ path

theorem resolve_ok (followLast : Bool) (path : Text) (place : Location) :
    fs.resolve followLast path = .ok place ↔
      Usable path ∧ Leads fs followLast linkLimit (startFrom fs.current path) (pathNames path) place := by
  unfold resolve Usable
  by_cases empty : path = []
  · simp [empty]
  by_cases cut : '\x00' ∈ path
  · simp [empty, cut]
  · simp [empty, cut, walk_ok]

theorem find_ok (followLast : Bool) (path : Text) (place : Location) (item : Item) :
    fs.find followLast path = .ok (place, item) ↔
      fs.resolve followLast path = .ok place ∧ fs.item? place = some item := by
  unfold find
  rw [bind_ok]
  constructor
  · rintro ⟨other, resolved, found⟩
    cases there : fs.item? other with
    | none => simp only [there] at found; cases found
    | some known =>
        simp only [there] at found
        cases found
        exact ⟨resolved, there⟩
  · rintro ⟨resolved, there⟩
    refine ⟨place, resolved, ?_⟩
    simp only [there]
    rfl

-- A place at the end of a path: a name in the directory that the names before it lead to.
structure Targets (fs : FileSystem) (path : Text) (parent : Location) (front : List Text) (name : Text) : Prop where
  usable : Usable path
  names : Text.segments path = front ++ [name]
  leads : Leads fs true linkLimit (startFrom fs.current path) front parent
  inside : fs.checkDirectory parent = .ok ()
  plain : Plain name

-- What is left to check once the path has led to a directory.
def lastName (names : List Text) (parent : Location) : Except FileFault Location :=
  match names.getLast? with
  | none => .error .busy
  | some name =>
      if name = ['.'] ∨ name = ['.', '.'] then .error .busy
      else if nameLimit < Text.utf8Size name then .error .nameTooLong
      else .ok (parent ++ [name])

theorem last_name_ok (names : List Text) (parent place : Location) :
    lastName names parent = .ok place ↔
      ∃ front name, names = front ++ [name] ∧ Plain name ∧ place = parent ++ [name] := by
  cases names using List.reverseRecOn with
  | nil => simp [lastName]
  | append_singleton front name =>
      unfold lastName
      rw [List.getLast?_concat]
      by_cases special : name = ['.'] ∨ name = ['.', '.']
      · simp only [if_pos special, reduceCtorEq, false_iff]
        rintro ⟨_, other, same, plain, _⟩
        cases (List.append_inj' same rfl).2
        cases special with
        | inl here => exact plain.notHere here
        | inr up => exact plain.notUp up
      by_cases long : nameLimit < Text.utf8Size name
      · simp only [if_neg special, if_pos long, reduceCtorEq, false_iff]
        rintro ⟨_, other, same, plain, _⟩
        cases (List.append_inj' same rfl).2
        exact Nat.not_le_of_lt long plain.short
      · simp only [if_neg special, if_neg long, Except.ok.injEq]
        obtain ⟨notHere, notUp⟩ := not_or.mp special
        constructor
        · intro same
          exact ⟨front, name, rfl, ⟨notHere, notUp, Nat.le_of_not_lt long⟩, same.symm⟩
        · rintro ⟨_, other, same, _, whole⟩
          cases (List.append_inj' same rfl).2
          exact whole.symm

theorem target_place_steps (fs : FileSystem) (path : Text) (usable : Usable path) :
    fs.targetPlace path = (do
      let parent ← fs.walk true linkLimit (startFrom fs.current path) (Text.segments path).dropLast
      fs.checkDirectory parent
      lastName (Text.segments path) parent) := by
  unfold targetPlace lastName
  simp only [usable.1, List.contains_iff_mem, usable.2, if_false]
  refine congrArg _ (funext fun parent => congrArg _ (funext fun _ => ?_))
  cases (Text.segments path).getLast? with
  | none => rfl
  | some name =>
      by_cases special : name = ['.'] ∨ name = ['.', '.']
      · simp only [if_pos special]
        rfl
      · by_cases long : nameLimit < Text.utf8Size name
        · simp only [if_neg special, if_pos long]
          rfl
        · simp only [if_neg special, if_neg long]
          rfl

theorem target_place_ok (path : Text) (place : Location) :
    fs.targetPlace path = .ok place ↔
      ∃ parent front name, Targets fs path parent front name ∧ place = parent ++ [name] := by
  by_cases usable : Usable path
  · rw [target_place_steps fs path usable]
    simp only [bind_ok, last_name_ok, walk_ok]
    constructor
    · rintro ⟨parent, leads, ⟨⟩, inside, front, name, names, plain, same⟩
      rw [names, List.dropLast_concat] at leads
      exact ⟨parent, front, name, ⟨usable, names, leads, inside, plain⟩, same⟩
    · rintro ⟨parent, front, name, targets, same⟩
      refine ⟨parent, ?_, (), targets.inside, front, name, targets.names, targets.plain, same⟩
      rw [targets.names, List.dropLast_concat]
      exact targets.leads
  · constructor
    · intro done
      unfold targetPlace at done
      by_cases empty : path = []
      · rw [if_pos empty] at done
        cases done
      · have cut : '\x00' ∈ path := by_contra fun whole => usable ⟨empty, whole⟩
        simp only [if_neg empty, List.contains_iff_mem, cut, if_true] at done
        cases done
    · rintro ⟨_, _, _, targets, _⟩
      exact absurd targets.usable usable

theorem target_place_without (path : Text) {place gone : Location} (closed : Impassable fs gone)
    (target : fs.targetPlace path = .ok place) : (fs.remove gone).targetPlace path = .ok place := by
  obtain ⟨parent, front, name, targets, rfl⟩ := (target_place_ok path place).mp target
  refine (target_place_ok path _).mpr ⟨parent, front, name, ?_, rfl⟩
  exact {
    usable := targets.usable
    names := targets.names
    leads := targets.leads.without closed targets.inside
    inside := check_without closed targets.inside
    plain := targets.plain }

end FileSystem

end Shading
