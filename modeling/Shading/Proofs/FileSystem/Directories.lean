import Shading.Proofs.FileSystem

set_option autoImplicit false

namespace Shading

open Fallible

inductive Path.Around (path : Text) : Text → Prop where
  | self : Around path path
  | parent (inner outer : Text) (around : Around path inner) (up : parent? inner = some outer) :
      Around path outer

theorem Path.Around.outward {path outer other : Text} (up : parent? path = some outer)
    (around : Around outer other) : Around path other := by
  induction around with
  | self => exact .parent path outer .self up
  | parent inner next _ further ih => exact .parent inner next ih further

namespace FileSystem

variable {fs before middle after : FileSystem} {paths : Text → Prop}

structure DirectoriesMade (paths : Text → Prop) (before after : FileSystem) : Prop where
  current : after.current = before.current
  kept : Keeps before after
  made : ∀ place item, before.item? place = none → after.item? place = some item →
    item = Item.newDirectory ∧ ∃ path, paths path ∧ after.resolve true path = .ok place

theorem Keeps.resolve (keeps : Keeps before after) (current : after.current = before.current)
    (followLast : Bool) (path : Text) (place : Location)
    (resolved : before.resolve followLast path = .ok place) :
    after.resolve followLast path = .ok place := by
  obtain ⟨usable, leads⟩ := (resolve_ok _ _ _).mp resolved
  rw [← current] at leads
  exact (resolve_ok _ _ _).mpr ⟨usable, keeps.leads leads⟩

theorem DirectoriesMade.find (made : DirectoriesMade paths before after) (followLast : Bool)
    (path : Text) (found : Location × Item) (there : before.find followLast path = .ok found) :
    after.find followLast path = .ok found := by
  obtain ⟨resolved, item⟩ := (find_ok _ _ _ _).mp there
  exact (find_ok _ _ _ _).mpr
    ⟨made.kept.resolve made.current followLast path _ resolved, made.kept _ _ item⟩

theorem DirectoriesMade.refl (paths : Text → Prop) (fs : FileSystem) : DirectoriesMade paths fs fs where
  current := rfl
  kept := fun _ _ there => there
  made := fun place item absent there => by
    rw [absent] at there
    cases there

theorem DirectoriesMade.trans (first : DirectoriesMade paths before middle)
    (second : DirectoriesMade paths middle after) : DirectoriesMade paths before after where
  current := second.current.trans first.current
  kept := first.kept.trans second.kept
  made := by
    intro place item absent there
    cases between : middle.item? place with
    | none => exact second.made place item between there
    | some old =>
        obtain ⟨rfl, path, legal, resolved⟩ := first.made place old absent between
        cases (second.kept place _ between).symm.trans there
        exact ⟨rfl, path, legal, second.kept.resolve second.current true path place resolved⟩

theorem DirectoriesMade.mono {others : Text → Prop} (made : DirectoriesMade paths before after)
    (wider : ∀ path, paths path → others path) : DirectoriesMade others before after where
  current := made.current
  kept := made.kept
  made := by
    intro place item absent there
    obtain ⟨same, path, legal, resolved⟩ := made.made place item absent there
    exact ⟨same, path, wider path legal, resolved⟩

theorem keeps_put (fs : FileSystem) (place : Location) (item : Item) (absent : fs.item? place = none) :
    Keeps fs (fs.put place item) := by
  intro other old there
  rw [item_put, if_neg]
  · exact there
  · rintro rfl
    rw [absent] at there
    cases there

theorem make_directory_ok (path : Text) (made : fs.makeDirectory path = .ok after) :
    ∃ place, fs.targetPlace path = .ok place ∧ fs.item? place = none ∧
      after = fs.put place Item.newDirectory := by
  unfold makeDirectory at made
  split at made
  · cases made
  · cases made
  · rename_i place target
    by_cases there : (fs.item? place).isSome = true
    · rw [if_pos there] at made
      cases made
    · rw [if_neg there] at made
      obtain ⟨_, _, done⟩ := bind_ok.mp made
      cases done
      exact ⟨place, target, by simpa using there, rfl⟩

-- What is put at the end of a path is found there. When a slash asks for a directory it must be one.
theorem Targets.resolve {path : Text} {parent : Location} {front : List Text} {name : Text}
    (targets : Targets fs path parent front name) (item : Item)
    (there : fs.item? (parent ++ [name]) = some item) (other : item.isLink = false)
    (asked : Text.endsWith ['/'] path = true → fs.checkDirectory (parent ++ [name]) = .ok ()) :
    fs.resolve true path = .ok (parent ++ [name]) := by
  refine (resolve_ok _ _ _).mpr ⟨targets.usable, ?_⟩
  unfold pathNames
  rw [targets.names, List.append_assoc]
  refine targets.leads.append fun left => ?_
  refine .down left parent _ name _ _ targets.inside targets.plain there other ?_
  by_cases closed : Text.endsWith ['/'] path = true
  · rw [if_pos closed]
    exact .stay left _ _ [] (asked closed) (.here left _)
  · rw [if_neg closed]
    exact .here left _

theorem Targets.keeps {path : Text} {parent : Location} {front : List Text} {name : Text}
    (targets : Targets before path parent front name) (keeps : Keeps before after)
    (current : after.current = before.current) : Targets after path parent front name where
  usable := targets.usable
  names := targets.names
  leads := current ▸ keeps.leads targets.leads
  inside := keeps.check parent targets.inside
  plain := targets.plain

theorem make_directory_made (path : Text) (made : fs.makeDirectory path = .ok after) :
    DirectoriesMade (· = path) fs after := by
  obtain ⟨place, target, absent, rfl⟩ := make_directory_ok path made
  have keeps := keeps_put fs place Item.newDirectory absent
  refine { current := rfl, kept := keeps, made := ?_ }
  intro other item free there
  rw [item_put] at there
  by_cases same : other = place
  · rw [if_pos same] at there
    cases there
    obtain ⟨parent, front, name, targets, rfl⟩ := (target_place_ok _ _).mp target
    rw [same]
    have put : (fs.put (parent ++ [name]) Item.newDirectory).item? (parent ++ [name]) =
        some Item.newDirectory := by rw [item_put, if_pos rfl]
    refine ⟨rfl, path, rfl, (targets.keeps keeps rfl).resolve _ put rfl fun _ => ?_⟩
    exact (check_directory_ok _ _).mpr ⟨_, put, rfl, by decide⟩
  · rw [if_neg same, free] at there
    cases there

theorem make_directories_made (fuel : Nat) (path : Text) (fs : FileSystem) :
    DirectoriesMade (Path.Around path) fs (fs.makeDirectories fuel path).2 := by
  have one (path : Text) (fs after : FileSystem) (made : fs.makeDirectory path = .ok after) :
      DirectoriesMade (Path.Around path) fs after :=
    (make_directory_made path made).mono fun _ same => same ▸ .self
  fun_induction makeDirectories fuel path fs with
  | case1 => exact .refl _ fs
  | case2 fuel path _ after made => exact one path fs after made
  | case3 path _ _ parent up _ _ middle around ih =>
      rw [around] at ih
      exact ih.mono fun _ => Path.Around.outward up
  | case4 path _ _ parent up _ middle around after made ih =>
      rw [around] at ih
      exact (ih.mono fun _ => Path.Around.outward up).trans (one path middle after made)
  | case5 path _ _ parent up _ middle around _ _ ih =>
      rw [around] at ih
      exact ih.mono fun _ => Path.Around.outward up
  | case6 => exact .refl _ fs

theorem Leads.starts_there {followLast : Bool} {links : Nat} {place found : Location} {names : List Text}
    (leads : Leads fs followLast links place names found) (item : Item)
    (there : fs.item? found = some item) : fs.checkDirectory place ≠ .error .notFound := by
  cases leads with
  | here =>
      unfold checkDirectory
      rw [there]
      by_cases directory : item.isDirectory = true
      · by_cases searchable : item.isSearchable = true <;> simp [directory, searchable]
      · simp [directory]
  | stay _ _ _ _ inside => simp [inside]
  | up _ _ _ _ inside => simp [inside]
  | down _ _ _ _ _ _ inside => simp [inside]
  | link _ _ _ _ _ _ _ _ inside => simp [inside]
  | last _ _ _ _ _ _ inside => simp [inside]

theorem Leads.first_there {followLast : Bool} {links : Nat} {place found : Location} {name : Text}
    {rest : List Text} (leads : Leads fs followLast links place (name :: rest) found)
    (plain : Plain name) : (fs.item? (place ++ [name])).isSome = true := by
  cases leads with
  | stay => exact absurd rfl plain.notHere
  | up => exact absurd rfl plain.notUp
  | down _ _ _ _ _ item _ _ there => simp [there]
  | link _ _ _ _ _ _ _ _ _ _ there => simp [there]
  | last _ _ _ _ _ _ _ _ there => simp [there]

theorem found_by_name (path : Text) (found : Location × Item) (there : fs.find true path = .ok found) :
    ∃ parent, fs.walk true linkLimit (startFrom fs.current path) (Text.segments path).dropLast = .ok parent ∧
      fs.checkDirectory parent ≠ .error .notFound ∧
      ∀ front name, Text.segments path = front ++ [name] → Plain name →
        (fs.item? (parent ++ [name])).isSome = true := by
  obtain ⟨resolved, own⟩ := (find_ok _ _ found.1 found.2).mp there
  obtain ⟨_, leads⟩ := (resolve_ok _ _ _).mp resolved
  unfold pathNames at leads
  cases names : Text.segments path using List.reverseRecOn with
  | nil =>
      refine ⟨startFrom fs.current path, ?_, leads.starts_there _ own, ?_⟩
      · exact (walk_ok _ _ _ _ _).mpr (.here linkLimit _)
      · intro front name none
        cases List.append_eq_nil_iff.mp none.symm with
        | intro _ last => cases last
  | append_singleton front name =>
      rw [names, List.append_assoc] at leads
      obtain ⟨left, parent, before, behind⟩ := leads.split _ _ rfl
      refine ⟨parent, ?_, behind.starts_there _ own, ?_⟩
      · rw [List.dropLast_concat]
        exact (walk_ok _ _ _ _ _).mpr before
      · intro others last same plain
        cases (List.append_inj' same rfl).2
        exact behind.first_there plain

theorem last_name_failed (names : List Text) (parent : Location) (e : FileFault)
    (failed : lastName names parent = .error e) : e ≠ .notFound := by
  unfold lastName at failed
  split at failed
  · cases failed
    decide
  · rename_i name _
    by_cases special : name = ['.'] ∨ name = ['.', '.']
    · rw [if_pos special] at failed
      cases failed
      decide
    by_cases long : nameLimit < Text.utf8Size name
    · rw [if_neg special, if_pos long] at failed
      cases failed
      decide
    · rw [if_neg special, if_neg long] at failed
      cases failed

theorem make_directory_there (path : Text) (found : Location × Item)
    (there : fs.find true path = .ok found) :
    ∃ e, e ≠ FileFault.notFound ∧ fs.makeDirectory path = .error e := by
  obtain ⟨parent, walked, starts, first⟩ := found_by_name path found there
  obtain ⟨usable, _⟩ := (resolve_ok _ _ _).mp ((find_ok _ _ found.1 found.2).mp there).1
  have steps : fs.targetPlace path = (do
      fs.checkDirectory parent
      lastName (Text.segments path) parent) := by
    rw [target_place_steps fs path usable, walked]
    rfl
  unfold makeDirectory
  cases target : fs.targetPlace path with
  | error e =>
      have legal : e ≠ .notFound := by
        rw [target] at steps
        rcases bind_error.mp steps.symm with outside | ⟨_, _, late⟩
        · intro same
          exact starts (same ▸ outside)
        · exact last_name_failed _ _ e late
      by_cases busy : e = .busy
      · exact ⟨.alreadyExists, by decide, by rw [busy]⟩
      · exact ⟨e, legal, by simp⟩
  | ok place =>
      obtain ⟨_, _, done⟩ := bind_ok.mp (steps.symm.trans target)
      obtain ⟨front, name, names, plain, rfl⟩ := (last_name_ok _ _ _).mp done
      refine ⟨.alreadyExists, by decide, ?_⟩
      simp [first front name names plain]
      rfl

theorem make_directories_there (fuel : Nat) (path : Text) (directory : fs.isDirectory path = true) :
    fs.makeDirectories fuel path = (.ok (), fs) := by
  obtain ⟨found, there⟩ : ∃ found, fs.find true path = .ok found := by
    unfold isDirectory at directory
    cases there : fs.find true path with
    | error e => simp [there] at directory
    | ok found => exact ⟨found, rfl⟩
  obtain ⟨e, other, failed⟩ := make_directory_there path found there
  unfold makeDirectories
  by_cases empty : path = []
  · rw [if_pos empty]
  · simp [empty, failed, other, directory]

end FileSystem

end Shading
