import Shading.Proofs.ClassFile.ReadBack

set_option autoImplicit false

namespace Shading

def Bytes.u16At? (data : Bytes) (place : Nat) : Option UInt16 :=
  match data.drop place with
  | a :: b :: _ => some (a.toUInt16 <<< 8 ||| b.toUInt16)
  | _ => none

-- Where the bytes of an attribute hold the indices of names. A class without an inner name and a
-- parameter without a name have the index 0.
def hiddenPlaces (label : Text) (data : Bytes) : List Nat :=
  if label = "SourceFile".toList then [0]
  else if label = "InnerClasses".toList then
    (List.range ((data.u16At? 0).getD 0).toNat).map fun k => 2 + 8 * k + 4
  else if label = "MethodParameters".toList then
    (List.range (data.headD 0).toNat).map fun k => 1 + 4 * k
  else []

mutual
def AttributeBody.hiddenNames (pool : Pool) (label : Text) : AttributeBody → List UInt16
  | .code _ _ _ _ attributes => Attribute.hiddenNamesOfAll pool attributes
  | .record components => RecordComponent.hiddenNamesOfAll pool components
  | .raw data => (hiddenPlaces label data).filterMap data.u16At?
  | _ => []
termination_by structural body => body

def Attribute.hiddenNames (pool : Pool) : Attribute → List UInt16
  | .mk name body => body.hiddenNames pool ((pool.text name).toOption.getD [])
termination_by structural a => a

def Attribute.hiddenNamesOfAll (pool : Pool) : List Attribute → List UInt16
  | [] => []
  | a :: rest => a.hiddenNames pool ++ Attribute.hiddenNamesOfAll pool rest
termination_by structural attributes => attributes

def RecordComponent.hiddenNames (pool : Pool) : RecordComponent → List UInt16
  | .mk _ _ attributes => Attribute.hiddenNamesOfAll pool attributes
termination_by structural component => component

def RecordComponent.hiddenNamesOfAll (pool : Pool) : List RecordComponent → List UInt16
  | [] => []
  | component :: rest => component.hiddenNames pool ++ RecordComponent.hiddenNamesOfAll pool rest
termination_by structural components => components
end

def ClassFile.hiddenNames (c : ClassFile) : List UInt16 :=
  (c.fields.flatMap fun m => Attribute.hiddenNamesOfAll c.pool m.attributes) ++
    (c.methods.flatMap fun m => Attribute.hiddenNamesOfAll c.pool m.attributes) ++
    Attribute.hiddenNamesOfAll c.pool c.attributes

section MapUses

variable {f : Repointing} {before after : Pool}

mutual
theorem AttributeBody.map_uses_hidden_names (names : f.KeepsNames) (body : AttributeBody)
    (label : Text) (same : ∀ n ∈ body.attributeNames, after.text n = before.text n) :
    (body.mapUses f).hiddenNames after label = body.hiddenNames before label := by
  cases body with
  | code maxStack maxLocals instructions handlers attributes =>
      exact Attribute.map_uses_hidden_names_of_all names attributes same
  | record components => exact RecordComponent.map_uses_hidden_names_of_all names components same
  | _ => rfl
termination_by structural body

theorem Attribute.map_uses_hidden_names (names : f.KeepsNames) (a : Attribute)
    (same : ∀ n ∈ a.attributeNames, after.text n = before.text n) :
    (a.mapUses f).hiddenNames after = a.hiddenNames before := by
  cases a with
  | mk name body =>
      obtain ⟨own, inner⟩ := List.forall_mem_cons.mp same
      have bodies := body.map_uses_hidden_names names ((before.text name).toOption.getD []) inner
      rw [Attribute.mapUses, Attribute.hiddenNames, Attribute.hiddenNames, names name, own, bodies]
termination_by structural a

theorem Attribute.map_uses_hidden_names_of_all (names : f.KeepsNames) (attributes : List Attribute)
    (same : ∀ n ∈ Attribute.namesOfAll attributes, after.text n = before.text n) :
    Attribute.hiddenNamesOfAll after (Attribute.mapUsesOfAll f attributes) =
      Attribute.hiddenNamesOfAll before attributes := by
  cases attributes with
  | nil => rfl
  | cons a rest =>
      obtain ⟨here, there⟩ := List.forall_mem_append.mp same
      rw [Attribute.mapUsesOfAll, Attribute.hiddenNamesOfAll, Attribute.hiddenNamesOfAll,
        a.map_uses_hidden_names names here, Attribute.map_uses_hidden_names_of_all names rest there]
termination_by structural attributes

theorem RecordComponent.map_uses_hidden_names (names : f.KeepsNames) (component : RecordComponent)
    (same : ∀ n ∈ component.attributeNames, after.text n = before.text n) :
    (component.mapUses f).hiddenNames after = component.hiddenNames before := by
  cases component with
  | mk name descriptor attributes => exact Attribute.map_uses_hidden_names_of_all names attributes same
termination_by structural component

theorem RecordComponent.map_uses_hidden_names_of_all (names : f.KeepsNames)
    (components : List RecordComponent)
    (same : ∀ n ∈ RecordComponent.namesOfAll components, after.text n = before.text n) :
    RecordComponent.hiddenNamesOfAll after (RecordComponent.mapUsesOfAll f components) =
      RecordComponent.hiddenNamesOfAll before components := by
  cases components with
  | nil => rfl
  | cons component rest =>
      obtain ⟨here, there⟩ := List.forall_mem_append.mp same
      rw [RecordComponent.mapUsesOfAll, RecordComponent.hiddenNamesOfAll, RecordComponent.hiddenNamesOfAll,
        component.map_uses_hidden_names names here,
        RecordComponent.map_uses_hidden_names_of_all names rest there]
termination_by structural components
end

theorem Member.map_uses_hidden_names_of_all (names : f.KeepsNames) (members : List Member)
    (same : ∀ n ∈ members.flatMap fun m => Attribute.namesOfAll m.attributes, after.text n = before.text n) :
    ((members.map (Member.mapUses f)).flatMap fun m => Attribute.hiddenNamesOfAll after m.attributes) =
      members.flatMap fun m => Attribute.hiddenNamesOfAll before m.attributes := by
  induction members with
  | nil => rfl
  | cons m rest ih =>
      rw [List.flatMap_cons, List.forall_mem_append] at same
      rw [List.map_cons, List.flatMap_cons, List.flatMap_cons, ih same.2]
      exact congrArg (· ++ _) (Attribute.map_uses_hidden_names_of_all names m.attributes same.1)

end MapUses

theorem Wish.stays_agreed (targets : List (Option Text)) (s : Text) (w : Wish) (texts : w.texts = [s])
    (agreed : ∀ target ∈ targets, target = some s) : ofTargets targets w = w := by
  induction targets with
  | nil => rfl
  | cons target rest ih =>
      obtain ⟨rfl, others⟩ := List.forall_mem_cons.mp agreed
      have same : w.add (some s) = w := if_pos (by simp [texts])
      rw [ofTargets, List.foldl_cons, same]
      exact ih others

theorem Wish.in_place_of_targets (targets : List (Option Text)) (s : Text) (filled : targets ≠ [])
    (agreed : ∀ target ∈ targets, target = some s) : (ofTargets targets {}).inPlace? = some s := by
  obtain ⟨target, rest, rfl⟩ := List.exists_cons_of_ne_nil filled
  obtain ⟨rfl, others⟩ := List.forall_mem_cons.mp agreed
  have all : ofTargets (some s :: rest) {} = ⟨false, [s]⟩ := Wish.stays_agreed rest s ⟨false, [s]⟩ rfl others
  rw [all]
  rfl

namespace ClassFile

variable {chain : Chain} {c after : ClassFile}

theorem not_split_of_agreed (plan : RenamingPlan) (answers : plan.Answers chain c) (i : UInt16) (s : Text)
    (inside : i.toNat < c.pool.size) (agreed : c.Agreed chain i.toNat s) : plan.isSplit i = false := by
  obtain ⟨⟨u, used, here⟩, all⟩ := agreed
  have wish := RenamingPlan.collect_at c.pool.size plan.targets i.toNat inside
  obtain ⟨target, _, entry⟩ := answers.target_of_use u used
  have filled := List.ne_nil_of_mem ((RenamingPlan.mem_targets_at _ _ _).mpr ⟨u, entry, here⟩)
  have place := Wish.in_place_of_targets _ s filled fun other member => by
    obtain ⟨v, listed, there⟩ := (RenamingPlan.mem_targets_at _ _ _).mp member
    obtain ⟨also, answer⟩ := answers.use_of_target v other listed
    exact Except.ok.inj (answer.symm.trans (all v also there))
  unfold RenamingPlan.isSplit
  rw [answers.wishes, wish]
  simp [Wish.isSplit, place]

theorem payload_of_agreed (renamed : c.rename chain = .ok after) (i : UInt16) (payload : Bytes)
    (found : c.pool.payload i = .ok payload) (s : Text) (agreed : c.Agreed chain i.toNat s) :
    after.pool.payload i = .ok (ModifiedUtf8.encodeAll s) := by
  obtain ⟨plan, edited, pool, appended, made, editing, appending, rfl⟩ := rename_steps chain c after renamed
  have answers := RenamingPlan.make_answers chain c plan made
  have edits := answers.edit_ok c.pool edited editing
  obtain ⟨texts, grown⟩ := RenamingPlan.append_grows edited (pool, appended) appending
  have inside := (Array.getElem?_eq_some_iff.mp ((Pool.payload_ok _ _ _).mp found)).1
  have whole := not_split_of_agreed plan answers i s inside agreed
  obtain ⟨⟨u, used, here⟩, all⟩ := agreed
  obtain rfl : u.index = i := UInt16.toNat_inj.mp here
  obtain ⟨target, wanted, entry⟩ := answers.target_of_use u used
  cases wanted.symm.trans (all u used rfl)
  have slot := answers.slot_of_use edited (pool, appended) texts edits grown u _ entry wanted payload found
  unfold RenamingPlan.repoint at slot
  rw [whole] at slot
  exact (renamed_of_steps chain c plan edited pool appended made editing appending).payload_after _ _ slot

-- A text changes just where all uses that are seen agree on a new one.
theorem payload_stays_iff (renamed : c.rename chain = .ok after) (i : UInt16) (payload : Bytes)
    (found : c.pool.payload i = .ok payload) :
    after.pool.payload i = .ok payload ↔ ¬ ∃ s, c.Agreed chain i.toNat s := by
  constructor
  · rintro stays ⟨s, agreed⟩
    cases stays.symm.trans (payload_of_agreed renamed i payload found s agreed)
    obtain ⟨⟨u, used, here⟩, all⟩ := agreed
    obtain rfl : u.index = i := UInt16.toNat_inj.mp here
    obtain ⟨changes, text, decoded, answer⟩ := Use.target_some chain c.pool u _ s found (all u used rfl)
    cases decoded.symm.trans (ModifiedUtf8.decode_encoded s)
    exact changes (.inr (.inr ⟨s, decoded, answer⟩))
  · intro none
    have slot := (Pool.payload_ok _ _ _).mp found
    obtain ⟨l, now, repointed | ⟨_, s, _, _, agreed⟩⟩ := (rename_framed chain c after renamed).slots i.toNat _ slot
    · rw [payload_of_repointed c.pool after.pool i _ l slot now repointed]
      exact found
    · exact absurd ⟨s, agreed⟩ none

theorem hidden_names_after (renamed : c.rename chain = .ok after)
    (inside : ∀ n ∈ c.attributeNames, n.toNat < c.pool.size) : after.hiddenNames = c.hiddenNames := by
  have same := (rename_framed chain c after renamed).attribute_names_read inside
  obtain ⟨plan, _, pool, appended, _, _, _, result⟩ := rename_steps chain c after renamed
  have names := plan.repoint_keeps_names chain c.pool appended
  simp only [attributeNames, List.forall_mem_append] at same
  obtain ⟨⟨fields, methods⟩, attributes⟩ := same
  subst result
  exact congrArg₂ (· ++ ·) (congrArg₂ (· ++ ·) (Member.map_uses_hidden_names_of_all names c.fields fields)
    (Member.map_uses_hidden_names_of_all names c.methods methods))
    (Attribute.map_uses_hidden_names_of_all names c.attributes attributes)

theorem hidden_names_stay_unless_agreed (chain : Chain) (c after : ClassFile)
    (renamed : c.rename chain = .ok after) :
    ((∀ n ∈ c.attributeNames, n.toNat < c.pool.size) → after.hiddenNames = c.hiddenNames) ∧
    ∀ i ∈ c.hiddenNames, ∀ payload, c.pool.payload i = .ok payload →
      (after.pool.payload i = .ok payload ↔ ¬ ∃ s, c.Agreed chain i.toNat s) :=
  ⟨hidden_names_after renamed, fun i _ payload found => payload_stays_iff renamed i payload found⟩

-- The text of a string constant is also the name of the source file.
def sourceNamed : ClassFile where
  minor := 0
  major := 61
  pool := ⟨#[.unusable, .utf8 [77], .classRef 1, .utf8 [97], .string 3,
    .utf8 (Text.utf8 "SourceFile".toList), .utf8 (Text.utf8 "java/lang/Object".toList), .classRef 6]⟩
  access := 33
  thisClass := 2
  superClass := 7
  interfaces := []
  fields := []
  methods := []
  attributes := [.mk 5 (.raw [0, 3])]

def innerNamed : ClassFile :=
  { sourceNamed with
    pool := ⟨sourceNamed.pool.slots.push (.utf8 (Text.utf8 "InnerClasses".toList))⟩
    attributes := [.mk 8 (.raw [0, 1, 0, 2, 0, 0, 0, 1, 0, 0])] }

theorem inner_name_stays : ∃ after, innerNamed.rename letterMoved = .ok after ∧
    after.hiddenNames = innerNamed.hiddenNames ∧ innerNamed.hiddenNames = [1] ∧
    innerNamed.pool.payload 1 = .ok [77] ∧ after.pool.payload 1 = .ok [77] := by
  have renamed : ∃ after, innerNamed.rename letterMoved = .ok after := ⟨_, rfl⟩
  obtain ⟨after, done⟩ := renamed
  obtain ⟨places, texts⟩ := hidden_names_stay_unless_agreed letterMoved innerNamed after done
  have unmoved : ¬ ∃ s, innerNamed.Agreed letterMoved 1 s := by
    rintro ⟨s, _, all⟩
    have stays : Use.target letterMoved innerNamed.pool ⟨1, .className⟩ = .ok none := rfl
    cases stays.symm.trans (all ⟨1, .className⟩ (by decide) rfl)
  have hidden : innerNamed.hiddenNames = [1] := by decide +kernel
  have listed : 1 ∈ innerNamed.hiddenNames := by rw [hidden]; exact List.mem_cons_self
  exact ⟨after, done, places (List.forall_mem_singleton.mpr (by decide)), hidden, rfl, (texts 1 listed [77] rfl).mpr unmoved⟩

theorem source_named_well_formed : sourceNamed.WellFormed where
  pool := .of_narrow [.utf8 [77], .classRef 1, .utf8 [97], .string 3,
    .utf8 (Text.utf8 "SourceFile".toList), .utf8 (Text.utf8 "java/lang/Object".toList), .classRef 6] (by decide)
  fields := nofun
  methods := nofun
  attributes := by
    intro a member
    cases List.mem_singleton.mp member
    exact .mk 5 (.raw [0, 3]) (by decide +kernel) (.raw [0, 3])

theorem source_named_agreed : sourceNamed.Agreed letterMoved 3 ['b'] := by
  refine ⟨⟨⟨3, .stringValue⟩, by decide, rfl⟩, ?_⟩
  decide +kernel

-- The class can be read. All uses of the string's text that are seen agree on a new one.
theorem source_name_moves_with_the_string : (∃ bytes, parse bytes = .ok sourceNamed) ∧
    sourceNamed.hiddenNames = [3] ∧ sourceNamed.pool.payload 3 = .ok [97] ∧
    ∃ after, sourceNamed.rename letterMoved = .ok after ∧ after.hiddenNames = [3] ∧
      after.pool.payload 3 = .ok [98] := by
  have written : ∃ bytes, sourceNamed.toBytes = .ok bytes := ⟨_, rfl⟩
  have renamed : ∃ after, sourceNamed.rename letterMoved = .ok after := ⟨_, rfl⟩
  have hidden : sourceNamed.hiddenNames = [3] := by decide +kernel
  obtain ⟨bytes, wrote⟩ := written
  obtain ⟨after, done⟩ := renamed
  refine ⟨⟨bytes, parse_of_written sourceNamed source_named_well_formed bytes wrote⟩, hidden, rfl, after, done,
    (hidden_names_after done (List.forall_mem_singleton.mpr (by decide))).trans hidden, ?_⟩
  exact payload_of_agreed done 3 [97] rfl ['b'] source_named_agreed

end ClassFile

end Shading
