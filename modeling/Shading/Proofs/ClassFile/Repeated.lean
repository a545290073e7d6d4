import Shading.Proofs.ClassFile.ReadBack
import Shading.Proofs.ClassFile.Unchanged
import Shading.Proofs.Relocation.OutOfReach

set_option autoImplicit false

namespace Shading

open Fallible

variable {chain : Chain}

theorem Chain.OutOfReach.signature_again (reach : chain.OutOfReach) (text s : Text)
    (renamed : Signature.rename chain.mapName? text = .ok s) :
    Signature.rename chain.mapName? s = .ok s := by
  have follows : Signature.Follows chain.mapName? chain.mapName? chain.mapName? :=
    fun name _ => (reach.map_path_again name).symm
  rw [Signature.rename_rename reach.nesting follows text s renamed, renamed]

theorem bracket_first (text : Text) : Text.startsWith ['['] text = true ↔ text.head? = some '[' := by
  unfold Text.startsWith
  rw [List.isPrefixOf_iff_prefix]
  cases text with
  | nil => simp
  | cons c rest =>
      rw [List.cons_prefix_cons, List.head?_cons, Option.some.injEq, and_iff_left List.nil_prefix]
      exact eq_comm

theorem Role.rename_again (reach : chain.OutOfReach) (role : Role) (text s : Text)
    (renamed : role.rename chain text = .ok s) : role.rename chain s = .ok s := by
  cases role with
  | fixed => rfl
  | className =>
      simp only [Role.rename] at renamed ⊢
      by_cases array : Text.startsWith ['['] text = true
      · rw [if_pos array] at renamed
        have first := Signature.rename_head _ text s renamed
        rw [if_pos ((bracket_first s).mpr (first.trans ((bracket_first text).mp array)))]
        exact reach.signature_again text s renamed
      · rw [if_neg array] at renamed
        have moved : chain.mapPath text = s := Except.ok.inj renamed
        have first := reach.map_path_first text (mt (bracket_first text).mpr array)
        rw [moved] at first
        rw [if_neg (mt (bracket_first s).mp first)]
        have again := reach.map_path_again text
        rw [moved] at again
        exact congrArg Except.ok again
  | descriptor => exact reach.signature_again text s renamed
  | signature => exact reach.signature_again text s renamed
  | stringValue =>
      rw [← show chain.mapString text = s from Except.ok.inj renamed]
      exact congrArg Except.ok (reach.map_string_again text)
  | packageName => exact congrArg Except.ok (reach.map_package_again text s (Except.ok.inj renamed))

namespace ClassFile

theorem kept_of_renamed (reach : chain.OutOfReach) (c after : ClassFile) (done : c.rename chain = .ok after) :
    ∀ v ∈ after.uses, v.Kept chain after.pool := by
  obtain ⟨pool, f, renamed⟩ := rename_renamed chain c after done
  rw [renamed.uses_after]
  refine List.forall_mem_map.mpr fun u used => ?_
  by_cases fixed : u.role = .fixed
  · exact .inl fixed
  · obtain ⟨target, wanted, _⟩ := renamed.wanted u used
    obtain ⟨payload, found⟩ := u.payload_of_target chain c.pool fixed target wanted
    obtain ⟨_, each⟩ := renamed.follows u used
    obtain ⟨stays, changes⟩ := each payload found
    by_cases keeps : u.role.Keeps chain payload
    · exact .inr ⟨payload, stays keeps, keeps⟩
    · obtain ⟨text, s, _, answer, read⟩ := changes keeps
      obtain ⟨bytes, final, decoded⟩ := (Pool.text_ok _ _ _).mp read
      exact .inr ⟨bytes, final, .inr (.inr ⟨s, decoded, u.role.rename_again reach text s answer⟩)⟩

theorem relocating_again_changes_nothing (chain : Chain)
    (rules : ∀ r ∈ chain, ∃ pattern target?, r = Relocation.unfiltered pattern target? ∧
      PackageText pattern ∧ ∀ target, target? = some target → PackageText target)
    (apart : ∀ r ∈ chain, ∀ q ∈ chain, ¬ q.pathTarget <+: r.pathPattern ∧ ¬ r.pathPattern <+: q.pathTarget)
    (bytes once : Bytes)
    (inside : ∀ c, parse bytes = .ok c → ∀ n ∈ c.attributeNames, n.toNat < c.pool.size)
    (done : relocate chain bytes = .ok once) : relocate chain once = .ok once := by
  have packages : ∀ r ∈ chain, r.BetweenPackages := by
    intro r listed
    obtain ⟨pattern, target?, rfl, package, targets⟩ := rules r listed
    exact Relocation.unfiltered_between_packages pattern target? package targets
  have reach : chain.OutOfReach := ⟨packages, apart⟩
  obtain ⟨c, parsed, rest⟩ := bind_ok.mp done
  obtain ⟨after, renamed, written⟩ := bind_ok.mp rest
  obtain ⟨out, same, back, _⟩ := rename_written bytes c parsed (inside c parsed) chain after renamed
  cases written.symm.trans same
  have kept := kept_of_renamed reach c after renamed
  have count := (written_back once after back).symm.trans written
  rw [relocate_of_kept chain once after back fun u used => u.target_of_kept chain after.pool (kept u used)]
  exact count

theorem signature_package : PackageText ['S', 'i', 'g', 'n', 'a', 't', 'u', 'r', 'e'] :=
  ⟨[['S', 'i', 'g', 'n', 'a', 't', 'u', 'r', 'e']], by decide, by decide, by decide, by decide⟩

theorem letter_package : PackageText ['b'] := ⟨[['b']], by decide, by decide, by decide, by decide⟩

theorem named_alike_stays_once_moved : ∃ bytes once, parse bytes = .ok namedAlike ∧
    relocate signatureMoved bytes = .ok once ∧ relocate signatureMoved once = .ok once := by
  have parsed := parse_of_written namedAlike named_alike_well_formed _ rfl
  obtain ⟨after, renamed⟩ := named_alike_renames
  obtain ⟨once, written, _, _⟩ :=
    rename_written _ namedAlike parsed named_alike_inside signatureMoved after renamed
  have done : relocate signatureMoved _ = .ok once :=
    bind_ok.mpr ⟨namedAlike, parsed, bind_ok.mpr ⟨after, renamed, written⟩⟩
  refine ⟨_, once, parsed, done,
    relocating_again_changes_nothing signatureMoved ?_ ?_ _ once ?_ done⟩
  · intro r listed
    rw [List.mem_singleton.mp listed]
    exact ⟨_, _, rfl, signature_package, fun target same => Option.some.inj same ▸ letter_package⟩
  · decide
  · intro c same
    cases parsed.symm.trans same
    exact named_alike_inside

end ClassFile

end Shading
