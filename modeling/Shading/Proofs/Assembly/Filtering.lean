import Shading.Proofs.Assembly.FirstEntry
import Shading.Proofs.Settings

set_option autoImplicit false

namespace Shading

open Fallible

def Transformer.Spares (path : Text) : Transformer → Prop
  | .filter _ => True
  | .services merger => merger.services.contains path = false

namespace Assembly

variable {task : Task} {a : Assembly}

theorem take_spares (t : Transformer) (path : Text) (chain : Chain) (target : Text) (content : Bytes)
    (spares : t.Spares path) : (t.take chain target content).Spares path := by
  cases t with
  | filter accepted => trivial
  | services merger => exact spares

theorem spared_take (t : Transformer) (path : Text) (chain : Chain) (target : Text) (content : Bytes)
    (spares : t.Spares path) : (if t.claims path then t.take chain target content else t) = t := by
  cases t with
  | filter accepted =>
      by_cases claims : (Transformer.filter accepted).claims path = true
      · rw [if_pos claims]
        rfl
      · rw [if_neg claims]
  | services merger => rw [Transformer.claims, spares, if_neg (by decide)]

theorem visit_spared (e : SourceEntry) (content : Bytes) (file : e.isDirectory = false)
    (plain : isClass task e.path = false) (read : e.content = .ok content)
    (claimed : a.isClaimed e.path = true) (spared : ∀ t ∈ a.transformers, t.Spares e.path) :
    visit task a e = .ok a := by
  have same : a.transformers.map (fun t => if t.claims e.path then
      t.take task.chain (task.chain.mapPath e.path) content else t) = a.transformers := by
    conv => rhs; rw [← a.transformers.map_id']
    exact List.map_congr_left fun t member => spared_take t e.path _ _ _ (spared t member)
  unfold visit
  rw [file, plain, claimed]
  by_cases excluded : task.exclusions.excludes e.path = true
  · simp [excluded]
  · simp [excluded, transform, read, same]

theorem filtered_resource_leaves_no_trace (s : Settings) (task : Task) (resources : PatternSet)
    (merger : ServiceMerger) (built : s.task = .ok task) (filtering : s.resources = .ok resources)
    (merging : s.serviceMerger = .ok merger) (before after : List Event) (e : SourceEntry)
    (input : Text) (content : Bytes) (file : e.isDirectory = false)
    (plain : isClass task e.path = false) (rejected : resources.contains e.path = false)
    (read : e.content = .ok content) (unmerged : merger.services.contains e.path = false) :
    run task (before ++ .entry e input :: after) = run task (before ++ after) := by
  obtain ⟨_, _, sameFilter, sameMerger, transformers⟩ := s.task_transformers task built
  cases filtering.symm.trans sameFilter
  cases merging.symm.trans sameMerger
  refine run_without before after e input fun a past => ?_
  have visited := run_visited before past
  have claimed : a.isClaimed e.path = true := by
    rw [visited.faithful e.path, transformers]
    simp [Transformer.claims, rejected]
  refine visit_spared e content file plain read claimed ?_
  rw [visited.offered]
  refine offers_each (Transformer.Spares e.path) task _ ?_ fun _ _ _ t content spares =>
    take_spares t e.path task.chain _ content spares
  rw [transformers]
  simp [Transformer.Spares, unmerged]

def keptOut : Settings where
  resourceExcludes := ["secret/".toList, "META-INF/services/x.*".toList]

theorem secret_leaves_no_trace : ∃ task, keptOut.task = .ok task ∧
    run task [.entry (resource "secret/key".toList [1]) ['x'],
        .entry (resource "META-INF/services/y.S".toList [121]) ['x']] =
      run task [.entry (resource "META-INF/services/y.S".toList [121]) ['x']] := by
  refine ⟨_, rfl, ?_⟩
  exact filtered_resource_leaves_no_trace keptOut _ _ _ rfl rfl rfl [] _ _ ['x'] [1] rfl
    (by decide +kernel) (by decide +kernel) rfl (by decide +kernel)

-- The filter rejects the descriptor and takes it, and so does the merger, which writes it.
theorem rejected_descriptor_is_merged : ∃ task resources, keptOut.task = .ok task ∧
    keptOut.resources = .ok resources ∧
    resources.contains "META-INF/services/x.S".toList = false ∧
    isClass task "META-INF/services/x.S".toList = false ∧
    run task [.entry (resource "META-INF/services/x.S".toList [120]) ['x']] ≠ run task [] := by
  refine ⟨_, _, rfl, rfl, by decide +kernel, by decide +kernel, fun same => ?_⟩
  have lengths := congrArg (fun r => Except.map List.length r) same
  revert lengths
  decide +kernel

end Assembly

end Shading
