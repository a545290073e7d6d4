import Shading.Proofs.Fallible
import Shading.Proofs.Relocation.FileNames
import Shading.Settings

set_option autoImplicit false

namespace Shading.Settings

open Fallible

theorem task_transformers (s : Settings) (task : Task) (built : s.task = .ok task) :
    ∃ resources merger, s.resources = .ok resources ∧ s.serviceMerger = .ok merger ∧
      task.transformers = [.filter resources, .services merger] := by
  obtain ⟨chain, _, rest⟩ := bind_ok.mp built
  obtain ⟨resources, filtering, rest⟩ := bind_ok.mp rest
  obtain ⟨merger, merging, final⟩ := bind_ok.mp rest
  cases final
  exact ⟨resources, merger, filtering, merging, rfl⟩

theorem task_names_files (s : Settings) (task : Task) (built : s.task = .ok task) :
    ∀ t ∈ task.transformers, t.NamesFiles := by
  obtain ⟨resources, merger, _, merging, transformers⟩ := s.task_transformers task built
  obtain ⟨services, _, final⟩ := bind_ok.mp merging
  cases final
  rw [transformers]
  intro t member
  cases List.mem_cons.mp member with
  | inl first =>
      rw [first]
      trivial
  | inr second =>
      rw [List.mem_singleton.mp second]
      intro entry collected
      contradiction

theorem task_coherent (s : Settings) (task : Task) (built : s.task = .ok task) :
    ∀ r ∈ task.chain, r.Coherent := by
  obtain ⟨chain, read, rest⟩ := bind_ok.mp built
  obtain ⟨_, _, rest⟩ := bind_ok.mp rest
  obtain ⟨_, _, final⟩ := bind_ok.mp rest
  cases final
  intro r member
  have each := map_m_ok RelocationSetting.relocation s.relocations chain read
  obtain ⟨n, bound, rfl⟩ := List.mem_iff_getElem.mp member
  have made := each.get (each.length_eq ▸ bound) bound
  exact Relocation.with_filters_coherent _ _ _ _ _ made

end Shading.Settings
