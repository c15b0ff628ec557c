import InstanceOperator.Drift.Difference

/-!
# What differences tell

A difference belongs to one part of the comparison: to the metadata, to what is particular to a
kind, or to the kinds themselves. So the difference of kinds says that the kinds differ, and nothing
else does (`kind_mem_detectDrift_iff`).
-/

namespace InstanceOperator

/-! ## Differences of kinds -/

theorem kind_not_mem_metadataDifferences (want live : Metadata) (k l : Kind) :
    .kind k l ∉ metadataDifferences want live := by
  intro h
  rcases List.mem_append.1 h with h | h
  · obtain ⟨label, -, hlabel⟩ := List.mem_filterMap.1 h
    unfold labelDifference? at hlabel
    split at hlabel
    · split at hlabel <;> cases hlabel
    · cases hlabel
  · obtain ⟨owner, -, howner⟩ := List.mem_filterMap.1 h
    split at howner <;> cases howner

theorem kind_not_mem_deploymentDifferences (want live : Deployment) (k l : Kind) :
    .kind k l ∉ deploymentDifferences want live := by
  intro h
  rcases List.mem_append.1 h with h | h
  · split at h <;> simp at h
  · obtain ⟨container, -, hcontainer⟩ := List.mem_flatMap.1 h
    unfold containerDifferences at hcontainer
    split at hcontainer
    · simp at hcontainer
    · rcases List.mem_append.1 hcontainer with hc | hc
      · split at hc <;> simp at hc
      · obtain ⟨port, -, hport⟩ := List.mem_filterMap.1 hc
        split at hport <;> cases hport

theorem kind_not_mem_serviceDifferences (want live : Service) (k l : Kind) :
    .kind k l ∉ serviceDifferences want live := by
  intro h
  rcases List.mem_append.1 h with h | h
  · split at h <;> simp at h
  · obtain ⟨port, -, hport⟩ := List.mem_filterMap.1 h
    split at hport <;> cases hport

theorem kind_not_mem_ingressDifferences (want live : Ingress) (k l : Kind) :
    .kind k l ∉ ingressDifferences want live := by
  intro h
  obtain ⟨route, -, hroute⟩ := List.mem_filterMap.1 h
  split at hroute <;> cases hroute

/-- A difference of kinds is found between dependents of different kinds, and only there. -/
theorem kind_mem_detectDrift_iff {want live : Dependent} :
    (∃ k l, .kind k l ∈ detectDrift want live) ↔ live.kind ≠ want.kind := by
  constructor
  · rintro ⟨k, l, h⟩ heq
    rcases List.mem_append.1 h with h | h
    · exact kind_not_mem_metadataDifferences _ _ k l h
    · cases want <;> cases live <;> first
        | exact kind_not_mem_deploymentDifferences _ _ k l h
        | exact kind_not_mem_serviceDifferences _ _ k l h
        | exact kind_not_mem_ingressDifferences _ _ k l h
        | cases heq
  · intro hne
    refine ⟨live.kind, want.kind, List.mem_append_right _ ?_⟩
    cases want <;> cases live <;> simp_all [Dependent.kind]

end InstanceOperator
