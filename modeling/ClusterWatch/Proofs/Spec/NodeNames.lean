import ClusterWatch.Spec.Reader

/-!
The names and the places of a declaration's nodes: what is read without complaint repeats no name,
and an ordinal is a place.
-/

namespace ClusterWatch

theorem podOf_inj {name other : String} : podOf name = podOf other ↔ name = other := by
  rw [podOf, podOf]
  exact String.append_left_inj "-0"

namespace ClusterSpec

variable {spec : ClusterSpec}

/-- A node's ordinal is its place, whichever way the nodes are declared. -/
theorem ordinal_of_getElem? {place : Nat} {node : NodeSpec} (h : spec.nodes[place]? = some node) :
    node.ordinal = UInt32.ofNat place := by
  rw [ClusterSpec.nodes] at h
  cases htopology : spec.topology with
  | instances is =>
      rw [htopology, Topology.nodes, List.getElem?_mapIdx] at h
      obtain ⟨i, -, rfl⟩ := Option.map_eq_some_iff.1 h
      rfl
  | cluster l =>
      rw [htopology, Topology.nodes, List.getElem?_map] at h
      obtain ⟨i, hi, rfl⟩ := Option.map_eq_some_iff.1 h
      obtain ⟨-, rfl⟩ := List.getElem?_eq_some_iff.1 hi
      rw [List.getElem_range]
      rfl

theorem checkNames_eq_ok_iff : spec.checkNames = .ok spec ↔ (spec.nodes.map (·.name)).Nodup := by
  have hrepeated := @firstRepeated_eq_none_iff [] (spec.nodes.map (·.name))
  rw [checkNames]
  split
  · next name hname =>
      rw [hname] at hrepeated
      constructor
      · intro h
        cases h
      · intro h
        have := hrepeated.2 ⟨h, by simp⟩
        cases this
  · next hnone => exact ⟨fun _ => (hrepeated.1 hnone).1, fun _ => rfl⟩

theorem eq_of_checkNames {declared : ClusterSpec} (h : declared.checkNames = .ok spec) :
    declared = spec := by
  rw [checkNames] at h
  split at h
  · cases h
  · exact Except.ok.inj h

theorem nodup_of_parse {contents : String} (h : parse contents = .ok spec) :
    (spec.nodes.map (·.name)).Nodup := by
  rw [parse] at h
  split at h
  · rw [ofToml] at h
    split at h
    · obtain rfl := eq_of_checkNames h
      exact checkNames_eq_ok_iff.1 h
    · cases h
  · cases h

end ClusterSpec

end ClusterWatch
