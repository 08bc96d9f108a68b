import ClusterWatch.Proofs.Pass.Groups
import ClusterWatch.Proofs.Pass.Independence
import ClusterWatch.Proofs.Pass.Membership
import ClusterWatch.Proofs.Pointwise

/-!
Passes over a platform that stays as it is observe the same.

Of the phases of one name the last decides what is observed, in one pass or in several: what those
before it write it writes over, and what it keeps they keep. So one pass leaves the nodes as any
further pass observes them. The node that cluster-wide facts are taken from is chosen by what is
observed, and so it stays the same as well, and the database with it. Main statements:
`map_observation_reconcile`, `sourcePod_reconcile`.
-/

namespace ClusterWatch

/-- The entry apart from its lifecycle state. -/
def NodeStatus.observation (entry : NodeStatus) : NodeStatus :=
  { entry with state := .pending }

namespace Console

variable {c : Console} {name : String} {nodes : List NodeStatus} {node other : NodeSpec}
  {phase : NodeState}

theorem any_placeEntry {make : Option NodeStatus → NodeStatus} (hmake : MakesNamed name make)
    (nodes : List NodeStatus) : (placeEntry name make nodes).any (isFor name) = true := by
  have hfirst : (placeEntry name make nodes).find? (isFor name) =
      some (make (nodes.find? (isFor name))) := find?_placeEntry_self hmake
  exact List.any_eq_true.2 ⟨_, List.mem_of_find?_eq_some hfirst, List.find?_some hfirst⟩

/-- An entry placed over another of its name is observed as if it were placed alone. -/
theorem map_observation_placeEntry {first second : Option NodeStatus → NodeStatus}
    (hfirst : MakesNamed name first)
    (h : ∀ before, (second (some (first before))).observation = (second before).observation)
    (nodes : List NodeStatus) :
    (placeEntry name second (placeEntry name first nodes)).map NodeStatus.observation =
      (placeEntry name second nodes).map NodeStatus.observation := by
  have hany := any_placeEntry hfirst nodes
  rw [placeEntry, if_pos hany, placeEntry, placeEntry]
  split
  · apply map_modifyFirst_modifyFirst
    · intro entry hentry
      exact isFor_iff.2 (hfirst.name_some hentry)
    · intro entry _
      exact h (some entry)
  · next hnone =>
      rw [modifyFirst_append_of_all_not (not_isFor_of_any_eq_false (Bool.eq_false_iff.2 hnone)),
        modifyFirst, if_pos (isFor_iff.2 hfirst.name_none), List.map_append, List.map_append,
        List.map_singleton, List.map_singleton, h none]

theorem value_updateNode_podAvailable :
    (c.updateNode nodes node .podAvailable).value =
      placeEntry node.name
        (c.presentEntry node .podAvailable (c.vitals node.podName).value) nodes :=
  value_updatePresent _

theorem value_updateNode_of_isPodAbsent (hphase : phase.isPodAbsent = true) :
    (c.updateNode nodes node phase).value =
      placeEntry node.name
        (fun before => c.absentEntry node phase (before.getD { name := node.name })) nodes := by
  cases phase with
  | podNotFound | podNotReady | podFailure => exact value_updateAbsent
  | _ => cases hphase

end Console

namespace Reconciler

open Console

variable {r : Reconciler} {nodes : List NodeStatus} {node other : NodeSpec}
  {phases others : List (NodeSpec × NodeState)} {status : ClusterStatus} {now later : Timestamp}

/-- Of two updates of one name the last decides what is observed. -/
theorem map_observation_updateNode (hname : other.name = node.name) (nodes : List NodeStatus) :
    (r.console.updateNode (r.console.updateNode nodes other (r.probePhase other)).value node
        (r.probePhase node)).value.map NodeStatus.observation =
      (r.console.updateNode nodes node (r.probePhase node)).value.map
        NodeStatus.observation := by
  rw [probePhase_congr hname]
  rcases r.probePhase_cases node with hphase | hphase | hphase
  · rw [hphase]
    simp only [value_updateNode_podAvailable, hname]
    apply map_observation_placeEntry
    · intro before _
      rw [name_presentEntry, hname]
    · intro before
      cases before <;> rfl
  · rw [hphase]
    have hremove : ∀ nodes node, (r.console.updateNode nodes node .statefulSetNotFound).value =
        nodes.filter fun entry => !isFor node.name entry := fun _ _ => rfl
    simp only [hremove, hname, List.filter_filter, Bool.and_self]
  · simp only [value_updateNode_of_isPodAbsent hphase, hname]
    apply map_observation_placeEntry
    · intro before hbefore
      cases before with
      | some entry => exact hbefore entry rfl
      | none => rfl
    · -- Both updates keep the devices, and nothing else of the entry but its name and state.
      intro before
      cases before <;> rfl

theorem value_foldPhases_append :
    (r.foldPhases nodes (phases ++ others)).value =
      (r.foldPhases (r.foldPhases nodes phases).value others).value := by
  simp only [value_foldPhases, List.foldl_append]

/-- Of all phases of one name the last decides what is observed. -/
theorem map_observation_foldPhases_concat
    (hphases : ∀ p ∈ phases, p.1.name = node.name ∧ p.2 = r.probePhase p.1) :
    (r.foldPhases nodes (phases ++ [(node, r.probePhase node)])).value.map
        NodeStatus.observation =
      (r.console.updateNode nodes node (r.probePhase node)).value.map
        NodeStatus.observation := by
  induction phases generalizing nodes with
  | nil => rfl
  | cons p phases ih =>
      obtain ⟨⟨hname, hphase⟩, hrest⟩ := List.forall_mem_cons.1 hphases
      obtain ⟨other, phase⟩ := p
      obtain rfl : phase = r.probePhase other := hphase
      rw [List.cons_append, value_foldPhases_cons, ih hrest, map_observation_updateNode hname]

/-- The same phases of one name again observe the same. -/
theorem map_observation_foldPhases {name : String}
    (hphases : ∀ p ∈ phases, p.1.name = name ∧ p.2 = r.probePhase p.1) (nodes : List NodeStatus) :
    (r.foldPhases (r.foldPhases nodes phases).value phases).value.map NodeStatus.observation =
      (r.foldPhases nodes phases).value.map NodeStatus.observation := by
  rcases List.eq_nil_or_concat phases with rfl | ⟨sooner, ⟨last, phase⟩, heq⟩
  · rfl
  · rw [List.concat_eq_append] at heq
    subst heq
    obtain ⟨rfl, hphase⟩ := hphases (last, phase)
      (List.mem_append_right sooner (List.mem_singleton_self _))
    obtain rfl : phase = r.probePhase last := hphase
    rw [← value_foldPhases_append, ← List.append_assoc, map_observation_foldPhases_concat,
      map_observation_foldPhases_concat]
    · exact fun p hp => hphases p (List.mem_append_left _ hp)
    · intro p hp
      rcases List.mem_append.1 hp with hp | hp
      · exact hphases p hp
      · exact hphases p (List.mem_append_left _ hp)

/-- After one pass, a further one observes every node as it is. -/
theorem map_observation_reconcile :
    (r.reconcile later (r.reconcile now status).value).value.nodes.map NodeStatus.observation =
      (r.reconcile now status).value.nodes.map NodeStatus.observation := by
  apply map_eq_of_filter_map_eq NodeStatus.name
  · rw [map_name_reconcile, map_name_reconcile, foldl_track_foldl_track]
  · intro name
    have hnext : (r.reconcile later (r.reconcile now status).value).value.nodes.filter
        (isFor name) =
          (r.foldPhases ((r.reconcile now status).value.nodes.filter (isFor name))
            (r.probedPhases.filter (·.1.name = name))).value := filter_isFor_foldPhases name
    have hfirst : (r.reconcile now status).value.nodes.filter (isFor name) =
        (r.foldPhases (status.nodes.filter (isFor name))
          (r.probedPhases.filter (·.1.name = name))).value := filter_isFor_foldPhases name
    have hphases : ∀ p ∈ r.probedPhases.filter (·.1.name = name),
        p.1.name = name ∧ p.2 = r.probePhase p.1 := fun _ => of_mem_filter_probedPhases
    have hagain := map_observation_foldPhases hphases (status.nodes.filter (isFor name))
    rw [← hfirst, ← hnext] at hagain
    exact hagain

section source

/-- The node that cluster-wide facts are taken from is chosen by what is observed. -/
theorem sourceOf_map_observation (nodes : List NodeStatus) :
    sourceOf (nodes.map NodeStatus.observation) =
      (sourceOf nodes).map NodeStatus.observation := by
  rw [sourceOf, sourceOf, List.find?_map, List.head?_map, Option.map_or]
  rfl

theorem sourcePod_eq (r : Reconciler) (status : ClusterStatus) (now : Timestamp) :
    r.sourcePod status =
      (sourceOf ((r.reconcile now status).value.nodes.map NodeStatus.observation)).map
        fun source => podOf source.name := by
  rw [sourceOf_map_observation, Option.map_map]
  rfl

/-- All passes take the cluster-wide facts from one pod. -/
theorem sourcePod_reconcile :
    r.sourcePod (r.reconcile now status).value = r.sourcePod status := by
  rw [sourcePod_eq r (r.reconcile now status).value now, map_observation_reconcile,
    ← sourcePod_eq]

theorem database_reconcile : (r.reconcile now status).value.database =
    match r.sourcePod status with
    | some pod => (r.databaseStatus pod).value
    | none => status.database := by
  have hfacts : (r.reconcile now status).value.database =
      (r.clusterFacts status (r.foldPhases status.nodes r.probedPhases).value).value.2 := rfl
  rw [hfacts, clusterFacts, sourcePod]
  cases sourceOf (r.foldPhases status.nodes r.probedPhases).value <;> rfl

/-- After one pass, a further one finds the database as it is. -/
theorem database_reconcile_reconcile :
    (r.reconcile later (r.reconcile now status).value).value.database =
      (r.reconcile now status).value.database := by
  rw [database_reconcile, sourcePod_reconcile]
  cases hsource : r.sourcePod status with
  | none => rfl
  | some pod => rw [database_reconcile, hsource]

end source

end Reconciler

end ClusterWatch
