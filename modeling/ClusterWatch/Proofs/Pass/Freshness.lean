import ClusterWatch.Proofs.Pass.Settling

/-!
What a pass observes does not depend on what was known before.

For every declared node a pass writes the phase, the health, the open mode and the details anew, on
each of the ways that it can take, so that two passes over one platform agree in them whatever their
histories are. The lifecycle state does have a history, but it is the node's own. Main statement:
`fresh_reconcile`.
-/

namespace ClusterWatch

/-- The entries agree in what a pass observes; devices are observed only if the pod is present. -/
structure NodeStatus.FreshAlike (entry other : NodeStatus) : Prop where
  podState : entry.podState = other.podState
  clusterState : entry.clusterState = other.clusterState
  instanceState : entry.instanceState = other.instanceState
  vipDetails : entry.vipDetails = other.vipDetails
  pvcDetails : entry.pvcDetails = other.pvcDetails
  mountedDevices : entry.podState = .podAvailable → entry.mountedDevices = other.mountedDevices

theorem isSome_eq_of_rel {α β : Type} {R : α → β → Prop} {a : Option α} {b : Option β}
    (h : Option.Rel R a b) : a.isSome = b.isSome := by
  cases h <;> rfl

theorem ClusterHealth.parse_eq_healthy_iff {output : String} :
    parse output = healthy ↔ Text.raised output = "HEALTHY" := by
  rw [parse]
  split
  · next h => simp [h]
  · next h => simp [h]
  · next hne _ =>
      constructor
      · intro h
        cases h
      · exact fun h => absurd h hne

theorem Platform.pod_eq_ok_iff {platform : Platform} {ns name : String} {pod : Pod} :
    platform.pod ns name = .ok pod ↔ platform.pods.find? name = some pod := by
  rw [Platform.pod]
  cases platform.pods.find? name <;> simp [found]

namespace Console

variable {c : Console} {pod : String}

theorem isRunning_iff : c.isRunning pod = true ↔
    ∃ info, c.platform.pod c.ns pod = .ok info ∧ info.phase = .running := by
  rw [isRunning]
  cases c.platform.pod c.ns pod <;> simp

/-- What a diagnostic printed: the answer of a running pod, and nothing otherwise. -/
theorem value_probe (argv : List String) : (c.probe pod argv).value =
    if c.isRunning pod = true then (c.platform.answer pod argv).toOption.map (·.stdout)
    else some "" := by
  rw [probe, run_eq_ite]
  by_cases hrunning : c.isRunning pod = true
  · rw [if_pos hrunning, if_pos hrunning]
    simp only [Journal.value_bind]
    cases c.platform.answer pod argv <;> rfl
  · rw [if_neg hrunning, if_neg hrunning]
    rfl

/-- A diagnostic tells something that neither a failure nor silence tells exactly if the pod is
running and answers so. -/
theorem elim_probe_eq_iff {α : Type} {parse : String → α} {failed good : α} {argv : List String}
    (hfailed : failed ≠ good) (hsilent : parse "" ≠ good) :
    (c.probe pod argv).value.elim failed parse = good ↔ c.isRunning pod = true ∧
      ∃ out, c.platform.answer pod argv = .ok out ∧ parse out.stdout = good := by
  rw [value_probe]
  by_cases hrunning : c.isRunning pod = true
  · rw [if_pos hrunning]
    cases c.platform.answer pod argv <;> simp [hrunning, hfailed, Except.toOption]
  · rw [if_neg hrunning]
    exact iff_of_false hsilent fun h => hrunning h.1

/-- A pod reports a healthy clusterware exactly if it is running and answers so. -/
theorem clusterHealth_eq_healthy_iff : (c.clusterHealth pod).value = .healthy ↔
    c.isRunning pod = true ∧ ∃ out, c.platform.answer pod c.scripts.clusterHealth = .ok out ∧
      ClusterHealth.parse out.stdout = .healthy := by
  rw [← elim_probe_eq_iff (by decide : ClusterHealth.pending ≠ .healthy) (by decide), clusterHealth,
    Journal.value_bind]
  cases (c.probe pod c.scripts.clusterHealth).value <;> rfl

/-- A pod reports an open instance exactly if it is running and answers so. -/
theorem instanceState_eq_opened_iff : (c.instanceState pod).value = .opened ↔
    c.isRunning pod = true ∧ ∃ out, c.platform.answer pod c.scripts.instanceState = .ok out ∧
      InstanceState.parse out.stdout = .opened := by
  rw [← elim_probe_eq_iff (by decide : InstanceState.pending ≠ .opened) (by decide), instanceState,
    Journal.value_bind]
  cases (c.probe pod c.scripts.instanceState).value <;> rfl

end Console

namespace Reconciler

open Console

/-- The node with the name has a workload, its pod is running and ready, and the pod answers that
the clusterware is healthy, with any blanks around the answer and any case of its letters. -/
structure ReportsHealthy (r : Reconciler) (name : String) : Prop where
  workload : ∃ workload, r.console.platform.workload r.spec.ns name = .ok workload
  pod : ∃ pod, r.console.platform.pod r.spec.ns (podOf name) = .ok pod ∧
    pod.phase = .running ∧ pod.ready = true
  answer : ∃ out,
    r.console.platform.answer (podOf name) r.console.scripts.clusterHealth = .ok out ∧
      Text.raised out.stdout = "HEALTHY"

variable {r : Reconciler} {node : NodeSpec}

theorem probePhase_eq_podAvailable_iff : r.probePhase node = .podAvailable ↔
    (∃ workload, r.console.platform.workload r.spec.ns node.name = .ok workload) ∧
      ∃ pod, r.console.platform.pod r.spec.ns node.podName = .ok pod ∧
        pod.phase ≠ .failed ∧ pod.ready = true := by
  rw [probePhase]
  cases r.console.platform.workload r.spec.ns node.name with
  | error e => simp
  | ok workload =>
      cases r.console.platform.pod r.spec.ns node.podName with
      | error e => simp
      | ok pod =>
          by_cases hfailed : pod.phase = .failed
          · simp [hfailed]
          · cases hready : pod.ready <;> simp [hfailed, hready]

/-- A node is probed with a present pod and its pod reports healthy exactly if the node does. -/
theorem reportsHealthy_iff : r.ReportsHealthy node.name ↔
    r.probePhase node = .podAvailable ∧
      (r.console.clusterHealth node.podName).value = .healthy := by
  rw [probePhase_eq_podAvailable_iff, clusterHealth_eq_healthy_iff, isRunning_iff]
  simp only [Platform.pod_eq_ok_iff, ClusterHealth.parse_eq_healthy_iff]
  constructor
  · rintro ⟨hworkload, ⟨pod, hpod, hphase, hready⟩, hanswer⟩
    rw [Platform.pod_eq_ok_iff] at hpod
    refine ⟨⟨hworkload, pod, hpod, ?_, hready⟩, ⟨pod, hpod, hphase⟩, hanswer⟩
    rw [hphase]
    decide
  · rintro ⟨⟨hworkload, pod, hpod, -, hready⟩, ⟨info, hinfo, hphase⟩, hanswer⟩
    obtain rfl := Option.some.inj (hpod.symm.trans hinfo)
    exact ⟨hworkload, ⟨pod, Platform.pod_eq_ok_iff.2 hpod, hphase, hready⟩, hanswer⟩

/-- Whatever was known before, the phase of a node gives it an entry or not, and the same
observations. -/
theorem freshAlike_nextEntry (before other : Option NodeStatus) :
    Option.Rel NodeStatus.FreshAlike (r.console.nextEntry node (r.probePhase node) before)
      (r.console.nextEntry node (r.probePhase node) other) := by
  rcases r.probePhase_cases node with hphase | hphase | hphase
  · rw [hphase]
    refine Option.Rel.some ?_
    cases before <;> cases other <;> exact ⟨rfl, rfl, rfl, rfl, rfl, fun _ => rfl⟩
  · rw [hphase]
    exact Option.Rel.none
  · rw [nextEntry_of_isPodAbsent hphase, nextEntry_of_isPodAbsent hphase]
    refine Option.Rel.some ⟨rfl, rfl, rfl, rfl, rfl, fun hpresent => ?_⟩
    -- The entry of an absent pod keeps the devices, but it is not said to be present.
    have hpresent : r.probePhase node = .podAvailable := hpresent
    rw [hpresent] at hphase
    cases hphase

/-- The health in an entry after its phase. -/
theorem clusterState_nextEntry {before : Option NodeStatus} {entry : NodeStatus}
    (h : r.console.nextEntry node (r.probePhase node) before = some entry) :
    entry.clusterState = .healthy ↔ r.ReportsHealthy node.name := by
  rw [reportsHealthy_iff]
  rcases r.probePhase_cases node with hphase | hphase | hphase
  · rw [hphase] at h ⊢
    obtain rfl := Option.some.inj h
    have hstate : (r.console.presentEntry node .podAvailable (r.console.vitals node.podName).value
        before).clusterState = (r.console.clusterHealth node.podName).value := by
      cases before <;> rfl
    rw [hstate]
    exact (and_iff_right rfl).symm
  · rw [hphase] at h
    cases h
  · rw [nextEntry_of_isPodAbsent hphase] at h
    obtain rfl := Option.some.inj h
    constructor
    · intro hhealthy
      cases hhealthy
    · rintro ⟨hpresent, -⟩
      rw [hpresent] at hphase
      cases hphase

section reconcile

variable {status other : ClusterStatus} {now later : Timestamp} {name : String}

/-- The entry of a declared name after a pass is made by the phase of one node, the last of the
name. -/
theorem exists_nextEntry_reconcile (hnode : node ∈ r.spec.nodes) :
    ∃ last : NodeSpec, last.name = node.name ∧
      ∀ (status : ClusterStatus) (now : Timestamp), ∃ before,
        (r.reconcile now status).value.nodes.find? (isFor node.name) =
          r.console.nextEntry last (r.probePhase last) before := by
  have hmem : (node, r.probePhase node) ∈ r.probedPhases.filter (·.1.name = node.name) :=
    mem_filter_probedPhases hnode
  rcases List.eq_nil_or_concat (r.probedPhases.filter (·.1.name = node.name)) with
    hnone | ⟨sooner, p, hphases⟩
  · rw [hnone] at hmem
    cases hmem
  · rw [List.concat_eq_append] at hphases
    have hp : p ∈ r.probedPhases.filter (·.1.name = node.name) := by
      rw [hphases]
      exact List.mem_append_right sooner List.mem_cons_self
    obtain ⟨hname, hphase⟩ := of_mem_filter_probedPhases hp
    refine ⟨p.1, hname, fun status now => ?_⟩
    rw [nodes_reconcile, find?_foldPhases, hphases, List.foldl_append, List.foldl_cons,
      List.foldl_nil, hphase]
    exact ⟨_, rfl⟩

/-- After two passes a declared node has an entry in both snapshots or in none, and the entries
agree in what passes observe. -/
theorem freshAlike_reconcile (hnode : node ∈ r.spec.nodes) :
    Option.Rel NodeStatus.FreshAlike
      ((r.reconcile now status).value.nodes.find? (isFor node.name))
      ((r.reconcile later other).value.nodes.find? (isFor node.name)) := by
  obtain ⟨last, -, hlast⟩ := exists_nextEntry_reconcile hnode
  obtain ⟨before, hbefore⟩ := hlast status now
  obtain ⟨before', hbefore'⟩ := hlast other later
  rw [hbefore, hbefore']
  exact freshAlike_nextEntry before before'

theorem clusterState_reconcile (hnode : node ∈ r.spec.nodes) {entry : NodeStatus}
    (hentry : (r.reconcile now status).value.nodes.find? (isFor node.name) = some entry) :
    entry.clusterState = .healthy ↔ r.ReportsHealthy node.name := by
  obtain ⟨last, hname, hlast⟩ := exists_nextEntry_reconcile hnode
  obtain ⟨before, hbefore⟩ := hlast status now
  rw [← hname]
  exact clusterState_nextEntry (hbefore.symm.trans hentry)

theorem ReportsHealthy.exists_entry (h : r.ReportsHealthy node.name) (hnode : node ∈ r.spec.nodes) :
    ∃ entry, (r.reconcile now status).value.nodes.find? (isFor node.name) = some entry := by
  obtain ⟨last, hname, hlast⟩ := exists_nextEntry_reconcile hnode
  obtain ⟨before, hbefore⟩ := hlast status now
  have hphase : r.probePhase last = .podAvailable := (reportsHealthy_iff.1 (hname ▸ h)).1
  rw [hbefore, hphase]
  exact ⟨_, rfl⟩

/-- Probed phases of one node take its state to one that depends on no more than the state
before. -/
theorem map_state_foldl_congr {phases : List (NodeSpec × NodeState)}
    {before before' : Option NodeStatus}
    (hphases : ∀ p ∈ phases, p.2 = r.probePhase p.1)
    (hstate : before.map (·.state) = before'.map (·.state)) :
    (phases.foldl (fun before p => r.console.nextEntry p.1 p.2 before) before).map (·.state) =
      (phases.foldl (fun before p => r.console.nextEntry p.1 p.2 before) before').map
        (·.state) := by
  induction phases generalizing before before' with
  | nil => exact hstate
  | cons p phases ih =>
      rw [List.foldl_cons, List.foldl_cons, hphases p List.mem_cons_self]
      apply ih fun p hp => hphases p (List.mem_cons_of_mem _ hp)
      rw [map_state_nextEntry, map_state_nextEntry, hstate]

/-- The state of a node after a pass depends on no more than its state before. -/
theorem stateOf?_reconcile_congr (hstate : status.stateOf? name = other.stateOf? name) :
    (r.reconcile now status).value.stateOf? name =
      (r.reconcile later other).value.stateOf? name := by
  have hfirst : ∀ (status : ClusterStatus) (now : Timestamp),
      (r.reconcile now status).value.node? name =
        (r.probedPhases.filter (·.1.name = name)).foldl
          (fun before p => r.console.nextEntry p.1 p.2 before) (status.node? name) :=
    fun _ _ => find?_foldPhases
  rw [ClusterStatus.stateOf?, ClusterStatus.stateOf?, hfirst, hfirst]
  apply map_state_foldl_congr _ hstate
  exact fun p hp => (of_mem_filter_probedPhases hp).2

/-- The entries of one name, of which there is one, are the first that a lookup finds. -/
theorem find?_reconcile_of_mem (hstatus : (status.nodes.map (·.name)).Nodup) {entry : NodeStatus}
    (hentry : entry ∈ (r.reconcile now status).value.nodes) (hname : entry.name = name) :
    (r.reconcile now status).value.nodes.find? (isFor name) = some entry := by
  subst hname
  exact find?_isFor_of_mem (nodup_foldPhases hstatus) hentry

/-- Two passes over one platform, from any two snapshots of distinct nodes, have entries of the same
declared nodes, which agree in all that a pass observes; an entry is healthy exactly if its node
reports so in that pass; and the state of a node depends on its own state before and on nothing else
that was known. -/
theorem fresh_reconcile (hstatus : (status.nodes.map (·.name)).Nodup)
    (hother : (other.nodes.map (·.name)).Nodup) (now later : Timestamp) :
    let after := (r.reconcile now status).value
    let after' := (r.reconcile later other).value
    (∀ node ∈ r.spec.nodes,
      ((∃ entry ∈ after.nodes, entry.name = node.name) ↔
        ∃ entry ∈ after'.nodes, entry.name = node.name) ∧
      (∀ entry ∈ after.nodes, ∀ entry' ∈ after'.nodes,
        entry.name = node.name → entry'.name = node.name → entry.FreshAlike entry') ∧
      ((∃ entry ∈ after.nodes, entry.name = node.name ∧ entry.clusterState = .healthy) ↔
        r.ReportsHealthy node.name)) ∧
      ∀ name, status.stateOf? name = other.stateOf? name →
        after.stateOf? name = after'.stateOf? name := by
  intro after after'
  refine ⟨fun node hnode => ⟨?_, ?_, ?_⟩, fun name => stateOf?_reconcile_congr⟩
  · have hsome : (after.nodes.find? (isFor node.name)).isSome =
        (after'.nodes.find? (isFor node.name)).isSome :=
      isSome_eq_of_rel (freshAlike_reconcile hnode)
    rw [Bool.eq_iff_iff, List.find?_isSome, List.find?_isSome] at hsome
    simpa only [isFor_iff] using hsome
  · intro entry hentry entry' hentry' hname hname'
    have halike : Option.Rel NodeStatus.FreshAlike (after.nodes.find? (isFor node.name))
        (after'.nodes.find? (isFor node.name)) := freshAlike_reconcile hnode
    rw [find?_reconcile_of_mem hstatus hentry hname,
      find?_reconcile_of_mem hother hentry' hname'] at halike
    cases halike with
    | some halike => exact halike
  · constructor
    · rintro ⟨entry, hentry, hname, hhealthy⟩
      have hfirst := find?_reconcile_of_mem hstatus hentry hname
      exact (clusterState_reconcile hnode hfirst).1 hhealthy
    · intro hreports
      obtain ⟨entry, hentry⟩ :
          ∃ entry, after.nodes.find? (isFor node.name) = some entry := hreports.exists_entry hnode
      exact ⟨entry, List.mem_of_find?_eq_some hentry, name_of_find? hentry,
        (clusterState_reconcile hnode hentry).2 hreports⟩

end reconcile

/-- Passes over one node whose clusterware reports healthy. -/
def lone : Reconciler :=
  let platform :=
    (Platform.addNode {} "racnode").respond "racnode-0" "--checkgilocal=true" " healthy\n"
  Reconciler.on { name := "prod", topology := .instances [{ name := "racnode" }] } platform
    (Diagnostic.Scripts.mountedAt "/scripts" "python3")

/-- A snapshot from a time when the node's pod had failed. -/
def loneStale : ClusterStatus where
  nodes := [{ name := "racnode", podState := .podFailure, clusterState := .notAvailable
              instanceState := .notAvailable, state := .available
              mountedDevices := ["/dev/sdb"] }]

theorem fresh_reconcile_lone :
    ((({} : ClusterStatus).nodes.map (·.name)).Nodup ∧ (loneStale.nodes.map (·.name)).Nodup) ∧
      lone.ReportsHealthy "racnode" ∧
      (∃ entry ∈ (lone.reconcile (Timestamp.ofUnix 0 0) loneStale).value.nodes,
        entry.name = "racnode" ∧ entry.clusterState = .healthy) ∧
      ∀ entry ∈ (lone.reconcile (Timestamp.ofUnix 0 0) {}).value.nodes,
        ∀ entry' ∈ (lone.reconcile (Timestamp.ofUnix 1 0) loneStale).value.nodes,
          entry.name = "racnode" → entry'.name = "racnode" → entry.FreshAlike entry' := by
  have hempty : (({} : ClusterStatus).nodes.map (·.name)).Nodup := List.nodup_nil
  have hstale : (loneStale.nodes.map (·.name)).Nodup := by
    decide
  have hreports : lone.ReportsHealthy "racnode" :=
    ⟨⟨_, rfl⟩, ⟨_, rfl, by decide, by decide⟩, ⟨_, rfl, by decide⟩⟩
  obtain ⟨node, hnode, hname⟩ : ∃ node ∈ lone.spec.nodes, node.name = "racnode" :=
    ⟨_, List.mem_singleton_self _, rfl⟩
  rw [← hname] at hreports ⊢
  obtain ⟨hfresh, -⟩ :=
    fresh_reconcile (r := lone) hempty hstale (Timestamp.ofUnix 0 0) (Timestamp.ofUnix 1 0)
  obtain ⟨hfresh', -⟩ :=
    fresh_reconcile (r := lone) hstale hempty (Timestamp.ofUnix 0 0) (Timestamp.ofUnix 1 0)
  exact ⟨⟨hempty, hstale⟩, hreports, (hfresh' node hnode).2.2.2 hreports,
    (hfresh node hnode).2.1⟩

end Reconciler

end ClusterWatch
