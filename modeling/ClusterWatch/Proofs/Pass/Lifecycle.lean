import ClusterWatch.Proofs.Pass.Run
import ClusterWatch.Proofs.Pass.Stages

/-!
The lifecycle of nodes over whole runs.

A run begins with nothing observed and goes on however the platform changes. Every entry of every
snapshot is then `Lawful`, and every pass is a `LawfulPass` from the entries before to those after.
A pass takes one step for each declared node, so where two of them have one name, what holds of a
step need not hold of the pass. Main statement: `lawful_runOver`.
-/

namespace ClusterWatch

/-- No two declared nodes have the name. -/
def ClusterSpec.DeclaresOnce (spec : ClusterSpec) (name : String) : Prop :=
  (spec.nodes.map (·.name)).count name ≤ 1

/-- An entry as passes leave it: one of five stages, one of four phases, and nothing reported by a
node whose pod is absent. -/
structure NodeStatus.Lawful (entry : NodeStatus) : Prop where
  stage : entry.state.isStage = true
  phase : entry.podState = .podAvailable ∨ entry.podState.isPodAbsent = true
  clusterState : entry.podState.isPodAbsent = true → entry.clusterState = .notAvailable
  instanceState : entry.podState.isPodAbsent = true → entry.instanceState = .notAvailable
  pvcDetails : entry.podState.isPodAbsent = true → entry.pvcDetails = ∅

namespace Reconciler

/-- What a pass may do to the lifecycle of nodes. -/
structure LawfulPass (r : Reconciler) (before after : ClusterStatus) : Prop where
  /-- A new node is pending. -/
  new : ∀ entry ∈ after.nodes, r.spec.DeclaresOnce entry.name →
    before.node? entry.name = none → entry.state = .pending
  /-- An available node does not fall back to a stage on its way. -/
  available : ∀ entry ∈ after.nodes, r.spec.DeclaresOnce entry.name →
    ∀ old ∈ before.nodes, old.name = entry.name → old.state = .available →
      entry.state = .available ∨ entry.state = .pending
  /-- A stage that only the state file tells of is entered with a present pod, an instance that is
  not open and a state file that tells the stage, and by a step from a stage on the way. -/
  entered : ∀ entry ∈ after.nodes, entry.state.isToldStage = true →
    (∃ old ∈ before.nodes, old.name = entry.name ∧ old.state = entry.state) ∨
      ∃ node, r.Probes node entry.name ∧
        (r.console.instanceState node.podName).value ≠ .opened ∧
        r.StateFileTells node entry.state ∧
        (r.spec.DeclaresOnce entry.name →
          ∃ old ∈ before.nodes, old.name = entry.name ∧ old.state.isInProgress = true)
  /-- Only a node with a present pod changes its state. -/
  changed : ∀ entry ∈ after.nodes, ∀ old ∈ before.nodes, old.name = entry.name →
    entry.state ≠ old.state → ∃ node, r.Probes node entry.name

end Reconciler

namespace Console

variable {c : Console} {node : NodeSpec} {phase : NodeState} {before : Option NodeStatus}

/-- Every phase that a node can be probed in makes a lawful entry of a lawful one, or of none. -/
theorem lawful_nextEntry
    (hphase : phase = .podAvailable ∨ phase = .statefulSetNotFound ∨ phase.isPodAbsent = true)
    (hbefore : ∀ entry ∈ before, entry.Lawful) :
    ∀ entry ∈ c.nextEntry node phase before, entry.Lawful := by
  intro entry hentry
  rcases hphase with rfl | rfl | habsent
  · obtain rfl := Option.some.inj hentry
    cases before with
    | none => exact ⟨rfl, Or.inl rfl, nofun, nofun, nofun⟩
    | some old => exact ⟨isStage_nextState, Or.inl rfl, nofun, nofun, nofun⟩
  · cases hentry
  · rw [nextEntry_of_isPodAbsent habsent] at hentry
    obtain rfl := Option.some.inj hentry
    have hstage : (before.getD { name := node.name }).state.isStage = true := by
      cases before with
      | none => rfl
      | some old => exact (hbefore old rfl).stage
    exact ⟨hstage, Or.inr habsent, fun _ => rfl, fun _ => rfl, fun _ => rfl⟩

end Console

namespace Reconciler

open Console

variable {r : Reconciler} {now : Timestamp} {before : ClusterStatus} {entry : NodeStatus}

theorem exists_mem_of_node? {status : ClusterStatus} {name : String} {old : NodeStatus}
    (h : status.node? name = some old) : old ∈ status.nodes ∧ old.name = name :=
  ⟨List.mem_of_find?_eq_some h, name_of_find? h⟩

/-- A stage that only the state file tells of comes from a stage on the way, with an instance that
is not open and a state file that tells it. -/
theorem of_isToldStage_nextState {node : NodeSpec} {previous state : NodeState}
    (hstate : state = (r.console.nextState node.podName
      (r.console.instanceState node.podName).value previous).value)
    (htold : state.isToldStage = true) :
    previous.isInProgress = true ∧
      (r.console.instanceState node.podName).value ≠ .opened ∧ r.StateFileTells node state := by
  rcases value_nextState_cases r.console node.podName
      (r.console.instanceState node.podName).value previous with
    ⟨-, hvalue⟩ | ⟨hinstance, hprogress, hvalue⟩ | ⟨-, -, hvalue⟩
  · rw [hstate, hvalue] at htold
    cases htold
  · refine ⟨hprogress, hinstance, ?_⟩
    rcases value_stateFile_cases r.console node.podName with hpending | ⟨contents, hprint, htells⟩
    · rw [hstate, hvalue, hpending] at htold
      cases htold
    · exact ⟨contents, hprint, (hstate.trans (hvalue.trans htells)).symm⟩
  · rw [hstate, hvalue] at htold
    cases htold

section states

variable (hnames : (before.nodes.map (·.name)).Nodup)
  (hentry : entry ∈ (r.reconcile now before).value.nodes)
include hnames hentry

theorem map_state_of_mem_reconcile {node : NodeSpec} (hname : node.name = entry.name) :
    (r.stageAfter node)^[(r.spec.nodes.map (·.name)).count entry.name]
      ((before.node? entry.name).map (·.state)) = some entry.state := by
  have hfirst : (r.foldPhases before.nodes r.probedPhases).value.find? (isFor entry.name) =
      some entry := find?_isFor_of_mem (nodup_foldPhases hnames) hentry
  have hsteps := map_state_foldPhases r node before.nodes
  rw [hname, hfirst] at hsteps
  exact hsteps.symm

theorem node?_of_not_declared (h : entry.name ∉ r.spec.nodes.map (·.name)) :
    before.node? entry.name = some entry := by
  have hfirst : (r.foldPhases before.nodes r.probedPhases).value.find? (isFor entry.name) =
      some entry := find?_isFor_of_mem (nodup_foldPhases hnames) hentry
  rwa [find?_foldPhases_of_not_declared] at hfirst
  exact fun node hnode hname => h (List.mem_map.2 ⟨node, hnode, hname⟩)

/-- Where the state of an entry after a pass comes from. -/
theorem state_reconcile_cases :
    (before.node? entry.name).map (·.state) = some entry.state ∨
      (before.node? entry.name = none ∧ entry.state = .pending) ∨
      ∃ node, r.Probes node entry.name ∧ ∃ old, entry.state =
        (r.console.nextState node.podName (r.console.instanceState node.podName).value
          old).value := by
  by_cases hdeclared : entry.name ∈ r.spec.nodes.map (·.name)
  · obtain ⟨node, hnode, hname⟩ := List.mem_map.1 hdeclared
    rcases iterate_stageAfter_cases (map_state_of_mem_reconcile hnames hentry hname) with
      hkept | ⟨hnone, hpending⟩ | ⟨hphase, hnext⟩
    · exact Or.inl hkept
    · exact Or.inr (Or.inl ⟨Option.map_eq_none_iff.1 hnone, hpending⟩)
    · exact Or.inr (Or.inr ⟨node, ⟨hnode, hname, hphase⟩, hnext⟩)
  · rw [node?_of_not_declared hnames hentry hdeclared]
    exact Or.inl rfl

/-- Where a name is declared once, the state comes from that before, in one step. -/
theorem state_reconcile_cases_of_declaresOnce (honce : r.spec.DeclaresOnce entry.name) :
    (before.node? entry.name = none ∧ entry.state = .pending) ∨
      ∃ old, before.node? entry.name = some old ∧
        (entry.state = old.state ∨ ∃ node, r.Probes node entry.name ∧
          entry.state =
            (r.console.nextState node.podName (r.console.instanceState node.podName).value
              old.state).value) := by
  by_cases hdeclared : entry.name ∈ r.spec.nodes.map (·.name)
  · obtain ⟨node, hnode, hname⟩ := List.mem_map.1 hdeclared
    have hsteps := map_state_of_mem_reconcile hnames hentry hname
    rw [Nat.le_antisymm honce (List.count_pos_iff.2 hdeclared), Function.iterate_one] at hsteps
    rcases stageAfter_cases hsteps with ⟨hnone, hpending⟩ | ⟨state, hsome, hkept⟩
    · exact Or.inl ⟨Option.map_eq_none_iff.1 hnone, hpending⟩
    · obtain ⟨old, hold, rfl⟩ := Option.map_eq_some_iff.1 hsome
      refine Or.inr ⟨old, hold, hkept.imp id ?_⟩
      rintro ⟨hphase, hnext⟩
      exact ⟨node, ⟨hnode, hname, hphase⟩, hnext⟩
  · exact Or.inr ⟨entry, node?_of_not_declared hnames hentry hdeclared, Or.inl rfl⟩

theorem pending_of_node?_eq_none (honce : r.spec.DeclaresOnce entry.name)
    (hnone : before.node? entry.name = none) : entry.state = .pending := by
  rcases state_reconcile_cases_of_declaresOnce hnames hentry honce with
    ⟨-, hpending⟩ | ⟨old, hold, -⟩
  · exact hpending
  · rw [hnone] at hold
    cases hold

theorem available_or_pending (honce : r.spec.DeclaresOnce entry.name) {old : NodeStatus}
    (hold : before.node? entry.name = some old) (havailable : old.state = .available) :
    entry.state = .available ∨ entry.state = .pending := by
  rcases state_reconcile_cases_of_declaresOnce hnames hentry honce with
    ⟨hnone, -⟩ | ⟨first, hfirst, hstate⟩
  · rw [hold] at hnone
    cases hnone
  · obtain rfl := Option.some.inj (hold.symm.trans hfirst)
    rw [havailable] at hstate
    rcases hstate with hkept | ⟨node, -, hnext⟩
    · exact Or.inl hkept
    · rcases value_nextState_cases r.console node.podName
          (r.console.instanceState node.podName).value .available with
        ⟨-, hvalue⟩ | ⟨-, hprogress, -⟩ | ⟨-, -, hvalue⟩
      · exact Or.inl (hnext.trans hvalue)
      · cases hprogress
      · exact Or.inr (hnext.trans hvalue)

/-- A stage that was not kept comes from a stage on the way. -/
theorem exists_isInProgress (honce : r.spec.DeclaresOnce entry.name)
    (htold : entry.state.isToldStage = true)
    (hentered : ¬∃ old ∈ before.nodes, old.name = entry.name ∧ old.state = entry.state) :
    ∃ old ∈ before.nodes, old.name = entry.name ∧ old.state.isInProgress = true := by
  rcases state_reconcile_cases_of_declaresOnce hnames hentry honce with
    ⟨-, hpending⟩ | ⟨old, hold, hstate⟩
  · rw [hpending] at htold
    cases htold
  · obtain ⟨hmem, hname⟩ := exists_mem_of_node? hold
    refine ⟨old, hmem, hname, ?_⟩
    rcases hstate with hkept | ⟨node, -, hnext⟩
    · exact absurd ⟨old, hmem, hname, hkept.symm⟩ hentered
    · exact (of_isToldStage_nextState hnext htold).1

theorem exists_stateFileTells (htold : entry.state.isToldStage = true)
    (hentered : ¬∃ old ∈ before.nodes, old.name = entry.name ∧ old.state = entry.state) :
    ∃ node, r.Probes node entry.name ∧
      (r.console.instanceState node.podName).value ≠ .opened ∧
      r.StateFileTells node entry.state := by
  rcases state_reconcile_cases hnames hentry with
    hkept | ⟨-, hpending⟩ | ⟨node, hprobes, last, hnext⟩
  · obtain ⟨old, hold, hstate⟩ := Option.map_eq_some_iff.1 hkept
    obtain ⟨hmem, hname⟩ := exists_mem_of_node? hold
    exact absurd ⟨old, hmem, hname, hstate⟩ hentered
  · rw [hpending] at htold
    cases htold
  · exact ⟨node, hprobes, (of_isToldStage_nextState hnext htold).2⟩

theorem exists_probes {old : NodeStatus} (hold : before.node? entry.name = some old)
    (hchanged : entry.state ≠ old.state) : ∃ node, r.Probes node entry.name := by
  rcases state_reconcile_cases hnames hentry with hkept | ⟨hnone, -⟩ | ⟨node, hprobes, -⟩
  · rw [hold] at hkept
    exact absurd (Option.some.inj hkept).symm hchanged
  · rw [hold] at hnone
    cases hnone
  · exact ⟨node, hprobes⟩

end states

theorem lawfulPass_reconcile (hnames : (before.nodes.map (·.name)).Nodup) :
    r.LawfulPass before (r.reconcile now before).value := by
  -- the entries before have distinct names, so one that is there is the one of its name
  have hnode? : ∀ old ∈ before.nodes, ∀ name, old.name = name → before.node? name = some old := by
    rintro old hold name rfl
    exact find?_isFor_of_mem hnames hold
  constructor
  case new => exact fun entry hentry => pending_of_node?_eq_none hnames hentry
  case available =>
    intro entry hentry honce old hold hname
    exact available_or_pending hnames hentry honce (hnode? old hold entry.name hname)
  case entered =>
    intro entry hentry htold
    by_cases hsame : ∃ old ∈ before.nodes, old.name = entry.name ∧ old.state = entry.state
    · exact Or.inl hsame
    · obtain ⟨node, hprobes, hinstance, htells⟩ := exists_stateFileTells hnames hentry htold hsame
      exact Or.inr ⟨node, hprobes, hinstance, htells, fun honce =>
        exists_isInProgress hnames hentry honce htold hsame⟩
  case changed =>
    intro entry hentry old hold hname
    exact exists_probes hnames hentry (hnode? old hold entry.name hname)

theorem lawful_reconcile (h : ∀ entry ∈ before.nodes, entry.Lawful) :
    ∀ entry ∈ (r.reconcile now before).value.nodes, entry.Lawful := by
  apply forall_mem_foldPhases h
  intro p hp old hold
  obtain ⟨node, -, rfl⟩ := List.mem_map.1 hp
  exact lawful_nextEntry (r.probePhase_cases node) hold

end Reconciler

namespace ClusterSpec

variable {spec : ClusterSpec}

/-- Whatever is declared and whatever the platform does, after every pass of a run from nothing all
entries are lawful, the state of the cluster is a stage, and the pass did to the lifecycle what it
may. -/
theorem lawful_runOver (spec : ClusterSpec) (scripts : Diagnostic.Scripts) (rounds : List Round)
    (round : Round) :
    let before := spec.runOver scripts {} rounds
    let after := spec.passOver scripts before round
    (∀ entry ∈ after.nodes, entry.Lawful) ∧ after.state.isStage = true ∧
      (spec.reconcilerAt scripts round).LawfulPass before after := by
  intro before after
  have hnames : (before.nodes.map (·.name)).Nodup := by
    apply runOver_induction (P := fun status => (status.nodes.map (·.name)).Nodup)
    · exact List.nodup_nil
    · exact fun _ _ h => Reconciler.nodup_foldPhases h
  have hbefore : ∀ entry ∈ before.nodes, entry.Lawful := by
    apply runOver_induction (P := fun status => ∀ entry ∈ status.nodes, entry.Lawful)
    · intro entry hentry
      cases hentry
    · exact fun _ _ h => Reconciler.lawful_reconcile h
  have hafter : ∀ entry ∈ after.nodes, entry.Lawful := Reconciler.lawful_reconcile hbefore
  refine ⟨hafter, ?_, Reconciler.lawfulPass_reconcile hnames⟩
  apply NodeState.isStage_aggregate
  intro state hstate
  obtain ⟨entry, hentry, rfl⟩ := List.mem_map.1 hstate
  exact (hafter entry hentry).stage

/-- A cluster of nodes with the given names. -/
def provisioned (names : List String) : ClusterSpec where
  name := "prod"
  topology := .instances (names.map fun name => { name })

/-- A pass that finds the node's instance in a mode and its state file with something in it. -/
def provisioningRound (mode contents : String) : Round where
  platform :=
    ((Platform.addNode {} "racnode").respond "racnode-0" "--checkracinst=true" mode).respond
      "racnode-0" ("cat " ++ Diagnostic.stateFilePath) contents
  now := Timestamp.ofUnix 0 0

def provisioningScripts : Diagnostic.Scripts :=
  Diagnostic.Scripts.mountedAt "/scripts" "python3"

def statusAfter (names : List String) (rounds : List Round) : ClusterStatus :=
  (provisioned names).runOver provisioningScripts {} rounds

theorem lawful_runOver_provisioned :
    let first := statusAfter ["racnode"] [provisioningRound "MOUNTED" "provisioning"]
    let next := (provisioned ["racnode"]).passOver provisioningScripts first
      (provisioningRound "MOUNTED" "provisioning")
    (provisioned ["racnode"]).DeclaresOnce "racnode" ∧ first.nodeStates = [.pending] ∧
      next.nodeStates = [.provisioning] ∧ (∀ entry ∈ next.nodes, entry.Lawful) ∧
      next.state.isStage = true ∧
      ((provisioned ["racnode"]).reconcilerAt provisioningScripts
        (provisioningRound "MOUNTED" "provisioning")).LawfulPass first next := by
  intro first next
  have honce : (provisioned ["racnode"]).DeclaresOnce "racnode" :=
    Nat.le_of_eq (by decide)
  exact ⟨honce, by decide, by decide, lawful_runOver (provisioned ["racnode"])
    provisioningScripts [provisioningRound "MOUNTED" "provisioning"]
    (provisioningRound "MOUNTED" "provisioning")⟩

/-- Where two nodes are declared with one name, one pass can take a new entry to another state than
pending, and an available one to a stage that is entered from a stage on the way only. -/
theorem not_forall_new_pending :
    ¬(∀ (spec : ClusterSpec) (scripts : Diagnostic.Scripts) (rounds : List Round) (round : Round),
      let before := spec.runOver scripts {} rounds
      ∀ entry ∈ (spec.passOver scripts before round).nodes,
        before.node? entry.name = none → entry.state = .pending) ∧
    ¬(∀ (spec : ClusterSpec) (scripts : Diagnostic.Scripts) (rounds : List Round) (round : Round),
      let before := spec.runOver scripts {} rounds
      ∀ entry ∈ (spec.passOver scripts before round).nodes, ∀ old ∈ before.nodes,
        old.name = entry.name → old.state = .available →
          entry.state = .available ∨ entry.state = .pending) ∧
    ¬(∀ (spec : ClusterSpec) (scripts : Diagnostic.Scripts) (rounds : List Round) (round : Round),
      let before := spec.runOver scripts {} rounds
      ∀ entry ∈ (spec.passOver scripts before round).nodes, entry.state.isToldStage = true →
        ∃ old ∈ before.nodes, old.name = entry.name ∧
          (old.state = entry.state ∨ old.state.isInProgress = true)) := by
  let twice := provisioned ["racnode", "racnode"]
  let opened := twice.passOver provisioningScripts {} (provisioningRound "OPEN" "")
  have hnew : ("racnode", NodeState.provisioning) ∈ (twice.passOver provisioningScripts {}
      (provisioningRound "MOUNTED" "provisioning")).nodes.map
        (fun entry => (entry.name, entry.state)) := by
    decide
  have hopened : opened.nodes.map (fun entry => (entry.name, entry.state)) =
      [("racnode", .available)] := by
    decide
  have hfailed : ("racnode", NodeState.failed) ∈ (twice.passOver provisioningScripts opened
      (provisioningRound "MOUNTED" "failed")).nodes.map
        (fun entry => (entry.name, entry.state)) := by
    decide
  have hold : ("racnode", NodeState.available) ∈
      opened.nodes.map (fun entry => (entry.name, entry.state)) := by
    simp [hopened]
  obtain ⟨entry, hentry, heq⟩ := List.mem_map.1 hfailed
  obtain ⟨hname, hstate⟩ := Prod.mk.inj heq
  refine ⟨fun hall => ?_, fun hall => ?_, fun hall => ?_⟩
  · obtain ⟨entry, hentry, heq⟩ := List.mem_map.1 hnew
    have hpending := hall twice provisioningScripts []
      (provisioningRound "MOUNTED" "provisioning") entry hentry rfl
    rw [(Prod.mk.inj heq).2] at hpending
    cases hpending
  · obtain ⟨old, hmem, hfirst⟩ := List.mem_map.1 hold
    obtain ⟨hsame, havailable⟩ := Prod.mk.inj hfirst
    have hkept := hall twice provisioningScripts [provisioningRound "OPEN" ""]
      (provisioningRound "MOUNTED" "failed") entry hentry old hmem (hsame.trans hname.symm)
      havailable
    rw [hstate] at hkept
    rcases hkept with h | h <;> cases h
  · obtain ⟨old, hmem, -, hway⟩ := hall twice provisioningScripts [provisioningRound "OPEN" ""]
      (provisioningRound "MOUNTED" "failed") entry hentry (by rw [hstate]; rfl)
    have hfirst := List.mem_map_of_mem (f := fun entry => (entry.name, entry.state)) hmem
    have havailable : old.state = .available := by
      have hpair : (old.name, old.state) ∈ [("racnode", NodeState.available)] := hopened ▸ hfirst
      exact (Prod.mk.inj (List.mem_singleton.1 hpair)).2
    rw [hstate, havailable] at hway
    rcases hway with h | h <;> cases h

end ClusterSpec

end ClusterWatch
