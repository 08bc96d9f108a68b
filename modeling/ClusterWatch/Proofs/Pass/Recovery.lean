import ClusterWatch.Proofs.Pass.Freshness
import ClusterWatch.Proofs.Pass.Questions

/-!
A failed node recovers or stays as it is.

A node in the failed phase is asked for its vitals first. If they are good, its entry becomes that
of an available node, with the vitals that are known already; otherwise nothing comes of the phase.
Main statement: `updateNode_failed`.
-/

namespace ClusterWatch.Console

variable {c : Console} {pod : String} {nodes : List NodeStatus} {node : NodeSpec}

/-- The pod is running and answers that its clusterware is healthy and its instance is open. -/
structure ReportsRecovery (c : Console) (pod : String) : Prop where
  running : ∃ info, c.platform.pod c.ns pod = .ok info ∧ info.phase = .running
  healthy : ∃ out, c.platform.answer pod c.scripts.clusterHealth = .ok out ∧
    ClusterHealth.parse out.stdout = .healthy
  opened : ∃ out, c.platform.answer pod c.scripts.instanceState = .ok out ∧
    InstanceState.parse out.stdout = .opened

theorem areGood_vitals_iff : (c.vitals pod).value.areGood = true ↔ c.ReportsRecovery pod := by
  have hvitals : (c.vitals pod).value.areGood = true ↔
      (c.clusterHealth pod).value = .healthy ∧ (c.instanceState pod).value = .opened := by
    rw [Vitals.areGood, Bool.and_eq_true, decide_eq_true_iff, decide_eq_true_iff]
    rfl
  rw [hvitals, clusterHealth_eq_healthy_iff, instanceState_eq_opened_iff]
  constructor
  · rintro ⟨⟨hrunning, hhealthy⟩, -, hopened⟩
    exact ⟨isRunning_iff.1 hrunning, hhealthy, hopened⟩
  · rintro ⟨hrunning, hhealthy, hopened⟩
    exact ⟨⟨isRunning_iff.2 hrunning, hhealthy⟩, isRunning_iff.2 hrunning, hopened⟩

theorem notices_probe (argv : List String) : (c.probe pod argv).notices = [] := by
  rw [probe, run_eq_ite]
  split
  · simp only [Journal.notices_bind]
    cases c.platform.answer pod argv <;> rfl
  · rfl

theorem notices_probe_bind {β : Type} {f : Option String → Journal β} (argv : List String)
    (h : ∀ out, (f out).notices = []) : (c.probe pod argv >>= f).notices = [] := by
  rw [Journal.notices_bind, notices_probe, h, List.append_nil]

theorem notices_vitals : (c.vitals pod).notices = [] := by
  have hhealth : (c.clusterHealth pod).notices = [] := by
    apply notices_probe_bind
    intro out
    cases out <;> rfl
  have hinstance : (c.instanceState pod).notices = [] := by
    apply notices_probe_bind
    intro out
    cases out <;> rfl
  simp only [vitals, Journal.notices_bind, Journal.notices_pure, hhealth, hinstance,
    List.append_nil]

/-- A failed node that reports a recovery goes the way of an available one. -/
theorem updateNode_failed_of_reportsRecovery (h : c.ReportsRecovery node.podName) :
    let failed := c.updateNode nodes node .failed
    let available := c.updateNode nodes node .available
    failed.value = available.value ∧ failed.execs = available.execs ∧
      failed.notices = .recovered node.name :: available.notices := by
  intro failed available
  have hgood := areGood_vitals_iff.2 h
  have hfailed : failed = (do
      let vitals ← c.vitals node.podName
      Notifies.notify (.recovered node.name)
      c.updatePresent nodes node .available vitals) := by
    simp only [failed, updateNode, bind, Journal.bind, hgood, if_pos]
  rw [hfailed]
  refine ⟨rfl, rfl, ?_⟩
  simp only [available, updateNode, Journal.notices_bind, notices_vitals]
  rfl

/-- A failed node that does not report a recovery is asked for its vitals in vain. -/
theorem updateNode_failed_of_not_reportsRecovery (nodes : List NodeStatus)
    (h : ¬c.ReportsRecovery node.podName) :
    let failed := c.updateNode nodes node .failed
    failed.value = nodes ∧ failed.notices = [] ∧
      failed.execs = c.ran node.podName [c.scripts.clusterHealth, c.scripts.instanceState] := by
  have hbad : ¬(c.vitals node.podName).value.areGood = true := mt areGood_vitals_iff.1 h
  refine ⟨?_, ?_, execs_updateNode c nodes node .failed⟩
  · simp only [updateNode, Journal.value_bind, if_neg hbad, Journal.value_pure]
  · simp only [updateNode, Journal.notices_bind, if_neg hbad, Journal.notices_pure, notices_vitals,
      List.append_nil]

/-- Recovery is all or nothing. If the pod of a failed node is running and reports a healthy
clusterware and an open instance, the entries and the commands are those of an available node;
otherwise the entries stay as they were, and the pod was asked for the two if it is running, and for
nothing if it is missing or not running. -/
theorem updateNode_failed (c : Console) (nodes : List NodeStatus) (node : NodeSpec) :
    let failed := c.updateNode nodes node .failed
    let available := c.updateNode nodes node .available
    let running := ∃ info, c.platform.pod c.ns node.podName = .ok info ∧ info.phase = .running
    (c.ReportsRecovery node.podName →
      failed.value = available.value ∧ failed.execs = available.execs ∧
        failed.notices = .recovered node.name :: available.notices) ∧
    (¬c.ReportsRecovery node.podName →
      failed.value = nodes ∧ failed.notices = [] ∧
        (running → failed.execs = [⟨node.podName, c.scripts.clusterHealth⟩,
          ⟨node.podName, c.scripts.instanceState⟩]) ∧
        (¬running → failed.execs = [])) := by
  intro failed available running
  refine ⟨updateNode_failed_of_reportsRecovery, fun hreports => ?_⟩
  obtain ⟨hvalue, hnotices, hexecs⟩ := updateNode_failed_of_not_reportsRecovery nodes hreports
  refine ⟨hvalue, hnotices, fun hrunning => ?_, fun hrunning => ?_⟩
  · exact hexecs.trans (if_pos (isRunning_iff.2 hrunning))
  · exact hexecs.trans (if_neg (mt isRunning_iff.1 hrunning))

/-- Access to a node whose pod is running and answers with a health and an open mode. -/
def answering (health mode : String) : Console where
  platform := ((Platform.addNode {} "racnode").respond "racnode-0" "--checkgilocal=true"
    health).respond "racnode-0" "--checkracinst=true" mode
  ns := "default"
  scripts := Diagnostic.Scripts.mountedAt "/scripts" "python3"

def answeringNode : NodeSpec where
  ordinal := 0
  name := "racnode"
  workerNodes := []
  vipService := "racnode-vip"
  pvc := ∅
  privateNetworks := []

/-- An entry from before the node failed. -/
def answeringBefore : NodeStatus :=
  { name := "racnode", podState := .podFailure, state := .provisioning }

theorem updateNode_failed_answering :
    let recovered := (answering " healthy\n" "open").updateNode [answeringBefore] answeringNode
    let mounted := (answering "HEALTHY" "MOUNTED").updateNode [answeringBefore] answeringNode
    (answering " healthy\n" "open").ReportsRecovery "racnode-0" ∧
      (recovered .failed).value = (recovered .available).value ∧
      (recovered .failed).value.map (·.state) = [.available] ∧
      (recovered .failed).execs = (recovered .available).execs ∧
      ¬(answering "HEALTHY" "MOUNTED").ReportsRecovery "racnode-0" ∧
      (mounted .failed).value = [answeringBefore] ∧
      (mounted .failed).execs.length = 2 := by
  intro recovered mounted
  have hreports : (answering " healthy\n" "open").ReportsRecovery "racnode-0" :=
    ⟨⟨_, rfl, by decide⟩, ⟨_, rfl, by decide⟩, ⟨_, rfl, by decide⟩⟩
  have hmounted : ¬(answering "HEALTHY" "MOUNTED").ReportsRecovery "racnode-0" := by
    rintro ⟨-, -, out, hout, hopened⟩
    cases hout
    exact absurd hopened (by decide)
  obtain ⟨hvalue, hexecs, -⟩ :=
    (updateNode_failed (answering " healthy\n" "open") [answeringBefore] answeringNode).1 hreports
  obtain ⟨hkept, -, hasked, -⟩ :=
    (updateNode_failed (answering "HEALTHY" "MOUNTED") [answeringBefore] answeringNode).2 hmounted
  refine ⟨hreports, hvalue, by decide, hexecs, hmounted, hkept, ?_⟩
  exact congrArg List.length (hasked ⟨_, rfl, by decide⟩)

end ClusterWatch.Console
