import ClusterWatch.Proofs.Diagnostic.Questions
import ClusterWatch.Proofs.Pass.Groups
import ClusterWatch.Proofs.Pass.Independence
import ClusterWatch.Proofs.Spec.NodeNames

/-!
What a pass runs.

A phase asks the pod of its own node, and only if the pod can be present. After all phases the pod
of one node is asked about the whole cluster, and nothing is run after that.
-/

namespace ClusterWatch

namespace Console

variable {c : Console} {nodes : List NodeStatus} {node : NodeSpec} {phase : NodeState} {e : Exec}

/-- A present pod is asked how far provisioning has come if its node is still being brought up and
its instance is not open. -/
def stateQuestions (instanceState : InstanceState) (previous : NodeState) : List (List String) :=
  if instanceState = .opened then []
  else if previous.isInProgress then [Diagnostic.stateFile] else []

/-- What the pod of a node is asked in a phase. -/
def nodeQuestions (c : Console) (nodes : List NodeStatus) (node : NodeSpec) (phase : NodeState) :
    List (List String) :=
  let vitals := [c.scripts.clusterHealth, c.scripts.instanceState]
  match phase with
  | .available | .podAvailable =>
    match nodes.find? (isFor node.name) with
    | some entry => vitals ++ stateQuestions (c.instanceState node.podName).value entry.state
    | none => vitals
  | .failed => vitals
  | _ => []

/-- A phase in which the pod of a node is asked for anything. -/
def AsksPod (phase : NodeState) : Prop :=
  phase = .available ∨ phase = .podAvailable ∨ phase = .failed

theorem execs_vitals (pod : String) :
    (c.vitals pod).execs = c.ran pod [c.scripts.clusterHealth, c.scripts.instanceState] := by
  simp only [vitals, Journal.execs_bind, Journal.execs_pure, execs_clusterHealth,
    execs_instanceState, List.append_nil, ran_cons_cons]

theorem execs_nextState (pod : String) (instanceState : InstanceState) (previous : NodeState) :
    (c.nextState pod instanceState previous).execs =
      c.ran pod (stateQuestions instanceState previous) := by
  rw [nextState, stateQuestions]
  split
  · exact (ran_nil c pod).symm
  · split
    · exact execs_stateFile
    · exact (ran_nil c pod).symm

theorem execs_updatePresent (vitals : Vitals) :
    (c.updatePresent nodes node phase vitals).execs =
      match nodes.find? (isFor node.name) with
      | some entry => c.ran node.podName (stateQuestions vitals.instanceState entry.state)
      | none => [] := by
  rw [updatePresent, see_bind]
  cases nodes.find? (isFor node.name) with
  | some entry =>
      simp only [Journal.execs_bind, Journal.execs_notifyIf, Journal.execs_pure, List.append_nil,
        execs_nextState]
  | none => rfl

theorem execs_updateNode (c : Console) (nodes : List NodeStatus) (node : NodeSpec)
    (phase : NodeState) :
    (c.updateNode nodes node phase).execs =
      c.ran node.podName (c.nodeQuestions nodes node phase) := by
  cases phase with
  | available | podAvailable =>
      simp only [updateNode, nodeQuestions, Journal.execs_bind, execs_vitals, execs_updatePresent]
      split
      · exact (ran_append c _ _ _).symm
      · exact List.append_nil _
  | failed =>
      simp only [updateNode, nodeQuestions, Journal.execs_bind, execs_vitals]
      split
      · next hgood =>
          -- The instance of a recovered node is open, so its state file does not matter.
          have hopened : (c.vitals node.podName).value.instanceState = .opened :=
            of_decide_eq_true (Bool.and_eq_true_iff.1 hgood).2
          simp only [Journal.execs_bind, Journal.execs_notify, execs_updatePresent, hopened,
            stateQuestions, ↓reduceIte, ran_nil, List.nil_append]
          split <;> exact List.append_nil _
      · exact List.append_nil _
  | statefulSetNotFound =>
      simp only [updateNode, removeNode, Journal.execs_bind, Journal.execs_notifyIf,
        Journal.execs_pure, List.append_nil, nodeQuestions, ran_nil]
  | podNotFound | podNotReady | podFailure =>
      simp only [updateNode, updateAbsent, see_bind, Journal.execs_bind, Journal.execs_notifyIf,
        Journal.execs_pure, List.append_nil, nodeQuestions, ran_nil]
  | pending | provisioning | addNode | update => exact (ran_nil c node.podName).symm

theorem stateQuestions_sublist (instanceState : InstanceState) (previous : NodeState) :
    (stateQuestions instanceState previous).Sublist [Diagnostic.stateFile] := by
  rw [stateQuestions]
  split
  · exact List.nil_sublist _
  · split
    · exact List.Sublist.refl _
    · exact List.nil_sublist _

theorem nodeQuestions_sublist (c : Console) (nodes : List NodeStatus) (node : NodeSpec)
    (phase : NodeState) : (c.nodeQuestions nodes node phase).Sublist c.scripts.ofNode := by
  have hvitals : [c.scripts.clusterHealth, c.scripts.instanceState].Sublist c.scripts.ofNode :=
    List.sublist_append_left [c.scripts.clusterHealth, c.scripts.instanceState]
      [Diagnostic.stateFile]
  have hpresent : ∀ instanceState previous,
      ([c.scripts.clusterHealth, c.scripts.instanceState] ++
        stateQuestions instanceState previous).Sublist c.scripts.ofNode :=
    fun instanceState previous =>
      (stateQuestions_sublist instanceState previous).append_left _
  unfold nodeQuestions
  split
  · split
    · exact hpresent _ _
    · exact hvitals
  · split
    · exact hpresent _ _
    · exact hvitals
  · exact hvitals
  · exact List.nil_sublist _

theorem asksPod_of_mem_nodeQuestions {argv : List String}
    (h : argv ∈ c.nodeQuestions nodes node phase) : AsksPod phase := by
  cases phase with
  | available => exact Or.inl rfl
  | podAvailable => exact Or.inr (Or.inl rfl)
  | failed => exact Or.inr (Or.inr rfl)
  | _ => cases h

/-- A node whose pod is asked for anything is asked for its health. -/
theorem clusterHealth_mem_nodeQuestions (h : AsksPod phase) :
    c.scripts.clusterHealth ∈ c.nodeQuestions nodes node phase := by
  unfold nodeQuestions
  rcases h with rfl | rfl | rfl
  · simp only
    split <;> exact List.mem_cons_self
  · simp only
    split <;> exact List.mem_cons_self
  · exact List.mem_cons_self

end Console

namespace Reconciler

open Console

variable {r : Reconciler} {nodes : List NodeStatus} {phases : List (NodeSpec × NodeState)}
  {e : Exec} {pod : String} {previous : List DiskGroupStatus}

section phases

theorem execs_foldPhases_cons (node : NodeSpec) (phase : NodeState) :
    (r.foldPhases nodes ((node, phase) :: phases)).execs =
      r.console.ran node.podName (r.console.nodeQuestions nodes node phase) ++
        (r.foldPhases (r.console.updateNode nodes node phase).value phases).execs := by
  rw [← execs_updateNode]
  rfl

/-- What is run during the phases is asked of the pod of a node, in one of its phases. -/
theorem exists_of_mem_execs_foldPhases (h : e ∈ (r.foldPhases nodes phases).execs) :
    ∃ p ∈ phases, AsksPod p.2 ∧ r.console.isRunning e.pod = true ∧ e.pod = p.1.podName ∧
      e.argv ∈ r.console.scripts.ofNode := by
  induction phases generalizing nodes with
  | nil => cases h
  | cons p phases ih =>
      rw [execs_foldPhases_cons] at h
      rcases List.mem_append.1 h with hfirst | hrest
      · obtain ⟨hrunning, hpod, hargv⟩ := mem_ran_iff.1 hfirst
        refine ⟨p, List.mem_cons_self, asksPod_of_mem_nodeQuestions hargv, ?_, hpod, ?_⟩
        · rwa [hpod]
        · exact (nodeQuestions_sublist r.console nodes p.1 p.2).subset hargv
      · obtain ⟨q, hq, hasked⟩ := ih hrest
        exact ⟨q, List.mem_cons_of_mem p hq, hasked⟩

theorem clusterHealth_mem_execs_foldPhases {p : NodeSpec × NodeState} (hp : p ∈ phases)
    (hasks : AsksPod p.2) (hrunning : r.console.isRunning p.1.podName = true) :
    ⟨p.1.podName, r.console.scripts.clusterHealth⟩ ∈ (r.foldPhases nodes phases).execs := by
  induction phases generalizing nodes with
  | nil => cases hp
  | cons q phases ih =>
      rw [execs_foldPhases_cons]
      rcases List.mem_cons.1 hp with rfl | hp
      · apply List.mem_append_left
        exact mem_ran_iff.2 ⟨hrunning, rfl, clusterHealth_mem_nodeQuestions hasks⟩
      · exact List.mem_append_right _ (ih hp)

theorem nodup_execs_foldPhases (hnames : (phases.map (·.1.name)).Nodup) :
    (r.foldPhases nodes phases).execs.Nodup := by
  induction phases generalizing nodes with
  | nil => exact List.nodup_nil
  | cons p phases ih =>
      rw [List.map_cons, List.nodup_cons] at hnames
      have hasked : (r.console.nodeQuestions nodes p.1 p.2).Nodup := by
        apply List.Nodup.sublist (nodeQuestions_sublist r.console nodes p.1 p.2)
        exact (List.nodup_append.1
          (Diagnostic.Scripts.nodup_ofNode_append_ofCluster r.console.scripts none "")).1
      rw [execs_foldPhases_cons]
      apply List.nodup_append.2
      refine ⟨nodup_ran hasked, ih hnames.2, ?_⟩
      -- Another node has another pod.
      rintro e hfirst _ hrest rfl
      obtain ⟨-, hpod, -⟩ := mem_ran_iff.1 hfirst
      obtain ⟨q, hq, -, -, hother, -⟩ := exists_of_mem_execs_foldPhases hrest
      have hname : q.1.name = p.1.name := podOf_inj.1 (hother.symm.trans hpod)
      exact hnames.1 (hname ▸ List.mem_map_of_mem hq)

end phases

section facts

/-- The groups that the source of a pass starts from. -/
def knownFrom (r : Reconciler) (pod : String) (previous : List DiskGroupStatus) :
    List DiskGroupStatus :=
  let listed := (r.console.aggregateGroups pod r.spec previous).value
  if listed.isEmpty then previous else listed

/-- A node is asked for its devices of the two types that no group has. -/
def deviceQuestions (groups : List DiskGroupStatus) : List (List String) :=
  (if groups.any (·.type = some .crs) then [] else [Diagnostic.crsDeviceList]) ++
    if groups.any (·.type = some .dbData) then [] else [Diagnostic.dbDeviceList]

/-- What the source of a pass is asked about the whole cluster. -/
def sourceQuestions (r : Reconciler) (pod : String) (previous : List DiskGroupStatus) :
    List (List String) :=
  r.console.scripts.diskGroups :: (r.console.scripts.ofGroups (r.console.diskGroups pod).value ++
    (deviceQuestions (r.knownFrom pod previous) ++
      (r.console.scripts.ofService r.spec.serviceName r.spec.dbName ++
        r.console.scripts.ofDatabase)))

theorem deviceQuestions_sublist (groups : List DiskGroupStatus) :
    (deviceQuestions groups).Sublist [Diagnostic.crsDeviceList, Diagnostic.dbDeviceList] := by
  have hskipped : ∀ (skip : Bool) (argv : List String),
      (if skip then [] else [argv]).Sublist [argv] := by
    intro skip argv
    cases skip with
    | true => exact List.nil_sublist _
    | false => exact List.Sublist.refl _
  exact (hskipped _ _).append (hskipped _ _)

/-- The source is asked nothing about the cluster twice, apart from what it lists twice. -/
theorem count_sourceQuestions_le (r : Reconciler) (pod : String)
    (previous : List DiskGroupStatus) (argv : List String) :
    (r.sourceQuestions pod previous).count argv ≤
      (r.console.scripts.ofCluster r.spec.serviceName r.spec.dbName).count argv +
        (r.console.scripts.ofGroups (r.console.diskGroups pod).value).count argv := by
  have hcluster : (r.console.scripts.diskGroups :: (deviceQuestions (r.knownFrom pod previous) ++
      (r.console.scripts.ofService r.spec.serviceName r.spec.dbName ++
        r.console.scripts.ofDatabase))).Sublist
      (r.console.scripts.ofCluster r.spec.serviceName r.spec.dbName) :=
    List.Sublist.cons_cons _ ((deviceQuestions_sublist _).append (List.Sublist.refl _))
  have hcount := hcluster.count_le argv
  simp only [sourceQuestions, List.count_cons, List.count_append] at hcount ⊢
  omega

theorem asksOfCluster_of_mem_sourceQuestions {argv : List String}
    (h : argv ∈ r.sourceQuestions pod previous) : r.console.scripts.AsksOfCluster argv := by
  have hcount := count_sourceQuestions_le r pod previous argv
  have hasked : 0 < (r.sourceQuestions pod previous).count argv := List.count_pos_iff.2 h
  by_cases hcluster :
      argv ∈ r.console.scripts.ofCluster r.spec.serviceName r.spec.dbName
  · exact Or.inl ⟨_, _, hcluster⟩
  · rw [List.count_eq_zero.2 hcluster, Nat.zero_add] at hcount
    obtain ⟨group, -, hgroup⟩ :=
      Diagnostic.Scripts.mem_ofGroups_iff.1 (List.count_pos_iff.1 (hasked.trans_le hcount))
    exact Or.inr ⟨group, hgroup⟩

theorem execs_listGroups (c : Console) (spec : ClusterSpec) (previous : List DiskGroupStatus)
    (names : List String) :
    (c.listGroups pod spec previous names).execs = c.ran pod (c.scripts.ofGroups names) := by
  induction names with
  | nil => exact (ran_nil c pod).symm
  | cons name names ih =>
      have hsplit : c.scripts.ofGroups (name :: names) =
          [c.scripts.disks name] ++ ([c.scripts.redundancy name] ++ c.scripts.ofGroups names) :=
        rfl
      rw [listGroups, hsplit, ran_append, ran_append]
      simp only [Journal.execs_bind, Journal.execs_pure, execs_disks, redundancy, execs_probeText,
        ih, List.append_nil]

theorem execs_aggregateGroups (c : Console) (spec : ClusterSpec)
    (previous : List DiskGroupStatus) :
    (c.aggregateGroups pod spec previous).execs =
      c.ran pod (c.scripts.diskGroups :: c.scripts.ofGroups (c.diskGroups pod).value) := by
  rw [aggregateGroups, Journal.execs_bind, execs_diskGroups, execs_listGroups]
  exact (ran_append c pod [c.scripts.diskGroups] _).symm

theorem execs_fillType (type : DiskGroupType)
    (devices : Journal (Except ExecError (List String))) (groups : List DiskGroupStatus) :
    (fillType type devices groups).execs =
      if groups.any (·.type = some type) then [] else devices.execs := by
  rw [fillType]
  split
  · rfl
  · apply Journal.execs_bind_of_nil
    intro result
    cases result <;> rfl

theorem execs_fillConfigured (c : Console) (groups : List DiskGroupStatus) :
    (c.fillConfigured pod groups).execs = c.ran pod (deviceQuestions groups) := by
  rw [fillConfigured, deviceQuestions, Journal.execs_bind, execs_fillType, execs_fillType,
    value_fillType, any_type_append_standIn (by decide), ran_append]
  congr 1
  · split
    · exact (ran_nil c pod).symm
    · exact execs_deviceList _
  · split
    · exact (ran_nil c pod).symm
    · exact execs_deviceList _

theorem execs_serviceState (r : Reconciler) (pod : String) :
    (r.serviceState pod).execs =
      r.console.ran pod (r.console.scripts.ofService r.spec.serviceName r.spec.dbName) := by
  rw [Reconciler.serviceState]
  cases r.spec.serviceName with
  | none => exact (ran_nil r.console pod).symm
  | some service => exact (Journal.execs_map _ _).trans (execs_probeText _)

theorem execs_databaseStatus (r : Reconciler) (pod : String) :
    (r.databaseStatus pod).execs = r.console.ran pod
      (r.console.scripts.ofService r.spec.serviceName r.spec.dbName ++
        r.console.scripts.ofDatabase) := by
  rw [databaseStatus, ran_append]
  simp only [Journal.execs_bind, Journal.execs_pure, List.append_nil, execs_serviceState, dbState,
    dbRole, connectString, pdbConnectString, execs_probeText, execs_dbVersion, execs_gridHome,
    Diagnostic.Scripts.ofDatabase, ran_cons_cons]

theorem execs_sourceFacts (r : Reconciler) (pod : String) (previous : List DiskGroupStatus) :
    (r.sourceFacts pod previous).execs = r.console.ran pod (r.sourceQuestions pod previous) := by
  have hsplit : r.sourceQuestions pod previous =
      (r.console.scripts.diskGroups :: r.console.scripts.ofGroups (r.console.diskGroups pod).value)
        ++ (deviceQuestions (r.knownFrom pod previous) ++
          (r.console.scripts.ofService r.spec.serviceName r.spec.dbName ++
            r.console.scripts.ofDatabase)) :=
    rfl
  rw [hsplit, ran_append, ran_append, ← execs_databaseStatus, ← execs_fillConfigured,
    ← execs_aggregateGroups r.console r.spec previous]
  simp only [sourceFacts, Journal.execs_bind, Journal.execs_pure, List.append_nil]
  rfl

/-- What is run after the phases: the source of the pass is asked, if there is one. -/
theorem execs_clusterFacts (r : Reconciler) (before : ClusterStatus) (nodes : List NodeStatus) :
    (r.clusterFacts before nodes).execs =
      match sourceOf nodes with
      | some source =>
        r.console.ran (podOf source.name) (r.sourceQuestions (podOf source.name) before.diskGroups)
      | none => [] := by
  rw [clusterFacts]
  cases sourceOf nodes with
  | some source => exact execs_sourceFacts r _ _
  | none => rfl

theorem execs_recordSizes (groups : List DiskGroupStatus) :
    (r.console.recordSizes r.spec groups).execs = [] := by
  rw [recordSizes, see_bind]
  split
  · rfl
  · split <;> rfl

theorem execs_reconcileWithPhases (r : Reconciler) (now : Timestamp) (before : ClusterStatus)
    (phases : List (NodeSpec × NodeState)) :
    (r.reconcileWithPhases now before phases).execs =
      (r.foldPhases before.nodes phases).execs ++
        (r.clusterFacts before (r.foldPhases before.nodes phases).value).execs := by
  rw [reconcileWithPhases]
  simp only [Journal.execs_bind, Journal.execs_notifyIf, Journal.execs_pure, execs_recordSizes,
    List.append_nil]

/-- What a pass runs asks the pod of a node in one of its phases about the node, or the pod of the
source about the cluster. -/
theorem mem_execs_reconcileWithPhases {now : Timestamp} {before : ClusterStatus}
    (h : e ∈ (r.reconcileWithPhases now before phases).execs) :
    (∃ p ∈ phases, AsksPod p.2 ∧ r.console.isRunning e.pod = true ∧ e.pod = p.1.podName ∧
      e.argv ∈ r.console.scripts.ofNode) ∨
    ∃ source, sourceOf (r.reconcileWithPhases now before phases).value.nodes = some source ∧
      e ∈ r.console.ran (podOf source.name)
        (r.sourceQuestions (podOf source.name) before.diskGroups) := by
  rw [execs_reconcileWithPhases, execs_clusterFacts] at h
  rcases List.mem_append.1 h with hphase | hfacts
  · exact Or.inl (exists_of_mem_execs_foldPhases hphase)
  · cases hsource : sourceOf (r.foldPhases before.nodes phases).value with
    | none =>
        rw [hsource] at hfacts
        cases hfacts
    | some source =>
        rw [hsource] at hfacts
        exact Or.inr ⟨source, hsource, hfacts⟩

end facts

end Reconciler

end ClusterWatch
