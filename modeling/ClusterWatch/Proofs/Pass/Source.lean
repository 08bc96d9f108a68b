import ClusterWatch.Proofs.Pass.Freshness
import ClusterWatch.Proofs.Pass.Observations
import ClusterWatch.Proofs.Pass.Questions

/-!
Where the facts about a cluster as a whole come from.

After its phases a pass asks one pod about the cluster: that of the first node that answered healthy
in the same pass, or of the first node if none did. What a node answered in an earlier pass does not
count, because each phase writes the health of its entry anew. Main statement: `source_reconcile`.
-/

namespace ClusterWatch

namespace Reconciler

open Console

/-- The pod of a node was asked for its cluster health and answered that it is healthy. -/
structure AnsweredHealthy (r : Reconciler) (execs : List Exec) (name : String) : Prop where
  asked : ⟨podOf name, r.console.scripts.clusterHealth⟩ ∈ execs
  answer : ∃ out,
    r.console.platform.answer (podOf name) r.console.scripts.clusterHealth = .ok out ∧
      Text.raised out.stdout = "HEALTHY"

/-- The entry whose pod is to be asked about the cluster: the first that answered healthy, or the
first of all if none did. -/
inductive IsSource (r : Reconciler) (execs : List Exec) (source : NodeStatus) :
    List NodeStatus → Prop where
  | healthy (earlier later : List NodeStatus)
      (hearlier : ∀ entry ∈ earlier, ¬r.AnsweredHealthy execs entry.name)
      (hsource : r.AnsweredHealthy execs source.name) :
      IsSource r execs source (earlier ++ source :: later)
  | first (later : List NodeStatus)
      (hnone : ∀ entry ∈ source :: later, ¬r.AnsweredHealthy execs entry.name) :
      IsSource r execs source (source :: later)

variable {r : Reconciler} {status : ClusterStatus} {now : Timestamp} {node : NodeSpec}
  {execs : List Exec} {nodes : List NodeStatus} {source : NodeStatus}

/-- Entries that are marked healthy exactly if they answered so have the source that is chosen. -/
theorem isSource_of_sourceOf
    (hmarked : ∀ entry ∈ nodes, entry.isHealthy = true ↔ r.AnsweredHealthy execs entry.name)
    (h : sourceOf nodes = some source) : r.IsSource execs source nodes := by
  rw [sourceOf] at h
  cases hfirst : nodes.find? NodeStatus.isHealthy with
  | some chosen =>
      rw [hfirst, Option.some_or] at h
      obtain rfl := Option.some.inj h
      obtain ⟨hhealthy, earlier, later, hsplit, hearlier⟩ :=
        List.find?_eq_some_iff_append.1 hfirst
      subst hsplit
      apply IsSource.healthy
      · intro entry hentry
        rw [← hmarked entry (List.mem_append_left _ hentry)]
        simpa using hearlier entry hentry
      · apply (hmarked chosen _).1 hhealthy
        exact List.mem_append_right earlier List.mem_cons_self
  | none =>
      rw [hfirst, Option.none_or] at h
      obtain ⟨later, hsplit⟩ := List.head?_eq_some_iff.1 h
      subst hsplit
      apply IsSource.first
      intro entry hentry
      rw [← hmarked entry hentry]
      exact List.find?_eq_none.1 hfirst entry hentry

theorem probePhase_of_asksPod (h : AsksPod (r.probePhase node)) :
    r.probePhase node = .podAvailable := by
  rcases r.probePhase_cases node with hpresent | hmissing | habsent
  · exact hpresent
  · rw [hmissing] at h
    rcases h with h | h | h <;> cases h
  · rcases h with h | h | h
    · rw [h] at habsent
      cases habsent
    · exact h
    · rw [h] at habsent
      cases habsent

/-- What a pass runs asks a present pod about its node or the pod of the source about the
cluster. -/
theorem mem_execs_reconcile {e : Exec} (h : e ∈ (r.reconcile now status).execs) :
    (∃ node ∈ r.spec.nodes, r.probePhase node = .podAvailable ∧
      r.console.isRunning e.pod = true ∧ e.pod = node.podName ∧
        e.argv ∈ r.console.scripts.ofNode) ∨
    ∃ source, sourceOf (r.reconcile now status).value.nodes = some source ∧
      e ∈ r.console.ran (podOf source.name)
        (r.sourceQuestions (podOf source.name) status.diskGroups) := by
  rcases mem_execs_reconcileWithPhases h with ⟨p, hp, hasks, hasked⟩ | hfacts
  · obtain ⟨hnode, hprobed⟩ := mem_probedPhases hp
    rw [hprobed] at hasks
    exact Or.inl ⟨p.1, hnode, probePhase_of_asksPod hasks, hasked⟩
  · exact Or.inr hfacts

/-- A declared node reports healthy exactly if it is asked in a pass and answers so. -/
theorem reportsHealthy_iff_answeredHealthy (hnode : node ∈ r.spec.nodes) :
    r.ReportsHealthy node.name ↔
      r.AnsweredHealthy (r.reconcile now status).execs node.name := by
  rw [reportsHealthy_iff, clusterHealth_eq_healthy_iff]
  simp only [ClusterHealth.parse_eq_healthy_iff]
  constructor
  · rintro ⟨hphase, hrunning, hanswer⟩
    refine ⟨?_, hanswer⟩
    have hprobed : (node, r.probePhase node) ∈ r.probedPhases := List.mem_map_of_mem hnode
    rw [reconcile_eq, execs_reconcileWithPhases]
    apply List.mem_append_left
    exact clusterHealth_mem_execs_foldPhases hprobed (Or.inr (Or.inl hphase)) hrunning
  · rintro ⟨hasked, hanswer⟩
    have hmine : r.console.scripts.clusterHealth ∈ r.console.scripts.ofNode := List.mem_cons_self
    rcases mem_execs_reconcile hasked with
      ⟨other, -, hphase, hrunning, hpod, -⟩ | ⟨source, -, hran⟩
    · have hname : node.name = other.name := podOf_inj.1 hpod
      rw [probePhase_congr hname]
      exact ⟨hphase, hrunning, hanswer⟩
    · obtain ⟨-, -, hquestion⟩ := mem_ran_iff.1 hran
      exact absurd (asksOfCluster_of_mem_sourceQuestions hquestion)
        (Diagnostic.Scripts.not_asksOfCluster hmine)

/-- An entry of a declared node is marked healthy exactly if its node answered so in the pass, so
that no mark from an earlier pass is left. -/
theorem isHealthy_iff_answeredHealthy (hstatus : (status.nodes.map (·.name)).Nodup)
    {entry : NodeStatus} (hentry : entry ∈ (r.reconcile now status).value.nodes)
    (hdeclared : entry.name ∈ r.spec.nodes.map (·.name)) :
    entry.isHealthy = true ↔ r.AnsweredHealthy (r.reconcile now status).execs entry.name := by
  obtain ⟨node, hnode, hname⟩ := List.mem_map.1 hdeclared
  have hfirst := find?_reconcile_of_mem hstatus hentry hname.symm
  rw [← hname, ← reportsHealthy_iff_answeredHealthy hnode, ← clusterState_reconcile hnode hfirst]
  exact decide_eq_true_iff

theorem declared_reconcile
    (hdeclared : ∀ entry ∈ status.nodes, entry.name ∈ r.spec.nodes.map (·.name)) :
    ∀ entry ∈ (r.reconcile now status).value.nodes, entry.name ∈ r.spec.nodes.map (·.name) := by
  intro entry hentry
  have hname : entry.name ∈ (r.reconcile now status).value.nodes.map (·.name) :=
    List.mem_map_of_mem hentry
  rw [map_name_reconcile, mem_foldl_track_iff] at hname
  rcases hname with ⟨hundeclared, hbefore⟩ | ⟨hkept, -⟩
  · obtain ⟨known, hknown, hname⟩ := List.mem_map.1 hbefore
    exact absurd (hname ▸ hdeclared known hknown) hundeclared
  · exact hkept

theorem execs_reconcile_of_nodes_eq_nil (hnone : (r.reconcile now status).value.nodes = []) :
    (r.reconcile now status).execs = [] := by
  rw [List.eq_nil_iff_forall_not_mem]
  intro e he
  rcases mem_execs_reconcile he with ⟨node, hnode, hphase, -⟩ | ⟨source, hsource, -⟩
  · -- The node has a workload, so the pass leaves an entry for it.
    obtain ⟨⟨workload, hworkload⟩, -⟩ := probePhase_eq_podAvailable_iff.1 hphase
    have hkept : node.name ∈ (r.reconcile now status).value.nodes.map (·.name) := by
      rw [map_name_reconcile, mem_foldl_track_iff]
      apply Or.inr
      refine ⟨List.mem_map_of_mem hnode, ?_⟩
      rw [hasWorkload, hworkload]
      rfl
    rw [hnone] at hkept
    cases hkept
  · rw [hnone] at hsource
    cases hsource

theorem exists_sourceOf (h : nodes ≠ []) : ∃ source, sourceOf nodes = some source := by
  obtain ⟨first, later, rfl⟩ := List.exists_cons_of_ne_nil h
  rw [sourceOf]
  cases (first :: later).find? NodeStatus.isHealthy with
  | some chosen => exact ⟨chosen, rfl⟩
  | none => exact ⟨first, rfl⟩

theorem database_reconcile_of_sourceOf
    (h : sourceOf (r.reconcile now status).value.nodes = some source) :
    (r.reconcile now status).value.database = (r.databaseStatus (podOf source.name)).value := by
  rw [nodes_reconcile] at h
  rw [database_reconcile, sourcePod, h]
  rfl

theorem database_reconcile_of_no_source
    (h : sourceOf (r.reconcile now status).value.nodes = none) :
    (r.reconcile now status).value.database = status.database := by
  rw [nodes_reconcile] at h
  rw [database_reconcile, sourcePod, h]
  rfl

/-- If the tracked nodes are declared and distinct, a pass asks one pod about the cluster: that of
the first entry whose health diagnostic answered healthy in this pass, or of the first entry if none
did. Before that it asks pods about their own nodes only. If the pod is not running, it is not asked
about the cluster at all, and if there are no entries, nothing is run and the facts about the
database stay. -/
theorem source_reconcile
    (hdeclared : ∀ entry ∈ status.nodes, entry.name ∈ r.spec.nodes.map (·.name))
    (hstatus : (status.nodes.map (·.name)).Nodup) (now : Timestamp) :
    let pass := r.reconcile now status
    (pass.value.nodes = [] → pass.execs = [] ∧ pass.value.database = status.database) ∧
      (pass.value.nodes ≠ [] → ∃ source, r.IsSource pass.execs source pass.value.nodes ∧
        (∃ own, (∀ e ∈ own, e.argv ∈ r.console.scripts.ofNode) ∧
          pass.execs = own ++ if r.console.isRunning (podOf source.name) = true then
            (r.sourceQuestions (podOf source.name) status.diskGroups).map
              (Exec.mk (podOf source.name)) else []) ∧
        (∀ e ∈ pass.execs, r.console.scripts.AsksOfCluster e.argv →
          e.pod = podOf source.name ∧ r.console.isRunning (podOf source.name) = true) ∧
        pass.value.database = (r.databaseStatus (podOf source.name)).value) := by
  intro pass
  constructor
  · intro hnone
    have hsource : sourceOf pass.value.nodes = none := by
      rw [hnone]
      rfl
    exact ⟨execs_reconcile_of_nodes_eq_nil hnone, database_reconcile_of_no_source hsource⟩
  · intro hsome
    obtain ⟨source, hsource⟩ := exists_sourceOf hsome
    refine ⟨source, ?_, ?_, ?_, database_reconcile_of_sourceOf hsource⟩
    · apply isSource_of_sourceOf _ hsource
      intro entry hentry
      exact isHealthy_iff_answeredHealthy hstatus hentry (declared_reconcile hdeclared entry hentry)
    · refine ⟨(r.foldPhases status.nodes r.probedPhases).execs, ?_, ?_⟩
      · intro e he
        obtain ⟨-, -, -, -, -, hargv⟩ := exists_of_mem_execs_foldPhases he
        exact hargv
      · rw [nodes_reconcile] at hsource
        change (r.reconcileWithPhases now status r.probedPhases).execs = _
        rw [execs_reconcileWithPhases, execs_clusterFacts, hsource]
        rfl
    · intro e he hcluster
      rcases mem_execs_reconcile he with ⟨-, -, -, -, -, hargv⟩ | ⟨chosen, hchosen, hran⟩
      · exact absurd hcluster (Diagnostic.Scripts.not_asksOfCluster hargv)
      · obtain rfl := Option.some.inj (hsource.symm.trans hchosen)
        obtain ⟨hrunning, hpod, -⟩ := mem_ran_iff.1 hran
        exact ⟨hpod, hrunning⟩

/-- Passes over two nodes, of which the second answers that its clusterware is healthy. -/
def secondHealthy : Reconciler :=
  let platform := ((Platform.addNode {} "racnode1").addNode "racnode2").respond
    (podOf "racnode2") "--checkgilocal=true" "Healthy\n"
  Reconciler.on { name := "prod", topology := .cluster { nodeCount := 2, nodeName := "racnode" } }
    platform (Diagnostic.Scripts.mountedAt "/scripts" "python3")

/-- A snapshot from a time when the first of them was healthy. -/
def firstHealthyBefore : ClusterStatus where
  nodes := [{ name := "racnode1", clusterState := .healthy, state := .available },
    { name := "racnode2" }]

theorem source_reconcile_second :
    (∀ entry ∈ firstHealthyBefore.nodes, entry.name ∈ secondHealthy.spec.nodes.map (·.name)) ∧
      (firstHealthyBefore.nodes.map (·.name)).Nodup ∧
      let pass := secondHealthy.reconcile (Timestamp.ofUnix 0 0) firstHealthyBefore
      pass.value.nodes.map (·.name) = ["racnode1", "racnode2"] ∧
      (∃ source, source.name = "racnode2" ∧
        secondHealthy.IsSource pass.execs source pass.value.nodes) ∧
      ⟨podOf "racnode2", Diagnostic.gridHome⟩ ∈ pass.execs ∧
      ∀ e ∈ pass.execs, secondHealthy.console.scripts.AsksOfCluster e.argv →
        e.pod = podOf "racnode2" := by
  have hdeclared : ∀ entry ∈ firstHealthyBefore.nodes,
      entry.name ∈ secondHealthy.spec.nodes.map (·.name) := by
    decide
  have hstatus : (firstHealthyBefore.nodes.map (·.name)).Nodup := by
    decide
  refine ⟨hdeclared, hstatus, ?_⟩
  intro pass
  have hnames : pass.value.nodes.map (·.name) = ["racnode1", "racnode2"] := by
    decide
  have hsome : pass.value.nodes ≠ [] := by
    intro hnone
    rw [hnone] at hnames
    cases hnames
  have hhome : ⟨podOf "racnode2", Diagnostic.gridHome⟩ ∈ pass.execs := by
    decide
  have hcluster : secondHealthy.console.scripts.AsksOfCluster Diagnostic.gridHome :=
    Or.inl ⟨none, "", by decide⟩
  obtain ⟨-, hasked⟩ := source_reconcile hdeclared hstatus (Timestamp.ofUnix 0 0)
  obtain ⟨source, hsource, -, hpods, -⟩ := hasked hsome
  have hname : "racnode2" = source.name := podOf_inj.1 (hpods _ hhome hcluster).1
  refine ⟨hnames, ⟨source, hname.symm, hsource⟩, hhome, ?_⟩
  intro e he hasks
  rw [hname]
  exact (hpods e he hasks).1

end Reconciler

end ClusterWatch
