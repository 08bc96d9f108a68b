import ClusterWatch.Proofs.Pass.Freshness
import ClusterWatch.Proofs.Pass.Questions
import ClusterWatch.Proofs.Pass.Steps

/-!
What a pass does to the platform.

A pass runs commands and does nothing else there. It runs them in running pods, asks the pod of a
node that is not the source in three phases only, and asks no pod the same thing twice, except about
a group that the source lists twice. What was run before makes no difference to it. Main statement:
`asks_reconcileWithPhases`.
-/

namespace ClusterWatch.Reconciler

open Console

section once

variable {r : Reconciler} {now : Timestamp} {status : ClusterStatus}
  {phases : List (NodeSpec × NodeState)} {e : Exec}

/-- Whatever the source is asked twice is about a group that it lists twice. -/
theorem exists_group_of_one_lt_count_sourceQuestions {pod : String}
    {previous : List DiskGroupStatus} {argv : List String}
    (h : 1 < (r.sourceQuestions pod previous).count argv) :
    ∃ group, 1 < (r.console.diskGroups pod).value.count group ∧
      (argv = r.console.scripts.disks group ∨ argv = r.console.scripts.redundancy group) := by
  have hasked := h.trans_le (count_sourceQuestions_le r pod previous argv)
  have hnodup := Diagnostic.Scripts.nodup_ofNode_append_ofCluster r.console.scripts
    r.spec.serviceName r.spec.dbName
  by_cases hcluster : argv ∈ r.console.scripts.ofCluster r.spec.serviceName r.spec.dbName
  · -- What is asked about the cluster as a whole is asked once, and no question about a group.
    have honce := List.nodup_iff_count_le_one.1 (List.nodup_append.1 hnodup).2.1 argv
    have hother : argv ∉ r.console.scripts.ofGroups (r.console.diskGroups pod).value :=
      Diagnostic.Scripts.not_mem_ofGroups (List.mem_append_right _ hcluster) _
    rw [List.count_eq_zero.2 hother] at hasked
    omega
  · rw [List.count_eq_zero.2 hcluster, Nat.zero_add] at hasked
    have hmem := List.count_pos_iff.1 (Nat.zero_lt_one.trans hasked)
    obtain ⟨group, -, hgroup⟩ := Diagnostic.Scripts.mem_ofGroups_iff.1 hmem
    rw [Diagnostic.Scripts.count_ofGroups hgroup] at hasked
    exact ⟨group, hasked, hgroup⟩

/-- Whatever is run twice in a pass asks the source about a group that it lists twice. -/
theorem exists_group_of_one_lt_count (hnames : (phases.map (·.1.name)).Nodup)
    (hcount : 1 < (r.reconcileWithPhases now status phases).execs.count e) :
    ∃ source group,
      sourceOf (r.reconcileWithPhases now status phases).value.nodes = some source ∧
        e.pod = podOf source.name ∧ 1 < (r.console.diskGroups e.pod).value.count group ∧
          (e.argv = r.console.scripts.disks group ∨
            e.argv = r.console.scripts.redundancy group) := by
  have hphases : (r.foldPhases status.nodes phases).execs.count e ≤ 1 :=
    List.nodup_iff_count_le_one.1 (nodup_execs_foldPhases hnames) e
  rw [execs_reconcileWithPhases, execs_clusterFacts, List.count_append] at hcount
  cases hsource : sourceOf (r.foldPhases status.nodes phases).value with
  | none =>
      rw [hsource] at hcount
      exact absurd hcount (Nat.not_lt.2 hphases)
  | some source =>
      simp only [hsource] at hcount
      -- One of the two is about the cluster, and then neither is part of a phase.
      have hfacts : 0 < (r.console.ran (podOf source.name)
          (r.sourceQuestions (podOf source.name) status.diskGroups)).count e := by
        omega
      obtain ⟨-, hpod, hargv⟩ := mem_ran_iff.1 (List.count_pos_iff.1 hfacts)
      have hown : e ∉ (r.foldPhases status.nodes phases).execs := by
        intro hmem
        obtain ⟨-, -, -, -, -, hmine⟩ := exists_of_mem_execs_foldPhases hmem
        exact Diagnostic.Scripts.not_asksOfCluster hmine
          (asksOfCluster_of_mem_sourceQuestions hargv)
      rw [List.count_eq_zero.2 hown, Nat.zero_add] at hcount
      obtain ⟨group, htwice, hgroup⟩ := exists_group_of_one_lt_count_sourceQuestions
        (hcount.trans_le (count_ran_le r.console _ _ e))
      exact ⟨source, group, hsource, hpod, hpod ▸ htwice, hgroup⟩

end once

/-- A pass over distinct nodes, in whatever phases, is carried out on a platform. It leaves behind
the platform as it was, with what it ran added to the record, and gives the result and the notices
of the pass on the platform at hand; whatever the record holds, it does the same. It runs commands
in existing and running pods only. The pod that it asks is that of the source, or that of a node
whose phase is available, present or failed. It runs nothing twice, apart from the questions about a
group that the source lists twice. -/
theorem asks_reconcileWithPhases (spec : ClusterSpec) (platform : Platform)
    (scripts : Diagnostic.Scripts) (now : Timestamp) (status : ClusterStatus)
    {phases : List (NodeSpec × NodeState)} (hnames : (phases.map (·.1.name)).Nodup) :
    let r := Reconciler.on spec platform scripts
    let pass := r.reconcileWithPhases now status phases
    let after := (Reconciler.live spec scripts).reconcileWithPhases now status phases platform
    after.platform = { platform with execLog := platform.execLog ++ pass.execs } ∧
      after.value = pass.value ∧ after.notices = pass.notices ∧
      (∀ log, (Reconciler.on spec (platform.withLog log) scripts).reconcileWithPhases now status
        phases = pass) ∧
      (∀ e ∈ pass.execs, ∃ info, platform.pod spec.ns e.pod = .ok info ∧ info.phase = .running) ∧
      (∀ e ∈ pass.execs, ∃ name, e.pod = podOf name ∧
        ((∃ source, sourceOf pass.value.nodes = some source ∧ source.name = name) ∨
          ∃ p ∈ phases, p.1.name = name ∧
            (p.2 = .available ∨ p.2 = .podAvailable ∨ p.2 = .failed))) ∧
      ∀ e, 1 < pass.execs.count e → ∃ source group,
        sourceOf pass.value.nodes = some source ∧ e.pod = podOf source.name ∧
          1 < (r.console.diskGroups e.pod).value.count group ∧
            (e.argv = scripts.disks group ∨ e.argv = scripts.redundancy group) := by
  intro r pass after
  have hfollows := follows_reconcileWithPhases spec scripts now status phases
  have hafter : after = ⟨pass.value, platform.withLog (platform.execLog ++ pass.execs),
      pass.notices⟩ := hfollows.outcome platform
  rw [hafter]
  refine ⟨rfl, rfl, rfl, hfollows.unread platform, ?_, ?_,
    fun e => exists_group_of_one_lt_count hnames⟩
  · intro e he
    have hrunning : r.console.isRunning e.pod = true := by
      rcases mem_execs_reconcileWithPhases he with ⟨-, -, -, hrunning, -⟩ | ⟨source, -, hran⟩
      · exact hrunning
      · obtain ⟨hrunning, hpod, -⟩ := mem_ran_iff.1 hran
        rwa [hpod]
    exact isRunning_iff.1 hrunning
  · intro e he
    rcases mem_execs_reconcileWithPhases he with
      ⟨p, hp, hasks, -, hpod, -⟩ | ⟨source, hsource, hran⟩
    · exact ⟨p.1.name, hpod, Or.inr ⟨p, hp, rfl, hasks⟩⟩
    · obtain ⟨-, hpod, -⟩ := mem_ran_iff.1 hran
      exact ⟨source.name, hpod, Or.inl ⟨source, hsource, rfl⟩⟩

/-- Three nodes, of which the first lists a group twice. -/
def listsTwice : Platform :=
  (((Platform.addNode {} "racnode1").addNode "racnode2").addNode "racnode3").respond
    (podOf "racnode1") "--getasmdiskgroup=true" "DATA, FRA, DATA"

def listsTwiceSpec : ClusterSpec where
  name := "prod"
  topology := .cluster { nodeCount := 3, nodeName := "racnode" }

/-- The first node is present, the second had failed, and the third is not ready. -/
def listsTwicePhases : List (NodeSpec × NodeState) :=
  listsTwiceSpec.nodes.zip [.podAvailable, .failed, .podNotReady]

theorem asks_reconcileWithPhases_listsTwice :
    (listsTwicePhases.map (·.1.name)).Nodup ∧
      let scripts := Diagnostic.Scripts.mountedAt "/scripts" "python3"
      let r := Reconciler.on listsTwiceSpec listsTwice scripts
      let pass := r.reconcileWithPhases (Timestamp.ofUnix 0 0) {} listsTwicePhases
      let after := (Reconciler.live listsTwiceSpec scripts).reconcileWithPhases
        (Timestamp.ofUnix 0 0) {} listsTwicePhases (listsTwice.withLog [⟨"db-0", ["hostname"]⟩])
      (after.platform = listsTwice.withLog (⟨"db-0", ["hostname"]⟩ :: pass.execs) ∧
        after.value = pass.value) ∧
      (∀ e ∈ pass.execs, ∃ info,
        listsTwice.pod "default" e.pod = .ok info ∧ info.phase = .running) ∧
      ((⟨podOf "racnode2", scripts.clusterHealth⟩ ∈ pass.execs ∧
          ∃ name, podOf "racnode2" = podOf name ∧
            ((∃ source, sourceOf pass.value.nodes = some source ∧ source.name = name) ∨
              ∃ p ∈ listsTwicePhases, p.1.name = name ∧
                (p.2 = .available ∨ p.2 = .podAvailable ∨ p.2 = .failed))) ∧
        ∀ e ∈ pass.execs, e.pod ≠ podOf "racnode3") ∧
      pass.execs.count ⟨podOf "racnode1", scripts.disks "DATA"⟩ = 2 ∧
      ∃ group, 1 < (r.console.diskGroups (podOf "racnode1")).value.count group ∧
        (scripts.disks "DATA" = scripts.disks group ∨
          scripts.disks "DATA" = scripts.redundancy group) := by
  have hnames : (listsTwicePhases.map (·.1.name)).Nodup := by
    decide
  refine ⟨hnames, ?_⟩
  intro scripts r pass after
  have hfailed : ⟨podOf "racnode2", scripts.clusterHealth⟩ ∈ pass.execs := by
    decide
  have hthird : ∀ e ∈ pass.execs, e.pod ≠ podOf "racnode3" := by
    decide
  have htwice : pass.execs.count ⟨podOf "racnode1", scripts.disks "DATA"⟩ = 2 := by
    decide
  obtain ⟨-, -, -, hunread, hrunning, hasked, honce⟩ := asks_reconcileWithPhases listsTwiceSpec
    listsTwice scripts (Timestamp.ofUnix 0 0) {} hnames
  obtain ⟨hplatform, hvalue, -⟩ := asks_reconcileWithPhases listsTwiceSpec
    (listsTwice.withLog [⟨"db-0", ["hostname"]⟩]) scripts (Timestamp.ofUnix 0 0) {} hnames
  rw [hunread] at hplatform hvalue
  obtain ⟨source, group, -, -, hgroup⟩ :=
    honce ⟨podOf "racnode1", scripts.disks "DATA"⟩ (htwice ▸ Nat.one_lt_two)
  exact ⟨⟨hplatform, hvalue⟩, hrunning, ⟨⟨hfailed, hasked _ hfailed⟩, hthird⟩, htwice, group,
    hgroup⟩

end ClusterWatch.Reconciler
