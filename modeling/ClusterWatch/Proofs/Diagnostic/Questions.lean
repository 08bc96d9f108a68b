import ClusterWatch.Proofs.Diagnostic.Keys
import Mathlib.Data.List.Count
import Mathlib.Data.List.Nodup

/-!
What a diagnostic runs, and what tells the commands of a pass apart.

Each diagnostic runs one command in its pod, and none if the pod is not running. Commands with
different subjects are different, so the questions about a node, about the cluster and about the
groups never coincide, whatever the groups, the service and the database are called.
-/

namespace ClusterWatch

namespace Journal

variable {α β : Type}

theorem execs_bind_of_nil {j : Journal α} {f : α → Journal β} (h : ∀ a, (f a).execs = []) :
    (j >>= f).execs = j.execs := by
  rw [execs_bind, h, List.append_nil]

@[simp]
theorem execs_map (f : α → β) (j : Journal α) : (f <$> j).execs = j.execs :=
  List.append_nil j.execs

@[simp]
theorem execs_notify (notice : Notice) : (Notifies.notify notice : Journal Unit).execs = [] :=
  rfl

@[simp]
theorem execs_notifyIf (reason : Bool) (notice : Notice) :
    (notifyIf reason notice : Journal Unit).execs = [] := by
  cases reason <;> rfl

end Journal

namespace Console

variable {c : Console} {pod group : String} {questions : List (List String)} {e : Exec}

/-- The questions as commands run in a pod: none if it is not running. -/
def ran (c : Console) (pod : String) (questions : List (List String)) : List Exec :=
  if c.isRunning pod then questions.map (Exec.mk pod) else []

@[simp]
theorem ran_nil (c : Console) (pod : String) : c.ran pod [] = [] := by
  rw [ran, List.map_nil, ite_self]

theorem ran_append (c : Console) (pod : String) (questions others : List (List String)) :
    c.ran pod (questions ++ others) = c.ran pod questions ++ c.ran pod others := by
  rw [ran, ran, ran]
  split
  · exact List.map_append
  · rfl

theorem ran_cons_cons (c : Console) (pod : String) (first second : List String) :
    c.ran pod (first :: second :: questions) =
      c.ran pod [first] ++ c.ran pod (second :: questions) :=
  ran_append c pod [first] (second :: questions)

theorem mem_ran_iff :
    e ∈ c.ran pod questions ↔ c.isRunning pod = true ∧ e.pod = pod ∧ e.argv ∈ questions := by
  rw [ran]
  split
  · next hrunning =>
      rw [List.mem_map]
      constructor
      · rintro ⟨argv, hargv, rfl⟩
        exact ⟨hrunning, rfl, hargv⟩
      · rintro ⟨-, rfl, hargv⟩
        exact ⟨e.argv, hargv, rfl⟩
  · next hrunning =>
      constructor
      · exact nofun
      · exact fun h => absurd h.1 hrunning

theorem count_ran_le (c : Console) (pod : String) (questions : List (List String)) (e : Exec) :
    (c.ran pod questions).count e ≤ questions.count e.argv := by
  rw [ran]
  split
  · induction questions with
    | nil => exact Nat.le_refl 0
    | cons argv questions ih =>
        rw [List.map_cons, List.count_cons, List.count_cons]
        apply Nat.add_le_add ih
        by_cases he : Exec.mk pod argv = e
        · simp [← he]
        · simp [he]
  · exact Nat.zero_le _

theorem nodup_ran (h : questions.Nodup) : (c.ran pod questions).Nodup := by
  rw [List.nodup_iff_count_le_one] at h ⊢
  intro e
  exact (count_ran_le c pod questions e).trans (h e.argv)

@[simp]
theorem execs_run (argv : List String) : (c.run pod argv).execs = c.ran pod [argv] := by
  rw [run_eq_ite, ran]
  split <;> rfl

@[simp]
theorem execs_probe (argv : List String) : (c.probe pod argv).execs = c.ran pod [argv] := by
  rw [probe, Journal.execs_bind_of_nil, execs_run]
  intro result
  cases result <;> rfl

theorem execs_probe_bind {β : Type} {f : Option String → Journal β} (argv : List String)
    (h : ∀ out, (f out).execs = []) : (c.probe pod argv >>= f).execs = c.ran pod [argv] := by
  rw [Journal.execs_bind_of_nil h, execs_probe]

@[simp]
theorem execs_probeText (argv : List String) : (c.probeText pod argv).execs = c.ran pod [argv] := by
  apply execs_probe_bind
  intro out
  cases out <;> rfl

@[simp]
theorem execs_clusterHealth :
    (c.clusterHealth pod).execs = c.ran pod [c.scripts.clusterHealth] := by
  apply execs_probe_bind
  intro out
  cases out <;> rfl

@[simp]
theorem execs_instanceState :
    (c.instanceState pod).execs = c.ran pod [c.scripts.instanceState] := by
  apply execs_probe_bind
  intro out
  cases out <;> rfl

@[simp]
theorem execs_stateFile : (c.stateFile pod).execs = c.ran pod [Diagnostic.stateFile] := by
  apply execs_probe_bind
  intro out
  cases out <;> rfl

@[simp]
theorem execs_diskGroups : (c.diskGroups pod).execs = c.ran pod [c.scripts.diskGroups] := by
  apply execs_probe_bind
  intro out
  cases out <;> rfl

@[simp]
theorem execs_disks : (c.disks pod group).execs = c.ran pod [c.scripts.disks group] := by
  apply execs_probe_bind
  intro out
  cases out <;> rfl

@[simp]
theorem execs_dbVersion : (c.dbVersion pod).execs = c.ran pod [c.scripts.dbVersion] := by
  apply execs_probe_bind
  intro out
  cases out with
  | none => rfl
  | some out =>
      simp only
      split <;> rfl

@[simp]
theorem execs_gridHome : (c.gridHome pod).execs = c.ran pod [Diagnostic.gridHome] := by
  rw [gridHome, Journal.execs_bind_of_nil, execs_run]
  intro result
  cases result <;> rfl

@[simp]
theorem execs_deviceList (argv : List String) :
    (c.deviceList pod argv).execs = c.ran pod [argv] := by
  rw [deviceList, Journal.execs_bind_of_nil, execs_run]
  intro result
  cases result <;> rfl

end Console

namespace Diagnostic

/-- What a command asks for. -/
def subject (argv : List String) : List Char :=
  topic (Exec.key argv)

namespace Scripts

variable {s : Scripts} {group other service database : String} {argv : List String}

/-- The questions about a node itself. -/
def ofNode (s : Scripts) : List (List String) :=
  [s.clusterHealth, s.instanceState, stateFile]

/-- The question about the service of a cluster, if it declares one. -/
def ofService (s : Scripts) (service : Option String) (database : String) : List (List String) :=
  service.toList.map fun service => s.serviceState service database

/-- The questions about the database, after that about its service. -/
def ofDatabase (s : Scripts) : List (List String) :=
  [s.dbState, s.dbRole, s.dbVersion, s.connectString, s.pdbConnectString, gridHome]

/-- The questions about groups, two for each. -/
def ofGroups (s : Scripts) (groups : List String) : List (List String) :=
  groups.flatMap fun group => [s.disks group, s.redundancy group]

/-- The questions about a cluster as a whole, apart from those about single groups. -/
def ofCluster (s : Scripts) (service : Option String) (database : String) : List (List String) :=
  s.diskGroups :: crsDeviceList :: dbDeviceList :: (s.ofService service database ++ s.ofDatabase)

theorem mem_ofGroups_iff {groups : List String} : argv ∈ s.ofGroups groups ↔
    ∃ group ∈ groups, argv = s.disks group ∨ argv = s.redundancy group := by
  simp only [ofGroups, List.mem_flatMap, List.mem_cons, List.not_mem_nil, or_false]

theorem disks_inj : s.disks group = s.disks other ↔ group = other := by
  constructor
  · intro h
    exact (String.append_right_inj "--getasmdisks=").1 (congrArg Exec.key h)
  · exact congrArg _

theorem redundancy_inj : s.redundancy group = s.redundancy other ↔ group = other := by
  constructor
  · intro h
    exact (String.append_right_inj "--getdgredundancy=").1 (congrArg Exec.key h)
  · exact congrArg _

theorem disks_ne_redundancy : s.disks group ≠ s.redundancy other := by
  intro h
  have hsubject : subject (s.disks group) = subject (s.redundancy other) := congrArg subject h
  rw [subject, subject, topic_disks, topic_redundancy] at hsubject
  exact absurd hsubject (by decide)

/-- A question about a group is asked as often as the group is named. -/
theorem count_ofGroups (hargv : argv = s.disks group ∨ argv = s.redundancy group)
    (groups : List String) : (s.ofGroups groups).count argv = groups.count group := by
  have hpair : ∀ first, [s.disks first, s.redundancy first].count argv =
      if first = group then 1 else 0 := by
    intro first
    rcases hargv with rfl | rfl
    · have hne : s.redundancy first ≠ s.disks group := Ne.symm disks_ne_redundancy
      simp [List.count_cons, disks_inj, hne]
    · have hne : s.disks first ≠ s.redundancy group := disks_ne_redundancy
      simp [List.count_cons, redundancy_inj, hne]
  induction groups with
  | nil => rfl
  | cons first groups ih =>
      rw [ofGroups] at ih ⊢
      rw [List.flatMap_cons, List.count_append, hpair, ih, List.count_cons, Nat.add_comm]
      simp

/-- A question about a cluster rather than about a node. -/
def AsksOfCluster (s : Scripts) (argv : List String) : Prop :=
  (∃ service database, argv ∈ s.ofCluster service database) ∨
    ∃ group, argv = s.disks group ∨ argv = s.redundancy group

/-- The subjects of the questions about groups. -/
def groupSubjects : List (List Char) :=
  ["--getasmdisks".toList, "--getdgredundancy".toList]

theorem subject_of_mem_ofGroups {groups : List String} (h : argv ∈ s.ofGroups groups) :
    subject argv ∈ groupSubjects := by
  obtain ⟨group, -, rfl | rfl⟩ := mem_ofGroups_iff.1 h
  · rw [subject, topic_disks]
    exact List.mem_cons_self
  · rw [subject, topic_redundancy]
    exact List.mem_cons_of_mem _ List.mem_cons_self

variable {service : Option String}

/-- The questions that a pass can ask have different subjects. -/
theorem nodup_subjects (s : Scripts) (service : Option String) (database : String) :
    ((s.ofNode ++ s.ofCluster service database).map subject ++ groupSubjects).Nodup := by
  -- The subjects do not depend on how the startup script is called.
  cases service with
  | none =>
      change (((mk "" "").ofNode ++ (mk "" "").ofCluster none "").map subject ++
        groupSubjects).Nodup
      decide
  | some service =>
      have hservice : subject (s.serviceState service database) = "--checkdbsvc".toList :=
        topic_serviceState s service database
      simp only [ofCluster, ofService, List.map_append, List.map_cons, Option.toList_some,
        List.map_nil, hservice]
      change ((mk "" "").ofNode.map subject ++ subject (mk "" "").diskGroups ::
        subject crsDeviceList :: subject dbDeviceList ::
          (["--checkdbsvc".toList] ++ (mk "" "").ofDatabase.map subject) ++ groupSubjects).Nodup
      decide

theorem nodup_ofNode_append_ofCluster (s : Scripts) (service : Option String) (database : String) :
    (s.ofNode ++ s.ofCluster service database).Nodup :=
  (List.nodup_append.1 (nodup_subjects s service database)).1.of_map

/-- None of the others is a question about a group. -/
theorem not_mem_ofGroups (h : argv ∈ s.ofNode ++ s.ofCluster service database)
    (groups : List String) : argv ∉ s.ofGroups groups := by
  intro hgroups
  obtain ⟨-, -, hdifferent⟩ := List.nodup_append.1 (nodup_subjects s service database)
  exact hdifferent _ (List.mem_map_of_mem h) _ (subject_of_mem_ofGroups hgroups) rfl

theorem not_asksOfCluster (h : argv ∈ s.ofNode) : ¬s.AsksOfCluster argv := by
  rintro (⟨service, database, hcluster⟩ | ⟨group, hgroup⟩)
  · obtain ⟨-, -, hdifferent⟩ :=
      List.nodup_append.1 (nodup_ofNode_append_ofCluster s service database)
    exact hdifferent argv h argv hcluster rfl
  · have hmem : argv ∈ s.ofNode ++ s.ofCluster none "" := List.mem_append_left _ h
    apply not_mem_ofGroups hmem [group]
    exact mem_ofGroups_iff.2 ⟨group, List.mem_singleton_self group, hgroup⟩

end Scripts

end Diagnostic

end ClusterWatch
