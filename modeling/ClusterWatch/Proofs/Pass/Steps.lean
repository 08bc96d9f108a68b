import ClusterWatch.Pass.Reconcile

/-!
A pass carried out on a platform, step by step.

What a pass asks depends on the answers so far, and each command that it runs is a step to another
platform. All that a step changes is the record of what was run, and nothing that a pass asks shows
that record. So a pass finds the same platform to its end, and its result is that of the journal on
the platform as it was found. This is shown for one step, for computations one after the other, and
then for every part of a pass. Main statements: `follows_reconcileWithPhases` and `follows_run`.
-/

namespace ClusterWatch

/-- The platform with another record of what was run. -/
def Platform.withLog (p : Platform) (log : List Exec) : Platform :=
  { p with execLog := log }

/-- Carried out on a platform, the computation gives the result and the notices of the journal on
that platform and adds to the record what the journal holds as run. The journal does not depend on
the record. -/
structure Live.Follows {α : Type} (x : Live α) (j : Platform → Journal α) : Prop where
  unread : ∀ p log, j (p.withLog log) = j p
  outcome : ∀ p, x p =
    { value := (j p).value
      platform := p.withLog (p.execLog ++ (j p).execs)
      notices := (j p).notices }

namespace Live.Follows

variable {α β : Type} {x : Live α} {j : Platform → Journal α}

theorem pure (a : α) : Follows (Pure.pure a) fun _ => Pure.pure a where
  unread _ _ := rfl
  outcome p := by
    simp only [Journal.execs_pure, List.append_nil]
    rfl

theorem notify (notice : Notice) :
    Follows (Notifies.notify notice) fun _ => Notifies.notify notice where
  unread _ _ := rfl
  outcome p := by
    have hexecs : (Notifies.notify notice : Journal Unit).execs = [] := rfl
    simp only [hexecs, List.append_nil]
    rfl

theorem notifyIf (reason : Bool) (notice : Notice) :
    Follows (ClusterWatch.notifyIf reason notice) fun _ =>
      ClusterWatch.notifyIf reason notice := by
  cases reason with
  | false => exact .pure ()
  | true => exact .notify notice

/-- One after the other: what the first adds to the record makes no difference to the second. -/
theorem bind {f : α → Live β} {k : α → Platform → Journal β} (h : Follows x j)
    (hf : ∀ a, Follows (f a) (k a)) : Follows (x >>= f) fun p => j p >>= fun a => k a p where
  unread p log := by
    simp only [h.unread, (hf _).unread]
  outcome p := by
    change Live.bind x f p = _
    rw [Live.bind, h.outcome p]
    simp only [(hf _).outcome, (hf _).unread, Journal.execs_bind]
    rw [← List.append_assoc]
    rfl

theorem map (h : Follows x j) (f : α → β) : Follows (f <$> x) fun p => f <$> j p :=
  h.bind fun a => .pure (f a)

theorem ite {c : Prop} [Decidable c] {y : Live α} {k : Platform → Journal α} (hx : Follows x j)
    (hy : Follows y k) : Follows (if c then x else y) fun p => if c then j p else k p := by
  split
  · exact hx
  · exact hy

theorem foldlM {f : β → α → Live β} {k : β → α → Platform → Journal β}
    (h : ∀ b a, Follows (f b a) (k b a)) (as : List α) (b : β) :
    Follows (as.foldlM f b) fun p => as.foldlM (fun b a => k b a p) b := by
  induction as generalizing b with
  | nil => exact .pure b
  | cons a as ih => exact (h b a).bind ih

end Live.Follows

open Live (Follows)

namespace Console

variable (ns : String) (scripts : Diagnostic.Scripts) (pod : String)

/-- What shows on the platform, but for the record, is the same at any time. -/
theorem follows_see {α : Type} (f : Console → α)
    (h : ∀ p log, f (.mk (p.withLog log) ns scripts) = f (.mk p ns scripts)) :
    Follows ((live ns scripts).see f) fun p => (Console.mk p ns scripts).see f where
  unread p log := congrArg Journal.pure (h p log)
  outcome p := by
    have hexecs : ((Console.mk p ns scripts).see f).execs = [] := rfl
    simp only [hexecs, List.append_nil]
    rfl

/-- A step: the answer of the platform, and one more command on its record. -/
theorem follows_exec (argv : List String) :
    Follows (Channel.exec ({} : Current) pod argv) fun p => Channel.exec p pod argv where
  unread _ _ := rfl
  outcome _ := rfl

theorem follows_run (argv : List String) :
    Follows ((live ns scripts).run pod argv) fun p => (Console.mk p ns scripts).run pod argv :=
  (follows_see ns scripts (·.isRunning pod) fun _ _ => rfl).bind fun _ =>
    (follows_exec pod argv).ite (.pure _)

theorem follows_probe (argv : List String) :
    Follows ((live ns scripts).probe pod argv) fun p =>
      (Console.mk p ns scripts).probe pod argv := by
  refine (follows_run ns scripts pod argv).bind fun answer => ?_
  cases answer with
  | ok out => exact .pure (some out.stdout)
  | error _ => exact .pure none

/-- A diagnostic that makes something of what was printed. -/
theorem follows_probe_bind {α : Type} {f : Option String → Live α} {k : Option String → Journal α}
    (argv : List String) (h : ∀ out, Follows (f out) fun _ => k out) :
    Follows ((live ns scripts).probe pod argv >>= f) fun p =>
      (Console.mk p ns scripts).probe pod argv >>= k :=
  (follows_probe ns scripts pod argv).bind h

theorem follows_clusterHealth : Follows ((live ns scripts).clusterHealth pod) fun p =>
    (Console.mk p ns scripts).clusterHealth pod := by
  refine follows_probe_bind ns scripts pod scripts.clusterHealth fun out => ?_
  cases out <;> exact .pure _

theorem follows_instanceState : Follows ((live ns scripts).instanceState pod) fun p =>
    (Console.mk p ns scripts).instanceState pod := by
  refine follows_probe_bind ns scripts pod scripts.instanceState fun out => ?_
  cases out <;> exact .pure _

theorem follows_stateFile : Follows ((live ns scripts).stateFile pod) fun p =>
    (Console.mk p ns scripts).stateFile pod := by
  refine follows_probe_bind ns scripts pod Diagnostic.stateFile fun out => ?_
  cases out <;> exact .pure _

theorem follows_diskGroups : Follows ((live ns scripts).diskGroups pod) fun p =>
    (Console.mk p ns scripts).diskGroups pod := by
  refine follows_probe_bind ns scripts pod scripts.diskGroups fun out => ?_
  cases out <;> exact .pure _

theorem follows_disks (group : String) : Follows ((live ns scripts).disks pod group) fun p =>
    (Console.mk p ns scripts).disks pod group := by
  refine follows_probe_bind ns scripts pod (scripts.disks group) fun out => ?_
  cases out <;> exact .pure _

theorem follows_probeText (argv : List String) :
    Follows ((live ns scripts).probeText pod argv) fun p =>
      (Console.mk p ns scripts).probeText pod argv := by
  refine follows_probe_bind ns scripts pod argv fun out => ?_
  cases out <;> exact .pure _

theorem follows_dbVersion : Follows ((live ns scripts).dbVersion pod) fun p =>
    (Console.mk p ns scripts).dbVersion pod := by
  refine follows_probe_bind ns scripts pod scripts.dbVersion fun out => ?_
  cases out with
  | none => exact .pure _
  | some out => exact .ite (.pure _) (.pure _)

theorem follows_gridHome : Follows ((live ns scripts).gridHome pod) fun p =>
    (Console.mk p ns scripts).gridHome pod := by
  refine (follows_run ns scripts pod Diagnostic.gridHome).bind fun answer => ?_
  cases answer <;> exact .pure _

theorem follows_deviceList (argv : List String) :
    Follows ((live ns scripts).deviceList pod argv) fun p =>
      (Console.mk p ns scripts).deviceList pod argv := by
  refine (follows_run ns scripts pod argv).bind fun answer => ?_
  cases answer <;> exact .pure _

theorem follows_vitals : Follows ((live ns scripts).vitals pod) fun p =>
    (Console.mk p ns scripts).vitals pod :=
  (follows_clusterHealth ns scripts pod).bind fun _ =>
    (follows_instanceState ns scripts pod).bind fun _ =>
      .pure _

theorem follows_nextState (instanceState : InstanceState) (previous : NodeState) :
    Follows ((live ns scripts).nextState pod instanceState previous) fun p =>
      (Console.mk p ns scripts).nextState pod instanceState previous :=
  .ite (.pure _) (.ite (follows_stateFile ns scripts pod) (.pure _))

section entries

variable (nodes : List NodeStatus) (node : NodeSpec) (phase : NodeState)

theorem follows_updatePresent (vitals : Vitals) :
    Follows ((live ns scripts).updatePresent nodes node phase vitals) fun p =>
      (Console.mk p ns scripts).updatePresent nodes node phase vitals := by
  refine (follows_see ns scripts (·.observe node phase vitals) fun _ _ => rfl).bind
    fun observed => ?_
  cases nodes.find? (isFor node.name) with
  | none => exact (Follows.notify (.tracking node.name)).bind fun _ => .pure _
  | some entry =>
      exact (follows_nextState ns scripts node.podName vitals.instanceState entry.state).bind
        fun state => (Follows.notifyIf _ _).bind fun _ => .pure _

theorem follows_updateAbsent : Follows ((live ns scripts).updateAbsent nodes node phase) fun p =>
    (Console.mk p ns scripts).updateAbsent nodes node phase :=
  (Follows.notifyIf _ _).bind fun _ =>
    (follows_see ns scripts (·.absentEntry node phase) fun _ _ => rfl).bind fun _ => .pure _

theorem follows_removeNode : Follows (removeNode nodes node) fun _ => removeNode nodes node :=
  (Follows.notifyIf _ _).bind fun _ => .pure _

theorem follows_updateNode : Follows ((live ns scripts).updateNode nodes node phase) fun p =>
    (Console.mk p ns scripts).updateNode nodes node phase := by
  cases phase with
  | available | podAvailable =>
      exact (follows_vitals ns scripts node.podName).bind
        (follows_updatePresent ns scripts nodes node _)
  | failed =>
      exact (follows_vitals ns scripts node.podName).bind fun vitals =>
        .ite ((Follows.notify (.recovered node.name)).bind fun _ =>
          follows_updatePresent ns scripts nodes node .available vitals) (.pure nodes)
  | statefulSetNotFound => exact follows_removeNode nodes node
  | podNotFound | podNotReady | podFailure => exact follows_updateAbsent ns scripts nodes node _
  | _ => exact .pure nodes

end entries

section groups

variable (spec : ClusterSpec) (previous groups : List DiskGroupStatus)

theorem follows_listGroups (names : List String) :
    Follows ((live ns scripts).listGroups pod spec previous names) fun p =>
      (Console.mk p ns scripts).listGroups pod spec previous names := by
  induction names with
  | nil => exact .pure []
  | cons name names ih =>
      exact (follows_disks ns scripts pod name).bind fun _ =>
        (follows_probeText ns scripts pod (scripts.redundancy name)).bind fun _ =>
          ih.bind fun _ => .pure _

theorem follows_aggregateGroups :
    Follows ((live ns scripts).aggregateGroups pod spec previous) fun p =>
      (Console.mk p ns scripts).aggregateGroups pod spec previous :=
  (follows_diskGroups ns scripts pod).bind (follows_listGroups ns scripts pod spec previous)

theorem follows_fillType (type : DiskGroupType) (argv : List String) :
    Follows (fillType type ((live ns scripts).deviceList pod argv) groups) fun p =>
      fillType type ((Console.mk p ns scripts).deviceList pod argv) groups := by
  refine .ite (.pure groups) ((follows_deviceList ns scripts pod argv).bind fun devices => ?_)
  cases devices <;> exact .pure _

theorem follows_fillConfigured :
    Follows ((live ns scripts).fillConfigured pod groups) fun p =>
      (Console.mk p ns scripts).fillConfigured pod groups :=
  (follows_fillType ns scripts pod groups .crs Diagnostic.crsDeviceList).bind fun groups =>
    follows_fillType ns scripts pod groups .dbData Diagnostic.dbDeviceList

theorem follows_recordSizes :
    Follows ((live ns scripts).recordSizes spec groups) fun p =>
      (Console.mk p ns scripts).recordSizes spec groups := by
  refine (follows_see ns scripts (·.reportedDisks spec) fun _ _ => rfl).bind fun reported => ?_
  cases reported with
  | none => exact .pure groups
  | some disks =>
      cases hfound : Disks.discoveredGroups spec disks with
      | ok discovered =>
          simp only [hfound]
          exact .pure _
      | error e =>
          simp only [hfound]
          exact (Follows.notify _).bind fun _ => .pure groups

end groups

end Console

namespace Reconciler

variable (spec : ClusterSpec) (scripts : Diagnostic.Scripts)

theorem follows_serviceState (pod : String) :
    Follows ((live spec scripts).serviceState pod) fun p =>
      (Reconciler.on spec p scripts).serviceState pod := by
  simp only [serviceState, live, Reconciler.on]
  cases spec.serviceName with
  | none => exact .pure none
  | some service =>
      exact (Console.follows_probeText spec.ns scripts pod
        (scripts.serviceState service spec.dbName)).map some

theorem follows_databaseStatus (pod : String) :
    Follows ((live spec scripts).databaseStatus pod) fun p =>
      (Reconciler.on spec p scripts).databaseStatus pod := by
  have htext := Console.follows_probeText spec.ns scripts pod
  exact (follows_serviceState spec scripts pod).bind fun _ =>
    (htext scripts.dbState).bind fun _ => (htext scripts.dbRole).bind fun _ =>
      (Console.follows_dbVersion spec.ns scripts pod).bind fun _ =>
        (htext scripts.connectString).bind fun _ => (htext scripts.pdbConnectString).bind fun _ =>
          (Console.follows_gridHome spec.ns scripts pod).bind fun _ => .pure _

theorem follows_sourceFacts (pod : String) (previous : List DiskGroupStatus) :
    Follows ((live spec scripts).sourceFacts pod previous) fun p =>
      (Reconciler.on spec p scripts).sourceFacts pod previous :=
  (Console.follows_aggregateGroups spec.ns scripts pod spec previous).bind fun _ =>
    (Console.follows_fillConfigured spec.ns scripts pod _).bind fun _ =>
      (follows_databaseStatus spec scripts pod).bind fun _ => .pure _

theorem follows_clusterFacts (previous : ClusterStatus) (nodes : List NodeStatus) :
    Follows ((live spec scripts).clusterFacts previous nodes) fun p =>
      (Reconciler.on spec p scripts).clusterFacts previous nodes := by
  unfold clusterFacts
  cases sourceOf nodes with
  | none => exact .pure _
  | some source => exact follows_sourceFacts spec scripts (podOf source.name) previous.diskGroups

theorem follows_foldPhases (nodes : List NodeStatus) (phases : List (NodeSpec × NodeState)) :
    Follows ((live spec scripts).foldPhases nodes phases) fun p =>
      (Reconciler.on spec p scripts).foldPhases nodes phases := by
  refine Follows.foldlM (fun nodes p => ?_) phases nodes
  obtain ⟨node, phase⟩ := p
  exact Console.follows_updateNode spec.ns scripts nodes node phase

/-- A pass with given phases, step by step. -/
theorem follows_reconcileWithPhases (now : Timestamp) (previous : ClusterStatus)
    (phases : List (NodeSpec × NodeState)) :
    Follows ((live spec scripts).reconcileWithPhases now previous phases) fun p =>
      (Reconciler.on spec p scripts).reconcileWithPhases now previous phases :=
  (follows_foldPhases spec scripts previous.nodes phases).bind fun nodes =>
    (follows_clusterFacts spec scripts previous nodes).bind fun facts =>
      (Console.follows_recordSizes spec.ns scripts spec facts.1).bind fun _ =>
        (Follows.notifyIf _ _).bind fun _ => .pure _

theorem follows_reconcile (now : Timestamp) (previous : ClusterStatus) :
    Follows ((live spec scripts).reconcile now previous) fun p =>
      (Reconciler.on spec p scripts).reconcile now previous :=
  (Console.follows_see spec.ns scripts (fun console => { spec, console : Reconciler }.probedPhases)
    fun _ _ => rfl).bind (follows_reconcileWithPhases spec scripts now previous)

/-- As many passes as there are times, step by step. -/
theorem follows_run (status : ClusterStatus) (times : List Timestamp) :
    Follows ((live spec scripts).run status times) fun p =>
      (Reconciler.on spec p scripts).run status times := by
  induction times generalizing status with
  | nil => exact .pure status
  | cons now times ih =>
      exact (follows_reconcile spec scripts now status).bind fun _ =>
        ((Follows.notifyIf _ _).bind fun _ => .pure _).bind ih

end Reconciler

end ClusterWatch
