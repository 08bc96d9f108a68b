import ClusterWatch.Proofs.Json.Printing
import ClusterWatch.Proofs.Json.Records
import ClusterWatch.Proofs.Pass.Entries
import ClusterWatch.Proofs.Timestamp.Rendering
import ClusterWatch.Status.Json

/-!
A snapshot that is written is read again as it was.

Each record is a JSON object with one member for each of its fields, and each field is written by a
function whose reader takes back what it wrote. Main statement:
`ClusterStatus.roundTrip_render`.
-/

namespace ClusterWatch

open Json

theorem NodeState.ofJson?_toJson (state : NodeState) : ofJson? state.toJson = some state :=
  ofChars?_keyword state

theorem DiskGroupType.ofJson?_toJson (type : DiskGroupType) : ofJson? type.toJson = some type :=
  ofKeyword?_keyword type

theorem Timestamp.ofJson?_toJson {t : Timestamp} (h : t.isValid = true) :
    ofJson? t.toJson = some t := by
  have htext : t.toJson.text? = some t.render := rfl
  rw [ofJson?, htext, Option.bind_eq_bind, Option.bind_some]
  exact parse?_render h

theorem DiskStatus.ofJson?_toJson (disk : DiskStatus) : ofJson? disk.toJson = some disk := by
  -- Field by field: the reader of the size tests it against a number too large to be unfolded.
  rw [ofJson?, toJson, slots_record rfl (by simp), Option.bind_eq_bind, Option.bind_some]
  simp only [List.map_cons, List.map_nil, Option.bind_eq_bind]
  rw [text?_text, Option.bind_some, uint64?_count, Option.bind_some, bool?_bool, Option.bind_some]
  rfl

theorem DiskGroupStatus.ofJson?_toJson (group : DiskGroupStatus) :
    ofJson? group.toJson = some group := by
  have htype : absent? DiskGroupType.ofJson? (some (nullable DiskGroupType.toJson group.type)) =
      some group.type :=
    absent?_nullable rfl fun type _ => DiskGroupType.ofJson?_toJson type
  have hdisks : list? DiskStatus.ofJson? (array (group.disks.map DiskStatus.toJson)) =
      some group.disks :=
    list?_array_map fun disk _ => DiskStatus.ofJson?_toJson disk
  rw [ofJson?, toJson, slots_record rfl (by simp)]
  simp [htype, hdisks, absent?_nullable_text]

theorem DatabaseStatus.ofJson?_toJson (database : DatabaseStatus) :
    ofJson? database.toJson = some database := by
  rw [ofJson?, toJson, slots_record rfl (by simp)]
  simp [absent?_nullable_text]

/-- The open mode of an instance is one that a report can tell. -/
def InstanceState.IsReported (mode : InstanceState) : Prop :=
  ∃ output, mode = parse output

theorem InstanceState.parse_keyword_of_isReported {mode : InstanceState} (h : mode.IsReported) :
    parse mode.keyword = mode := by
  obtain ⟨output, rfl⟩ := h
  exact parse_keyword_parse output

theorem NodeStatus.ofJson?_toJson {node : NodeStatus} (h : node.instanceState.IsReported) :
    ofJson? node.toJson = some node := by
  rw [ofJson?, toJson, slots_record rfl (by simp)]
  simp [NodeState.ofJson?_toJson, ClusterHealth.parse_keyword,
    InstanceState.parse_keyword_of_isReported h, list?_texts, dict?_ofDict]

/-- Everything in the snapshot has a written form: the open modes are ones that reports tell, and
the time is on the calendar. -/
structure ClusterStatus.Readable (status : ClusterStatus) : Prop where
  instanceState : ∀ node ∈ status.nodes, node.instanceState.IsReported
  observedAt : ∀ time ∈ status.observedAt, time.isValid = true

theorem ClusterStatus.ofJson?_toJson {status : ClusterStatus} (h : status.Readable) :
    ofJson? status.toJson = some status := by
  have hnodes : list? NodeStatus.ofJson? (array (status.nodes.map NodeStatus.toJson)) =
      some status.nodes :=
    list?_array_map fun node hnode => NodeStatus.ofJson?_toJson (h.instanceState node hnode)
  have hgroups : list? DiskGroupStatus.ofJson?
      (array (status.diskGroups.map DiskGroupStatus.toJson)) = some status.diskGroups :=
    list?_array_map fun group _ => DiskGroupStatus.ofJson?_toJson group
  have htime : absent? Timestamp.ofJson? (some (nullable Timestamp.toJson status.observedAt)) =
      some status.observedAt :=
    absent?_nullable rfl fun time htime => Timestamp.ofJson?_toJson (h.observedAt time htime)
  rw [ofJson?, toJson, slots_record rfl (by simp)]
  simp [NodeState.ofJson?_toJson, hnodes, hgroups, DatabaseStatus.ofJson?_toJson, htime]

theorem ClusterStatus.parse?_render {status : ClusterStatus} (h : status.Readable) :
    parse? status.render = some status := by
  rw [parse?, render, parse?_pretty, Option.bind_eq_bind, Option.bind_some]
  exact ofJson?_toJson h

section reading

theorem NodeStatus.isReported_of_ofJson? {json : Json} {node : NodeStatus}
    (h : ofJson? json = some node) : node.instanceState.IsReported := by
  simp only [ofJson?, Option.bind_eq_bind, Option.bind_eq_some_iff] at h
  obtain ⟨slots, -, h⟩ := h
  split at h
  · simp only [Option.bind_eq_some_iff] at h
    -- One step for each field; the last one makes the entry.
    repeat obtain ⟨_, -, h⟩ := h
    exact ⟨_, rfl⟩
  · cases h

theorem ClusterStatus.readable_of_ofJson? {json : Json} {status : ClusterStatus}
    (h : ofJson? json = some status) : status.Readable := by
  simp only [ofJson?, Option.bind_eq_bind, Option.bind_eq_some_iff] at h
  obtain ⟨slots, -, h⟩ := h
  split at h
  · simp only [Option.bind_eq_some_iff] at h
    obtain ⟨_, -, nodes, hnodes, _, -, _, -, time, htime, h⟩ := h
    obtain rfl := Option.some.inj h
    constructor
    · intro node hnode
      obtain ⟨item, hitem⟩ := exists_of_list? hnodes node hnode
      exact NodeStatus.isReported_of_ofJson? hitem
    · intro t ht
      obtain rfl : time = some t := ht
      obtain ⟨item, hitem⟩ := exists_of_absent? htime
      obtain ⟨text, -, hread⟩ := Option.bind_eq_some_iff.1 hitem
      exact Timestamp.isValid_of_parse? hread
  · cases h

/-- A snapshot that was read from a text is readable. -/
theorem ClusterStatus.readable_of_parse? {text : String} {status : ClusterStatus}
    (h : parse? text = some status) : status.Readable := by
  obtain ⟨json, -, hjson⟩ := Option.bind_eq_some_iff.1 h
  exact readable_of_ofJson? hjson

end reading

section reconcile

open Console

variable {r : Reconciler} {c : Console} {node : NodeSpec} {phase : NodeState}

theorem Console.isReported_instanceState (pod : String) :
    (c.instanceState pod).value.IsReported := by
  rw [instanceState, Journal.value_bind]
  cases (c.probe pod c.scripts.instanceState).value with
  | some out => exact ⟨out, rfl⟩
  | none => exact ⟨"PENDING", by decide⟩

/-- Every phase leaves an open mode that a report can tell. -/
theorem Console.isReported_nextEntry {before : Option NodeStatus}
    (hbefore : ∀ entry ∈ before, entry.instanceState.IsReported) :
    ∀ entry ∈ c.nextEntry node phase before, entry.instanceState.IsReported := by
  have hpresent : ∀ phase, (c.presentEntry node phase (c.vitals node.podName).value
      before).instanceState.IsReported := by
    intro phase
    have hvitals : (c.vitals node.podName).value.instanceState.IsReported :=
      isReported_instanceState node.podName
    cases before <;> exact hvitals
  intro entry hentry
  cases phase with
  | available | podAvailable =>
      obtain rfl := Option.some.inj hentry
      exact hpresent _
  | failed =>
      rw [nextEntry] at hentry
      split at hentry
      · obtain rfl := Option.some.inj hentry
        exact hpresent _
      · exact hbefore entry hentry
  | statefulSetNotFound => cases hentry
  | podNotFound | podNotReady | podFailure =>
      have hmissing : InstanceState.notAvailable.IsReported := ⟨"", by decide⟩
      obtain rfl := Option.some.inj hentry
      exact hmissing
  | pending | provisioning | addNode | update => exact hbefore entry hentry

/-- A pass that is observed at a time on the calendar leaves a readable snapshot. -/
theorem ClusterStatus.Readable.reconcileWithPhases {status : ClusterStatus} (h : status.Readable)
    {now : Timestamp} (hnow : now.isValid = true) (phases : List (NodeSpec × NodeState)) :
    (r.reconcileWithPhases now status phases).value.Readable where
  instanceState := by
    apply Reconciler.forall_mem_foldPhases h.instanceState
    exact fun p _ before => isReported_nextEntry
  observedAt := by
    intro time htime
    obtain rfl := Option.some.inj htime
    exact hnow

end reconcile

/-- A snapshot whose open modes are ones that reports tell is read from its own text as it is, and
passes keep their snapshots so. Whatever text a snapshot was read from, it is read from its own text
as well. -/
theorem ClusterStatus.roundTrip_render (status : ClusterStatus) :
    (status.Readable → parse? status.render = some status) ∧
      (status.Readable → ∀ (r : Reconciler) (now : Timestamp), now.isValid = true →
        (r.reconcile now status).value.Readable) ∧
      ∀ text, parse? text = some status → parse? status.render = some status := by
  refine ⟨parse?_render, ?_, ?_⟩
  · intro h r now hnow
    exact h.reconcileWithPhases hnow r.probedPhases
  · intro text htext
    exact parse?_render (readable_of_parse? htext)

/-- A snapshot with quotes, backslashes and control characters in its texts, the greatest size and
options of both kinds. -/
def oddStatus : ClusterStatus where
  nodes := [{
    name := "rac\"node\\1\x01\x7f", instanceState := .other "READ ONLY"
    mountedDevices := ["/dev/sdb\n", ""]
    vipDetails := Dict.ofList [("name", "\t"), ("\u2028", "\x0c")] }]
  diskGroups := [{
    name := "DATA", type := none, redundancy := "NORMAL", autoUpdate := true
    storageClass := some "", disks := [⟨"/dev/sdb", 18446744073709551615, true⟩] }]
  database := { serviceName := some "null" }
  observedAt := some (Timestamp.ofUnix 1735785845 500000000)

theorem ClusterStatus.roundTrip_render_odd :
    oddStatus.Readable ∧ parse? oddStatus.render = some oddStatus ∧
      (Timestamp.ofUnix 0 0).isValid = true ∧
      let r := Reconciler.on { name := "prod", topology := .instances [] } {}
        (Diagnostic.Scripts.mountedAt "/scripts" "python3")
      let after := (r.reconcile (Timestamp.ofUnix 0 0) oddStatus).value
      after.Readable ∧ parse? after.render = some after := by
  have hodd : oddStatus.Readable := by
    constructor
    · intro node hnode
      obtain rfl := List.mem_singleton.1 hnode
      exact ⟨" READ ONLY\n", by decide⟩
    · intro time htime
      obtain rfl := Option.some.inj htime
      decide
  have hnow : (Timestamp.ofUnix 0 0).isValid = true := by
    decide
  refine ⟨hodd, (roundTrip_render oddStatus).1 hodd, hnow, ?_⟩
  intro r after
  have hafter : after.Readable := (roundTrip_render oddStatus).2.1 hodd r _ hnow
  exact ⟨hafter, (roundTrip_render after).1 hafter⟩

end ClusterWatch
