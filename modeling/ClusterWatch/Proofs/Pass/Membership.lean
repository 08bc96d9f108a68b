import ClusterWatch.Proofs.Checks
import ClusterWatch.Proofs.Pass.Run
import ClusterWatch.Proofs.Pass.Stages
import ClusterWatch.Proofs.Spec.NodeNames

/-!
Which nodes a snapshot tracks, and in which order.

A pass looks at the declared names one after the other: it keeps or adds a name whose workload
exists, and drops one whose workload does not. Main statement: `names_reconcile`.
-/

namespace ClusterWatch

namespace Reconciler

/-- The workload of the node with a name exists. -/
def hasWorkload (r : Reconciler) (name : String) : Bool :=
  (r.console.platform.workload r.spec.ns name).isOk

/-- The tracked names after a pass looked at one. -/
def track (r : Reconciler) (names : List String) (name : String) : List String :=
  if r.hasWorkload name then if name ∈ names then names else names ++ [name]
  else names.filter (· ≠ name)

section track

variable {r : Reconciler} {names declared : List String} {name : String}

theorem mem_track_iff {looked : String} :
    name ∈ r.track names looked ↔
      if name = looked then r.hasWorkload looked = true else name ∈ names := by
  rw [track]
  by_cases hname : name = looked
  · subst hname
    cases r.hasWorkload name <;> by_cases hmem : name ∈ names <;> simp [hmem]
  · cases r.hasWorkload looked <;> by_cases hmem : looked ∈ names <;> simp [hmem, hname]

/-- Looking at declared names tracks those whose workload exists, and no other of them. -/
theorem mem_foldl_track_iff :
    name ∈ declared.foldl r.track names ↔
      (name ∉ declared ∧ name ∈ names) ∨ (name ∈ declared ∧ r.hasWorkload name = true) := by
  induction declared generalizing names with
  | nil => simp
  | cons looked declared ih =>
      rw [List.foldl_cons, ih, mem_track_iff]
      by_cases hname : name = looked
      · subst hname
        by_cases hmem : name ∈ declared <;> simp [hmem]
      · simp [hname]

theorem foldl_track_of_tracked
    (htracked : ∀ name ∈ declared, name ∈ names ↔ r.hasWorkload name = true) :
    declared.foldl r.track names = names := by
  induction declared with
  | nil => rfl
  | cons looked declared ih =>
      have hlooked := htracked looked List.mem_cons_self
      have hkept : r.track names looked = names := by
        rw [track]
        by_cases hwork : r.hasWorkload looked = true
        · rw [if_pos hwork, if_pos (hlooked.2 hwork)]
        · rw [if_neg hwork, List.filter_eq_self]
          intro name hname
          have hne : name ≠ looked := fun heq => hwork (hlooked.1 (heq ▸ hname))
          exact decide_eq_true hne
      rw [List.foldl_cons, hkept]
      exact ih fun name hname => htracked name (List.mem_cons_of_mem looked hname)

theorem foldl_track_foldl_track :
    declared.foldl r.track (declared.foldl r.track names) = declared.foldl r.track names := by
  apply foldl_track_of_tracked
  intro name hname
  rw [mem_foldl_track_iff]
  simp [hname]

/-- Looking at distinct names keeps the order of those that stay and adds the new ones behind them,
in the order in which they are looked at. -/
theorem foldl_track (hdeclared : declared.Nodup) :
    declared.foldl r.track names =
      names.filter (fun name => name ∉ declared ∨ r.hasWorkload name = true) ++
        declared.filter (fun name => r.hasWorkload name = true ∧ name ∉ names) := by
  induction declared generalizing names with
  | nil => exact ((List.append_nil _).trans (List.filter_eq_self.2 (by simp))).symm
  | cons looked declared ih =>
      obtain ⟨hnew, hrest⟩ := List.nodup_cons.1 hdeclared
      have hlater : ∀ name ∈ declared, name ≠ looked := fun name hname heq => hnew (heq ▸ hname)
      rw [List.foldl_cons, ih hrest, track]
      by_cases hwork : r.hasWorkload looked = true
      · have hstay : ∀ name ∈ names,
            decide (name ∉ looked :: declared ∨ r.hasWorkload name = true) =
              decide (name ∉ declared ∨ r.hasWorkload name = true) := by
          intro name _
          by_cases heq : name = looked
          · simp [heq, hwork]
          · simp [heq]
        rw [if_pos hwork, List.filter_congr hstay]
        by_cases hmem : looked ∈ names
        · rw [if_pos hmem, List.filter_cons_of_neg (by simp [hmem])]
        · have hadd : ∀ name ∈ declared,
              decide (r.hasWorkload name = true ∧ name ∉ names ++ [looked]) =
                decide (r.hasWorkload name = true ∧ name ∉ names) := by
            intro name hname
            simp [hlater name hname]
          rw [if_neg hmem, List.filter_cons_of_pos (by simp [hwork, hmem]), List.filter_append,
            List.filter_cons_of_pos (by simp [hwork]), List.filter_nil, List.filter_congr hadd,
            List.append_assoc, List.singleton_append]
      · have hstay : ∀ name ∈ names,
            (decide (name ∉ declared ∨ r.hasWorkload name = true) && decide (name ≠ looked)) =
              decide (name ∉ looked :: declared ∨ r.hasWorkload name = true) := by
          intro name _
          by_cases heq : name = looked
          · simp [heq, hwork]
          · simp [heq]
        have hadd : ∀ name ∈ declared,
            decide (r.hasWorkload name = true ∧ name ∉ names.filter (· ≠ looked)) =
              decide (r.hasWorkload name = true ∧ name ∉ names) := by
          intro name hname
          simp [hlater name hname]
        rw [if_neg hwork, List.filter_filter, List.filter_congr hstay, List.filter_congr hadd,
          List.filter_cons_of_neg (by simp [hwork])]

end track

section reconcile

variable {r : Reconciler} {node : NodeSpec} {nodes : List NodeStatus} {now : Timestamp}
  {status : ClusterStatus}

theorem isSome_nextEntry_probed (before : Option NodeStatus) :
    (r.console.nextEntry node (r.probePhase node) before).isSome = r.hasWorkload node.name := by
  rw [hasWorkload, probePhase]
  cases hwork : r.console.platform.workload r.spec.ns node.name with
  | error e => rfl
  | ok workload =>
      cases hpod : r.console.platform.pod r.spec.ns node.podName with
      | error e => rfl
      | ok pod =>
          simp only
          split
          · rfl
          · split <;> rfl

theorem map_name_updateNode_probed (r : Reconciler) (nodes : List NodeStatus) (node : NodeSpec) :
    (r.console.updateNode nodes node (r.probePhase node)).value.map (·.name) =
      r.track (nodes.map (·.name)) node.name := by
  have hsome := @isSome_nextEntry_probed r node
  rw [track]
  rcases Console.updateNode_cases r.console nodes node (r.probePhase node) with
    ⟨make, hmake, hnext, hvalue⟩ | ⟨hnext, hvalue⟩ | ⟨hnext, -⟩
  · have hwork : r.hasWorkload node.name = true := by
      rw [← hsome none, hnext]
      rfl
    rw [hvalue, Console.map_name_placeEntry hmake, if_pos hwork]
    simp [Console.isFor]
  · have hwork : ¬r.hasWorkload node.name = true := by
      rw [← hsome none, hnext]
      exact Bool.false_ne_true
    rw [hvalue, if_neg hwork, List.filter_map]
    simp [Console.isFor, Function.comp_def]
  · -- Every probed phase makes or removes an entry.
    have hnone := hsome none
    rw [← hsome (some { name := node.name }), hnext, hnext] at hnone
    cases hnone

theorem map_name_reconcile :
    (r.reconcile now status).value.nodes.map (·.name) =
      (r.spec.nodes.map (·.name)).foldl r.track (status.nodes.map (·.name)) := by
  rw [nodes_reconcile, value_foldPhases, probedPhases, List.foldl_map]
  generalize status.nodes = nodes
  induction r.spec.nodes generalizing nodes with
  | nil => rfl
  | cons node declared ih =>
      rw [List.foldl_cons, ih, List.map_cons, List.foldl_cons, map_name_updateNode_probed]

/-- A pass tracks the names it knew that are not declared and the declared ones whose workload
exists: first those that stay, in the order before, and then the new ones in the order of their
ordinals. -/
theorem names_reconcile {contents : String} (hspec : ClusterSpec.parse contents = .ok r.spec)
    (now : Timestamp) (hstatus : (status.nodes.map (·.name)).Nodup) :
    let declared := r.spec.nodes.map (·.name)
    let before := status.nodes.map (·.name)
    let after := (r.reconcile now status).value.nodes.map (·.name)
    after.Nodup ∧
      (∀ name, name ∈ after ↔
        (name ∉ declared ∧ name ∈ before) ∨ (name ∈ declared ∧ r.hasWorkload name = true)) ∧
      after = before.filter (fun name => name ∉ declared ∨ r.hasWorkload name = true) ++
        declared.filter (fun name => r.hasWorkload name = true ∧ name ∉ before) := by
  intro declared before after
  have hafter : after = declared.foldl r.track before := map_name_reconcile
  refine ⟨nodup_foldPhases hstatus, fun name => ?_, ?_⟩
  · rw [hafter]
    exact mem_foldl_track_iff
  · rw [hafter]
    exact foldl_track (ClusterSpec.nodup_of_parse hspec)

end reconcile

/-- The declaration of a cluster of three nodes. -/
def trioText : String :=
  "name = \"prod\"\n[topology]\nmode = \"cluster\"\nnode_count = 3\nnode_name = \"racnode\"\n"

/-- Passes over three nodes: the first runs, the second has no pod and the third no workload. -/
def trio : Reconciler :=
  let platform :=
    ((Platform.addNode {} "racnode1").addNode "racnode2").removePod (podOf "racnode2")
  Reconciler.on { name := "prod", topology := .cluster { nodeCount := 3, nodeName := "racnode" } }
    platform (Diagnostic.Scripts.mountedAt "/scripts" "python3")

/-- A snapshot that knows two of them and a node that is not declared. -/
def trioKnown : ClusterStatus where
  nodes := [{ name := "racnode3" }, { name := "retired" }, { name := "racnode2" }]

theorem names_reconcile_trio :
    ClusterSpec.parse trioText = .ok trio.spec ∧ (trioKnown.nodes.map (·.name)).Nodup ∧
      (trio.reconcile (Timestamp.ofUnix 0 0) trioKnown).value.nodes.map (·.name) =
        ["retired", "racnode2", "racnode1"] ∧
      ((trio.reconcile (Timestamp.ofUnix 0 0) trioKnown).value.nodes.map (·.name)).Nodup ∧
      (trio.reconcile (Timestamp.ofUnix 0 0) trioKnown).value.nodes.map (·.name) =
        (trioKnown.nodes.map (·.name)).filter (fun name =>
            name ∉ trio.spec.nodes.map (·.name) ∨ trio.hasWorkload name = true) ++
          (trio.spec.nodes.map (·.name)).filter (fun name =>
            trio.hasWorkload name = true ∧ name ∉ trioKnown.nodes.map (·.name)) := by
  have hspec : ClusterSpec.parse trioText = .ok trio.spec :=
    toOption_eq_some_iff.1 (by decide +kernel)
  have hknown : (trioKnown.nodes.map (·.name)).Nodup := by
    decide
  obtain ⟨hnodup, -, horder⟩ := names_reconcile hspec (Timestamp.ofUnix 0 0) hknown
  exact ⟨hspec, hknown, by decide, hnodup, horder⟩

end Reconciler

end ClusterWatch
