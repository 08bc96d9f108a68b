import ClusterWatch.Proofs.Pass.Resting
import ClusterWatch.Proofs.Pass.Run
import ClusterWatch.Proofs.Pointwise
import ClusterWatch.Proofs.Spec.NodeNames

/-!
The lifecycle on a platform that does not change.

After two passes every declared node is at rest. One more pass then keeps the entries and their
states, up to the turns of nodes that flap, and so does the cluster keep its state for a few reasons
and for no other. Main statement: `settles_run`.
-/

namespace ClusterWatch

/-- The state of the first entry of a name. -/
def ClusterStatus.stateOf? (status : ClusterStatus) (name : String) : Option NodeState :=
  (status.node? name).map (·.state)

namespace Reconciler

open Console

/-- All declared nodes are at rest. -/
def Settled (r : Reconciler) (nodes : List NodeStatus) : Prop :=
  ∀ node ∈ r.spec.nodes, r.Rests node ((nodes.find? (isFor node.name)).map (·.state))

/-- An entry keeps its state, or is between pending and available because a node of its name
flaps. -/
structure Keeps (r : Reconciler) (before after : NodeStatus) : Prop where
  name : before.name = after.name
  state : before.state = after.state ∨
    (∃ node ∈ r.spec.nodes, node.name = before.name ∧ r.Flaps node) ∧
      before.state ∈ [NodeState.pending, .available] ∧ after.state ∈ [NodeState.pending, .available]

/-- The state of the cluster has a reason to stay: no declared node flaps, some node has failed, or
some node is pending before and after. -/
def Steady (r : Reconciler) (before after : ClusterStatus) : Prop :=
  (∀ node ∈ r.spec.nodes, ¬r.Flaps node) ∨ .failed ∈ before.nodeStates ∨
    .pending ∈ before.nodeStates ∧ .pending ∈ after.nodeStates

variable {r : Reconciler} {node : NodeSpec} {nodes : List NodeStatus}

theorem Keeps.refl (entry : NodeStatus) : r.Keeps entry entry :=
  ⟨rfl, Or.inl rfl⟩

theorem Keeps.trans {a b c : NodeStatus} (hab : r.Keeps a b) (hbc : r.Keeps b c) :
    r.Keeps a c := by
  refine ⟨hab.name.trans hbc.name, ?_⟩
  rcases hab.state with heq | ⟨hflaps, ha, hb⟩
  · rw [heq, hab.name]
    exact hbc.state
  · rcases hbc.state with heq | ⟨-, -, hc⟩
    · exact Or.inr ⟨hflaps, ha, heq ▸ hb⟩
    · exact Or.inr ⟨hflaps, ha, hc⟩

section passes

variable {phases : List (NodeSpec × NodeState)} {now : Timestamp} {status : ClusterStatus}

theorem forall₂_keeps_refl (nodes : List NodeStatus) : List.Forall₂ r.Keeps nodes nodes :=
  List.forall₂_same.2 fun entry _ => Keeps.refl entry

/-- The entry of a node at rest is kept, up to the turns of the node. -/
theorem keeps_of_rests {old new : NodeStatus} (hnode : node ∈ r.spec.nodes)
    (hrests : r.Rests node (some old.state)) (hold : old.name = node.name)
    (hnew : new.name = node.name)
    (hstage : some new.state = r.stageAfter node (some old.state)) : r.Keeps old new := by
  refine ⟨hold.trans hnew.symm, ?_⟩
  by_cases hflaps : r.Flaps node
  · refine Or.inr ⟨⟨node, hnode, hold.symm, hflaps⟩, ?_, ?_⟩
    · rcases hrests.turning hflaps with h | h <;> simp [Option.some.inj h]
    · rcases hflaps.stageAfter_cases (some old.state) with h | h <;>
        simp [Option.some.inj (hstage.trans h)]
  · exact Or.inl (Option.some.inj (hstage.trans (hrests.fixed hflaps))).symm

/-- An update on settled entries keeps them, up to the turns of the updated node. -/
theorem keeps_updateNode (hnodes : r.Settled nodes) (hnode : node ∈ r.spec.nodes) :
    List.Forall₂ r.Keeps nodes
      (r.console.updateNode nodes node (r.probePhase node)).value := by
  have hrests := hnodes node hnode
  have hnext := r.map_state_nextEntry node
  have hsome := hrests.isSome_stageAfter
  rcases updateNode_cases r.console nodes node (r.probePhase node) with
    ⟨make, hmake, hmade, hvalue⟩ | ⟨hremoved, hvalue⟩ | ⟨-, hvalue⟩
  · rw [hvalue, placeEntry]
    split
    · apply forall₂_modifyFirst Keeps.refl
      intro entry hentry
      have hname := name_of_find? hentry
      have hstage := hnext (some entry)
      rw [hentry] at hrests
      rw [hmade] at hstage
      exact keeps_of_rests hnode hrests hname (hmake.name_some (isFor_iff.2 hname)) hstage
    · next hany =>
        -- A node at rest without an entry is not given one.
        rw [find?_eq_none_of_any_eq_false (Bool.eq_false_iff.2 hany), ← hnext, hmade] at hsome
        cases hsome
  · rw [← hnext, hremoved] at hsome
    have hnone : nodes.find? (isFor node.name) = none := by
      simpa using hsome.symm
    have hkept : nodes.filter (fun entry => !isFor node.name entry) = nodes := by
      rw [List.filter_eq_self]
      intro entry hentry
      simpa using List.find?_eq_none.1 hnone entry hentry
    rw [hvalue, hkept]
    exact forall₂_keeps_refl nodes
  · rw [hvalue]
    exact forall₂_keeps_refl nodes

theorem settled_updateNode (node : NodeSpec) (hnodes : r.Settled nodes) :
    r.Settled (r.console.updateNode nodes node (r.probePhase node)).value := by
  intro declared hdeclared
  by_cases hname : declared.name = node.name
  · rw [hname, find?_updateNode_self, map_state_nextEntry, ← stageAfter_congr hname, ← hname]
    exact (hnodes declared hdeclared).stageAfter
  · rw [find?_updateNode_of_ne hname]
    exact hnodes declared hdeclared

/-- A pass on settled entries leaves them settled and keeps them, up to the turns of nodes that
flap. -/
theorem settled_foldPhases (hnodes : r.Settled nodes)
    (hphases : ∀ p ∈ phases, p.1 ∈ r.spec.nodes ∧ p.2 = r.probePhase p.1) :
    r.Settled (r.foldPhases nodes phases).value ∧
      List.Forall₂ r.Keeps nodes (r.foldPhases nodes phases).value := by
  induction phases generalizing nodes with
  | nil => exact ⟨hnodes, forall₂_keeps_refl nodes⟩
  | cons p phases ih =>
      obtain ⟨node, phase⟩ := p
      obtain ⟨hnode, hphase⟩ : node ∈ r.spec.nodes ∧ phase = r.probePhase node :=
        hphases (node, phase) List.mem_cons_self
      rw [value_foldPhases_cons, hphase]
      have hrest := ih (settled_updateNode node hnodes)
        fun p hp => hphases p (List.mem_cons_of_mem _ hp)
      have htrans : ∀ a b c, r.Keeps a b → r.Keeps b c → r.Keeps a c :=
        fun _ _ _ hab hbc => hab.trans hbc
      exact ⟨hrest.1, forall₂_trans htrans (keeps_updateNode hnodes hnode) hrest.2⟩

theorem settled_reconcile (h : r.Settled status.nodes) :
    r.Settled (r.reconcile now status).value.nodes :=
  (settled_foldPhases h fun _ => mem_probedPhases).1

theorem keeps_reconcile (h : r.Settled status.nodes) :
    List.Forall₂ r.Keeps status.nodes (r.reconcile now status).value.nodes :=
  (settled_foldPhases h fun _ => mem_probedPhases).2

/-- A pass takes the state of a declared node through at least one step. -/
theorem exists_iterate_reconcile (status : ClusterStatus) (now : Timestamp)
    (hnode : node ∈ r.spec.nodes) :
    ∃ n, ((r.reconcile now status).value.nodes.find? (isFor node.name)).map (·.state) =
      (r.stageAfter node)^[n + 1] ((status.nodes.find? (isFor node.name)).map (·.state)) := by
  have hpos : 0 < (r.spec.nodes.map (·.name)).count node.name :=
    List.count_pos_iff.2 (List.mem_map_of_mem hnode)
  obtain ⟨n, hn⟩ := Nat.exists_eq_add_one.2 hpos
  refine ⟨n, ?_⟩
  rw [nodes_reconcile, map_state_foldPhases, hn]

theorem settled_reconcile_reconcile (first second : Timestamp) :
    r.Settled (r.reconcile second (r.reconcile first status).value).value.nodes := by
  intro node hnode
  obtain ⟨m, hm⟩ := exists_iterate_reconcile status first hnode
  obtain ⟨n, hn⟩ := exists_iterate_reconcile (r.reconcile first status).value second hnode
  have hsteps : n + 1 + (m + 1) = (n + m) + 2 := by
    omega
  rw [hn, hm, ← Function.iterate_add_apply, hsteps, Function.iterate_add_apply]
  exact (rests_stageAfter_stageAfter _).iterate (n + m)

theorem settled_run {times : List Timestamp} (h : r.Settled status.nodes) :
    r.Settled (r.run status times).value.nodes := by
  induction times generalizing status with
  | nil => exact h
  | cons now times ih => exact ih (settled_reconcile h)

theorem settled_run_of_two_le {times : List Timestamp} (htimes : 2 ≤ times.length) :
    r.Settled (r.run status times).value.nodes := by
  match times, htimes with
  | first :: second :: rest, _ =>
      rw [value_run_cons, value_run_cons]
      exact settled_run (settled_reconcile_reconcile first second)

end passes

section cluster

variable {before after : ClusterStatus} {now : Timestamp} {status : ClusterStatus}

/-- A state that is neither pending nor available stays where it is. -/
theorem Keeps.state_iff {old new : NodeStatus} {state : NodeState} (h : r.Keeps old new)
    (hstate : state ∉ [NodeState.pending, .available]) : old.state = state ↔ new.state = state := by
  rcases h.state with heq | ⟨-, hold, hnew⟩
  · rw [heq]
  · exact ⟨fun heq => absurd (heq ▸ hold) hstate, fun heq => absurd (heq ▸ hnew) hstate⟩

theorem failed_mem_iff (h : List.Forall₂ r.Keeps before.nodes after.nodes) :
    NodeState.failed ∈ before.nodeStates ↔ NodeState.failed ∈ after.nodeStates := by
  simp only [ClusterStatus.nodeStates, List.mem_map]
  exact exists_mem_iff_of_forall₂ h fun _ _ hkeeps => hkeeps.state_iff (by decide)

theorem nodeStates_eq (hflaps : ∀ node ∈ r.spec.nodes, ¬r.Flaps node)
    (h : List.Forall₂ r.Keeps before.nodes after.nodes) :
    after.nodeStates = before.nodeStates := by
  refine (map_eq_of_forall₂ h ?_).symm
  intro old new hkeeps
  rcases hkeeps.state with heq | ⟨⟨node, hnode, -, hflap⟩, -⟩
  · exact heq
  · exact absurd hflap (hflaps node hnode)

/-- With a reason to stay, the state of the cluster does. -/
theorem Steady.aggregate_eq (hsteady : r.Steady before after)
    (h : List.Forall₂ r.Keeps before.nodes after.nodes) :
    NodeState.aggregate after.nodeStates = NodeState.aggregate before.nodeStates := by
  have hfailed := failed_mem_iff h
  rcases hsteady with hflaps | hbefore | ⟨hbefore, hafter⟩
  · rw [nodeStates_eq hflaps h]
  · rw [NodeState.aggregate_of_failed_mem hbefore,
      NodeState.aggregate_of_failed_mem (hfailed.1 hbefore)]
  · by_cases hmem : NodeState.failed ∈ before.nodeStates
    · rw [NodeState.aggregate_of_failed_mem hmem,
        NodeState.aggregate_of_failed_mem (hfailed.1 hmem)]
    · rw [NodeState.aggregate_of_pending_mem hbefore hmem,
        NodeState.aggregate_of_pending_mem hafter fun hnew => hmem (hfailed.2 hnew)]

/-- The state of a node that flaps goes from pending to available and back. -/
theorem stateOf?_reconcile (now : Timestamp) (hspec : (r.spec.nodes.map (·.name)).Nodup)
    (hsettled : r.Settled status.nodes) (hnode : node ∈ r.spec.nodes) (hflaps : r.Flaps node) :
    (status.stateOf? node.name = some .pending ∧
        (r.reconcile now status).value.stateOf? node.name = some .available) ∨
      (status.stateOf? node.name = some .available ∧
        (r.reconcile now status).value.stateOf? node.name = some .pending) := by
  have hfirst : (r.reconcile now status).value.node? node.name =
      r.console.nextEntry node (r.probePhase node) (status.node? node.name) :=
    find?_foldPhases_probed hspec hnode
  have hafter : (r.reconcile now status).value.stateOf? node.name =
      r.stageAfter node (status.stateOf? node.name) := by
    rw [ClusterStatus.stateOf?, hfirst, map_state_nextEntry]
    rfl
  rw [hafter]
  rcases (hsettled node hnode).turning hflaps with hpending | havailable
  · exact Or.inl ⟨hpending, (congrArg _ hpending).trans hflaps.stageAfter_pending⟩
  · exact Or.inr ⟨havailable, (congrArg _ havailable).trans hflaps.stageAfter_available⟩

/-- A state that is pending in one of two snapshots alone does not make the cluster alike in
both. -/
theorem pending_mem_of_aggregate_eq {olds news : List NodeState} (hfailed : .failed ∉ olds)
    (hold : .pending ∈ olds) (hne : news ≠ [])
    (h : NodeState.aggregate news = NodeState.aggregate olds) : .pending ∈ news := by
  rw [NodeState.aggregate_of_pending_mem hold hfailed] at h
  exact NodeState.pending_mem_of_aggregate hne h

theorem mem_nodeStates_of_stateOf? {name : String} {state : NodeState}
    (h : status.stateOf? name = some state) : state ∈ status.nodeStates := by
  obtain ⟨entry, hentry, rfl⟩ := Option.map_eq_some_iff.1 h
  exact List.mem_map_of_mem (List.mem_of_find?_eq_some hentry)

/-- The state of the cluster stays only with a reason. -/
theorem steady_of_aggregate_eq (hspec : (r.spec.nodes.map (·.name)).Nodup)
    (hsettled : r.Settled status.nodes)
    (hkeeps : List.Forall₂ r.Keeps status.nodes (r.reconcile now status).value.nodes)
    (h : NodeState.aggregate (r.reconcile now status).value.nodeStates =
      NodeState.aggregate status.nodeStates) :
    r.Steady status (r.reconcile now status).value := by
  by_cases hflaps : ∀ node ∈ r.spec.nodes, ¬r.Flaps node
  · exact Or.inl hflaps
  · simp only [not_forall, not_not] at hflaps
    obtain ⟨node, hnode, hflap⟩ := hflaps
    by_cases hfailed : .failed ∈ status.nodeStates
    · exact Or.inr (Or.inl hfailed)
    · have hnext := fun hmem => hfailed ((failed_mem_iff hkeeps).2 hmem)
      rcases stateOf?_reconcile now hspec hsettled hnode hflap with
        ⟨hold, hnew⟩ | ⟨hold, hnew⟩
      · have hpending := mem_nodeStates_of_stateOf? hold
        have hne := List.ne_nil_of_mem (mem_nodeStates_of_stateOf? hnew)
        exact Or.inr (Or.inr ⟨hpending, pending_mem_of_aggregate_eq hfailed hpending hne h⟩)
      · have hpending := mem_nodeStates_of_stateOf? hnew
        have hne := List.ne_nil_of_mem (mem_nodeStates_of_stateOf? hold)
        exact Or.inr (Or.inr ⟨pending_mem_of_aggregate_eq hnext hpending hne h.symm, hpending⟩)

/-- After two passes on a platform that stays as it is, one more keeps every state, except for the
turns of nodes that flap, from pending to available and back; and the cluster keeps its state
exactly if that has a reason. -/
theorem settles_run (r : Reconciler) (status : ClusterStatus) {times : List Timestamp}
    (htimes : 2 ≤ times.length) (now : Timestamp) :
    let before := (r.run status times).value
    let after := (r.run status (times ++ [now])).value
    List.Forall₂ r.Keeps before.nodes after.nodes ∧
      (r.Steady before after → after.state = before.state) ∧
      (r.spec.checkNames = .ok r.spec →
        (after.state = before.state → r.Steady before after) ∧
          ∀ node ∈ r.spec.nodes, r.Flaps node →
            (before.stateOf? node.name = some .pending ∧
                after.stateOf? node.name = some .available) ∨
              (before.stateOf? node.name = some .available ∧
                after.stateOf? node.name = some .pending)) := by
  intro before after
  have hafter : after = (r.reconcile now before).value := value_run_concat times
  have hsettled : r.Settled before.nodes := settled_run_of_two_le htimes
  have hkeeps : List.Forall₂ r.Keeps before.nodes after.nodes := hafter ▸ keeps_reconcile hsettled
  have hstate : before.state = NodeState.aggregate before.nodeStates :=
    state_run (List.ne_nil_of_length_pos (by omega))
  have hnext : after.state = NodeState.aggregate after.nodeStates := hafter ▸ state_reconcile
  refine ⟨hkeeps, fun hsteady => ?_, fun hspec => ⟨fun heq => ?_, fun node hnode hflaps => ?_⟩⟩
  · rw [hnext, hstate, hsteady.aggregate_eq hkeeps]
  · rw [hnext, hstate] at heq
    rw [hafter] at heq hkeeps ⊢
    exact steady_of_aggregate_eq (ClusterSpec.checkNames_eq_ok_iff.1 hspec) hsettled hkeeps heq
  · rw [hafter]
    exact stateOf?_reconcile now (ClusterSpec.checkNames_eq_ok_iff.1 hspec) hsettled hnode hflaps

end cluster

/-- Passes over one node whose provisioning is completed and whose instance is mounted. -/
def mounted : Reconciler :=
  let platform :=
    ((Platform.addNode {} "racnode").respond "racnode-0" "--checkracinst=true" "MOUNTED").respond
      "racnode-0" ("cat " ++ Diagnostic.stateFilePath) "completed"
  Reconciler.on { name := "prod", topology := .instances [{ name := "racnode" }] } platform
    (Diagnostic.Scripts.mountedAt "/scripts" "python3")

def mountedAfter (passes : Nat) : ClusterStatus :=
  (mounted.run {} (List.replicate passes (Timestamp.ofUnix 0 0))).value

theorem settles_run_mounted :
    2 ≤ (List.replicate 2 (Timestamp.ofUnix 0 0)).length ∧
      mounted.spec.checkNames = .ok mounted.spec ∧
      (∃ node ∈ mounted.spec.nodes, mounted.Flaps node) ∧
      List.Forall₂ mounted.Keeps (mountedAfter 2).nodes (mountedAfter 3).nodes ∧
      ((mountedAfter 3).state = (mountedAfter 2).state ↔
        mounted.Steady (mountedAfter 2) (mountedAfter 3)) ∧
      ∀ node ∈ mounted.spec.nodes, mounted.Flaps node →
        ((mountedAfter 2).stateOf? node.name = some .pending ∧
            (mountedAfter 3).stateOf? node.name = some .available) ∨
          ((mountedAfter 2).stateOf? node.name = some .available ∧
            (mountedAfter 3).stateOf? node.name = some .pending) := by
  have htimes : 2 ≤ (List.replicate 2 (Timestamp.ofUnix 0 0)).length := by
    decide
  have hspec : mounted.spec.checkNames = .ok mounted.spec := by
    rfl
  have hflaps : ∃ node ∈ mounted.spec.nodes, mounted.Flaps node :=
    ⟨_, List.mem_singleton_self _, by decide, by decide, "completed", by decide, by decide⟩
  obtain ⟨hkeeps, hstate, hturns⟩ := settles_run mounted {} htimes (Timestamp.ofUnix 0 0)
  exact ⟨htimes, hspec, hflaps, hkeeps, ⟨(hturns hspec).1, hstate⟩, (hturns hspec).2⟩

/-- On some platforms that do not change, the third pass still changes states. -/
theorem not_forall_run_fixed :
    ¬∀ (r : Reconciler) (status : ClusterStatus) (times : List Timestamp) (now : Timestamp),
      2 ≤ times.length →
        (r.run status (times ++ [now])).value.nodeStates = (r.run status times).value.nodeStates ∧
          (r.run status (times ++ [now])).value.state = (r.run status times).value.state := by
  intro hall
  have hfixed := hall mounted {} (List.replicate 2 (Timestamp.ofUnix 0 0)) (Timestamp.ofUnix 0 0)
    (by decide)
  exact absurd hfixed (by decide)

end Reconciler

end ClusterWatch
