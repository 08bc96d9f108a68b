import ClusterWatch.Proofs.Lifecycle.Aggregate
import ClusterWatch.Proofs.Pass.Entries
import Mathlib.Data.List.Nodup

/-!
Nodes do not influence each other.

Entries of some names, picked out of the snapshot, go through a pass as if the other names were
neither in the snapshot nor among the phases. So the order of the phases of different nodes matters
only for the places of new entries. Main statement: `independent_reconcileWithPhases`.
-/

namespace ClusterWatch

namespace Console

variable {c : Console} {name : String} {make : Option NodeStatus → NodeStatus} {q : String → Bool}

/-- Placing an entry of a picked name, seen through the picked names. -/
theorem filter_placeEntry (hmake : MakesNamed name make) (hname : q name = true)
    (nodes : List NodeStatus) :
    (placeEntry name make nodes).filter (fun entry => q entry.name) =
      placeEntry name make (nodes.filter fun entry => q entry.name) := by
  have hpicked : ∀ entry, isFor name entry = true →
      q entry.name = true ∧ q (make (some entry)).name = true := by
    intro entry hentry
    rw [isFor_iff.1 hentry, hmake.name_some hentry]
    exact ⟨hname, hname⟩
  have hany : (nodes.filter fun entry => q entry.name).any (isFor name) =
      nodes.any (isFor name) := by
    rw [Bool.eq_iff_iff, List.any_eq_true, List.any_eq_true]
    constructor
    · rintro ⟨entry, hentry, hfor⟩
      exact ⟨entry, (List.mem_filter.1 hentry).1, hfor⟩
    · rintro ⟨entry, hentry, hfor⟩
      exact ⟨entry, List.mem_filter.2 ⟨hentry, (hpicked entry hfor).1⟩, hfor⟩
  rw [placeEntry, placeEntry, hany]
  split
  · exact filter_modifyFirst hpicked nodes
  · rw [List.filter_append, List.filter_cons_of_pos (by rw [hmake.name_none, hname]),
      List.filter_nil]

theorem filter_placeEntry_of_not (hmake : MakesNamed name make) (hname : q name = false)
    (nodes : List NodeStatus) :
    (placeEntry name make nodes).filter (fun entry => q entry.name) =
      nodes.filter fun entry => q entry.name := by
  rw [placeEntry]
  split
  · apply filter_modifyFirst_of_not
    intro entry hentry
    rw [isFor_iff.1 hentry, hmake.name_some hentry]
    exact ⟨hname, hname⟩
  · rw [List.filter_append, List.filter_cons_of_neg (by rw [hmake.name_none, hname]; simp),
      List.filter_nil, List.append_nil]

/-- An update of a node with a picked name, seen through the picked names. -/
theorem filter_updateNode {node : NodeSpec} (hname : q node.name = true) (phase : NodeState)
    (nodes : List NodeStatus) :
    (c.updateNode nodes node phase).value.filter (fun entry => q entry.name) =
      (c.updateNode (nodes.filter fun entry => q entry.name) node phase).value := by
  rcases updateNode_ways c node phase with ⟨make, hmake, -, hvalue⟩ | ⟨-, hvalue⟩ | ⟨-, hvalue⟩
  · rw [hvalue, hvalue, filter_placeEntry hmake hname]
  · rw [hvalue, hvalue, List.filter_comm]
  · rw [hvalue, hvalue]

theorem filter_updateNode_of_not {node : NodeSpec} (hname : q node.name = false)
    (phase : NodeState) (nodes : List NodeStatus) :
    (c.updateNode nodes node phase).value.filter (fun entry => q entry.name) =
      nodes.filter fun entry => q entry.name := by
  rcases updateNode_ways c node phase with ⟨make, hmake, -, hvalue⟩ | ⟨-, hvalue⟩ | ⟨-, hvalue⟩
  · rw [hvalue, filter_placeEntry_of_not hmake hname]
  · rw [hvalue, List.filter_filter]
    apply List.filter_congr
    intro entry _
    cases hpicked : q entry.name with
    | false => rfl
    | true =>
        have hne : ¬isFor node.name entry = true := by
          rw [isFor_iff]
          intro heq
          rw [heq, hname] at hpicked
          cases hpicked
        simp [hne]
  · rw [hvalue]

/-- Lists of entries that agree name by name hold the same entries. -/
theorem perm_of_filter_isFor_eq {nodes others : List NodeStatus}
    (h : ∀ name, nodes.filter (isFor name) = others.filter (isFor name)) : nodes.Perm others := by
  rw [List.perm_iff_count]
  intro entry
  have hfor : isFor entry.name entry = true := isFor_iff.2 rfl
  rw [← List.count_filter hfor, h, List.count_filter hfor]

end Console

namespace Reconciler

open Console

variable {r : Reconciler} {nodes : List NodeStatus} {phases others : List (NodeSpec × NodeState)}

/-- The entries of picked names after all phases are those before, taken through the phases of the
nodes with these names. -/
theorem filter_foldPhases (q : String → Bool) :
    (r.foldPhases nodes phases).value.filter (fun entry => q entry.name) =
      (r.foldPhases (nodes.filter fun entry => q entry.name)
        (phases.filter fun p => q p.1.name)).value := by
  induction phases generalizing nodes with
  | nil => rfl
  | cons p phases ih =>
      obtain ⟨node, phase⟩ := p
      rw [value_foldPhases_cons, ih]
      cases hname : q node.name with
      | true =>
          rw [List.filter_cons_of_pos (by simp [hname]), value_foldPhases_cons,
            filter_updateNode hname]
      | false =>
          rw [List.filter_cons_of_neg (by simp [hname]), filter_updateNode_of_not hname]

theorem filter_isFor_foldPhases (name : String) :
    (r.foldPhases nodes phases).value.filter (isFor name) =
      (r.foldPhases (nodes.filter (isFor name)) (phases.filter (·.1.name = name))).value :=
  filter_foldPhases fun other => decide (other = name)

/-- Without phases of picked names, the entries of these names stay as they are. -/
theorem filter_foldPhases_of_not {q : String → Bool} (h : ∀ p ∈ phases, q p.1.name = false) :
    (r.foldPhases nodes phases).value.filter (fun entry => q entry.name) =
      nodes.filter fun entry => q entry.name := by
  have hnone : phases.filter (fun p => q p.1.name) = [] := by
    rw [List.filter_eq_nil_iff]
    intro p hp
    simp [h p hp]
  rw [filter_foldPhases, hnone]
  rfl

/-- One name has the same phases in any order of phases of distinct nodes. -/
theorem filter_name_eq_of_perm (hnames : (phases.map (·.1.name)).Nodup)
    (hperm : phases.Perm others) (name : String) :
    phases.filter (·.1.name = name) = others.filter (·.1.name = name) := by
  have hfilter : (phases.filter (·.1.name = name)).Perm (others.filter (·.1.name = name)) :=
    hperm.filter _
  have hlength : (phases.filter (·.1.name = name)).length ≤ 1 := by
    have hcount := List.nodup_iff_count.1 hnames name
    rw [List.count_eq_countP, List.countP_map, List.countP_eq_length_filter] at hcount
    exact hcount
  rcases Nat.le_one_iff_eq_zero_or_eq_one.1 hlength with hnone | hone
  · rw [List.length_eq_zero_iff.1 hnone] at hfilter ⊢
    exact hfilter.nil_eq
  · obtain ⟨p, hp⟩ := List.length_eq_one_iff.1 hone
    rw [hp] at hfilter ⊢
    exact (List.perm_singleton.1 hfilter.symm).symm

theorem nodes_reconcileWithPhases (now : Timestamp) (previous : ClusterStatus) :
    (r.reconcileWithPhases now previous phases).value.nodes =
      (r.foldPhases previous.nodes phases).value :=
  rfl

theorem state_reconcileWithPhases (now : Timestamp) (previous : ClusterStatus) :
    (r.reconcileWithPhases now previous phases).value.state =
      NodeState.aggregate ((r.foldPhases previous.nodes phases).value.map (·.state)) :=
  rfl

/-- After a pass with any phases, the entries of a name are the entries of the name before, updated
with the phases of that name alone; the entries of names without a phase are what they were; and
phases of distinct nodes may come in any order, for the entries of every node and for the state of
the cluster. -/
theorem independent_reconcileWithPhases (r : Reconciler) (now : Timestamp)
    (previous : ClusterStatus) (phases : List (NodeSpec × NodeState)) :
    let after := (r.reconcileWithPhases now previous phases).value
    (∀ name, after.nodes.filter (isFor name) =
        (r.foldPhases (previous.nodes.filter (isFor name))
          (phases.filter (·.1.name = name))).value) ∧
      after.nodes.filter (fun entry => entry.name ∉ phases.map (·.1.name)) =
        previous.nodes.filter (fun entry => entry.name ∉ phases.map (·.1.name)) ∧
      ((phases.map (·.1.name)).Nodup → ∀ others, phases.Perm others →
        let permuted := (r.reconcileWithPhases now previous others).value
        (∀ name, permuted.nodes.filter (isFor name) = after.nodes.filter (isFor name)) ∧
          permuted.state = after.state) := by
  intro after
  refine ⟨filter_isFor_foldPhases, ?_, fun hnames others hperm => ?_⟩
  · apply filter_foldPhases_of_not (q := fun name => decide (name ∉ phases.map (·.1.name)))
    intro p hp
    have hmem : p.1.name ∈ phases.map (·.1.name) := List.mem_map_of_mem hp
    simpa using hmem
  · intro permuted
    have hentries : ∀ name, permuted.nodes.filter (isFor name) =
        after.nodes.filter (isFor name) := by
      intro name
      rw [nodes_reconcileWithPhases, nodes_reconcileWithPhases, filter_isFor_foldPhases,
        filter_isFor_foldPhases, filter_name_eq_of_perm hnames hperm]
    refine ⟨hentries, ?_⟩
    rw [state_reconcileWithPhases, state_reconcileWithPhases]
    exact NodeState.aggregate_perm ((perm_of_filter_isFor_eq hentries).map _)

/-- Passes over two nodes that both run. -/
def pair : Reconciler :=
  let platform := (Platform.addNode {} "racnode1").addNode "racnode2"
  Reconciler.on { name := "prod", topology := .cluster { nodeCount := 2, nodeName := "racnode" } }
    platform (Diagnostic.Scripts.mountedAt "/scripts" "python3")

/-- One of them is there and the other is not ready. -/
def pairPhases : List (NodeSpec × NodeState) :=
  pair.spec.nodes.zip [.podAvailable, .podNotReady]

def pairAfter (phases : List (NodeSpec × NodeState)) : ClusterStatus :=
  (pair.reconcileWithPhases (Timestamp.ofUnix 0 0) {} phases).value

theorem independent_reconcileWithPhases_pair :
    (pairPhases.map (·.1.name)).Nodup ∧ pairPhases.Perm pairPhases.reverse ∧
      (pairAfter pairPhases).nodes.map (·.name) = ["racnode1", "racnode2"] ∧
      (pairAfter pairPhases.reverse).nodes.map (·.name) = ["racnode2", "racnode1"] ∧
      (∀ name, (pairAfter pairPhases.reverse).nodes.filter (isFor name) =
        (pairAfter pairPhases).nodes.filter (isFor name)) ∧
      (pairAfter pairPhases.reverse).state = (pairAfter pairPhases).state := by
  have hnames : (pairPhases.map (·.1.name)).Nodup := by
    decide
  have hperm : pairPhases.Perm pairPhases.reverse := (List.reverse_perm pairPhases).symm
  obtain ⟨-, -, horder⟩ :=
    independent_reconcileWithPhases pair (Timestamp.ofUnix 0 0) {} pairPhases
  exact ⟨hnames, hperm, by decide, by decide, horder hnames pairPhases.reverse hperm⟩

end Reconciler

end ClusterWatch
