import ClusterWatch.Proofs.Lifecycle.Aggregate
import ClusterWatch.Proofs.Pass.Entries
import Mathlib.Logic.Function.Iterate

/-!
The stages that passes take a node through.

A pass moves a node between five stages only, whatever its diagnostics print. What the next stage is
follows from the open mode of its instance, its last stage and its state file.
-/

namespace ClusterWatch

namespace Console

variable {c : Console} {pod : String} {instanceState : InstanceState} {previous state : NodeState}

theorem value_stateFile_cases (c : Console) (pod : String) :
    (c.stateFile pod).value = .pending ∨
      ∃ contents, (c.probe pod Diagnostic.stateFile).value = some contents ∧
        (c.stateFile pod).value = NodeState.ofStateFile contents := by
  rw [stateFile]
  simp only [Journal.value_bind]
  cases (c.probe pod Diagnostic.stateFile).value with
  | none => exact Or.inl rfl
  | some contents => exact Or.inr ⟨contents, rfl, rfl⟩

theorem isStage_stateFile : (c.stateFile pod).value.isStage = true := by
  rcases value_stateFile_cases c pod with hpending | ⟨contents, -, hvalue⟩
  · rw [hpending]
    rfl
  · rw [hvalue]
    exact NodeState.isStage_ofStateFile contents

/-- The three ways to the next stage. -/
theorem value_nextState_cases (c : Console) (pod : String) (instanceState : InstanceState)
    (previous : NodeState) :
    (instanceState = .opened ∧ (c.nextState pod instanceState previous).value = .available) ∨
      (instanceState ≠ .opened ∧ previous.isInProgress = true ∧
        (c.nextState pod instanceState previous).value = (c.stateFile pod).value) ∨
      (instanceState ≠ .opened ∧ previous.isInProgress = false ∧
        (c.nextState pod instanceState previous).value = .pending) := by
  rw [nextState]
  split
  · next hopened => exact Or.inl ⟨hopened, rfl⟩
  · next hopened =>
      split
      · next hprogress => exact Or.inr (Or.inl ⟨hopened, hprogress, rfl⟩)
      · next hprogress =>
          exact Or.inr (Or.inr ⟨hopened, Bool.eq_false_iff.2 hprogress, rfl⟩)

theorem isStage_nextState : (c.nextState pod instanceState previous).value.isStage = true := by
  rcases value_nextState_cases c pod instanceState previous with
    ⟨-, hvalue⟩ | ⟨-, -, hvalue⟩ | ⟨-, -, hvalue⟩
  · rw [hvalue]
    rfl
  · rw [hvalue]
    exact isStage_stateFile
  · rw [hvalue]
    rfl

end Console

namespace Reconciler

/-- A pass over the platform probes a declared node of the name with a present pod. -/
def Probes (r : Reconciler) (node : NodeSpec) (name : String) : Prop :=
  node ∈ r.spec.nodes ∧ node.name = name ∧ r.probePhase node = .podAvailable

/-- A node's state file tells its state. -/
def StateFileTells (r : Reconciler) (node : NodeSpec) (state : NodeState) : Prop :=
  ∃ contents, (r.console.probe node.podName Diagnostic.stateFile).value = some contents ∧
    NodeState.ofStateFile contents = state

/-- The five phases that the platform's objects give a node. -/
theorem probePhase_cases (r : Reconciler) (node : NodeSpec) :
    r.probePhase node = .podAvailable ∨ r.probePhase node = .statefulSetNotFound ∨
      (r.probePhase node).isPodAbsent = true := by
  rw [probePhase]
  split
  · exact Or.inr (Or.inl rfl)
  · split
    · exact Or.inr (Or.inr rfl)
    · split
      · exact Or.inr (Or.inr rfl)
      · split
        · exact Or.inr (Or.inr rfl)
        · exact Or.inl rfl

/-- The state that a pass gives a declared node, from its state before: a new one is pending, an
absent pod keeps the state, a present one takes the next, and without a workload there is none. -/
def stageAfter (r : Reconciler) (node : NodeSpec) (before : Option NodeState) : Option NodeState :=
  if r.probePhase node = .podAvailable then
    match before with
    | some state =>
      some (r.console.nextState node.podName (r.console.instanceState node.podName).value
        state).value
    | none => some .pending
  else if r.probePhase node = .statefulSetNotFound then none
  else some (before.getD .pending)

variable {r : Reconciler} {node : NodeSpec}

/-- The state of an entry after its phase depends on no more than the state before. -/
theorem map_state_nextEntry (r : Reconciler) (node : NodeSpec) (before : Option NodeStatus) :
    (r.console.nextEntry node (r.probePhase node) before).map (·.state) =
      r.stageAfter node (before.map (·.state)) := by
  unfold stageAfter
  rcases r.probePhase_cases node with hphase | hphase | hphase
  · rw [if_pos hphase, hphase]
    cases before <;> rfl
  · rw [if_neg (by simp [hphase]), if_pos hphase, hphase]
    rfl
  · have hpresent : r.probePhase node ≠ .podAvailable := by
      intro h
      rw [h] at hphase
      cases hphase
    have hfound : r.probePhase node ≠ .statefulSetNotFound := by
      intro h
      rw [h] at hphase
      cases hphase
    rw [Console.nextEntry_of_isPodAbsent hphase, if_neg hpresent, if_neg hfound]
    cases before <;> rfl

/-- Where the state after a pass comes from. -/
theorem stageAfter_cases {before : Option NodeState} {state : NodeState}
    (h : r.stageAfter node before = some state) :
    (before = none ∧ state = .pending) ∨
      ∃ old, before = some old ∧
        (state = old ∨ r.probePhase node = .podAvailable ∧
          state = (r.console.nextState node.podName
            (r.console.instanceState node.podName).value old).value) := by
  unfold stageAfter at h
  split at h
  · next hphase =>
      cases before with
      | none => exact Or.inl ⟨rfl, (Option.some.inj h).symm⟩
      | some old => exact Or.inr ⟨old, rfl, Or.inr ⟨hphase, (Option.some.inj h).symm⟩⟩
  · split at h
    · cases h
    · cases before with
      | none => exact Or.inl ⟨rfl, (Option.some.inj h).symm⟩
      | some old => exact Or.inr ⟨old, rfl, Or.inl (Option.some.inj h).symm⟩

theorem probePhase_congr {other : NodeSpec} (hname : node.name = other.name) :
    r.probePhase node = r.probePhase other := by
  unfold probePhase NodeSpec.podName
  rw [hname]

theorem stageAfter_congr {other : NodeSpec} (hname : node.name = other.name) :
    r.stageAfter node = r.stageAfter other := by
  have hpod : node.podName = other.podName := congrArg podOf hname
  funext before
  unfold stageAfter
  rw [probePhase_congr hname, hpod]

/-- Phases of one name take the state of its entry through as many steps. -/
theorem map_state_foldl_nextEntry {phases : List (NodeSpec × NodeState)}
    (hphases : ∀ p ∈ phases, p.1.name = node.name ∧ p.2 = r.probePhase p.1)
    (before : Option NodeStatus) :
    (phases.foldl (fun before p => r.console.nextEntry p.1 p.2 before) before).map (·.state) =
      (r.stageAfter node)^[phases.length] (before.map (·.state)) := by
  induction phases generalizing before with
  | nil => rfl
  | cons p phases ih =>
      obtain ⟨hname, hphase⟩ := hphases p List.mem_cons_self
      rw [List.foldl_cons, ih fun p hp => hphases p (List.mem_cons_of_mem _ hp), hphase,
        map_state_nextEntry, stageAfter_congr hname]
      rfl

/-- A pass takes the state of a name through as many steps as there are declared nodes with it. -/
theorem map_state_foldPhases (r : Reconciler) (node : NodeSpec) (nodes : List NodeStatus) :
    ((r.foldPhases nodes r.probedPhases).value.find? (Console.isFor node.name)).map (·.state) =
      (r.stageAfter node)^[(r.spec.nodes.map (·.name)).count node.name]
        ((nodes.find? (Console.isFor node.name)).map (·.state)) := by
  have hcount : (r.probedPhases.filter (·.1.name = node.name)).length =
      (r.spec.nodes.map (·.name)).count node.name := by
    rw [probedPhases, List.filter_map, List.length_map, List.count, List.countP_map,
      List.countP_eq_length_filter]
    rfl
  rw [find?_foldPhases, map_state_foldl_nextEntry fun _ => of_mem_filter_probedPhases, hcount]

theorem stageAfter_eq_none_iff {before : Option NodeState} :
    r.stageAfter node before = none ↔ r.probePhase node = .statefulSetNotFound := by
  unfold stageAfter
  split
  · next hphase => cases before <;> simp [hphase]
  · split
    · next hmissing => simp [hmissing]
    · next hmissing => simp [hmissing]

/-- Where the state after any number of steps comes from: it was there before, is that of a new
node, or is the next of some state, and then the pod is present. -/
theorem iterate_stageAfter_cases {n : Nat} {before : Option NodeState} {state : NodeState}
    (h : (r.stageAfter node)^[n] before = some state) :
    before = some state ∨ (before = none ∧ state = .pending) ∨
      r.probePhase node = .podAvailable ∧ ∃ old, state =
        (r.console.nextState node.podName (r.console.instanceState node.podName).value
          old).value := by
  induction n generalizing state with
  | zero => exact Or.inl h
  | succ n ih =>
      rw [Function.iterate_succ_apply'] at h
      rcases stageAfter_cases h with ⟨hnone, hpending⟩ | ⟨old, hold, rfl | ⟨hphase, hnext⟩⟩
      · cases n with
        | zero => exact Or.inr (Or.inl ⟨hnone, hpending⟩)
        | succ n =>
            -- what was removed by a step is not brought back by the next
            rw [Function.iterate_succ_apply'] at hnone
            rw [stageAfter_eq_none_iff.2 (stageAfter_eq_none_iff.1 hnone)] at h
            cases h
      · exact ih hold
      · exact Or.inr (Or.inr ⟨hphase, old, hnext⟩)

theorem value_stateFile_of_tells {state : NodeState} (h : r.StateFileTells node state) :
    (r.console.stateFile node.podName).value = state := by
  obtain ⟨contents, hprint, htells⟩ := h
  rw [Console.stateFile]
  simp only [Journal.value_bind, hprint]
  exact htells

/-- A node whose state file does not tell that it is completed stays on its way. -/
theorem isInProgress_stateFile (h : ¬r.StateFileTells node .available) :
    (r.console.stateFile node.podName).value.isInProgress = true := by
  rcases Console.value_stateFile_cases r.console node.podName with
    hpending | ⟨contents, hprint, htells⟩
  · rw [hpending]
    rfl
  · have hstage := @Console.isStage_stateFile r.console node.podName
    have hne : (r.console.stateFile node.podName).value ≠ .available := by
      intro heq
      exact h ⟨contents, hprint, htells.symm.trans heq⟩
    generalize (r.console.stateFile node.podName).value = state at hstage hne
    cases state with
    | pending | provisioning | addNode | failed => rfl
    | available => exact absurd rfl hne
    | _ => cases hstage

theorem stageAfter_of_present (hphase : r.probePhase node = .podAvailable) (state : NodeState) :
    r.stageAfter node (some state) =
      some (r.console.nextState node.podName (r.console.instanceState node.podName).value
        state).value := by
  rw [stageAfter, if_pos hphase]

theorem stageAfter_none_of_present (hphase : r.probePhase node = .podAvailable) :
    r.stageAfter node none = some .pending := by
  rw [stageAfter, if_pos hphase]

theorem stageAfter_of_opened (hphase : r.probePhase node = .podAvailable)
    (hopened : (r.console.instanceState node.podName).value = .opened) (state : NodeState) :
    r.stageAfter node (some state) = some .available := by
  rw [stageAfter_of_present hphase, Console.nextState, if_pos hopened]
  rfl

theorem stageAfter_of_inProgress (hphase : r.probePhase node = .podAvailable)
    (hopened : (r.console.instanceState node.podName).value ≠ .opened) {state : NodeState}
    (hstate : state.isInProgress = true) :
    r.stageAfter node (some state) = some (r.console.stateFile node.podName).value := by
  rw [stageAfter_of_present hphase, Console.nextState, if_neg hopened, if_pos hstate]

theorem stageAfter_of_not_inProgress (hphase : r.probePhase node = .podAvailable)
    (hopened : (r.console.instanceState node.podName).value ≠ .opened) {state : NodeState}
    (hstate : state.isInProgress = false) :
    r.stageAfter node (some state) = some .pending := by
  rw [stageAfter_of_present hphase, Console.nextState, if_neg hopened, if_neg (by simp [hstate])]
  rfl

end Reconciler

end ClusterWatch
