import ClusterWatch.Proofs.Pass.Stages
import Mathlib.Logic.Function.Iterate

/-!
Nodes that further passes over one platform find at rest.

A node's next state depends on its state and on what the platform answers, so passes over a platform
that stays as it is iterate one function. Two steps bring a node to rest, with one exception: a node
whose state file tells that it is completed and whose instance is not open is taken for available,
then for one that has to start over, and so on.
-/

namespace ClusterWatch.Reconciler

/-- No pass brings the node to rest: its instance is not open, and its state file tells that it is
completed. -/
structure Flaps (r : Reconciler) (node : NodeSpec) : Prop where
  present : r.probePhase node = .podAvailable
  notOpened : (r.console.instanceState node.podName).value ≠ .opened
  completed : r.StateFileTells node .available

/-- The state of a node, or that it has none, after which passes find nothing new. -/
structure Rests (r : Reconciler) (node : NodeSpec) (state : Option NodeState) : Prop where
  turning : r.Flaps node → state = some .pending ∨ state = some .available
  fixed : ¬r.Flaps node → r.stageAfter node state = state

variable {r : Reconciler} {node : NodeSpec}

theorem Flaps.stageAfter_pending (hflaps : r.Flaps node) :
    r.stageAfter node (some .pending) = some .available := by
  rw [stageAfter_of_inProgress hflaps.present hflaps.notOpened rfl,
    value_stateFile_of_tells hflaps.completed]

theorem Flaps.stageAfter_available (hflaps : r.Flaps node) :
    r.stageAfter node (some .available) = some .pending :=
  stageAfter_of_not_inProgress hflaps.present hflaps.notOpened rfl

/-- The state after a pass, of any node that flaps. -/
theorem Flaps.stageAfter_cases (hflaps : r.Flaps node) (before : Option NodeState) :
    r.stageAfter node before = some .pending ∨ r.stageAfter node before = some .available := by
  cases before with
  | none => exact Or.inl (stageAfter_none_of_present hflaps.present)
  | some state =>
      cases hstate : state.isInProgress with
      | true =>
          rw [stageAfter_of_inProgress hflaps.present hflaps.notOpened hstate,
            value_stateFile_of_tells hflaps.completed]
          exact Or.inr rfl
      | false =>
          exact Or.inl (stageAfter_of_not_inProgress hflaps.present hflaps.notOpened hstate)

/-- Two steps bring a node that does not flap to rest. -/
theorem stageAfter_fixed (hflaps : ¬r.Flaps node) (before : Option NodeState) :
    r.stageAfter node (r.stageAfter node (r.stageAfter node before)) =
      r.stageAfter node (r.stageAfter node before) := by
  by_cases hphase : r.probePhase node = .podAvailable
  · by_cases hopened : (r.console.instanceState node.podName).value = .opened
    · cases before with
      | none =>
          rw [stageAfter_none_of_present hphase, stageAfter_of_opened hphase hopened,
            stageAfter_of_opened hphase hopened]
      | some state => simp only [stageAfter_of_opened hphase hopened]
    · have hfile : (r.console.stateFile node.podName).value.isInProgress = true :=
        isInProgress_stateFile fun htells => hflaps ⟨hphase, hopened, htells⟩
      -- From a stage on the way, the state file has the last word.
      have hway : ∀ state : NodeState, state.isInProgress = true →
          r.stageAfter node (some state) = some (r.console.stateFile node.podName).value :=
        fun _ hstate => stageAfter_of_inProgress hphase hopened hstate
      cases before with
      | none => rw [stageAfter_none_of_present hphase, hway _ rfl, hway _ hfile]
      | some state =>
          cases hstate : state.isInProgress with
          | true => rw [hway _ hstate, hway _ hfile, hway _ hfile]
          | false =>
              rw [stageAfter_of_not_inProgress hphase hopened hstate, hway _ rfl, hway _ hfile]
  · simp only [stageAfter, if_neg hphase]
    split <;> rfl

theorem rests_stageAfter_stageAfter (before : Option NodeState) :
    r.Rests node (r.stageAfter node (r.stageAfter node before)) := by
  constructor
  · intro hflaps
    exact hflaps.stageAfter_cases _
  · intro hflaps
    exact stageAfter_fixed hflaps before

namespace Rests

variable {state : Option NodeState}

theorem stageAfter (h : r.Rests node state) : r.Rests node (r.stageAfter node state) := by
  constructor
  · intro hflaps
    exact hflaps.stageAfter_cases state
  · intro hflaps
    rw [h.fixed hflaps, h.fixed hflaps]

theorem iterate (h : r.Rests node state) (n : Nat) :
    r.Rests node ((r.stageAfter node)^[n] state) := by
  induction n generalizing state with
  | zero => exact h
  | succ n ih => exact ih h.stageAfter

theorem isSome_stageAfter (h : r.Rests node state) :
    (r.stageAfter node state).isSome = state.isSome := by
  by_cases hflaps : r.Flaps node
  · rcases hflaps.stageAfter_cases state with hnext | hnext <;>
      rcases h.turning hflaps with hstate | hstate <;>
      rw [hnext, hstate] <;> rfl
  · rw [h.fixed hflaps]

end Rests

end ClusterWatch.Reconciler
