import ClusterWatch.Lifecycle

/-!
The state of a cluster from the states of its nodes.

The state of lowest rank decides, so a failed node makes the cluster failed, and without one a
pending node makes it pending. Five of the states are stages on the way of a node, and a cluster of
nodes in these is in one of them.
-/

namespace ClusterWatch

namespace NodeState

/-- A stage on the way of a node, or its end. -/
def isStage : NodeState → Bool
  | pending | provisioning | addNode | failed | available => true
  | _ => false

/-- A stage that only a node's own state file tells of. -/
def isToldStage : NodeState → Bool
  | provisioning | addNode | failed => true
  | _ => false

theorem isStage_ofStateFile (contents : String) : (ofStateFile contents).isStage = true := by
  rw [ofStateFile]
  split <;> rfl

theorem decisive_cases (best : Option NodeState) (state : NodeState) :
    decisive best state = best ∨ decisive best state = some state := by
  rw [decisive]
  split
  · exact Or.inl rfl
  · exact Or.inr rfl
  · split
    · exact Or.inr rfl
    · exact Or.inl rfl

theorem mem_of_foldl_decisive {states : List NodeState} {best : Option NodeState}
    {state : NodeState} (h : states.foldl decisive best = some state) :
    best = some state ∨ state ∈ states := by
  induction states generalizing best with
  | nil => exact Or.inl h
  | cons first states ih =>
      rcases ih h with hbest | hmem
      · rcases decisive_cases best first with hold | hnew
        · exact Or.inl (hold ▸ hbest)
        · rw [hnew] at hbest
          exact Or.inr (Option.some.inj hbest ▸ List.mem_cons_self)
      · exact Or.inr (List.mem_cons_of_mem first hmem)

/-- The state of a cluster is that of one of its nodes, if it is not pending or available. -/
theorem aggregate_cases (states : List NodeState) :
    aggregate states = pending ∨ aggregate states = available ∨ aggregate states ∈ states := by
  rw [aggregate]
  split
  · exact Or.inl rfl
  · cases hdecisive : states.foldl decisive none with
    | none => exact Or.inr (Or.inl rfl)
    | some state =>
        rcases mem_of_foldl_decisive hdecisive with hnone | hmem
        · cases hnone
        · exact Or.inr (Or.inr hmem)

/-- A state that all other states come after, by their ranks, decides. -/
theorem foldl_decisive_of_least {states : List NodeState} {best : Option NodeState}
    {state : NodeState} {place : Nat} (hplace : state.rank = some place)
    (hbest : best = some state ∨
      state ∈ states ∧ ∀ other ∈ best, ∀ later, other.rank = some later → place < later)
    (hstates : ∀ other ∈ states, other ≠ state → ∀ later, other.rank = some later →
      place < later) :
    states.foldl decisive best = some state := by
  induction states generalizing best with
  | nil =>
      rcases hbest with rfl | ⟨hmem, -⟩
      · rfl
      · cases hmem
  | cons first states ih =>
      have hrest : ∀ other ∈ states, other ≠ state → ∀ later, other.rank = some later →
          place < later := fun other hother => hstates other (List.mem_cons_of_mem _ hother)
      have hfirst := hstates first List.mem_cons_self
      rw [List.foldl_cons]
      rcases hbest with rfl | ⟨hmem, hlater⟩
      · have hkept : decisive (some state) first = some state := by
          by_cases heq : first = state
          · simp [decisive, heq, hplace]
          · cases hrank : first.rank with
            | none => simp [decisive, hrank]
            | some later =>
                have hlt := hfirst heq later hrank
                simp [decisive, hplace, hrank, Nat.lt_asymm hlt]
        rw [hkept]
        exact ih (Or.inl rfl) hrest
      · by_cases heq : first = state
        · have htaken : decisive best state = some state := by
            cases hrank : best.bind rank with
            | none => simp [decisive, hrank, hplace]
            | some later =>
                obtain ⟨other, hother, hlast⟩ := Option.bind_eq_some_iff.1 hrank
                simp [decisive, hrank, hplace, hlater other hother later hlast]
          rw [heq, htaken]
          exact ih (Or.inl rfl) hrest
        · refine ih (Or.inr ⟨?_, ?_⟩) hrest
          · exact (List.mem_cons.1 hmem).resolve_left (Ne.symm heq)
          · intro other hother
            rcases decisive_cases best first with hold | hnew
            · exact hlater other (hold ▸ hother)
            · rw [hnew] at hother
              exact Option.some.inj hother ▸ hfirst heq

/-- A state that all other states come after is that of the cluster. -/
theorem aggregate_of_least {states : List NodeState} {state : NodeState} {place : Nat}
    (hmem : state ∈ states) (hplace : state.rank = some place)
    (hstates : ∀ other ∈ states, other ≠ state → ∀ later, other.rank = some later →
      place < later) :
    aggregate states = state := by
  have hdecisive : states.foldl decisive none = some state :=
    foldl_decisive_of_least hplace (Or.inr ⟨hmem, by simp⟩) hstates
  rw [aggregate, if_neg (by simp [List.ne_nil_of_mem hmem]), hdecisive]
  rfl

theorem aggregate_of_failed_mem {states : List NodeState} (h : failed ∈ states) :
    aggregate states = failed := by
  apply aggregate_of_least h rfl
  intro other _ hne later hlater
  cases other <;> cases hlater <;> first | exact absurd rfl hne | decide

theorem aggregate_of_pending_mem {states : List NodeState} (h : pending ∈ states)
    (hfailed : failed ∉ states) : aggregate states = pending := by
  apply aggregate_of_least h rfl
  intro other hother hne later hlater
  have hnot : other ≠ failed := fun heq => hfailed (heq ▸ hother)
  cases other <;> cases hlater <;> first | exact absurd rfl hne | exact absurd rfl hnot | decide

/-- A cluster of some nodes is pending only if one of them is. -/
theorem pending_mem_of_aggregate {states : List NodeState} (hne : states ≠ [])
    (h : aggregate states = pending) : pending ∈ states := by
  rw [aggregate, if_neg (by simp [hne])] at h
  cases hdecisive : states.foldl decisive none with
  | none =>
      rw [hdecisive] at h
      cases h
  | some state =>
      rw [hdecisive] at h
      rcases mem_of_foldl_decisive hdecisive with hnone | hmem
      · cases hnone
      · exact h ▸ hmem

theorem rank_inj {state other : NodeState} {place : Nat} (h : state.rank = some place)
    (hother : other.rank = some place) : state = other := by
  cases state <;> cases h <;> cases other <;> first | rfl | cases hother

/-- Which of two states decides does not depend on the one that is looked at first. -/
theorem decisive_right_comm (best : Option NodeState) (state other : NodeState) :
    decisive (decisive best state) other = decisive (decisive best other) state := by
  cases hstate : state.rank with
  | none => simp only [decisive, hstate]
  | some place =>
      cases hother : other.rank with
      | none => simp only [decisive, hother]
      | some later =>
          have hchoice : (if later < place then some other else some state) =
              if place < later then some state else some other := by
            rcases Nat.lt_trichotomy place later with hlt | heq | hlt
            · rw [if_neg (Nat.lt_asymm hlt), if_pos hlt]
            · rw [rank_inj hstate (heq ▸ hother), if_neg (by omega), if_neg (by omega)]
            · rw [if_pos hlt, if_neg (Nat.lt_asymm hlt)]
          cases hbest : best.bind rank with
          | none => simpa only [decisive, hbest, hstate, hother, Option.bind_some] using hchoice
          | some first =>
              simp only [decisive, hbest, hstate, hother]
              by_cases hplace : place < first <;> by_cases hlater : later < first <;>
                simp only [hplace, hlater, ↓reduceIte, hbest, hstate, hother, Option.bind_some]
              · exact hchoice
              · rw [if_neg (by omega)]
              · rw [if_neg (by omega)]

theorem aggregate_perm {states others : List NodeState} (h : states.Perm others) :
    aggregate states = aggregate others := by
  have hfold : states.foldl decisive none = others.foldl decisive none :=
    h.foldl_eq' (fun state _ other _ best => decisive_right_comm best state other) none
  rw [aggregate, aggregate, hfold, h.isEmpty_eq]

theorem isStage_aggregate {states : List NodeState} (h : ∀ state ∈ states, state.isStage = true) :
    (aggregate states).isStage = true := by
  rcases aggregate_cases states with hpending | havailable | hmem
  · rw [hpending]
    rfl
  · rw [havailable]
    rfl
  · exact h _ hmem

end NodeState

end ClusterWatch
