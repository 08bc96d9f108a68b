import ClusterWatch.Proofs.Lifecycle.Aggregate

/-!
The state of a cluster as a question of which states occur.

Of the states that occur among the nodes the one of highest precedence decides, so neither their
order nor their number matters, and the state of a cluster follows from the states of its parts.
Main statement: `aggregate_by_precedence`.
-/

namespace ClusterWatch

namespace NodeState

variable {states others : List NodeState} {state : NodeState} {place : Nat}

/-- The states that decide, from the highest precedence down. -/
def precedence : List NodeState :=
  [failed, pending, provisioning, update, addNode, podAvailable]

/-- The first state in the order of precedence that occurs. -/
def highest? (states : List NodeState) : Option NodeState :=
  precedence.find? (· ∈ states)

/-- The rank of a state is its place in the order of precedence. -/
theorem getElem?_precedence : precedence[place]? = some state ↔ state.rank = some place := by
  constructor
  · intro h
    have hranks : ∀ place < 6, precedence[place]?.bind rank = some place := by
      decide
    obtain ⟨hplace, -⟩ := List.getElem?_eq_some_iff.1 h
    have hrank := hranks place hplace
    rwa [h, Option.bind_some] at hrank
  · intro h
    cases state <;> cases h <;> rfl

theorem foldl_decisive_of_unranked (h : ∀ state ∈ states, state.rank = none) :
    states.foldl decisive none = none := by
  induction states with
  | nil => rfl
  | cons first states ih =>
      obtain ⟨hfirst, hrest⟩ := List.forall_mem_cons.1 h
      rw [List.foldl_cons, decisive, hfirst]
      exact ih hrest

/-- The state that decides is the first in the order of precedence that occurs. -/
theorem foldl_decisive_eq_highest? (states : List NodeState) :
    states.foldl decisive none = highest? states := by
  cases hhighest : highest? states with
  | none =>
      apply foldl_decisive_of_unranked
      intro state hmem
      cases hrank : state.rank with
      | none => rfl
      | some place =>
          have hplace : state ∈ precedence :=
            List.mem_of_getElem? (getElem?_precedence.2 hrank)
          exact absurd (decide_eq_true hmem) (List.find?_eq_none.1 hhighest state hplace)
  | some state =>
      obtain ⟨hmem, place, hplace, hstate, hbefore⟩ := List.find?_eq_some_iff_getElem.1 hhighest
      have hrank : state.rank = some place :=
        getElem?_precedence.1 (List.getElem?_eq_some_iff.2 ⟨hplace, hstate⟩)
      apply foldl_decisive_of_least hrank (Or.inr ⟨of_decide_eq_true hmem, by simp⟩)
      intro other hother hne later hlater
      rcases Nat.lt_trichotomy place later with hlt | heq | hgt
      · exact hlt
      · exact absurd (rank_inj hlater (heq ▸ hrank)) hne
      · obtain ⟨hin, hget⟩ := List.getElem?_eq_some_iff.1 (getElem?_precedence.2 hlater)
        have hnot := hbefore later hgt
        rw [hget] at hnot
        simp [hother] at hnot

theorem aggregate_eq_highest? (hne : states ≠ []) :
    aggregate states = (highest? states).getD available := by
  rw [aggregate, if_neg (by simp [hne]), foldl_decisive_eq_highest?]

theorem aggregate_congr (h : ∀ state, state ∈ states ↔ state ∈ others) :
    aggregate states = aggregate others := by
  have hhighest : highest? states = highest? others := by
    simp only [highest?, h]
  cases states with
  | nil =>
      have hnone : others = [] :=
        List.eq_nil_iff_forall_not_mem.2 fun state hmem => List.not_mem_nil ((h state).2 hmem)
      rw [hnone]
  | cons first rest =>
      have hsome : others ≠ [] := List.ne_nil_of_mem ((h first).1 List.mem_cons_self)
      rw [aggregate_eq_highest? (List.cons_ne_nil _ _), aggregate_eq_highest? hsome, hhighest]

/-- A cluster's state, as the state of one node, decides what the cluster's nodes decide. -/
theorem decisive_aggregate (hne : states ≠ []) :
    decisive none (aggregate states) = states.foldl decisive none := by
  rw [aggregate_eq_highest? hne, foldl_decisive_eq_highest?]
  cases hhighest : highest? states with
  | none => rfl
  | some state =>
      have hdecides : ∀ state ∈ precedence, decisive none state = some state := by
        decide
      exact hdecides state (List.mem_of_find?_eq_some hhighest)

/-- A part of a cluster may be replaced by one node in the state of the part. -/
theorem aggregate_cons_aggregate (hne : states ≠ []) (others : List NodeState) :
    aggregate (aggregate states :: others) = aggregate (states ++ others) := by
  have hhighest : highest? (aggregate states :: others) = highest? (states ++ others) := by
    rw [← foldl_decisive_eq_highest?, ← foldl_decisive_eq_highest?, List.foldl_cons,
      decisive_aggregate hne, List.foldl_append]
  rw [aggregate_eq_highest? (List.cons_ne_nil _ _),
    aggregate_eq_highest? (List.append_ne_nil_of_left_ne_nil hne others), hhighest]

theorem aggregate_append (hne : states ≠ []) (hothers : others ≠ []) :
    aggregate (states ++ others) = aggregate [aggregate states, aggregate others] :=
  calc
    aggregate (states ++ others)
        = aggregate (aggregate states :: others) := (aggregate_cons_aggregate hne others).symm
    _ = aggregate (others ++ [aggregate states]) :=
        aggregate_perm (List.perm_append_singleton _ _).symm
    _ = aggregate [aggregate others, aggregate states] :=
        (aggregate_cons_aggregate hothers _).symm
    _ = aggregate [aggregate states, aggregate others] := aggregate_perm (List.Perm.swap _ _ _)

/-- The state of a cluster is a question of which states occur among its nodes. It follows from the
states of its parts, and is the state of highest precedence that occurs, or available if none of
these does. -/
theorem aggregate_by_precedence (states others : List NodeState) :
    ((∀ state, state ∈ states ↔ state ∈ others) → aggregate states = aggregate others) ∧
      (states ≠ [] → others ≠ [] →
        aggregate (states ++ others) = aggregate [aggregate states, aggregate others]) ∧
      (states ≠ [] → aggregate states = (precedence.find? (· ∈ states)).getD available) :=
  ⟨aggregate_congr, aggregate_append, aggregate_eq_highest?⟩

theorem aggregate_by_precedence_unranked :
    let states := [podNotFound, addNode, podNotFound]
    let others := [statefulSetNotFound, available]
    aggregate states = aggregate [addNode, podNotFound] ∧ aggregate states = addNode ∧
      aggregate others = available ∧
      aggregate (states ++ others) = aggregate [aggregate states, aggregate others] := by
  intro states others
  obtain ⟨-, happend, hstates⟩ := aggregate_by_precedence states others
  obtain ⟨hsame, -, -⟩ := aggregate_by_precedence states [addNode, podNotFound]
  obtain ⟨-, -, hothers⟩ := aggregate_by_precedence others []
  refine ⟨hsame ?_, hstates (List.cons_ne_nil _ _), hothers (List.cons_ne_nil _ _),
    happend (List.cons_ne_nil _ _) (List.cons_ne_nil _ _)⟩
  intro state
  cases state <;> decide

end NodeState

end ClusterWatch
