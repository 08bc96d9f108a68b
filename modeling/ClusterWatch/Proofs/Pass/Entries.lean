import ClusterWatch.Pass.Reconcile

/-!
The entry of one node through a pass.

An update changes the first entry of its own node and no entry of another, so what a pass does can
be followed node by node: `nextEntry` is what one phase makes of a node's entry, and the entry after
a pass is the entry before taken through the phases of that node alone.
-/

namespace ClusterWatch

namespace Console

variable {c : Console} {nodes : List NodeStatus} {node : NodeSpec} {phase : NodeState}
  {name : String} {entry : NodeStatus} {before : Option NodeStatus}

theorem isFor_iff : isFor name entry = true ↔ entry.name = name := by
  simp [isFor]

theorem name_of_find? (h : nodes.find? (isFor name) = some entry) : entry.name = name :=
  isFor_iff.1 (List.find?_some h)

/-- Among entries with distinct names, an entry is the first of its name. -/
theorem find?_isFor_of_mem (hnames : (nodes.map (·.name)).Nodup) (h : entry ∈ nodes) :
    nodes.find? (isFor entry.name) = some entry := by
  induction nodes with
  | nil => cases h
  | cons first nodes ih =>
      rw [List.map_cons, List.nodup_cons] at hnames
      rcases List.mem_cons.1 h with rfl | h
      · rw [List.find?_cons_of_pos (isFor_iff.2 rfl)]
      · have hne : ¬isFor entry.name first = true := by
          rw [isFor_iff]
          exact fun heq => hnames.1 (heq ▸ List.mem_map_of_mem h)
        rw [List.find?_cons_of_neg hne]
        exact ih hnames.2 h

/-- The entry of a node with a present pod, from its entry before. -/
def presentEntry (c : Console) (node : NodeSpec) (phase : NodeState) (vitals : Vitals) :
    Option NodeStatus → NodeStatus
  | some entry =>
    { c.observe node phase vitals with
      state := (c.nextState node.podName vitals.instanceState entry.state).value }
  | none => c.observe node phase vitals

/-- The entry of a node after a phase, from its entry before. -/
def nextEntry (c : Console) (node : NodeSpec) (phase : NodeState) (before : Option NodeStatus) :
    Option NodeStatus :=
  let vitals := (c.vitals node.podName).value
  match phase with
  | .available | .podAvailable => some (c.presentEntry node phase vitals before)
  | .failed =>
    if vitals.areGood then some (c.presentEntry node .available vitals before) else before
  | .statefulSetNotFound => none
  | .podNotFound | .podNotReady | .podFailure =>
    some (c.absentEntry node phase (before.getD { name := node.name }))
  | _ => before

theorem nextEntry_of_isPodAbsent (hphase : phase.isPodAbsent = true) :
    c.nextEntry node phase before =
      some (c.absentEntry node phase (before.getD { name := node.name })) := by
  cases phase with
  | podNotFound | podNotReady | podFailure => rfl
  | _ => cases hphase

theorem name_presentEntry (vitals : Vitals) (before : Option NodeStatus) :
    (c.presentEntry node phase vitals before).name = node.name := by
  cases before <;> rfl

/-- The entries with the first of a name made from what it was, or with a new one at the end. -/
def placeEntry (name : String) (make : Option NodeStatus → NodeStatus) (nodes : List NodeStatus) :
    List NodeStatus :=
  if nodes.any (isFor name) then modifyFirst (isFor name) (fun entry => make (some entry)) nodes
  else nodes ++ [make none]

/-- What is made of an entry of a name, or of none, is an entry of the name. -/
def MakesNamed (name : String) (make : Option NodeStatus → NodeStatus) : Prop :=
  ∀ before : Option NodeStatus, (∀ entry ∈ before, entry.name = name) → (make before).name = name

section placeEntry

variable {make : Option NodeStatus → NodeStatus}

theorem MakesNamed.name_none (hmake : MakesNamed name make) : (make none).name = name :=
  hmake none (by simp)

theorem MakesNamed.name_some (hmake : MakesNamed name make) (h : isFor name entry = true) :
    (make (some entry)).name = name := by
  apply hmake
  intro e he
  rw [← Option.some.inj he]
  exact isFor_iff.1 h

theorem not_isFor_of_any_eq_false (h : nodes.any (isFor name) = false) :
    ∀ entry ∈ nodes, isFor name entry = false := by
  intro entry hentry
  simpa using List.any_eq_false.1 h entry hentry

theorem find?_eq_none_of_any_eq_false (h : nodes.any (isFor name) = false) :
    nodes.find? (isFor name) = none := by
  rw [List.find?_eq_none]
  intro entry hentry
  simp [not_isFor_of_any_eq_false h entry hentry]

theorem find?_eq_some_of_any (h : nodes.any (isFor name) = true) :
    ∃ entry, nodes.find? (isFor name) = some entry := by
  obtain ⟨entry, hentry, hname⟩ := List.any_eq_true.1 h
  exact Option.isSome_iff_exists.1 (List.find?_isSome.2 ⟨entry, hentry, hname⟩)

theorem find?_placeEntry_self (hmake : MakesNamed name make) :
    (placeEntry name make nodes).find? (isFor name) =
      some (make (nodes.find? (isFor name))) := by
  rw [placeEntry]
  cases hany : nodes.any (isFor name) with
  | true =>
      obtain ⟨entry, hentry⟩ := find?_eq_some_of_any hany
      rw [if_pos rfl, find?_modifyFirst_self fun a ha => isFor_iff.2 (hmake.name_some ha), hentry]
      rfl
  | false =>
      have hnone := find?_eq_none_of_any_eq_false hany
      rw [if_neg Bool.false_ne_true, List.find?_append, hnone]
      simp [isFor_iff.2 hmake.name_none]

theorem find?_placeEntry_of_ne (hmake : MakesNamed name make) {other : String}
    (hne : other ≠ name) :
    (placeEntry name make nodes).find? (isFor other) = nodes.find? (isFor other) := by
  rw [placeEntry]
  split
  · apply find?_modifyFirst_of_not
    intro entry hentry
    simp [isFor, isFor_iff.1 hentry, hmake.name_some hentry, hne.symm]
  · rw [List.find?_append]
    simp [isFor, hmake.name_none, hne.symm]

theorem mem_placeEntry (h : entry ∈ placeEntry name make nodes) :
    entry ∈ nodes ∨ entry = make (nodes.find? (isFor name)) := by
  rw [placeEntry] at h
  cases hany : nodes.any (isFor name) with
  | true =>
      rw [hany, if_pos rfl] at h
      obtain ⟨first, hfirst⟩ := find?_eq_some_of_any hany
      rcases mem_modifyFirst h with h | h
      · exact Or.inl h
      · rw [hfirst] at h ⊢
        exact Or.inr (Option.some.inj h).symm
  | false =>
      rw [hany, if_neg Bool.false_ne_true] at h
      rw [find?_eq_none_of_any_eq_false hany]
      rcases List.mem_append.1 h with h | h
      · exact Or.inl h
      · exact Or.inr (List.mem_singleton.1 h)

/-- Placing an entry adds its name at the end, unless the name was there. -/
theorem map_name_placeEntry (hmake : MakesNamed name make) :
    (placeEntry name make nodes).map (·.name) =
      if nodes.any (isFor name) then nodes.map (·.name) else nodes.map (·.name) ++ [name] := by
  rw [placeEntry]
  split
  · apply map_modifyFirst
    intro entry hentry
    rw [hmake.name_some hentry, isFor_iff.1 hentry]
  · simp [hmake.name_none]

end placeEntry

theorem value_updatePresent (vitals : Vitals) :
    (c.updatePresent nodes node phase vitals).value =
      placeEntry node.name (c.presentEntry node phase vitals) nodes := by
  rw [updatePresent, placeEntry]
  cases hany : nodes.any (isFor node.name) with
  | true =>
      obtain ⟨entry, hentry⟩ := find?_eq_some_of_any hany
      rw [hentry]
      exact modifyFirst_congr (by rw [hentry]; rfl)
  | false =>
      rw [find?_eq_none_of_any_eq_false hany]
      rfl

theorem value_updateAbsent :
    (c.updateAbsent nodes node phase).value =
      placeEntry node.name
        (fun before => c.absentEntry node phase (before.getD { name := node.name })) nodes := by
  rw [updateAbsent, placeEntry]
  cases hany : nodes.any (isFor node.name) with
  | true => rfl
  | false =>
      simp only [see_bind, Journal.value_bind, Journal.value_pure, Bool.false_eq_true, ↓reduceIte]
      rw [modifyFirst_append_of_all_not (not_isFor_of_any_eq_false hany)]
      simp [modifyFirst, isFor]

/-- An update places its node's entry, removes the entries of the node, or changes nothing; which of
these does not depend on the entries. -/
theorem updateNode_ways (c : Console) (node : NodeSpec) (phase : NodeState) :
    (∃ make, MakesNamed node.name make ∧
        (∀ before, c.nextEntry node phase before = some (make before)) ∧
        ∀ nodes, (c.updateNode nodes node phase).value = placeEntry node.name make nodes) ∨
      ((∀ before, c.nextEntry node phase before = none) ∧
        ∀ nodes, (c.updateNode nodes node phase).value =
          nodes.filter fun entry => !isFor node.name entry) ∨
      ((∀ before, c.nextEntry node phase before = before) ∧
        ∀ nodes, (c.updateNode nodes node phase).value = nodes) := by
  have hpresent : ∀ phase vitals, MakesNamed node.name (c.presentEntry node phase vitals) :=
    fun _ vitals before _ => name_presentEntry vitals before
  have habsent : MakesNamed node.name
      (fun before => c.absentEntry node phase (before.getD { name := node.name })) := by
    intro before hbefore
    cases before with
    | some entry => exact hbefore entry rfl
    | none => rfl
  cases phase with
  | available | podAvailable =>
      exact Or.inl ⟨_, hpresent _ _, fun _ => rfl, fun _ => value_updatePresent _⟩
  | failed =>
      cases hgood : (c.vitals node.podName).value.areGood with
      | true =>
          refine Or.inl ⟨_, hpresent .available (c.vitals node.podName).value, ?_, ?_⟩
          · intro before
            simp [nextEntry, hgood]
          · intro nodes
            simp [updateNode, hgood, value_updatePresent]
      | false =>
          refine Or.inr (Or.inr ⟨?_, ?_⟩)
          · intro before
            simp [nextEntry, hgood]
          · intro nodes
            simp [updateNode, hgood]
  | statefulSetNotFound => exact Or.inr (Or.inl ⟨fun _ => rfl, fun _ => rfl⟩)
  | podNotFound | podNotReady | podFailure =>
      exact Or.inl ⟨_, habsent, fun _ => rfl, fun _ => value_updateAbsent⟩
  | pending | provisioning | addNode | update =>
      exact Or.inr (Or.inr ⟨fun _ => rfl, fun _ => rfl⟩)

/-- The same of an update of given entries. -/
theorem updateNode_cases (c : Console) (nodes : List NodeStatus) (node : NodeSpec)
    (phase : NodeState) :
    (∃ make, MakesNamed node.name make ∧
        (∀ before, c.nextEntry node phase before = some (make before)) ∧
        (c.updateNode nodes node phase).value = placeEntry node.name make nodes) ∨
      ((∀ before, c.nextEntry node phase before = none) ∧
        (c.updateNode nodes node phase).value =
          nodes.filter fun entry => !isFor node.name entry) ∨
      ((∀ before, c.nextEntry node phase before = before) ∧
        (c.updateNode nodes node phase).value = nodes) := by
  rcases updateNode_ways c node phase with
    ⟨make, hmake, hnext, hvalue⟩ | ⟨hnext, hvalue⟩ | ⟨hnext, hvalue⟩
  · exact Or.inl ⟨make, hmake, hnext, hvalue nodes⟩
  · exact Or.inr (Or.inl ⟨hnext, hvalue nodes⟩)
  · exact Or.inr (Or.inr ⟨hnext, hvalue nodes⟩)

theorem find?_updateNode_self :
    (c.updateNode nodes node phase).value.find? (isFor node.name) =
      c.nextEntry node phase (nodes.find? (isFor node.name)) := by
  rcases updateNode_cases c nodes node phase with
    ⟨make, hmake, hnext, hvalue⟩ | ⟨hnext, hvalue⟩ | ⟨hnext, hvalue⟩
  · rw [hvalue, hnext, find?_placeEntry_self hmake]
  · rw [hvalue, hnext, List.find?_eq_none]
    intro entry hentry
    simpa using (List.mem_filter.1 hentry).2
  · rw [hvalue, hnext]

theorem find?_updateNode_of_ne (hne : name ≠ node.name) :
    (c.updateNode nodes node phase).value.find? (isFor name) = nodes.find? (isFor name) := by
  rcases updateNode_cases c nodes node phase with
    ⟨make, hmake, -, hvalue⟩ | ⟨-, hvalue⟩ | ⟨-, hvalue⟩
  · rw [hvalue, find?_placeEntry_of_ne hmake hne]
  · rw [hvalue, List.find?_filter]
    congr 1
    funext entry
    by_cases hname : entry.name = name
    · simp [isFor, hname, hne]
    · simp [isFor, hname]
  · rw [hvalue]

theorem mem_updateNode (h : entry ∈ (c.updateNode nodes node phase).value) :
    entry ∈ nodes ∨ c.nextEntry node phase (nodes.find? (isFor node.name)) = some entry := by
  rcases updateNode_cases c nodes node phase with
    ⟨make, -, hnext, hvalue⟩ | ⟨-, hvalue⟩ | ⟨-, hvalue⟩
  · rw [hvalue] at h
    rcases mem_placeEntry h with h | rfl
    · exact Or.inl h
    · exact Or.inr (hnext _)
  · rw [hvalue] at h
    exact Or.inl (List.mem_filter.1 h).1
  · rw [hvalue] at h
    exact Or.inl h

theorem nodup_updateNode (h : (nodes.map (·.name)).Nodup) :
    ((c.updateNode nodes node phase).value.map (·.name)).Nodup := by
  rcases updateNode_cases c nodes node phase with
    ⟨make, hmake, -, hvalue⟩ | ⟨-, hvalue⟩ | ⟨-, hvalue⟩
  · rw [hvalue, map_name_placeEntry hmake]
    split
    · exact h
    · next hany =>
        have hnew : node.name ∉ nodes.map (·.name) := by
          intro hmem
          obtain ⟨entry, hentry, hname⟩ := List.mem_map.1 hmem
          exact hany (List.any_eq_true.2 ⟨entry, hentry, isFor_iff.2 hname⟩)
        rw [List.nodup_append]
        refine ⟨h, by simp, ?_⟩
        rintro other hother _ hname rfl
        exact hnew (List.mem_singleton.1 hname ▸ hother)
  · rw [hvalue]
    exact h.sublist (List.filter_sublist.map _)
  · rwa [hvalue]

end Console

namespace Reconciler

open Console

variable {r : Reconciler} {nodes : List NodeStatus} {phases : List (NodeSpec × NodeState)}
  {name : String}

theorem value_foldPhases :
    (r.foldPhases nodes phases).value =
      phases.foldl (fun nodes p => (r.console.updateNode nodes p.1 p.2).value) nodes := by
  rw [foldPhases, Journal.value_foldlM]

theorem value_foldPhases_cons (node : NodeSpec) (phase : NodeState) :
    (r.foldPhases nodes ((node, phase) :: phases)).value =
      (r.foldPhases (r.console.updateNode nodes node phase).value phases).value := by
  simp only [value_foldPhases, List.foldl_cons]

/-- The entry of a name after all phases is its entry before, taken through the phases of the nodes
of that name. -/
theorem find?_foldPhases :
    (r.foldPhases nodes phases).value.find? (isFor name) =
      (phases.filter (·.1.name = name)).foldl
        (fun before p => r.console.nextEntry p.1 p.2 before) (nodes.find? (isFor name)) := by
  induction phases generalizing nodes with
  | nil => rfl
  | cons p phases ih =>
      obtain ⟨node, phase⟩ := p
      rw [value_foldPhases_cons, ih]
      by_cases hname : node.name = name
      · subst hname
        rw [find?_updateNode_self, List.filter_cons_of_pos (by simp), List.foldl_cons]
      · rw [find?_updateNode_of_ne (Ne.symm hname), List.filter_cons_of_neg (by simpa using hname)]

/-- What every phase keeps of an entry, all entries keep. -/
theorem forall_mem_foldPhases {P : NodeStatus → Prop} (hnodes : ∀ entry ∈ nodes, P entry)
    (hnext : ∀ p ∈ phases, ∀ before : Option NodeStatus, (∀ entry ∈ before, P entry) →
      ∀ entry ∈ r.console.nextEntry p.1 p.2 before, P entry) :
    ∀ entry ∈ (r.foldPhases nodes phases).value, P entry := by
  induction phases generalizing nodes with
  | nil => exact hnodes
  | cons p phases ih =>
      obtain ⟨node, phase⟩ := p
      rw [value_foldPhases_cons]
      apply ih
      · intro entry hentry
        rcases mem_updateNode hentry with hold | hupdated
        · exact hnodes entry hold
        · refine hnext _ List.mem_cons_self _ ?_ entry hupdated
          intro first hfirst
          exact hnodes first (List.mem_of_find?_eq_some hfirst)
      · intro p hp
        exact hnext p (List.mem_cons_of_mem _ hp)

theorem nodup_foldPhases (h : (nodes.map (·.name)).Nodup) :
    ((r.foldPhases nodes phases).value.map (·.name)).Nodup := by
  induction phases generalizing nodes with
  | nil => exact h
  | cons p phases ih =>
      obtain ⟨node, phase⟩ := p
      rw [value_foldPhases_cons]
      exact ih (nodup_updateNode h)

theorem mem_probedPhases {p : NodeSpec × NodeState} (h : p ∈ r.probedPhases) :
    p.1 ∈ r.spec.nodes ∧ p.2 = r.probePhase p.1 := by
  obtain ⟨node, hnode, rfl⟩ := List.mem_map.1 h
  exact ⟨hnode, rfl⟩

theorem mem_filter_probedPhases {node : NodeSpec} (hnode : node ∈ r.spec.nodes) :
    (node, r.probePhase node) ∈ r.probedPhases.filter (·.1.name = node.name) :=
  List.mem_filter.2 ⟨List.mem_map_of_mem hnode, decide_eq_true rfl⟩

/-- The phases of a name are probed ones of nodes with the name. -/
theorem of_mem_filter_probedPhases {p : NodeSpec × NodeState}
    (h : p ∈ r.probedPhases.filter (·.1.name = name)) :
    p.1.name = name ∧ p.2 = r.probePhase p.1 := by
  obtain ⟨hprobed, hname⟩ := List.mem_filter.1 h
  exact ⟨of_decide_eq_true hname, (mem_probedPhases hprobed).2⟩

/-- Among nodes with distinct names, one is probed for a name. -/
theorem filter_probedPhases {node : NodeSpec} (hspec : (r.spec.nodes.map (·.name)).Nodup)
    (hnode : node ∈ r.spec.nodes) :
    r.probedPhases.filter (·.1.name = node.name) = [(node, r.probePhase node)] := by
  rw [probedPhases]
  generalize r.spec.nodes = declared at hspec hnode
  induction declared with
  | nil => cases hnode
  | cons first rest ih =>
      rw [List.map_cons, List.nodup_cons] at hspec
      rw [List.map_cons]
      rcases List.mem_cons.1 hnode with rfl | hrest
      · rw [List.filter_cons_of_pos (by simp), List.filter_eq_nil_iff.2]
        intro p hp
        obtain ⟨other, hother, rfl⟩ := List.mem_map.1 hp
        have hne : other.name ≠ node.name :=
          fun h => hspec.1 (h ▸ List.mem_map_of_mem hother)
        simpa using hne
      · have hne : first.name ≠ node.name :=
          fun h => hspec.1 (h ▸ List.mem_map_of_mem hrest)
        rw [List.filter_cons_of_neg (by simpa using hne)]
        exact ih hspec.2 hrest

/-- The entry of a declared node after a pass. -/
theorem find?_foldPhases_probed {node : NodeSpec} (hspec : (r.spec.nodes.map (·.name)).Nodup)
    (hnode : node ∈ r.spec.nodes) :
    (r.foldPhases nodes r.probedPhases).value.find? (isFor node.name) =
      r.console.nextEntry node (r.probePhase node) (nodes.find? (isFor node.name)) := by
  rw [find?_foldPhases, filter_probedPhases hspec hnode]
  rfl

theorem find?_foldPhases_of_not_declared (hname : ∀ node ∈ r.spec.nodes, node.name ≠ name) :
    (r.foldPhases nodes r.probedPhases).value.find? (isFor name) =
      nodes.find? (isFor name) := by
  rw [find?_foldPhases, List.filter_eq_nil_iff.2]
  · rfl
  · intro p hp
    obtain ⟨node, hnode, rfl⟩ := List.mem_map.1 hp
    simpa using hname node hnode

end Reconciler

end ClusterWatch
