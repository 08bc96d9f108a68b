import ClusterWatch.Diagnostic.Console
import Mathlib.Data.List.TakeWhile

/-!
Diagnostics and the words by which they are known.

What a diagnostic asks for stands before the first equals sign of its word. So a question about one
group is never taken for another diagnostic, nor for a question about another group. A platform that
answers only such questions differently, in one pod, is the same to everything else that is run.
-/

namespace ClusterWatch

namespace Diagnostic

/-- What a diagnostic asks for: its word up to the first equals sign. -/
def topic (key : String) : List Char :=
  key.toList.takeWhile (· ≠ '=')

/-- What follows an equals sign does not change what is asked for. -/
theorem topic_append {flag : String} (h : '=' ∈ flag.toList) (value : String) :
    topic (flag ++ value) = topic flag := by
  rw [topic, topic, String.toList_append, List.takeWhile_append, if_neg]
  intro hlength
  have hwhole : flag.toList.takeWhile (· ≠ '=') = flag.toList :=
    (List.takeWhile_prefix _).eq_of_length hlength
  have hpass := List.takeWhile_eq_self_iff.1 hwhole '=' h
  exact absurd hpass (by decide)

namespace Scripts

variable {s : Scripts} {group other key : String} {argv : List String}

@[simp]
theorem key_command (s : Scripts) (flag : String) : Exec.key (s.command flag) = flag :=
  rfl

/-- The words of the two questions about a group. -/
def groupKeys (s : Scripts) (group : String) : List String :=
  [Exec.key (s.disks group), Exec.key (s.redundancy group)]

/-- The diagnostics that are about a node or about the whole cluster, apart from those about its
service. -/
def general (s : Scripts) : List (List String) :=
  [s.clusterHealth, s.instanceState, s.dbState, s.connectString, s.pdbConnectString, s.dbRole,
    s.dbVersion, s.diskGroups, stateFile, gridHome, crsDeviceList, dbDeviceList]

theorem topic_disks (s : Scripts) (group : String) :
    topic (Exec.key (s.disks group)) = "--getasmdisks".toList :=
  topic_append (by decide) group

theorem topic_redundancy (s : Scripts) (group : String) :
    topic (Exec.key (s.redundancy group)) = "--getdgredundancy".toList :=
  topic_append (by decide) group

theorem topic_serviceState (s : Scripts) (service database : String) :
    topic (Exec.key (s.serviceState service database)) = "--checkdbsvc".toList := by
  rw [serviceState, key_command, String.append_assoc, String.append_assoc, String.append_assoc]
  exact topic_append (by decide) _

theorem map_key_general (s s' : Scripts) : s.general.map Exec.key = s'.general.map Exec.key :=
  rfl

theorem mem_groupKeys : key ∈ s.groupKeys group ↔
    key = Exec.key (s.disks group) ∨ key = Exec.key (s.redundancy group) := by
  rw [groupKeys, List.mem_cons, List.mem_singleton]

/-- What asks for something else is no question about a group. -/
theorem not_mem_groupKeys (hdisks : topic key ≠ "--getasmdisks".toList)
    (hredundancy : topic key ≠ "--getdgredundancy".toList) : key ∉ s.groupKeys group := by
  intro hmem
  rcases mem_groupKeys.1 hmem with rfl | rfl
  · exact hdisks (topic_disks s group)
  · exact hredundancy (topic_redundancy s group)

/-- The other diagnostics are no questions about a group. -/
theorem not_mem_groupKeys_of_general (h : argv ∈ s.general) :
    Exec.key argv ∉ s.groupKeys group := by
  have htopics : ∀ key ∈ (Scripts.mk "" "").general.map Exec.key,
      topic key ≠ "--getasmdisks".toList ∧ topic key ≠ "--getdgredundancy".toList := by
    decide
  have hkey : Exec.key argv ∈ s.general.map Exec.key := List.mem_map_of_mem h
  rw [map_key_general s ⟨"", ""⟩] at hkey
  obtain ⟨hdisks, hredundancy⟩ := htopics (Exec.key argv) hkey
  exact not_mem_groupKeys hdisks hredundancy

theorem serviceState_not_mem_groupKeys (s : Scripts) (group service database : String) :
    Exec.key (s.serviceState service database) ∉ s.groupKeys group := by
  apply not_mem_groupKeys
  · rw [topic_serviceState]
    decide
  · rw [topic_serviceState]
    decide

/-- A question about one group is no question about another. -/
theorem not_mem_groupKeys_of_ne (hne : other ≠ group) (hkey : key ∈ s.groupKeys other) :
    key ∉ s.groupKeys group := by
  have htopic : topic (Exec.key (s.disks other)) ≠ topic (Exec.key (s.redundancy group)) := by
    rw [topic_disks, topic_redundancy]
    decide
  have htopic' : topic (Exec.key (s.redundancy other)) ≠ topic (Exec.key (s.disks group)) := by
    rw [topic_disks, topic_redundancy]
    decide
  intro hmem
  rcases mem_groupKeys.1 hkey with rfl | rfl <;> rcases mem_groupKeys.1 hmem with heq | heq
  · exact hne ((String.append_right_inj "--getasmdisks=").1 heq)
  · exact htopic (congrArg topic heq)
  · exact htopic' (congrArg topic heq)
  · exact hne ((String.append_right_inj "--getdgredundancy=").1 heq)

end Scripts

end Diagnostic

namespace Platform

/-- The platforms have the same objects, and a diagnostic answers the same on both unless it is run
in `pod` and known by one of `keys`. -/
structure SameBut (pod : String) (keys : List String) (p p' : Platform) : Prop where
  workloads : p'.workloads = p.workloads
  pods : p'.pods = p.pods
  services : p'.services = p.services
  diskChecks : p'.diskChecks = p.diskChecks
  responses : ∀ other key, ¬(other = pod ∧ key ∈ keys) →
    p'.response? other key = p.response? other key

namespace SameBut

variable {pod : String} {keys : List String} {p p' : Platform}

theorem refl (p : Platform) : SameBut pod keys p p :=
  ⟨rfl, rfl, rfl, rfl, fun _ _ _ => rfl⟩

/-- Another answer of such a diagnostic makes no other difference. -/
theorem script (h : SameBut pod keys p p') {key : String} (hkey : key ∈ keys)
    (response : Response) : SameBut pod keys p (p'.script pod key response) where
  workloads := h.workloads
  pods := h.pods
  services := h.services
  diskChecks := h.diskChecks
  responses := by
    intro other asked hasked
    have hne : ((other, asked) == (pod, key)) = false := by
      rw [beq_eq_false_iff_ne]
      intro heq
      obtain ⟨rfl, rfl⟩ := Prod.mk.inj heq
      exact hasked ⟨rfl, hkey⟩
    rw [← h.responses other asked hasked, response?, Platform.script, List.lookup_cons, hne]
    rfl

end SameBut

end Platform

namespace Console

variable {pod : String} {keys : List String} {p p' : Platform} {ns : String}
  {scripts : Diagnostic.Scripts} {other : String} {argv : List String}

/-- Everything else runs the same. -/
theorem run_eq (h : p.SameBut pod keys p') (hkey : ¬(other = pod ∧ Exec.key argv ∈ keys)) :
    (Console.mk p' ns scripts).run other argv = (Console.mk p ns scripts).run other argv := by
  have hrunning : (Console.mk p' ns scripts).isRunning other =
      (Console.mk p ns scripts).isRunning other := by
    simp only [isRunning, Platform.pod, h.pods]
  have hanswer : p'.answer other argv = p.answer other argv := by
    rw [Platform.answer, Platform.answer, h.responses _ _ hkey]
  rw [run_eq_ite, run_eq_ite, hrunning, hanswer]

end Console

end ClusterWatch
