import ClusterWatch.Proofs.Spec.NodeNames
import Mathlib.Algebra.Group.Nat.Defs
import Mathlib.Data.List.Nodup
import Mathlib.Data.List.Range

/-!
Which node is which.

A node is known by its name and its pod, and counted by its ordinal. Numbers make different names
behind any text, so that numbered nodes are never refused; of declared instances the first name that
repeats is reported. A cluster that grows keeps the nodes that it has. Main statement:
`identities_parse`.
-/

namespace ClusterWatch

/-- The first of the names that repeats an earlier one. -/
def IsFirstRepeated (names : List String) (name : String) : Prop :=
  ∃ front back, names = front ++ name :: back ∧ name ∈ front ∧ front.Nodup

theorem firstRepeated_append (seen front back : List String) :
    firstRepeated seen (front ++ back) =
      (firstRepeated seen front).or (firstRepeated (front.reverse ++ seen) back) := by
  induction front generalizing seen with
  | nil => rfl
  | cons name front ih =>
      rw [List.cons_append, firstRepeated, firstRepeated]
      split
      · rfl
      · rw [ih, List.reverse_cons, List.append_assoc, List.singleton_append]

/-- Before the name that is found nothing repeats. -/
theorem exists_of_firstRepeated {seen names : List String} {name : String}
    (h : firstRepeated seen names = some name) : ∃ front back, names = front ++ name :: back ∧
      firstRepeated seen front = none ∧ name ∈ front.reverse ++ seen := by
  induction names generalizing seen with
  | nil => cases h
  | cons first names ih =>
      rw [firstRepeated] at h
      split at h
      · next hfirst =>
          obtain rfl := Option.some.inj h
          exact ⟨[], names, rfl, rfl, hfirst⟩
      · next hfirst =>
          obtain ⟨front, back, rfl, hnone, hname⟩ := ih h
          refine ⟨first :: front, back, rfl, ?_, ?_⟩
          · rw [firstRepeated, if_neg hfirst, hnone]
          · rwa [List.reverse_cons, List.append_assoc, List.singleton_append]

theorem firstRepeated_eq_some_iff {names : List String} {name : String} :
    firstRepeated [] names = some name ↔ IsFirstRepeated names name := by
  constructor
  · intro h
    obtain ⟨front, back, hnames, hnone, hname⟩ := exists_of_firstRepeated h
    rw [List.append_nil, List.mem_reverse] at hname
    exact ⟨front, back, hnames, hname, (firstRepeated_eq_none_iff.1 hnone).1⟩
  · rintro ⟨front, back, rfl, hname, hnodup⟩
    have hnone : firstRepeated [] front = none :=
      firstRepeated_eq_none_iff.2 ⟨hnodup, fun _ _ => List.not_mem_nil⟩
    have hseen : name ∈ front.reverse ++ [] := by
      rwa [List.append_nil, List.mem_reverse]
    rw [firstRepeated_append, hnone, Option.none_or, firstRepeated, if_pos hseen]

/-- The nodes have different names and pods, and are counted in order. -/
structure ToldApart (nodes : List NodeSpec) : Prop where
  names : (nodes.map (·.name)).Nodup
  pods : (nodes.map (·.podName)).Nodup
  ordinals : nodes.map (·.ordinal.toNat) = List.range nodes.length

/-- The node stands in a place of the layout, and its number is one more, as a 32-bit word too. -/
structure Layout.IsNumbered (l : Layout) (place : Nat) (node : NodeSpec) : Prop where
  ordinal : node.ordinal.toNat = place
  fits : place + 1 < 2 ^ 32
  name : node.name = l.nodeName ++ toString (node.ordinal + 1)

namespace Topology

/-- Instances are appended, or the numbered nodes become more. -/
inductive GrowsTo : Topology → Topology → Prop
  | append (is more : List Instance) : GrowsTo (.instances is) (.instances (is ++ more))
  | enlarge (l : Layout) {count : UInt32} (h : l.nodeCount ≤ count) :
      GrowsTo (.cluster l) (.cluster { l with nodeCount := count })

/-- A topology that grows keeps its nodes in front. -/
theorem GrowsTo.nodes_prefix {topology grown : Topology} (h : topology.GrowsTo grown) :
    topology.nodes <+: grown.nodes := by
  cases h with
  | append is more =>
      rw [nodes, nodes, List.mapIdx_append]
      exact List.prefix_append _ _
  | @enlarge l count h =>
      obtain ⟨more, hmore⟩ := Nat.exists_eq_add_of_le (UInt32.le_iff_toNat_le.1 h)
      rw [nodes, nodes, hmore, List.range_add, List.map_append]
      exact List.prefix_append _ _

theorem names_instances (is : List Instance) :
    (instances is).nodes.map (·.name) = is.map (·.name) := by
  apply List.ext_getElem?
  intro place
  rw [nodes, List.getElem?_map, List.getElem?_map, List.getElem?_mapIdx, Option.map_map]
  rfl

/-- Numbered nodes have different names, whatever text the numbers stand behind. -/
theorem nodup_names_cluster (l : Layout) : ((cluster l).nodes.map (·.name)).Nodup := by
  rw [nodes, List.map_map]
  exact List.nodup_range.map fun _ _ => Layout.nameAt_inj

end Topology

namespace ClusterSpec

variable {spec : ClusterSpec} {contents name : String} {l : Layout} {is : List Instance}

/-- The text is one of TOML, and its document has the fields of the declaration. -/
def Decodes (contents : String) (spec : ClusterSpec) : Prop :=
  ∃ toml, Toml.parse? contents = some toml ∧ decode? toml = some spec

/-- What is decoded is read unless its names are refused. -/
theorem Decodes.parse_eq (h : Decodes contents spec) : parse contents = spec.checkNames := by
  obtain ⟨toml, htoml, hspec⟩ := h
  simp only [parse, htoml, ofToml, hspec]

theorem checkNames_eq_error_iff : spec.checkNames = .error (.duplicateNode name) ↔
    IsFirstRepeated (spec.nodes.map (·.name)) name := by
  rw [← firstRepeated_eq_some_iff, checkNames]
  cases firstRepeated [] (spec.nodes.map (·.name)) with
  | none =>
      constructor
      · intro h
        cases h
      · intro h
        cases h
  | some other =>
      rw [Except.error.injEq, ConfigError.duplicateNode.injEq, Option.some.injEq]

/-- A declaration is refused with a name exactly if its names are not distinct. -/
theorem exists_checkNames_eq_error_iff :
    (∃ name, spec.checkNames = .error (.duplicateNode name)) ↔
      ¬(spec.nodes.map (·.name)).Nodup := by
  rw [← checkNames_eq_ok_iff, checkNames]
  cases firstRepeated [] (spec.nodes.map (·.name)) with
  | none =>
      constructor
      · rintro ⟨name, h⟩
        cases h
      · exact fun hne => absurd rfl hne
  | some other =>
      refine iff_of_true ⟨other, rfl⟩ fun h => ?_
      cases h

/-- Few nodes have their places as ordinals. -/
theorem ordinals_of_length_lt (hfew : spec.nodes.length < 2 ^ 32) :
    spec.nodes.map (·.ordinal.toNat) = List.range spec.nodes.length := by
  apply List.ext_getElem?
  intro place
  rw [List.getElem?_map]
  cases hnode : spec.nodes[place]? with
  | none =>
      rw [List.getElem?_eq_none_iff] at hnode
      rw [Option.map_none, List.getElem?_eq_none (by rwa [List.length_range])]
  | some node =>
      obtain ⟨hplace, -⟩ := List.getElem?_eq_some_iff.1 hnode
      rw [Option.map_some, ordinal_of_getElem? hnode,
        UInt32.toNat_ofNat_of_lt' (Nat.lt_trans hplace hfew), List.getElem?_range hplace]

theorem toldApart_of_nodup (hfew : spec.nodes.length < 2 ^ 32)
    (hnames : (spec.nodes.map (·.name)).Nodup) : ToldApart spec.nodes where
  names := hnames
  pods := by
    have hpods : spec.nodes.map (·.podName) = (spec.nodes.map (·.name)).map podOf := by
      rw [List.map_map]
      rfl
    rw [hpods]
    exact hnames.map fun _ _ => podOf_inj.1
  ordinals := ordinals_of_length_lt hfew

theorem length_nodes_cluster (h : spec.topology = .cluster l) :
    spec.nodes.length = l.nodeCount.toNat := by
  rw [ClusterSpec.nodes, h, Topology.nodes, List.length_map, List.length_range]

theorem length_nodes_instances (h : spec.topology = .instances is) :
    spec.nodes.length = is.length := by
  rw [ClusterSpec.nodes, h, Topology.nodes, List.length_mapIdx]

/-- A declaration that was read tells its nodes apart. -/
theorem toldApart_of_parse (h : parse contents = .ok spec)
    (hfew : ∀ is, spec.topology = .instances is → is.length < 2 ^ 32) : ToldApart spec.nodes := by
  refine toldApart_of_nodup ?_ (nodup_of_parse h)
  cases htopology : spec.topology with
  | instances is =>
      rw [length_nodes_instances htopology]
      exact hfew is htopology
  | cluster l =>
      rw [length_nodes_cluster htopology]
      exact l.nodeCount.toNat_lt

theorem parse_of_cluster (h : Decodes contents spec) (htopology : spec.topology = .cluster l) :
    parse contents = .ok spec := by
  rw [h.parse_eq, checkNames_eq_ok_iff, ClusterSpec.nodes, htopology]
  exact Topology.nodup_names_cluster l

/-- The count of numbered nodes leaves room for their numbers in 32 bits. -/
theorem isNumbered_of_getElem? (htopology : spec.topology = .cluster l) {place : Nat}
    {node : NodeSpec} (hnode : spec.nodes[place]? = some node) : l.IsNumbered place node := by
  obtain ⟨hplace, -⟩ := List.getElem?_eq_some_iff.1 hnode
  rw [length_nodes_cluster htopology] at hplace
  have hcount := l.nodeCount.toNat_lt
  have hfits : place + 1 < 2 ^ 32 := Nat.lt_of_le_of_lt hplace hcount
  have hordinal : node.ordinal.toNat = place := by
    rw [ordinal_of_getElem? hnode, UInt32.toNat_ofNat_of_lt' (Nat.lt_of_succ_lt hfits)]
  refine ⟨hordinal, hfits, ?_⟩
  have hnumber : (node.ordinal + 1).toNat = place + 1 := by
    rw [UInt32.toNat_add, hordinal]
    exact Nat.mod_eq_of_lt hfits
  have hname : node.name = l.nameAt place := by
    rw [ClusterSpec.nodes, htopology, Topology.nodes, List.getElem?_map,
      List.getElem?_range hplace] at hnode
    rw [← Option.some.inj hnode]
    rfl
  rw [hname, Layout.nameAt, ← hnumber]
  rfl

/-- A declaration that is read tells its nodes apart by name and pod and counts them from zero. Text
that decodes is never refused for numbered nodes, whose numbers fit into 32 bits; it is refused for
instances exactly if a name occurs twice, with the first name that repeats. A declaration that grows
keeps its nodes, as they are, in front. -/
theorem identities_parse (contents : String) :
    (∀ spec, parse contents = .ok spec →
      (∀ is, spec.topology = .instances is → is.length < 2 ^ 32) → ToldApart spec.nodes) ∧
    (∀ spec l, Decodes contents spec → spec.topology = .cluster l →
      parse contents = .ok spec ∧ spec.nodes.length = l.nodeCount.toNat ∧
        ∀ place node, spec.nodes[place]? = some node → l.IsNumbered place node) ∧
    (∀ spec is, Decodes contents spec → spec.topology = .instances is →
      (parse contents = .ok spec ↔ (is.map (·.name)).Nodup) ∧
        ((∃ name, parse contents = .error (.duplicateNode name)) ↔ ¬(is.map (·.name)).Nodup) ∧
        ∀ name, parse contents = .error (.duplicateNode name) ↔
          IsFirstRepeated (is.map (·.name)) name) ∧
    ∀ spec grown : ClusterSpec, spec.topology.GrowsTo grown.topology →
      spec.nodes <+: grown.nodes := by
  refine ⟨fun spec => toldApart_of_parse, ?_, ?_, fun spec grown h => h.nodes_prefix⟩
  · intro spec l hdecodes htopology
    exact ⟨parse_of_cluster hdecodes htopology, length_nodes_cluster htopology,
      fun place node => isNumbered_of_getElem? htopology⟩
  · intro spec is hdecodes htopology
    have hnames : spec.nodes.map (·.name) = is.map (·.name) := by
      rw [ClusterSpec.nodes, htopology, Topology.names_instances]
    rw [hdecodes.parse_eq, ← hnames]
    exact ⟨checkNames_eq_ok_iff, exists_checkNames_eq_error_iff, fun _ => checkNames_eq_error_iff⟩

/-- Two numbered nodes behind a text that ends in a digit. -/
def digitLayout : Layout where
  nodeCount := 2
  nodeName := "rac1"

def digitText : String :=
  "name = \"db\"\n[topology]\nmode = \"cluster\"\nnode_count = 2\nnode_name = \"rac1\"\n"

/-- Instances of which the second name to occur is the first to repeat. -/
def repeatedInstances : List Instance :=
  [{ name := "a" }, { name := "b" }, { name := "b" }, { name := "a" }]

def repeatedText : String :=
  "name = \"db\"\n[topology]\nmode = \"instances\"\n" ++
    "[[topology.instances]]\nname = \"a\"\n[[topology.instances]]\nname = \"b\"\n" ++
    "[[topology.instances]]\nname = \"b\"\n[[topology.instances]]\nname = \"a\"\n"

theorem identities_parse_digit_repeated :
    let spec : ClusterSpec := { name := "db", topology := .cluster digitLayout }
    let grown : ClusterSpec :=
      { name := "db", topology := .cluster { digitLayout with nodeCount := 11 } }
    (Decodes digitText spec ∧ parse digitText = .ok spec ∧ ToldApart spec.nodes ∧
      spec.nodes.map (·.name) = ["rac11", "rac12"] ∧ spec.nodes <+: grown.nodes) ∧
    Decodes repeatedText { name := "db", topology := .instances repeatedInstances } ∧
      parse repeatedText = .error (.duplicateNode "b") := by
  intro spec grown
  have hdigit : Decodes digitText spec :=
    Option.bind_eq_some_iff.1 (by decide +kernel)
  have hrepeated :
      Decodes repeatedText { name := "db", topology := .instances repeatedInstances } :=
    Option.bind_eq_some_iff.1 (by decide +kernel)
  obtain ⟨happart, hcluster, -, hgrown⟩ := identities_parse digitText
  obtain ⟨-, -, hinstances, -⟩ := identities_parse repeatedText
  obtain ⟨hparse, -⟩ := hcluster spec digitLayout hdigit rfl
  refine ⟨⟨hdigit, hparse, happart spec hparse ?_, by decide, ?_⟩, hrepeated, ?_⟩
  · intro is htopology
    cases htopology
  · exact hgrown spec grown (.enlarge digitLayout (by decide))
  · refine ((hinstances _ _ hrepeated rfl).2.2 "b").2 ⟨["a", "b"], [_], rfl, ?_, ?_⟩ <;> decide

end ClusterSpec

end ClusterWatch
