import ClusterWatch.Network.Allocation
import ClusterWatch.Proofs.Checks
import ClusterWatch.Proofs.Network.Addresses
import ClusterWatch.Proofs.Spec.NodeNames

/-!
The addresses that the nodes of a cluster get on private networks.

An address is the start of its network's block advanced by the node's ordinal, and the ordinal is
the node's place in the declaration. So an address depends on the place and on its own attachment
and on nothing else, and no two nodes get the same address of one block. Main statement:
`allocates_by_place`.
-/

namespace ClusterWatch

namespace Network

/-- The attachment exists, and its configuration describes a block with this start, an IPv4 address
as a number, and a subnet of this length. -/
def HasBlock (store : Attachments) (ns name : String) (start length : Nat) : Prop :=
  ∃ config ipam, store ns name = .ok config ∧ Ipam.ofConfig name config = .ok ipam ∧
    IsDottedQuad (Text.trimmed ipam.rangeStart) start ∧ ipam.prefixLength = .ok length

/-- The identity is that of the node in the given place on the network: what is declared of the
network, with the length of its block and the start of the block advanced by the place. -/
structure IsServed (store : Attachments) (ns : String) (place : Nat) (network : PrivateNetwork)
    (id : Identity) : Prop where
  name : id.name = network.name
  interface : id.interface = network.interface
  ns : id.ns = network.ns.getD ns
  address : ∃ start, HasBlock store id.ns id.name start id.prefixLength ∧
    id.address.bits.toNat = (start + place) % 2 ^ 32

/-- The identities are those of the networks that have a block, in the order of the networks. -/
inductive Allocated (store : Attachments) (ns : String) (place : Nat) :
    List PrivateNetwork → List Identity → Prop
  | nil : Allocated store ns place [] []
  | served {network : PrivateNetwork} {networks : List PrivateNetwork} {id : Identity}
      {ids : List Identity} (h : IsServed store ns place network id)
      (rest : Allocated store ns place networks ids) :
      Allocated store ns place (network :: networks) (id :: ids)
  | skipped {network : PrivateNetwork} {networks : List PrivateNetwork} {ids : List Identity}
      (h : ∀ start length, ¬HasBlock store (network.ns.getD ns) network.name start length)
      (rest : Allocated store ns place networks ids) :
      Allocated store ns place (network :: networks) ids

theorem advanceText_eq_ok_iff {base : String} {ordinal : UInt32} {address : Address} :
    advanceText base ordinal = .ok address ↔ ∃ start, IsDottedQuad (Text.trimmed base) start ∧
      address.bits.toNat = (start + ordinal.toNat) % 2 ^ 32 := by
  have htrimmed : (Text.trimmed base).toList = Text.trim base.toList := String.toList_ofList
  rw [advanceText]
  constructor
  · intro h
    split at h
    · next first hfirst =>
        cases h
        rw [← htrimmed, Address.ofChars?_eq_some_iff] at hfirst
        exact ⟨_, hfirst, Address.toNat_advance first ordinal⟩
    · cases h
  · rintro ⟨start, hstart, haddress⟩
    obtain ⟨hread, hlt⟩ := hstart.ofChars?_eq
    rw [← htrimmed, hread]
    refine congrArg Except.ok (congrArg Address.mk (UInt32.toNat_inj.1 ?_))
    rw [haddress, UInt32.toNat_add, UInt32.toNat_ofNat_of_lt' hlt]

section allocate

variable {store other : Attachments} {ns : String} {ordinal : UInt32} {network : PrivateNetwork}
  {networks : List PrivateNetwork} {id : Identity}

/-- An address is allocated exactly where there is one to get. -/
theorem allocateFrom_eq_ok_iff : allocateFrom store ns ordinal network = .ok id ↔
    IsServed store ns ordinal.toNat network id := by
  simp only [allocateFrom, bind_eq_ok_iff, mapError_eq_ok_iff]
  constructor
  · rintro ⟨config, hconfig, ipam, hipam, address, haddress, length, hlength, hid⟩
    cases hid
    obtain ⟨start, hstart, hsum⟩ := advanceText_eq_ok_iff.1 haddress
    exact ⟨rfl, rfl, rfl, start, ⟨config, ipam, hconfig, hipam, hstart, hlength⟩, hsum⟩
  · rintro ⟨hname, hinterface, hns, start, ⟨config, ipam, hconfig, hipam, hstart, hlength⟩, hsum⟩
    rw [hns, hname] at hconfig
    rw [hname] at hipam
    refine ⟨config, hconfig, ipam, hipam, id.address, advanceText_eq_ok_iff.2 ⟨start, hstart, hsum⟩,
      id.prefixLength, hlength, ?_⟩
    cases id
    cases hname
    cases hinterface
    cases hns
    rfl

/-- Whether there is an address to get does not depend on the ordinal. -/
theorem exists_allocateFrom_iff : (∃ id, allocateFrom store ns ordinal network = .ok id) ↔
    ∃ start length, HasBlock store (network.ns.getD ns) network.name start length := by
  constructor
  · rintro ⟨id, hid⟩
    obtain ⟨hname, -, hns, start, hblock, -⟩ := allocateFrom_eq_ok_iff.1 hid
    rw [hname, hns] at hblock
    exact ⟨start, id.prefixLength, hblock⟩
  · rintro ⟨start, length, hblock⟩
    have hsum : (start + ordinal.toNat) % 2 ^ 32 < 2 ^ 32 := Nat.mod_lt _ (by decide)
    exact ⟨⟨network.name, network.interface,
      ⟨UInt32.ofNat ((start + ordinal.toNat) % 2 ^ 32)⟩, length, network.ns.getD ns⟩,
      allocateFrom_eq_ok_iff.2 ⟨rfl, rfl, rfl, start, hblock, UInt32.toNat_ofNat_of_lt' hsum⟩⟩

/-- Of the store only the network's own attachment counts. -/
theorem allocateFrom_congr
    (h : store (network.ns.getD ns) network.name = other (network.ns.getD ns) network.name) :
    allocateFrom store ns ordinal network = allocateFrom other ns ordinal network := by
  simp only [allocateFrom, h]

/-- Networks are served one by one, and those that cannot be are left out. -/
theorem value_allocateAllFrom : (allocateAllFrom store ns ordinal networks).value =
    networks.filterMap fun network => (allocateFrom store ns ordinal network).toOption := by
  induction networks with
  | nil => rfl
  | cons network networks ih =>
      rw [allocateAllFrom, List.filterMap_cons, ← ih]
      cases allocateFrom store ns ordinal network <;> rfl

theorem allocated_allocateAllFrom : Allocated store ns ordinal.toNat networks
    (allocateAllFrom store ns ordinal networks).value := by
  rw [value_allocateAllFrom]
  induction networks with
  | nil => exact Allocated.nil
  | cons network networks ih =>
      rw [List.filterMap_cons]
      cases hserved : allocateFrom store ns ordinal network with
      | ok id => exact Allocated.served (allocateFrom_eq_ok_iff.1 hserved) ih
      | error e =>
          refine Allocated.skipped (fun start length hblock => ?_) ih
          obtain ⟨id, hid⟩ := exists_allocateFrom_iff.2 ⟨start, length, hblock⟩
          rw [hserved] at hid
          cases hid

theorem exists_isServed_of_mem (h : id ∈ (allocateAllFrom store ns ordinal networks).value) :
    ∃ network ∈ networks, IsServed store ns ordinal.toNat network id := by
  rw [value_allocateAllFrom] at h
  obtain ⟨network, hnetwork, hid⟩ := List.mem_filterMap.1 h
  exact ⟨network, hnetwork, allocateFrom_eq_ok_iff.1 (toOption_eq_some_iff.1 hid)⟩

/-- Attachments that differ between two stores make no difference to the networks with others. -/
theorem filter_allocateAllFrom {broken : String → String → Bool}
    (h : ∀ ns name, broken ns name = false → store ns name = other ns name) :
    (allocateAllFrom store ns ordinal networks).value.filter (fun id => !broken id.ns id.name) =
      (allocateAllFrom other ns ordinal networks).value.filter
        fun id => !broken id.ns id.name := by
  have hkept : ∀ store network, broken (network.ns.getD ns) network.name = true →
      ((allocateFrom store ns ordinal network).toOption.filter
        fun id => !broken id.ns id.name) = none := by
    intro store network hbroken
    cases hserved : allocateFrom store ns ordinal network with
    | error e => rfl
    | ok id =>
        obtain ⟨hname, -, hns, -⟩ := allocateFrom_eq_ok_iff.1 hserved
        simp [Except.toOption, hname, hns, hbroken]
  rw [value_allocateAllFrom, value_allocateAllFrom, List.filter_filterMap, List.filter_filterMap]
  congr 1
  funext network
  cases hbroken : broken (network.ns.getD ns) network.name with
  | true => rw [hkept store network hbroken, hkept other network hbroken]
  | false => rw [allocateFrom_congr (h _ _ hbroken)]

end allocate

section places

variable {store : Attachments} {start length start' length' : Nat} {ns name ns' name' : String}

/-- A configuration describes one block, whatever the attachment is called. -/
theorem ofConfig_congr {config : String} {ipam : Ipam}
    (h : Ipam.ofConfig name config = .ok ipam) : Ipam.ofConfig name' config = .ok ipam := by
  rw [Ipam.ofConfig] at h ⊢
  split at h
  · cases h
  · split at h
    · cases h
    · exact h

/-- An attachment's block starts in one place. -/
theorem HasBlock.start_eq (h : HasBlock store ns name start length)
    (h' : HasBlock store ns' name' start' length') (hsame : store ns name = store ns' name') :
    start = start' := by
  obtain ⟨config, ipam, hconfig, hipam, hstart, -⟩ := h
  obtain ⟨config', ipam', hconfig', hipam', hstart', -⟩ := h'
  obtain rfl : config = config' := by
    rw [hsame, hconfig'] at hconfig
    exact (Except.ok.inj hconfig).symm
  obtain rfl : ipam = ipam' := by
    rw [ofConfig_congr hipam] at hipam'
    exact Except.ok.inj hipam'
  obtain ⟨hread, hlt⟩ := hstart.ofChars?_eq
  obtain ⟨hread', hlt'⟩ := hstart'.ofChars?_eq
  rw [hread] at hread'
  have hbits := congrArg (fun x => x.bits.toNat) (Option.some.inj hread')
  simpa [UInt32.toNat_ofNat_of_lt' hlt, UInt32.toNat_ofNat_of_lt' hlt'] using hbits

/-- Different places have different addresses in one block. -/
theorem address_ne_of_place_ne {network network' : PrivateNetwork} {a b : Identity}
    {place place' : Nat} (ha : IsServed store ns place network a)
    (hb : IsServed store ns place' network' b) (hsame : store a.ns a.name = store b.ns b.name)
    (hplace : place < 2 ^ 32) (hplace' : place' < 2 ^ 32) (hne : place ≠ place') :
    a.address ≠ b.address := by
  obtain ⟨start, hblock, hsum⟩ := ha.address
  obtain ⟨start', hblock', hsum'⟩ := hb.address
  obtain rfl := hblock.start_eq hblock' hsame
  intro heq
  rw [heq, hsum'] at hsum
  omega

end places

/-- What a node is told of its networks, whose attachments are in a store. -/
def identitiesOf (store : Attachments) (spec : ClusterSpec) (node : NodeSpec) : List Identity :=
  (allocateAllFrom store spec.ns node.ordinal node.privateNetworks).value

/-- In a cluster of fewer than `2 ^ 32` nodes each gets an address on its networks that have a
block, in their order, which is the start of the block advanced by the place of the node. An
attachment that changes has an effect on its own networks only. No two nodes get the same address
from one attachment. -/
theorem allocates_by_place (store : Attachments) (spec : ClusterSpec)
    (hfew : spec.nodes.length < 2 ^ 32) :
    (∀ place node, spec.nodes[place]? = some node →
      Allocated store spec.ns place node.privateNetworks (identitiesOf store spec node)) ∧
    (∀ (other : Attachments) (broken : String → String → Bool),
      (∀ ns name, broken ns name = false → store ns name = other ns name) →
        ∀ node ∈ spec.nodes,
          (identitiesOf store spec node).filter (fun id => !broken id.ns id.name) =
            (identitiesOf other spec node).filter fun id => !broken id.ns id.name) ∧
    ∀ node ∈ spec.nodes, ∀ other ∈ spec.nodes, node ≠ other →
      ∀ a ∈ identitiesOf store spec node, ∀ b ∈ identitiesOf store spec other,
        store a.ns a.name = store b.ns b.name → a.address ≠ b.address := by
  have hordinal : ∀ {place node}, spec.nodes[place]? = some node →
      place < 2 ^ 32 ∧ node.ordinal.toNat = place := by
    intro place node hnode
    obtain ⟨hplace, -⟩ := List.getElem?_eq_some_iff.1 hnode
    have hlt : place < 2 ^ 32 := Nat.lt_trans hplace hfew
    rw [ClusterSpec.ordinal_of_getElem? hnode, UInt32.toNat_ofNat_of_lt' hlt]
    exact ⟨hlt, rfl⟩
  refine ⟨?_, ?_, ?_⟩
  · intro place node hnode
    rw [← (hordinal hnode).2]
    exact allocated_allocateAllFrom
  · intro other broken hsame node _
    exact filter_allocateAllFrom hsame
  · intro node hnode other hother hne a ha b hb hsame
    obtain ⟨place, hplace⟩ := List.getElem?_of_mem hnode
    obtain ⟨place', hplace'⟩ := List.getElem?_of_mem hother
    obtain ⟨network, -, hserved⟩ := exists_isServed_of_mem ha
    obtain ⟨network', -, hserved'⟩ := exists_isServed_of_mem hb
    rw [(hordinal hplace).2] at hserved
    rw [(hordinal hplace').2] at hserved'
    refine address_ne_of_place_ne hserved hserved' hsame (hordinal hplace).1 (hordinal hplace').1 ?_
    rintro rfl
    exact hne (Option.some.inj (hplace.symm.trans hplace'))

/-- Two numbered nodes on three networks. -/
def wrapsLayout : Layout where
  nodeCount := 2
  nodeName := "racnode"
  privateNetworks := [⟨"priv1", "eth1", none⟩, ⟨"broken", "eth2", none⟩,
    ⟨"missing", "eth3", some "other"⟩]

def wrapsSpec : ClusterSpec where
  name := "prod"
  topology := .cluster wrapsLayout

/-- An attachment whose block starts at the last address, and one without a block. -/
def wraps : Platform :=
  (Platform.setAttachment {} "priv1"
    "\x7b\"ipam\":\x7b\"subnet\":\"10.0.0.0/24\",\"rangeStart\":\" 255.255.255.255 \"\x7d\x7d"
    ).setAttachment "broken" "[]"

/-- The same with a block for the other attachment. -/
def wrapsMended : Platform :=
  wraps.setAttachment "broken"
    "\x7b\"ipam\":\x7b\"subnet\":\"10.0.1.0/25\",\"rangeStart\":\"10.0.1.7\"\x7d\x7d"

theorem allocates_by_place_wraps :
    let first : Identity := ⟨"priv1", "eth1", ⟨4294967295⟩, 24, "default"⟩
    let second : Identity := ⟨"priv1", "eth1", ⟨0⟩, 24, "default"⟩
    wrapsSpec.nodes.length < 2 ^ 32 ∧
      identitiesOf wraps.attachment wrapsSpec (wrapsLayout.nodeAt 0) = [first] ∧
      identitiesOf wraps.attachment wrapsSpec (wrapsLayout.nodeAt 1) = [second] ∧
      Allocated wraps.attachment "default" 1 wrapsLayout.privateNetworks [second] ∧
      (identitiesOf wrapsMended.attachment wrapsSpec (wrapsLayout.nodeAt 1)).filter
        (fun id => !decide (id.name = "broken")) = [second] ∧
      first.address ≠ second.address := by
  intro first second
  have hnodes : wrapsSpec.nodes = [wrapsLayout.nodeAt 0, wrapsLayout.nodeAt 1] := by
    rfl
  have hfew : wrapsSpec.nodes.length < 2 ^ 32 := by
    rw [hnodes]
    decide
  have hfirst : identitiesOf wraps.attachment wrapsSpec (wrapsLayout.nodeAt 0) = [first] := by
    decide +kernel
  have hsecond : identitiesOf wraps.attachment wrapsSpec (wrapsLayout.nodeAt 1) = [second] := by
    decide +kernel
  obtain ⟨hallocated, hcontained, hdistinct⟩ :=
    allocates_by_place wraps.attachment wrapsSpec hfew
  refine ⟨hfew, hfirst, hsecond, ?_, ?_, ?_⟩
  · rw [← hsecond]
    exact hallocated 1 _ (by rw [hnodes]; rfl)
  · have hother : ∀ ns name, decide (name = "broken") = false →
        wraps.attachment ns name = wrapsMended.attachment ns name := by
      intro ns name hname
      have hne : name ≠ "broken" := of_decide_eq_false hname
      simp [wrapsMended, Platform.attachment, Platform.setAttachment, Dict.find?_insert, hne]
    have hmended := hcontained wrapsMended.attachment (fun _ name => name = "broken") hother
      (wrapsLayout.nodeAt 1) (by simp [hnodes])
    rw [hsecond] at hmended
    exact hmended.symm.trans (by decide)
  · exact hdistinct (wrapsLayout.nodeAt 0) (by simp [hnodes]) (wrapsLayout.nodeAt 1)
      (by simp [hnodes]) (by decide) first (by simp [hfirst]) second (by simp [hsecond]) rfl

end Network

end ClusterWatch
