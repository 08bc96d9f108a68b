import ClusterWatch.Network.Identity
import ClusterWatch.Proofs.Json.Printing
import ClusterWatch.Proofs.Json.Records
import ClusterWatch.Proofs.Network.Addresses

/-!
The annotation that lists a pod's further networks loses nothing.

Every identity is one entry of it, from which its names, its address and the length of its network
are read back, whatever characters the names hold. Main statement: `annotation_lossless`.
-/

namespace ClusterWatch.Network

/-- The fields of an entry. -/
def entryFields : List Json.Field :=
  [⟨"name", .required⟩, ⟨"namespace", .required⟩, ⟨"interface", .required⟩, ⟨"ips", .required⟩]

/-- The entry has the identity's names and a single text, which is read as its address up to the
slash and, as a subnet, gives the length of its network. -/
def Tells (entry : Json) (id : Identity) : Prop :=
  ∃ cidr before length,
    entry.slots entryFields = some [some (.text id.name), some (.text id.ns),
      some (.text id.interface), some (.texts [cidr])] ∧
    Text.cutFirst '/' cidr.toList = some (before, length) ∧
    Address.ofChars? before = some id.address ∧
    ∀ ipam : Ipam, ipam.subnet = cidr → ipam.prefixLength = .ok id.prefixLength

section entry

variable {entry : Json} {id other : Identity}

/-- An entry tells of one identity only. -/
theorem Tells.unique (h : Tells entry id) (hother : Tells entry other) : id = other := by
  obtain ⟨cidr, before, length, hslots, hcut, haddress, hlength⟩ := h
  obtain ⟨cidr', before', length', hslots', hcut', haddress', hlength'⟩ := hother
  rw [hslots] at hslots'
  simp only [Option.some.injEq, List.cons.injEq, Json.text.injEq, Json.texts, Json.array.injEq,
    List.map_cons, and_true] at hslots'
  obtain ⟨hname, hns, hinterface, rfl⟩ := hslots'
  rw [hcut] at hcut'
  cases hcut'
  rw [haddress] at haddress'
  have hsame : Except.ok id.prefixLength = Except.ok other.prefixLength :=
    (hlength ⟨cidr, "", none, none⟩ rfl).symm.trans (hlength' ⟨cidr, "", none, none⟩ rfl)
  cases id
  cases other
  cases hname
  cases hns
  cases hinterface
  cases haddress'
  cases hsame
  rfl

theorem slash_not_mem_render (x : Address) : '/' ∉ x.render.toList := by
  obtain ⟨a, b, c, d, -, -, -, -, hrender, -⟩ := x.isDottedQuad_render
  have hslash : ∀ n, '/' ∉ Nat.toDigits 10 n := Decimal.not_mem_toDigits (by decide)
  rw [hrender, Address.toList_dottedQuad]
  simp [List.intercalate_cons_cons, hslash]

theorem toList_cidr (id : Identity) :
    id.cidr.toList = id.address.render.toList ++ '/' :: Nat.toDigits 10 id.prefixLength := by
  simp [Identity.cidr]

/-- An address with a length of up to 32 is a subnet of that length. -/
theorem lengthOfSubnet?_cidr (h : id.prefixLength ≤ 32) :
    Ipam.lengthOfSubnet? id.cidr.toList = some id.prefixLength := by
  obtain ⟨a, b, c, d, ha, hb, hc, hd, hrender, -⟩ := id.address.isDottedQuad_render
  have hbyte : ∀ n < 256, Ipam.byte? (Nat.toDigits 10 n) = some n := by
    intro n hn
    simp [Ipam.byte?, Decimal.read?_toDigits, hn]
  have hslash : '/' ∉ Nat.toDigits 10 id.prefixLength := Decimal.not_mem_toDigits (by decide) _
  rw [Ipam.lengthOfSubnet?, toList_cidr, Text.cutLast_append hslash, hrender]
  simp only [Option.bind_eq_bind, Option.bind_some, Address.splitAt_dottedQuad,
    hbyte id.prefixLength (by omega)]
  simp [hbyte, ha, hb, hc, hd, h]

/-- The entry that is written of an identity tells of it. -/
theorem tells_toJson (h : id.prefixLength ≤ 32) : Tells id.toJson id := by
  refine ⟨id.cidr, id.address.render.toList, Nat.toDigits 10 id.prefixLength, ?_, ?_, ?_, ?_⟩
  · exact Json.slots_record rfl (by simp)
  · rw [toList_cidr, Text.cutFirst_append (slash_not_mem_render id.address)]
  · exact id.address.ofChars?_render
  · rintro ipam hsubnet
    rw [Ipam.prefixLength, hsubnet, lengthOfSubnet?_cidr h]

end entry

section annotation

variable {ids others : List Identity}

theorem forall₂_tells (h : ∀ id ∈ ids, id.prefixLength ≤ 32) :
    List.Forall₂ Tells (ids.map Identity.toJson) ids := by
  rw [List.forall₂_map_left_iff, List.forall₂_same]
  exact fun id hid => tells_toJson (h id hid)

/-- Entries tell of one list of identities only. -/
theorem eq_of_forall₂_tells {entries : List Json} (h : List.Forall₂ Tells entries ids)
    (hother : List.Forall₂ Tells entries others) : ids = others := by
  induction h generalizing others with
  | nil =>
      cases hother
      rfl
  | cons hentry _ ih =>
      cases hother with
      | cons hentry' hrest => rw [hentry.unique hentry', ih hrest]

/-- The annotation is JSON, an array with one entry for each identity in their order, which tells of
it. So different lists have different annotations. -/
theorem annotation_lossless (ids : List Identity) (h : ∀ id ∈ ids, id.prefixLength ≤ 32) :
    let text := annotation ids
    (∃ entries, Json.parse? text = some (.array entries) ∧ List.Forall₂ Tells entries ids) ∧
      ∀ others : List Identity, (∀ id ∈ others, id.prefixLength ≤ 32) → others ≠ ids →
        annotation others ≠ text := by
  refine ⟨⟨ids.map Identity.toJson, Json.parse?_compact _, forall₂_tells h⟩, ?_⟩
  intro others hothers hne heq
  have hentries : others.map Identity.toJson = ids.map Identity.toJson := by
    have hread := congrArg Json.parse? heq
    unfold annotation at hread
    rw [Json.parse?_compact, Json.parse?_compact] at hread
    exact Json.array.inj (Option.some.inj hread)
  have htold := forall₂_tells hothers
  rw [hentries] at htold
  exact hne (eq_of_forall₂_tells htold (forall₂_tells h))

/-- The shortest and the longest network, under names that need escapes and names that need none. -/
def oddIdentities : List Identity :=
  [⟨"priv\"1\\", "eth\n0", ⟨0⟩, 0, "gr\u00f6\u00dfe\u0001"⟩,
    ⟨"", "\u65e5\u672c/\u007f", ⟨4294967295⟩, 32, "default"⟩]

theorem annotation_lossless_odd :
    let text := annotation oddIdentities
    (∀ id ∈ oddIdentities, id.prefixLength ≤ 32) ∧
      (∃ entries, Json.parse? text = some (.array entries) ∧
        List.Forall₂ Tells entries oddIdentities) ∧
      annotation oddIdentities.reverse ≠ text := by
  have hlengths : ∀ id ∈ oddIdentities, id.prefixLength ≤ 32 := by
    decide
  obtain ⟨hread, hdifferent⟩ := annotation_lossless oddIdentities hlengths
  exact ⟨hlengths, hread, hdifferent oddIdentities.reverse (by decide) (by decide)⟩

end annotation

end ClusterWatch.Network
