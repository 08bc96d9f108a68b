import ClusterWatch.Dict
import Mathlib.Data.List.Nodup

/-!
Entries of a dictionary.

No two entries have one key, so a lookup finds an entry exactly if it is there, and entries that
come in the order of their keys are put one behind the other: a dictionary is that of its own
entries.
-/

namespace ClusterWatch.Dict

variable {α : Type} {d : Dict α} {key : String} {value : α}

theorem mem_entries_of_find? (h : d.find? key = some value) : (key, value) ∈ d.entries := by
  obtain ⟨entry, hentry, rfl⟩ := Option.map_eq_some_iff.1 h
  have hkey : entry.1 = key := by
    simpa using List.find?_some hentry
  rw [← hkey]
  exact List.mem_of_find?_eq_some hentry

theorem isEmpty_eq_false_of_find? (h : d.find? key = some value) : d.isEmpty = false :=
  List.isEmpty_eq_false_iff.2 (List.ne_nil_of_mem (mem_entries_of_find? h))

theorem nodup_keys (d : Dict α) : (d.entries.map (·.1)).Nodup :=
  List.pairwise_map.2 (d.sorted.imp String.ne_of_lt)

theorem find?_eq_some_iff : d.find? key = some value ↔ (key, value) ∈ d.entries := by
  refine ⟨mem_entries_of_find?, fun hmem => ?_⟩
  cases hfound : d.entries.find? (·.1 = key) with
  | none => exact absurd (List.find?_eq_none.1 hfound (key, value) hmem) (by simp)
  | some entry =>
      have hkey : entry.1 = key := by
        simpa using List.find?_some hfound
      have hentry := List.mem_of_find?_eq_some hfound
      have hsame := List.inj_on_of_nodup_map d.nodup_keys hentry hmem hkey
      rw [find?, hfound, hsame, Option.map_some]

/-- An entry behind all others is put at the end. -/
theorem insertEntry_of_all_lt {key : String} {value : α} {entries : List (String × α)}
    (h : ∀ entry ∈ entries, entry.1 < key) :
    insertEntry key value entries = entries ++ [(key, value)] := by
  induction entries with
  | nil => rfl
  | cons entry entries ih =>
      have hlt : entry.1 < key := h entry List.mem_cons_self
      have hnot : ¬key < entry.1 := String.lt_asymm hlt
      have hne : key ≠ entry.1 := by
        rintro rfl
        exact String.lt_irrefl _ hlt
      rw [insertEntry, if_neg hnot, if_neg hne,
        ih fun other hother => h other (List.mem_cons_of_mem entry hother)]
      rfl

/-- Entries that come in the order of their keys are put one behind the other. -/
theorem entries_foldl_insert {d : Dict α} {back : List (String × α)}
    (h : (d.entries ++ back).Pairwise fun a b => a.1 < b.1) :
    (back.foldl (fun d e => d.insert e.1 e.2) d).entries = d.entries ++ back := by
  induction back generalizing d with
  | nil => exact (List.append_nil d.entries).symm
  | cons entry back ih =>
      have hlast : ∀ other ∈ d.entries, other.1 < entry.1 := fun other hother =>
        (List.pairwise_append.1 h).2.2 other hother entry List.mem_cons_self
      have hinsert : (d.insert entry.1 entry.2).entries = d.entries ++ [entry] :=
        insertEntry_of_all_lt hlast
      rw [List.append_cons, ← hinsert] at h ⊢
      exact ih h

theorem ofList_entries (d : Dict α) : ofList d.entries = d :=
  Dict.ext (entries_foldl_insert d.sorted)

end ClusterWatch.Dict
