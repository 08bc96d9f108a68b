/-!
Dictionaries with text keys, kept in the order of their keys.

The entries are sorted by key, code point by code point, and no key occurs twice; the type carries
the proof, so two dictionaries with the same entries are equal and printing one needs no sorting.
-/

namespace ClusterWatch

/-- A finite map from strings, as its list of entries in key order. -/
structure Dict (α : Type) where
  entries : List (String × α)
  sorted : entries.Pairwise fun a b => a.1 < b.1

namespace Dict

variable {α : Type}

@[ext]
theorem ext {d e : Dict α} (h : d.entries = e.entries) : d = e := by
  cases d; cases e; cases h; rfl

instance [DecidableEq α] : DecidableEq (Dict α) := fun d e =>
  decidable_of_iff (d.entries = e.entries) ⟨Dict.ext, fun h => h ▸ rfl⟩

def empty : Dict α :=
  ⟨[], .nil⟩

instance : EmptyCollection (Dict α) := ⟨empty⟩
instance : Inhabited (Dict α) := ⟨empty⟩

/-- Puts an entry into a sorted list, in place of an older one with its key. -/
def insertEntry (key : String) (value : α) : List (String × α) → List (String × α)
  | [] => [(key, value)]
  | (k, v) :: rest =>
    if key < k then (key, value) :: (k, v) :: rest
    else if key = k then (key, value) :: rest
    else (k, v) :: insertEntry key value rest

theorem fst_of_mem_insertEntry {key : String} {value : α} {entry : String × α} :
    ∀ {entries : List (String × α)}, entry ∈ insertEntry key value entries →
      entry.1 = key ∨ entry ∈ entries
  | [], h => .inl (by simp_all [insertEntry])
  | (k, v) :: rest, h => by
    rw [insertEntry] at h
    split at h
    · rcases List.mem_cons.1 h with rfl | h
      · exact .inl rfl
      · exact .inr h
    · split at h
      · rcases List.mem_cons.1 h with rfl | h
        · exact .inl rfl
        · exact .inr (List.mem_cons_of_mem _ h)
      · rcases List.mem_cons.1 h with rfl | h
        · exact .inr List.mem_cons_self
        · exact (fst_of_mem_insertEntry h).imp id (List.mem_cons_of_mem _)

theorem sorted_insertEntry (key : String) (value : α) :
    ∀ {entries : List (String × α)}, (entries.Pairwise fun a b => a.1 < b.1) →
      (insertEntry key value entries).Pairwise fun a b => a.1 < b.1
  | [], _ => by simp [insertEntry]
  | (k, v) :: rest, h => by
    rw [List.pairwise_cons] at h
    rw [insertEntry]
    split
    · next hlt =>
      refine List.pairwise_cons.2 ⟨fun b hb => ?_, List.pairwise_cons.2 h⟩
      rcases List.mem_cons.1 hb with rfl | hb
      · exact hlt
      · exact String.lt_trans hlt (h.1 b hb)
    · split
      · next heq => subst heq; exact List.pairwise_cons.2 h
      · next hlt hne =>
        refine List.pairwise_cons.2 ⟨fun b hb => ?_, sorted_insertEntry key value h.2⟩
        rcases fst_of_mem_insertEntry hb with hb | hb
        · rw [hb]
          exact Decidable.byContradiction fun hn =>
            hne (String.le_antisymm (String.not_lt.1 hn) (String.not_lt.1 hlt))
        · exact h.1 b hb

/-- The dictionary with `value` under `key`, whatever was there. -/
def insert (d : Dict α) (key : String) (value : α) : Dict α :=
  ⟨insertEntry key value d.entries, sorted_insertEntry key value d.sorted⟩

/-- The dictionary without the entry of `key`. -/
def erase (d : Dict α) (key : String) : Dict α :=
  ⟨d.entries.filter (·.1 ≠ key), d.sorted.filter _⟩

/-- The value under `key`. -/
def find? (d : Dict α) (key : String) : Option α :=
  (d.entries.find? (·.1 = key)).map (·.2)

def contains (d : Dict α) (key : String) : Bool :=
  (d.find? key).isSome

def isEmpty (d : Dict α) : Bool :=
  d.entries.isEmpty

def values (d : Dict α) : List α :=
  d.entries.map (·.2)

/-- The dictionary of a list of entries; of two entries with one key the later counts. -/
def ofList (entries : List (String × α)) : Dict α :=
  entries.foldl (fun d e => d.insert e.1 e.2) ∅

/-- Changes the value under `key`, if there is one. -/
def modify (d : Dict α) (key : String) (f : α → α) : Dict α :=
  match d.find? key with
  | some value => d.insert key (f value)
  | none => d

@[simp]
theorem entries_empty : (∅ : Dict α).entries = [] :=
  rfl

@[simp]
theorem find?_empty (key : String) : (∅ : Dict α).find? key = none :=
  rfl

theorem find?_insertEntry (key name : String) (value : α) (entries : List (String × α)) :
    (insertEntry key value entries).find? (·.1 = name) =
      if name = key then some (key, value) else entries.find? (·.1 = name) := by
  induction entries with
  | nil => by_cases h : key = name <;> simp [insertEntry, h, eq_comm]
  | cons entry rest ih =>
    obtain ⟨k, v⟩ := entry
    rw [insertEntry]
    split
    · by_cases h : key = name <;> simp [h, eq_comm]
    · split
      · next heq =>
        subst heq
        by_cases h : key = name <;> simp [h, eq_comm]
      · next hne =>
        by_cases h : k = name
        · subst h
          simp [Ne.symm hne]
        · simp [h, ih]

theorem find?_insert (d : Dict α) (key name : String) (value : α) :
    (d.insert key value).find? name = if name = key then some value else d.find? name := by
  rw [find?, insert, find?_insertEntry]
  split <;> rfl

theorem find?_erase (d : Dict α) (key name : String) :
    (d.erase key).find? name = if name = key then none else d.find? name := by
  rw [find?, erase, List.find?_filter]
  split
  · next h =>
    subst h
    simp
  · next h =>
    have hp : (fun a : String × α =>
        decide (decide (a.1 ≠ key) = true ∧ decide (a.1 = name) = true))
        = fun a => decide (a.1 = name) := by
      funext a
      by_cases ha : a.1 = name
      · simp [ha, h]
      · simp [ha]
    rw [hp, find?]

example : (ofList [("b", 1), ("a", 2), ("b", 3)]).entries = [("a", 2), ("b", 3)] := by decide
example : ((ofList [("b", 1), ("a", 2)]).erase "b").find? "a" = some 2 := by decide

end Dict

end ClusterWatch
