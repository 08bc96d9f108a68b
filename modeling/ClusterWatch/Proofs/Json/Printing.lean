import ClusterWatch.Proofs.Json.Grammar

/-!
What is printed reads back, in either layout.

The printer puts commas between the items of an array, and nothing or line breaks and indentation
before them, so that its text is one of those that write the value. Main statements:
`parse?_compact` and `parse?_pretty`.
-/

namespace ClusterWatch.Json

section join

variable (render : Json → List Char) {before between gap : List Char}

/-- The items after the first, a comma and the gap before each. -/
def joinItems (before : List Char) (render : Json → List Char) : List Json → List Char
  | [] => []
  | item :: items => ',' :: (before ++ (render item ++ joinItems before render items))

/-- The members after the first, a comma and the gap before each. -/
def joinMembers (before between : List Char) (render : Json → List Char) :
    List (Option String × Json) → List Char
  | [] => []
  | (name, value) :: members => ',' :: (before ++ ((quotedName name).toList ++ (':' :: (between ++
      (render value ++ joinMembers before between render members)))))

/-- Items that are written each are written one after the other. -/
theorem writesItems_join {item : Json} {items : List Json}
    (hitems : ∀ json ∈ item :: items, Writes json (render json)) (hbefore : IsGap before)
    (hgap : IsGap gap) :
    WritesItems (item :: items)
      (before ++ (render item ++ (joinItems before render items ++ (gap ++ [']'])))) := by
  obtain ⟨hfirst, hrest⟩ := List.forall_mem_cons.1 hitems
  induction items generalizing item with
  | nil => exact WritesItems.last hfirst hbefore hgap
  | cons next items ih =>
      obtain ⟨hnext, hlater⟩ := List.forall_mem_cons.1 hrest
      have hall := WritesItems.cons hfirst hbefore (show IsGap [] from nofun)
        (ih hrest hnext hlater)
      simpa [joinItems] using hall

theorem writesMembers_join {name : Option String} {value : Json}
    {members : List (Option String × Json)}
    (hmembers : ∀ member ∈ (name, value) :: members, Writes member.2 (render member.2))
    (hbefore : IsGap before) (hbetween : IsGap between) (hgap : IsGap gap) :
    WritesMembers ((name, value) :: members) (before ++ ((quotedName name).toList ++
      (':' :: (between ++ (render value ++
        (joinMembers before between render members ++ (gap ++ ['}']))))))) := by
  obtain ⟨hfirst, hrest⟩ := List.forall_mem_cons.1 hmembers
  have hnone : IsGap [] := nofun
  induction members generalizing name value with
  | nil => exact WritesMembers.last hfirst hbefore hnone hbetween hgap
  | cons next members ih =>
      obtain ⟨hnext, hlater⟩ := List.forall_mem_cons.1 hrest
      have hall := @WritesMembers.cons name _ _ _ _ _ _ _ _ hfirst hbefore hnone hbetween hnone
        (ih hrest hnext hlater)
      simpa [joinMembers] using hall

end join

section layouts

theorem isGap_nil : IsGap [] :=
  nofun

theorem isGap_newline (level : Nat) : IsGap (newline level).toList := by
  intro c hc
  rw [newline, String.toList_ofList] at hc
  rcases List.mem_cons.1 hc with rfl | hc
  · decide
  · obtain rfl := List.eq_of_mem_replicate hc
    decide

theorem toList_compactItems (items : List Json) : (compactItems items).toList =
    joinItems [] (fun json => (compact json).toList) items := by
  induction items with
  | nil => rw [compactItems, joinItems, String.toList_empty]
  | cons item items ih => simp [compactItems, joinItems, ih]

theorem toList_compactMembers (members : List (Option String × Json)) :
    (compactMembers members).toList =
      joinMembers [] [] (fun json => (compact json).toList) members := by
  induction members with
  | nil => rw [compactMembers, joinMembers, String.toList_empty]
  | cons member members ih => simp [compactMembers, joinMembers, ih]

theorem toList_prettyItems (level : Nat) (items : List Json) :
    (prettyItems level items).toList =
      joinItems (newline level).toList (fun json => (prettyAt level json).toList) items := by
  induction items with
  | nil => rw [prettyItems, joinItems, String.toList_empty]
  | cons item items ih => simp [prettyItems, joinItems, ih]

theorem toList_prettyMembers (level : Nat) (members : List (Option String × Json)) :
    (prettyMembers level members).toList = joinMembers (newline level).toList [' ']
      (fun json => (prettyAt level json).toList) members := by
  induction members with
  | nil => rw [prettyMembers, joinMembers, String.toList_empty]
  | cons member members ih => simp [prettyMembers, joinMembers, ih]

end layouts

section decreasing

theorem sizeOf_item_lt {json : Json} {items : List Json} (h : json ∈ items) :
    sizeOf json < sizeOf (array items) := by
  have hsize := List.sizeOf_lt_of_mem h
  rw [array.sizeOf_spec]
  omega

theorem sizeOf_member_lt {member : Option String × Json} {members : List (Option String × Json)}
    (h : member ∈ members) : sizeOf member.2 < sizeOf (object members) := by
  have hsize := List.sizeOf_lt_of_mem h
  cases member
  simp only [object.sizeOf_spec, Prod.mk.sizeOf_spec] at hsize ⊢
  omega

end decreasing

theorem writes_compact (json : Json) : Writes json (compact json).toList := by
  match json with
  | .null => exact .null
  | .bool b => exact .bool b
  | .integer n => exact .integer n
  | .inexact => exact .inexact
  | .text s => exact .string (some s)
  | .unreadable => exact .string none
  | .array [] =>
      rw [compact]
      exact .emptyArray isGap_nil
  | .array (item :: items) =>
      have hitems : ∀ json ∈ item :: items, Writes json (compact json).toList :=
        fun json hjson => writes_compact json
      have hall := Writes.array (writesItems_join _ hitems isGap_nil isGap_nil)
      simpa [compact, toList_compactItems] using hall
  | .object [] =>
      rw [compact]
      exact .emptyObject isGap_nil
  | .object ((name, value) :: members) =>
      have hmembers : ∀ member ∈ (name, value) :: members,
          Writes member.2 (compact member.2).toList :=
        fun member hmember => writes_compact member.2
      have hall := Writes.object (writesMembers_join (fun json => (compact json).toList) hmembers
        isGap_nil isGap_nil isGap_nil)
      simpa [compact, toList_compactMembers] using hall
termination_by sizeOf json
decreasing_by
  · exact sizeOf_item_lt hjson
  · exact sizeOf_member_lt hmember

theorem writes_prettyAt (level : Nat) (json : Json) : Writes json (prettyAt level json).toList := by
  match json with
  | .null => exact .null
  | .bool b => exact .bool b
  | .integer n => exact .integer n
  | .inexact => exact .inexact
  | .text s => exact .string (some s)
  | .unreadable => exact .string none
  | .array [] =>
      rw [prettyAt]
      exact .emptyArray isGap_nil
  | .array (item :: items) =>
      have hitems : ∀ json ∈ item :: items, Writes json (prettyAt (level + 1) json).toList :=
        fun json hjson => writes_prettyAt (level + 1) json
      have hall := Writes.array
        (writesItems_join _ hitems (isGap_newline (level + 1)) (isGap_newline level))
      simpa [prettyAt, toList_prettyItems] using hall
  | .object [] =>
      rw [prettyAt]
      exact .emptyObject isGap_nil
  | .object ((name, value) :: members) =>
      have hmembers : ∀ member ∈ (name, value) :: members,
          Writes member.2 (prettyAt (level + 1) member.2).toList :=
        fun member hmember => writes_prettyAt (level + 1) member.2
      have hblank : IsGap [' '] := by
        simp [IsGap, isSpace]
      have hall := Writes.object (writesMembers_join
        (fun json => (prettyAt (level + 1) json).toList) hmembers (isGap_newline (level + 1)) hblank
        (isGap_newline level))
      simpa [prettyAt, toList_prettyMembers] using hall
termination_by sizeOf json
decreasing_by
  · exact sizeOf_item_lt hjson
  · exact sizeOf_member_lt hmember

theorem parse?_compact (json : Json) : parse? json.compact = some json :=
  ofChars?_of_writes (writes_compact json)

theorem parse?_pretty (json : Json) : parse? json.pretty = some json :=
  ofChars?_of_writes (writes_prettyAt 0 json)

end ClusterWatch.Json
