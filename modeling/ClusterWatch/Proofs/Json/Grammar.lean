import ClusterWatch.Proofs.Json.Tokens
import Mathlib.Data.List.DropRight

/-!
Every way to lay out a JSON value is read back.

`Writes` relates a value to its texts, which differ in the white space between their tokens. The
reader takes every such text, and its fuel suffices, since it never takes more than two steps for a
character. Main statement: `ofChars?_of_writes`.
-/

namespace ClusterWatch

namespace Json

/-- White space between tokens. -/
def IsGap (cs : List Char) : Prop :=
  ∀ c ∈ cs, isSpace c = true

mutual

/-- The characters write the value, without white space around it. -/
inductive Writes : Json → List Char → Prop where
  | null : Writes .null "null".toList
  | bool (b : Bool) : Writes (.bool b) (if b then "true" else "false").toList
  | integer (n : Int) : Writes (.integer n) (toString n).toList
  | inexact : Writes .inexact "0e0".toList
  | string (text : Option String) :
      Writes ((text.map Json.text).getD .unreadable) (quotedName text).toList
  | emptyArray {gap : List Char} (hgap : IsGap gap) : Writes (.array []) ('[' :: (gap ++ [']']))
  | array {items : List Json} {cs : List Char} (hitems : WritesItems items cs) :
      Writes (.array items) ('[' :: cs)
  | emptyObject {gap : List Char} (hgap : IsGap gap) :
      Writes (.object []) ('{' :: (gap ++ ['}']))
  | object {members : List (Option String × Json)} {cs : List Char}
      (hmembers : WritesMembers members cs) : Writes (.object members) ('{' :: cs)

/-- The characters write one or more items and the closing bracket. -/
inductive WritesItems : List Json → List Char → Prop where
  | last {item : Json} {cs before after : List Char} (hitem : Writes item cs)
      (hbefore : IsGap before) (hafter : IsGap after) :
      WritesItems [item] (before ++ (cs ++ (after ++ [']'])))
  | cons {item : Json} {items : List Json} {cs before after rest : List Char}
      (hitem : Writes item cs) (hbefore : IsGap before) (hafter : IsGap after)
      (hitems : WritesItems items rest) :
      WritesItems (item :: items) (before ++ (cs ++ (after ++ ',' :: rest)))

/-- The characters write one or more members and the closing brace. -/
inductive WritesMembers : List (Option String × Json) → List Char → Prop where
  | last {name : Option String} {value : Json} {cs before colon between after : List Char}
      (hvalue : Writes value cs) (hbefore : IsGap before) (hcolon : IsGap colon)
      (hbetween : IsGap between) (hafter : IsGap after) :
      WritesMembers [(name, value)] (before ++ ((quotedName name).toList ++
        (colon ++ ':' :: (between ++ (cs ++ (after ++ ['}']))))))
  | cons {name : Option String} {value : Json} {members : List (Option String × Json)}
      {cs before colon between after rest : List Char} (hvalue : Writes value cs)
      (hbefore : IsGap before) (hcolon : IsGap colon) (hbetween : IsGap between)
      (hafter : IsGap after) (hmembers : WritesMembers members rest) :
      WritesMembers ((name, value) :: members) (before ++ ((quotedName name).toList ++
        (colon ++ ':' :: (between ++ (cs ++ (after ++ ',' :: rest))))))

end

variable {json : Json} {items : List Json} {members : List (Option String × Json)}
  {cs gap rest : List Char} {c : Char}

section gaps

theorem skipSpace_gap (hgap : IsGap gap) (hc : isSpace c = false) (cs : List Char) :
    skipSpace (gap ++ c :: cs) = c :: cs := by
  rw [skipSpace, List.dropWhile_append_of_pos hgap, List.dropWhile_cons_of_neg]
  rw [hc]
  exact Bool.false_ne_true

theorem skipSpace_skipSpace (cs : List Char) : skipSpace (skipSpace cs) = skipSpace cs :=
  List.dropWhile_idempotent isSpace cs

/-- A number ends before a gap and whatever cannot belong to it. -/
theorem endsNumber_gap (hgap : IsGap gap) (hc : continuesNumber c = false) (cs : List Char) :
    EndsNumber (gap ++ c :: cs) := by
  cases gap with
  | nil =>
      intro d hd
      obtain rfl := Option.some.inj hd
      exact hc
  | cons space gap =>
      intro d hd
      obtain rfl := Option.some.inj hd
      have hspace : isSpace space = true := hgap space List.mem_cons_self
      simp only [isSpace, Bool.or_eq_true, beq_iff_eq] at hspace
      rcases hspace with ((rfl | rfl) | rfl) | rfl <;> decide

theorem readValue_skipSpace (fuel : Nat) (cs : List Char) :
    readValue fuel (skipSpace cs) = readValue fuel cs := by
  cases fuel with
  | zero => rfl
  | succ fuel => rw [readValue, readValue, skipSpace_skipSpace]

theorem readItems_skipSpace (fuel : Nat) (cs : List Char) :
    readItems fuel (skipSpace cs) = readItems fuel cs := by
  cases fuel with
  | zero => rfl
  | succ fuel => rw [readItems, readItems, readValue_skipSpace]

theorem readMembers_skipSpace (fuel : Nat) (cs : List Char) :
    readMembers fuel (skipSpace cs) = readMembers fuel cs := by
  cases fuel with
  | zero => rfl
  | succ fuel => rw [readMembers, readMembers, skipSpace_skipSpace]

end gaps

section heads

theorem exists_quotedName_eq_cons (name : Option String) :
    ∃ cs, (quotedName name).toList = '"' :: cs := by
  obtain ⟨cs, hcs, -⟩ := readText_quotedName name []
  exact ⟨cs, hcs⟩

/-- A number begins with none of the characters that other tokens begin with. -/
theorem of_startsNumber (h : c = '-' ∨ c.isDigit = true) :
    isSpace c = false ∧ c ∉ ['n', 't', 'f', '"', '[', '{', ']'] := by
  rcases h with rfl | hdigit
  · decide
  · constructor
    · by_contra hspace
      simp only [isSpace, Bool.not_eq_false, Bool.or_eq_true, beq_iff_eq] at hspace
      rcases hspace with ((rfl | rfl) | rfl) | rfl <;> cases hdigit
    · intro hmem
      simp only [List.mem_cons, List.not_mem_nil, or_false] at hmem
      rcases hmem with rfl | rfl | rfl | rfl | rfl | rfl | rfl <;> cases hdigit

/-- A value begins with neither white space nor a closing bracket. -/
theorem exists_eq_cons_of_writes (h : Writes json cs) :
    ∃ c rest, cs = c :: rest ∧ isSpace c = false ∧ c ≠ ']' := by
  cases h with
  | null => exact ⟨'n', _, rfl, by decide, by decide⟩
  | bool b => cases b with
    | true => exact ⟨'t', _, rfl, by decide, by decide⟩
    | false => exact ⟨'f', _, rfl, by decide, by decide⟩
  | integer n =>
      obtain ⟨c, rest, hcs, hstart⟩ := exists_toString_eq_cons n
      obtain ⟨hspace, hother⟩ := of_startsNumber hstart
      refine ⟨c, rest, hcs, hspace, ?_⟩
      rintro rfl
      exact hother (by decide)
  | inexact => exact ⟨'0', _, rfl, by decide, by decide⟩
  | string text =>
      obtain ⟨rest, hcs⟩ := exists_quotedName_eq_cons text
      exact ⟨'"', rest, hcs, by decide, by decide⟩
  | emptyArray | array => exact ⟨'[', _, rfl, by decide, by decide⟩
  | emptyObject | object => exact ⟨'{', _, rfl, by decide, by decide⟩

theorem readValue_of_startsNumber {fuel : Nat} (h : skipSpace cs = c :: rest)
    (hstart : c = '-' ∨ c.isDigit = true) :
    readValue (fuel + 1) cs = readNumber (c :: rest) := by
  have hother := (of_startsNumber hstart).2
  rw [readValue, h]
  split
  all_goals first
    | rfl
    | next heq =>
        obtain ⟨rfl, -⟩ := List.cons.inj heq
        exact absurd (by decide) hother

end heads

section reading

variable {fuel : Nat}

/-- So much fuel suffices for a value, with a gap before it and any end of a number behind it. -/
def ReadsValues (fuel : Nat) : Prop :=
  ∀ ⦃json cs before rest⦄, Writes json cs → IsGap before → EndsNumber rest →
    2 * (before ++ (cs ++ rest)).length ≤ fuel →
      readValue fuel (before ++ (cs ++ rest)) = some (json, rest)

def ReadsItems (fuel : Nat) : Prop :=
  ∀ ⦃items cs rest⦄, WritesItems items cs → 2 * (cs ++ rest).length < fuel →
    readItems fuel (cs ++ rest) = some (items, rest)

def ReadsMembers (fuel : Nat) : Prop :=
  ∀ ⦃members cs rest⦄, WritesMembers members cs → 2 * (cs ++ rest).length < fuel →
    readMembers fuel (cs ++ rest) = some (members, rest)

/-- Items do not begin with a closing bracket. -/
theorem skipSpace_items_ne (h : WritesItems items cs) (rest tail : List Char) :
    skipSpace (cs ++ rest) ≠ ']' :: tail := by
  intro heq
  cases h with
  | last hitem hbefore | cons hitem hbefore =>
      obtain ⟨c, tail, rfl, hspace, hc⟩ := exists_eq_cons_of_writes hitem
      rw [List.append_assoc, List.cons_append, List.cons_append, skipSpace_gap hbefore hspace]
        at heq
      exact hc (List.cons.inj heq).1

/-- Members do not begin with a closing brace. -/
theorem skipSpace_members_ne (h : WritesMembers members cs) (rest tail : List Char) :
    skipSpace (cs ++ rest) ≠ '}' :: tail := by
  intro heq
  cases h with
  | @last name _ _ _ _ _ _ _ hbefore | @cons name _ _ _ _ _ _ _ _ _ hbefore =>
      obtain ⟨tail, hname⟩ := exists_quotedName_eq_cons name
      rw [hname, List.append_assoc, List.cons_append, List.cons_append,
        skipSpace_gap hbefore (by decide)] at heq
      cases heq

theorem readsItems_succ (hvalues : ReadsValues fuel) (hitems : ReadsItems fuel) :
    ReadsItems (fuel + 1) := by
  intro items cs rest h hfuel
  cases h with
  | @last item cs before after hitem hbefore hafter =>
      simp only [List.append_assoc, List.singleton_append] at hfuel ⊢
      have hvalue := hvalues hitem hbefore
        (endsNumber_gap hafter (show continuesNumber ']' = false by decide) rest) (by omega)
      simp [readItems, hvalue, skipSpace_gap hafter (show isSpace ']' = false by decide)]
  | @cons item items cs before after more hitem hbefore hafter hmore =>
      simp only [List.append_assoc, List.cons_append] at hfuel ⊢
      have hvalue := hvalues hitem hbefore
        (endsNumber_gap hafter (show continuesNumber ',' = false by decide) (more ++ rest))
        (by omega)
      have hlater := @hitems items more rest hmore (by simp at hfuel ⊢; omega)
      simp [readItems, hvalue, hlater, skipSpace_gap hafter (show isSpace ',' = false by decide)]

theorem readsMembers_succ (hvalues : ReadsValues fuel) (hmembers : ReadsMembers fuel) :
    ReadsMembers (fuel + 1) := by
  have hquote : isSpace '"' = false := by
    decide
  have hcolonSign : isSpace ':' = false := by
    decide
  intro members cs rest h hfuel
  cases h with
  | @last name value cs before colon between after hvalue hbefore hcolon hbetween hafter =>
      obtain ⟨text, hname, htext⟩ := readText_quotedName name
        (colon ++ ':' :: (between ++ (cs ++ (after ++ '}' :: rest))))
      simp only [List.append_assoc, List.cons_append, hname] at hfuel ⊢
      have hread := hvalues hvalue hbetween
        (endsNumber_gap hafter (show continuesNumber '}' = false by decide) rest)
        (by simp at hfuel ⊢; omega)
      simp [readMembers, skipSpace_gap hbefore hquote, htext, skipSpace_gap hcolon hcolonSign,
        hread, skipSpace_gap hafter (show isSpace '}' = false by decide)]
  | @cons name value members cs before colon between after more hvalue hbefore hcolon hbetween
      hafter hmore =>
      obtain ⟨text, hname, htext⟩ := readText_quotedName name
        (colon ++ ':' :: (between ++ (cs ++ (after ++ ',' :: (more ++ rest)))))
      simp only [List.append_assoc, List.cons_append, hname] at hfuel ⊢
      have hread := hvalues hvalue hbetween
        (endsNumber_gap hafter (show continuesNumber ',' = false by decide) (more ++ rest))
        (by simp at hfuel ⊢; omega)
      have hlater := @hmembers members more rest hmore (by simp at hfuel ⊢; omega)
      simp [readMembers, skipSpace_gap hbefore hquote, htext, skipSpace_gap hcolon hcolonSign,
        hread, hlater, skipSpace_gap hafter (show isSpace ',' = false by decide)]

theorem readsValues_succ (hitems : ReadsItems fuel) (hmembers : ReadsMembers fuel) :
    ReadsValues (fuel + 1) := by
  intro json cs before rest h hbefore hrest hfuel
  cases h with
  | null =>
      change readValue (fuel + 1) (before ++ 'n' :: 'u' :: 'l' :: 'l' :: rest) = _
      rw [readValue, skipSpace_gap hbefore (by decide)]
      rfl
  | bool b =>
      cases b with
      | true =>
          change readValue (fuel + 1) (before ++ 't' :: 'r' :: 'u' :: 'e' :: rest) = _
          rw [readValue, skipSpace_gap hbefore (by decide)]
          rfl
      | false =>
          change readValue (fuel + 1) (before ++ 'f' :: 'a' :: 'l' :: 's' :: 'e' :: rest) = _
          rw [readValue, skipSpace_gap hbefore (by decide)]
          rfl
  | integer n =>
      obtain ⟨c, tail, hcs, hstart⟩ := exists_toString_eq_cons n
      have hread := readNumber_toString n hrest
      rw [hcs, List.cons_append] at hread ⊢
      rw [readValue_of_startsNumber (skipSpace_gap hbefore (of_startsNumber hstart).1 _) hstart,
        hread]
  | inexact =>
      change readValue (fuel + 1) (before ++ '0' :: 'e' :: '0' :: rest) = _
      rw [readValue_of_startsNumber (skipSpace_gap hbefore (by decide) _) (Or.inr (by decide)),
        readNumber_inexact hrest]
  | string text =>
      obtain ⟨tail, hcs, hread⟩ := readText_quotedName text rest
      rw [hcs, List.cons_append, readValue, skipSpace_gap hbefore (by decide)]
      simp [hread]
  | @emptyArray gap hgap =>
      rw [List.cons_append, List.append_assoc, readValue, skipSpace_gap hbefore (by decide)]
      simp [skipSpace_gap hgap (show isSpace ']' = false by decide)]
  | @array items cs hwritten =>
      rw [List.cons_append, readValue, skipSpace_gap hbefore (by decide)]
      simp only
      split
      · next tail heq => exact absurd heq (skipSpace_items_ne hwritten rest tail)
      · rw [readItems_skipSpace, hitems hwritten (by simp at hfuel ⊢; omega)]
        rfl
  | @emptyObject gap hgap =>
      rw [List.cons_append, List.append_assoc, readValue, skipSpace_gap hbefore (by decide)]
      simp [skipSpace_gap hgap (show isSpace '}' = false by decide)]
  | @object members cs hwritten =>
      rw [List.cons_append, readValue, skipSpace_gap hbefore (by decide)]
      simp only
      split
      · next tail heq => exact absurd heq (skipSpace_members_ne hwritten rest tail)
      · rw [readMembers_skipSpace, hmembers hwritten (by simp at hfuel ⊢; omega)]
        rfl

/-- Two units of fuel for every character suffice. -/
theorem reads (fuel : Nat) : ReadsValues fuel ∧ ReadsItems fuel ∧ ReadsMembers fuel := by
  induction fuel with
  | zero =>
      refine ⟨?_, ?_, ?_⟩
      · intro json cs before rest h hbefore hrest hfuel
        obtain ⟨c, tail, rfl, -⟩ := exists_eq_cons_of_writes h
        simp at hfuel
      · exact fun items cs rest h hfuel => absurd hfuel (Nat.not_lt_zero _)
      · exact fun members cs rest h hfuel => absurd hfuel (Nat.not_lt_zero _)
  | succ fuel ih =>
      obtain ⟨hvalues, hitems, hmembers⟩ := ih
      exact ⟨readsValues_succ hitems hmembers, readsItems_succ hvalues hitems,
        readsMembers_succ hvalues hmembers⟩

end reading

theorem ofChars?_of_writes (h : Writes json cs) : ofChars? cs = some json := by
  have hread := (reads (2 * cs.length + 2)).1 h (show IsGap [] from nofun)
    (show EndsNumber [] from nofun) (by simp)
  rw [List.nil_append, List.append_nil] at hread
  rw [ofChars?, hread]
  rfl

end Json

end ClusterWatch
