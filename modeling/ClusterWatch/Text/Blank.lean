/-!
Blank characters and trimming.

`isBlank` is the Unicode property `White_Space`, twenty-five characters in all; the zero-width
space, the byte-order mark and the separators below U+0020 other than tab, line feed, vertical
tab, form feed and carriage return are not in it. Trimming is a function on lists of characters;
`trimmed` lifts it to strings.
-/

namespace ClusterWatch.Text

/-- The characters with the Unicode property `White_Space`. -/
def isBlank (c : Char) : Bool :=
  let n := c.toNat
  (0x09 ≤ n && n ≤ 0x0D) || n == 0x20 || n == 0x85 || n == 0xA0 || n == 0x1680 ||
    (0x2000 ≤ n && n ≤ 0x200A) || n == 0x2028 || n == 0x2029 || n == 0x202F || n == 0x205F ||
    n == 0x3000

def trimStart (cs : List Char) : List Char :=
  cs.dropWhile isBlank

def trimEnd : List Char → List Char
  | [] => []
  | c :: cs =>
    match trimEnd cs with
    | [] => if isBlank c then [] else [c]
    | d :: ds => c :: d :: ds

def trim (cs : List Char) : List Char :=
  trimEnd (trimStart cs)

def trimmed (s : String) : String :=
  String.ofList (trim s.toList)

theorem isBlank_of_isWhitespace {c : Char} (h : c.isWhitespace = true) : isBlank c = true := by
  simp only [Char.isWhitespace, Bool.or_eq_true, decide_eq_true_eq] at h
  rcases h with (((rfl | rfl) | rfl) | rfl) <;> decide

@[simp]
theorem trimEnd_nil : trimEnd [] = [] :=
  rfl

theorem trimEnd_concat_of_not_blank (cs : List Char) {c : Char} (h : isBlank c = false) :
    trimEnd (cs ++ [c]) = cs ++ [c] := by
  induction cs with
  | nil => simp [trimEnd, h]
  | cons d ds ih =>
    cases hds : ds ++ [c] with
    | nil => simp at hds
    | cons e es =>
      rw [List.cons_append, trimEnd, ih, hds]

theorem trimEnd_concat_of_blank (cs : List Char) {c : Char} (h : isBlank c = true) :
    trimEnd (cs ++ [c]) = trimEnd cs := by
  induction cs with
  | nil => simp [trimEnd, h]
  | cons d ds ih => rw [List.cons_append, trimEnd, ih, trimEnd]

example : trimmed " \t a b\r\n" = "a b" := by decide
example : isBlank '\u2007' ∧ isBlank '\u3000' ∧ ¬isBlank '\u200B' ∧ ¬isBlank '\u001F' := by decide

end ClusterWatch.Text
