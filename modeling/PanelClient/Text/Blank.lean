/-!
# Blank characters

The characters with the Unicode property `White_Space`, and the two questions that forms and
sessions ask about them: a text without its blank ends (`trim`), and whether anything is left
(`isBlank`).
-/

namespace PanelClient.Text

/-- The character `c` lies in one of the ranges, ends included. -/
def inRanges (ranges : List (Nat × Nat)) (c : Char) : Bool :=
  ranges.any fun range => range.1 ≤ c.toNat && c.toNat ≤ range.2

/-- The characters with the property `White_Space`. -/
def blankRanges : List (Nat × Nat) :=
  [(0x09, 0x0D), (0x20, 0x20), (0x85, 0x85), (0xA0, 0xA0), (0x1680, 0x1680), (0x2000, 0x200A),
    (0x2028, 0x2029), (0x202F, 0x202F), (0x205F, 0x205F), (0x3000, 0x3000)]

def isBlankChar (c : Char) : Bool :=
  inRanges blankRanges c

/-- A list of characters without the blanks at its two ends. -/
def trimChars (cs : List Char) : List Char :=
  ((cs.dropWhile isBlankChar).reverse.dropWhile isBlankChar).reverse

/-- The text without the blanks at its two ends. -/
def trim (s : String) : String :=
  String.ofList (trimChars s.toList)

/-- The text has no character that is not blank. -/
def isBlank (s : String) : Bool :=
  s.toList.all isBlankChar

/-- The trimmed text, unless nothing is left of it. -/
def trimmed? (s : String) : Option String :=
  if isBlank s then none else some (trim s)

theorem dropWhile_eq_nil_of_all {p : Char → Bool} {cs : List Char} (h : cs.all p = true) :
    cs.dropWhile p = [] := by
  induction cs with
  | nil => rfl
  | cons c cs ih =>
    simp only [List.all_cons, Bool.and_eq_true] at h
    simp [h.1, ih h.2]

theorem all_of_dropWhile_eq_nil {p : Char → Bool} {cs : List Char} (h : cs.dropWhile p = []) :
    cs.all p = true := by
  induction cs with
  | nil => rfl
  | cons c cs ih =>
    cases hc : p c with
    | true => simpa [hc] using ih (by simpa [List.dropWhile_cons, hc] using h)
    | false => simp [hc] at h

/-- What is left after the leading members of a class are dropped is empty or starts outside it. -/
theorem dropWhile_eq_nil_or_not_all {p : Char → Bool} (cs : List Char) :
    cs.dropWhile p = [] ∨ (cs.dropWhile p).all p = false := by
  induction cs with
  | nil => exact Or.inl rfl
  | cons c cs ih =>
    cases hc : p c with
    | true => simpa [List.dropWhile_cons, hc] using ih
    | false => exact Or.inr (by simp [hc])

/-- Trimming leaves nothing exactly of a blank list. -/
theorem trimChars_eq_nil_iff {cs : List Char} :
    trimChars cs = [] ↔ cs.all isBlankChar = true := by
  simp only [trimChars, List.reverse_eq_nil_iff]
  constructor
  · intro h
    have hall := all_of_dropWhile_eq_nil h
    rw [List.all_reverse] at hall
    rcases dropWhile_eq_nil_or_not_all (p := isBlankChar) cs with hnil | hnot
    · exact all_of_dropWhile_eq_nil hnil
    · rw [hall] at hnot
      exact absurd hnot (by simp)
  · intro h
    simp [dropWhile_eq_nil_of_all h]

theorem trim_eq_empty_iff {s : String} : trim s = "" ↔ isBlank s = true := by
  unfold trim isBlank
  rw [← trimChars_eq_nil_iff]
  constructor
  · intro h
    simpa using congrArg String.toList h
  · intro h
    simp [h]

end PanelClient.Text
