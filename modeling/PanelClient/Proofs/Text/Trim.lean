import PanelClient.Text.Blank

/-!
# Trimming

Trimming takes the blanks away at both ends and nothing else (`trims_trim`), and there is only one
text that is left so (`Trims.eq_trim`).
-/

namespace PanelClient.Text

/-- The second text is the first without the blanks at its two ends. -/
structure Trims (text trimmed : String) : Prop where
  split : ∃ before after, text.toList = before ++ trimmed.toList ++ after ∧
    before.all isBlankChar = true ∧ after.all isBlankChar = true
  head : ∀ c, trimmed.toList.head? = some c → isBlankChar c = false
  last : ∀ c, trimmed.toList.getLast? = some c → isBlankChar c = false

theorem head?_dropWhile {p : Char → Bool} {cs : List Char} {c : Char}
    (h : (cs.dropWhile p).head? = some c) : p c = false := by
  have hnot := List.head?_dropWhile_not p cs
  rw [h] at hnot
  exact hnot

/-- What is left of a list without the blanks at its end starts as the list does. -/
theorem head?_reverse_dropWhile {p : Char → Bool} {cs : List Char} {c : Char}
    (h : (cs.reverse.dropWhile p).reverse.head? = some c) : cs.head? = some c := by
  have hsplit : cs = (cs.reverse.dropWhile p).reverse ++ (cs.reverse.takeWhile p).reverse := by
    rw [← List.reverse_append, List.takeWhile_append_dropWhile, List.reverse_reverse]
  rw [hsplit, List.head?_append, h, Option.some_or]

theorem trims_trim (text : String) : Trims text (trim text) where
  split := by
    refine ⟨text.toList.takeWhile isBlankChar,
      ((text.toList.dropWhile isBlankChar).reverse.takeWhile isBlankChar).reverse, ?_,
      List.all_takeWhile, ?_⟩
    · rw [trim, String.toList_ofList, trimChars, List.append_assoc, ← List.reverse_append,
        List.takeWhile_append_dropWhile, List.reverse_reverse, List.takeWhile_append_dropWhile]
    · rw [List.all_reverse]
      exact List.all_takeWhile
  head c h := by
    rw [trim, String.toList_ofList, trimChars] at h
    exact head?_dropWhile (head?_reverse_dropWhile h)
  last c h := by
    rw [trim, String.toList_ofList, trimChars, List.getLast?_reverse] at h
    exact head?_dropWhile h

/-- Without a blank at its start, dropping blanks leaves a list as it is. -/
theorem dropWhile_eq_self {p : Char → Bool} {cs : List Char}
    (h : ∀ c, cs.head? = some c → p c = false) : cs.dropWhile p = cs := by
  cases cs with
  | nil => rfl
  | cons c rest => rw [List.dropWhile_cons, h c rfl, if_neg Bool.false_ne_true]

theorem Trims.eq_trim {text trimmed : String} (h : Trims text trimmed) : trimmed = trim text := by
  obtain ⟨⟨before, after, hsplit, hbefore, hafter⟩, hhead, hlast⟩ := h
  apply String.toList_injective
  rw [trim, String.toList_ofList]
  cases hchars : trimmed.toList with
  | nil =>
    rw [eq_comm, trimChars_eq_nil_iff, hsplit, hchars, List.append_nil, List.all_append, hbefore,
      hafter, Bool.and_self]
  | cons first rest =>
    have hfront : text.toList.dropWhile isBlankChar = trimmed.toList ++ after := by
      rw [hsplit, List.append_assoc, List.dropWhile_append_of_pos (List.all_eq_true.1 hbefore)]
      apply dropWhile_eq_self
      intro c hc
      rw [hchars] at hc hhead
      exact hhead c hc
    have hback : (trimmed.toList ++ after).reverse.dropWhile isBlankChar =
        trimmed.toList.reverse := by
      rw [List.reverse_append, List.dropWhile_append_of_pos]
      · apply dropWhile_eq_self
        intro c hc
        rw [List.head?_reverse] at hc
        exact hlast c hc
      · intro c hc
        exact List.all_eq_true.1 hafter c (List.mem_reverse.1 hc)
    rw [trimChars, hfront, hback, List.reverse_reverse, hchars]

end PanelClient.Text
