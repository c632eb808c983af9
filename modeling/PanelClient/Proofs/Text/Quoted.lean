import Mathlib.Data.List.TakeWhile
import PanelClient.Http.Address
import PanelClient.Text.Quoted

/-!
# Quoted text is unambiguous

Whatever follows, a quoted character is told apart from every other (`unquoteChar_append`), and so a
quoted text shows all of its characters: two quoted texts that are the same up to what follows are
quotations of the same text (`quote_append_inj`).
-/

namespace PanelClient.Text

/-! ## Numbers in base sixteen -/

theorem exists_of_mem_toDigits {n : Nat} {c : Char} (h : c ∈ Nat.toDigits 16 n) :
    ∃ d < 16, c = Nat.digitChar d := by
  induction n using Nat.strongRecOn with
  | ind n ih =>
    rw [Nat.toDigits_eq_if (by decide)] at h
    split at h
    · next hlt => exact ⟨n, hlt, List.mem_singleton.1 h⟩
    · rcases List.mem_append.1 h with hmore | hlast
      · exact ih (n / 16) (by omega) hmore
      · exact ⟨n % 16, Nat.mod_lt _ (by decide), List.mem_singleton.1 hlast⟩

/-- The digits of a number say which it is. -/
theorem number_toDigits (n : Nat) : Http.Address.number 16 (Nat.toDigits 16 n) = n := by
  have hdigit : ∀ d < 16, Http.Address.digitValue (Nat.digitChar d) = d := by decide
  induction n using Nat.strongRecOn with
  | ind n ih =>
    rw [Nat.toDigits_eq_if (by decide)]
    split
    · next hlt =>
      show 16 * 0 + Http.Address.digitValue (Nat.digitChar n) = n
      rw [hdigit n hlt]
      omega
    · next hge =>
      have hmore : Http.Address.number 16 (Nat.toDigits 16 (n / 16)) = n / 16 :=
        ih (n / 16) (by omega)
      have hlast := hdigit (n % 16) (Nat.mod_lt _ (by decide))
      rw [Http.Address.number] at hmore
      rw [Http.Address.number, List.foldl_append, hmore, List.foldl_cons, List.foldl_nil, hlast]
      omega

/-- No digit is a brace. -/
theorem ne_brace_of_mem_toDigits {n : Nat} {c : Char} (h : c ∈ Nat.toDigits 16 n) :
    (c != '\x7d') = true := by
  obtain ⟨d, hlt, rfl⟩ := exists_of_mem_toDigits h
  have hdigit : ∀ d < 16, (Nat.digitChar d != '\x7d') = true := by decide
  exact hdigit d hlt

/-! ## Reading a quoted character -/

/-- The character that a letter after the backslash stands for. -/
def ofLetter? : Char → Option Char
  | '0' => some '\x00'
  | 't' => some '\t'
  | 'r' => some '\r'
  | 'n' => some '\n'
  | '"' => some '"'
  | '\\' => some '\\'
  | _ => none

/-- The character that a quoted text begins with, and what follows. -/
def unquoteChar : List Char → Option (Char × List Char)
  | '\\' :: 'u' :: '\x7b' :: rest =>
    some (Char.ofNat (Http.Address.number 16 (rest.takeWhile (· != '\x7d'))),
      (rest.dropWhile (· != '\x7d')).drop 1)
  | '\\' :: letter :: rest => (ofLetter? letter).map fun c => (c, rest)
  | c :: rest => some (c, rest)
  | [] => none

theorem unquoteChar_numberEscape (c : Char) (rest : List Char) :
    unquoteChar (numberEscape c ++ rest) = some (c, rest) := by
  have hdigits : ∀ d ∈ Nat.toDigits 16 c.toNat, (d != '\x7d') = true :=
    fun _ hd => ne_brace_of_mem_toDigits hd
  have htake : (Nat.toDigits 16 c.toNat ++ '\x7d' :: rest).takeWhile (· != '\x7d') =
      Nat.toDigits 16 c.toNat := by
    rw [List.takeWhile_append_of_pos hdigits, List.takeWhile_cons_of_neg (by decide),
      List.append_nil]
  have hdrop : (Nat.toDigits 16 c.toNat ++ '\x7d' :: rest).dropWhile (· != '\x7d') =
      '\x7d' :: rest := by
    rw [List.dropWhile_append_of_pos hdigits, List.dropWhile_cons_of_neg (by decide)]
  have hshape : numberEscape c ++ rest =
      '\\' :: 'u' :: '\x7b' :: (Nat.toDigits 16 c.toNat ++ '\x7d' :: rest) := by
    simp [numberEscape]
  rw [hshape, unquoteChar, htake, hdrop, number_toDigits, Char.ofNat_toNat]
  rfl

/-- Quoting a character can be undone, whatever follows. -/
theorem unquoteChar_append (c : Char) (rest : List Char) :
    unquoteChar (quoteChar c ++ rest) = some (c, rest) := by
  unfold quoteChar
  split
  case h_7 _ _ _ _ _ hbackslash =>
    split
    · exact unquoteChar_numberEscape c rest
    · simp only [List.singleton_append]
      unfold unquoteChar
      split
      · next heq => exact absurd (List.cons.inj heq).1 hbackslash
      · next heq => exact absurd (List.cons.inj heq).1 hbackslash
      · next heq =>
        obtain ⟨rfl, rfl⟩ := List.cons.inj heq
        rfl
      · next heq => cases heq
  all_goals rfl

theorem quoteChar_append_inj {c d : Char} {x y : List Char}
    (h : quoteChar c ++ x = quoteChar d ++ y) : c = d ∧ x = y := by
  have hread := (unquoteChar_append c x).symm.trans ((congrArg unquoteChar h).trans
    (unquoteChar_append d y))
  simpa using hread

/-- A quoted character is not taken for the quotation mark at the end. -/
theorem quoteChar_append_ne (c : Char) (x y : List Char) : quoteChar c ++ x ≠ '"' :: y := by
  intro h
  have hread : unquoteChar ('"' :: y) = some ('"', y) := rfl
  rw [← h, unquoteChar_append] at hread
  obtain ⟨rfl, -⟩ : c = '"' ∧ x = y := by simpa using hread
  exact absurd (List.cons.inj h).1 (by decide)

theorem flatMap_quoteChar_append_inj {s t x y : List Char}
    (h : s.flatMap quoteChar ++ '"' :: x = t.flatMap quoteChar ++ '"' :: y) : s = t ∧ x = y := by
  induction s generalizing t with
  | nil =>
    cases t with
    | nil => exact ⟨rfl, (List.cons.inj h).2⟩
    | cons d t =>
      rw [List.flatMap_cons, List.append_assoc] at h
      exact absurd h.symm (quoteChar_append_ne d _ _)
  | cons c s ih =>
    cases t with
    | nil =>
      rw [List.flatMap_cons, List.append_assoc] at h
      exact absurd h (quoteChar_append_ne c _ _)
    | cons d t =>
      rw [List.flatMap_cons, List.flatMap_cons, List.append_assoc, List.append_assoc] at h
      obtain ⟨rfl, hrest⟩ := quoteChar_append_inj h
      obtain ⟨rfl, hx⟩ := ih hrest
      exact ⟨rfl, hx⟩

/-- A quoted text shows which text it is, and where it ends. -/
theorem quote_append_inj {s t x y : String} (h : quote s ++ x = quote t ++ y) : s = t ∧ x = y := by
  have hchars := congrArg String.toList h
  simp only [quote, String.toList_append, String.toList_ofList, List.cons_append, List.append_assoc,
    List.cons.injEq, true_and] at hchars
  obtain ⟨hs, hx⟩ := flatMap_quoteChar_append_inj hchars
  exact ⟨String.toList_injective hs, String.toList_injective hx⟩

end PanelClient.Text
