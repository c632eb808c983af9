import Mathlib.Data.List.TakeWhile
import PanelClient.Json.Printer
import PanelClient.Json.Reader

/-!
# Numerals that are written

The decimal digits of an integer of the ranges of 64-bit words are read as that integer
(`number?_intDigits`). The digits of a number are those of its tenth and one more, and every fact
about them follows that way. The text of a binary number has the look of a numeral as well
(`isNumeral_write`), so that where it ends can be told without knowing what it is read as.
-/

namespace PanelClient.Json

open Decimal

theorem natDigits_of_lt {n : Nat} (h : n < 10) : natDigits n = [n.digitChar] :=
  Nat.toDigits_of_lt_base h

theorem natDigits_of_le {n : Nat} (h : 10 ≤ n) :
    natDigits n = natDigits (n / 10) ++ [(n % 10).digitChar] :=
  Nat.toDigits_of_base_le (by decide) h

theorem isDigit_of_mem_natDigits {n : Nat} {c : Char} (h : c ∈ natDigits n) : c.isDigit = true :=
  Nat.isDigit_of_mem_toDigits (by decide) (by decide) h

theorem natDigits_ne_nil (n : Nat) : natDigits n ≠ [] := Nat.toDigits_ne_nil

theorem digitValue_digitChar {d : Nat} (h : d < 10) : digitValue d.digitChar = d :=
  Nat.toNat_digitChar_sub_48_of_lt_ten h

/-- Only zero has a digit zero in front. -/
theorem head?_natDigits {n : Nat} (h : n ≠ 0) : (natDigits n).head? ≠ some '0' := by
  induction n using Nat.strongRecOn with
  | ind n ih =>
    by_cases hsmall : n < 10
    · rw [natDigits_of_lt hsmall]
      simpa using h
    · have hle : 10 ≤ n := Nat.not_lt.1 hsmall
      have tenth := ih (n / 10) (by omega) (by omega)
      cases hdigits : natDigits (n / 10) with
      | nil => exact absurd hdigits (natDigits_ne_nil _)
      | cons first rest =>
        rw [hdigits, List.head?_cons] at tenth
        rwa [natDigits_of_le hle, hdigits, List.cons_append, List.head?_cons]

theorem isWholePart_natDigits (n : Nat) : isWholePart (natDigits n) = true := by
  by_cases hzero : n = 0
  · subst hzero
    rfl
  · have hhead := head?_natDigits hzero
    cases hdigits : natDigits n with
    | nil => exact absurd hdigits (natDigits_ne_nil n)
    | cons first rest =>
      rw [hdigits, List.head?_cons] at hhead
      cases rest with
      | nil => rfl
      | cons second rest => simpa [isWholePart] using hhead

/-- One more digit that fits is gathered with the others. -/
theorem gatherWhole_concat {digits : List Char} {c : Char} {gathered : Nat}
    (h : gatherWhole digits = (gathered, 0)) (hfits : gathered * 10 + digitValue c ≤ maxUnsigned) :
    gatherWhole (digits ++ [c]) = (gathered * 10 + digitValue c, 0) := by
  unfold gatherWhole at h ⊢
  rw [List.foldl_append, h]
  simp [hfits]

/-- The digits of a number of the range of unsigned words fit into one. -/
theorem gatherWhole_natDigits {n : Nat} (h : n ≤ maxUnsigned) :
    gatherWhole (natDigits n) = (n, 0) := by
  induction n using Nat.strongRecOn with
  | ind n ih =>
    by_cases hsmall : n < 10
    · have digit := digitValue_digitChar hsmall
      have empty : gatherWhole [] = (0, 0) := rfl
      have gathered := gatherWhole_concat empty (c := n.digitChar) (by omega)
      rw [natDigits_of_lt hsmall]
      simpa [digit] using gathered
    · have hle : 10 ≤ n := Nat.not_lt.1 hsmall
      have digit := digitValue_digitChar (Nat.mod_lt n (by decide : 10 > 0))
      have tenth := ih (n / 10) (by omega) (by omega)
      rw [natDigits_of_le hle, gatherWhole_concat tenth (by omega), digit]
      congr 1
      omega

theorem takeWhile_natDigits (n : Nat) : (natDigits n).takeWhile Char.isDigit = natDigits n := by
  rw [List.takeWhile_eq_self_iff]
  intro c h
  exact isDigit_of_mem_natDigits h

theorem dropWhile_natDigits (n : Nat) : (natDigits n).dropWhile Char.isDigit = [] := by
  rw [List.dropWhile_eq_nil_iff]
  intro c h
  exact isDigit_of_mem_natDigits h

theorem splitMinus_intDigits (n : Int) :
    splitMinus (intDigits n) = (decide (n < 0), natDigits n.natAbs) := by
  unfold intDigits
  by_cases hneg : n < 0
  · rw [if_pos hneg, decide_eq_true hneg]
    rfl
  · rw [if_neg hneg, decide_eq_false hneg]
    unfold splitMinus
    split
    · next rest hdigits =>
      have digit : '-'.isDigit = true :=
        isDigit_of_mem_natDigits (hdigits.symm ▸ List.mem_cons_self : '-' ∈ natDigits n.natAbs)
      exact absurd digit (by decide)
    · rfl

/-- The digits of an integer are a numeral without fraction and exponent. -/
theorem ofChars?_intDigits (n : Int) :
    Numeral.ofChars? (intDigits n) = some ⟨decide (n < 0), natDigits n.natAbs, [], none⟩ := by
  have hwhole : (guard (isWholePart (natDigits n.natAbs)) : Option Unit) = some () :=
    if_pos (isWholePart_natDigits n.natAbs)
  unfold Numeral.ofChars?
  rw [splitMinus_intDigits]
  dsimp only
  rw [takeWhile_natDigits, dropWhile_natDigits, hwhole]
  rfl

/-- The digits of an integer of the ranges of 64-bit words are read as that integer. -/
theorem number?_intDigits {n : Int} (hmin : minSigned ≤ n) (hmax : n ≤ maxUnsigned) :
    number? (intDigits n) = some (.integer n) := by
  have hword : n.natAbs ≤ maxUnsigned := by
    simp only [minSigned, maxUnsigned] at *
    omega
  have hfits :
      (!decide (n < 0) || (n.natAbs != 0 && decide (n.natAbs ≤ 0x8000000000000000))) = true := by
    simp only [minSigned] at hmin
    rw [Bool.or_eq_true, Bool.and_eq_true, bne_iff_ne, decide_eq_true_eq, Bool.not_eq_true',
      decide_eq_false_iff_not]
    omega
  have hvalue : (if decide (n < 0) = true then -(n.natAbs : Int) else n.natAbs) = n := by
    simp only [decide_eq_true_eq]
    split <;> omega
  rw [number?, ofChars?_intDigits]
  simp only [Option.bind_some, Numeral.value?, gatherWhole_natDigits hword, hfits, hvalue]
  rfl

/-! ## What looks like a numeral -/

open Reader (isNumeralChar)

/-- The characters are taken for one numeral, whatever is made of it. -/
def IsNumeral (cs : List Char) : Prop :=
  ∃ first rest, cs = first :: rest ∧ (first = '-' ∨ first.isDigit = true) ∧
    ∀ c ∈ rest, isNumeralChar c = true

theorem isNumeralChar_of_isDigit {c : Char} (h : c.isDigit = true) : isNumeralChar c = true := by
  simp [isNumeralChar, h]

theorem IsNumeral.all {cs : List Char} (h : IsNumeral cs) : ∀ c ∈ cs, isNumeralChar c = true := by
  obtain ⟨first, rest, rfl, hfirst, hrest⟩ := h
  rw [List.forall_mem_cons]
  refine ⟨?_, hrest⟩
  rcases hfirst with rfl | hdigit
  · rfl
  · exact isNumeralChar_of_isDigit hdigit

theorem IsNumeral.minus {cs : List Char} (h : IsNumeral cs) : IsNumeral ('-' :: cs) :=
  ⟨'-', cs, rfl, .inl rfl, h.all⟩

theorem isNumeral_of_isDigit {first : Char} {rest : List Char} (h : first.isDigit = true)
    (hrest : ∀ c ∈ rest, isNumeralChar c = true) : IsNumeral (first :: rest) :=
  ⟨first, rest, rfl, .inr h, hrest⟩

theorem IsNumeral.append {cs more : List Char} (h : IsNumeral cs)
    (hmore : ∀ c ∈ more, isNumeralChar c = true) : IsNumeral (cs ++ more) := by
  obtain ⟨first, rest, rfl, hfirst, hrest⟩ := h
  exact ⟨first, rest ++ more, rfl, hfirst, List.forall_mem_append.2 ⟨hrest, hmore⟩⟩

/-- Digits from the first on. -/
theorem isNumeral_take_natDigits (n count : Nat) : IsNumeral ((natDigits n).take (count + 1)) := by
  have hdigits : ∀ c ∈ natDigits n, c.isDigit = true := fun _ => isDigit_of_mem_natDigits
  cases h : natDigits n with
  | nil => exact absurd h (natDigits_ne_nil n)
  | cons first rest =>
    rw [h, List.forall_mem_cons] at hdigits
    obtain ⟨hfirst, hrest⟩ := hdigits
    exact isNumeral_of_isDigit hfirst fun c hc =>
      isNumeralChar_of_isDigit (hrest c (List.mem_of_mem_take hc))

theorem isNumeral_natDigits (n : Nat) : IsNumeral (natDigits n) := by
  have h := isNumeral_take_natDigits n (natDigits n).length
  rwa [List.take_of_length_le (Nat.le_succ _)] at h

theorem isNumeral_intDigits (n : Int) : IsNumeral (intDigits n) := by
  unfold intDigits
  split
  · exact (isNumeral_natDigits _).minus
  · exact isNumeral_natDigits _

theorem isNumeralChar_zeros (count : Nat) :
    ∀ c ∈ List.replicate count '0', isNumeralChar c = true := by
  intro c hc
  rw [List.eq_of_mem_replicate hc]
  rfl

theorem isNumeral_positional (n : Nat) (lead : Int) :
    IsNumeral (positional (natDigits n) lead) := by
  have hdigits := (isNumeral_natDigits n).all
  unfold positional
  split
  · have hzeros : IsNumeral ('0' :: '.' :: List.replicate ((-lead).toNat - 1) '0') :=
      isNumeral_of_isDigit rfl (List.forall_mem_cons.2 ⟨rfl, isNumeralChar_zeros _⟩)
    exact hzeros.append hdigits
  · refine ((isNumeral_take_natDigits n _).append (isNumeralChar_zeros _)).append ?_
    refine List.forall_mem_cons.2 ⟨rfl, ?_⟩
    split
    · exact List.forall_mem_singleton.2 rfl
    · intro c hc
      exact hdigits c (List.mem_of_mem_drop hc)

theorem isNumeral_exponential (layout : Layout) (n : Nat) (lead : Int) :
    IsNumeral (exponential layout (natDigits n) lead) := by
  have hdigits := (isNumeral_natDigits n).all
  refine (((isNumeral_take_natDigits n 0).append ?_).append ?_).append (isNumeral_natDigits _).all
  · split
    · nofun
    · refine List.forall_mem_cons.2 ⟨rfl, fun c hc => ?_⟩
      exact hdigits c (List.mem_of_mem_drop hc)
  · refine List.forall_mem_cons.2 ⟨rfl, ?_⟩
    split
    · exact List.forall_mem_singleton.2 rfl
    · split
      · exact List.forall_mem_singleton.2 rfl
      · nofun

/-- The text of a binary number is a numeral. -/
theorem isNumeral_write (layout : Layout) (x : Binary64) : IsNumeral (layout.write x) := by
  have hsigned {cs : List Char} (h : IsNumeral cs) :
      IsNumeral ((if x.negative then ['-'] else []) ++ cs) := by
    cases x.negative with
    | true => exact h.minus
    | false => exact h
  unfold Layout.write
  by_cases hzero : x.isZero = true
  · rw [if_pos hzero]
    exact hsigned (isNumeral_of_isDigit (by rfl : '0'.isDigit = true)
      (List.forall_mem_cons.2 ⟨rfl, List.forall_mem_singleton.2 rfl⟩))
  · rw [if_neg hzero]
    dsimp only
    by_cases hlead : layout.leastPositional ≤
        (shortest x).exponent + ((natDigits (shortest x).digits).length : Int) - 1 ∧
      (shortest x).exponent + ((natDigits (shortest x).digits).length : Int) - 1 ≤
        layout.greatestPositional
    · rw [if_pos hlead]
      exact hsigned (isNumeral_positional _ _)
    · rw [if_neg hlead]
      exact hsigned (isNumeral_exponential _ _ _)

end PanelClient.Json
