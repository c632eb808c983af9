import PanelClient.Toml.Printer
import PanelClient.Toml.Token

/-!
# Written keys and values are read as one token

Whatever form a key or a value is written in, the lexer reads it as one token with its text
(`spells_keyChars`, `spells_valueChars`). A bare key and a block only end with what follows, so what
is proved of each form is that a blank or line end after it finds the token read (`Spells`).
-/

namespace PanelClient.Toml

open Lexer

/-! ## Reading on -/

section Reading

variable {α β : Type} {step : β → α → Option β} {state next : β}

/-- What a reader makes of the beginning of a list is where it goes on with the rest. -/
theorem foldlM_append_of_eq {front : List α} (rest : List α)
    (h : front.foldlM step state = some next) :
    (front ++ rest).foldlM step state = rest.foldlM step next := by
  rw [List.foldlM_append, h]
  rfl

theorem foldlM_cons_of_eq {first : α} (rest : List α) (h : step state first = some next) :
    (first :: rest).foldlM step state = rest.foldlM step next := by
  rw [List.foldlM_cons, h]
  rfl

end Reading

/-- When a blank or a line end follows the characters, they have been read as the token. -/
def Spells (cs : List Char) (token : Token) : Prop :=
  ∀ done d, d = ' ' ∨ d = '\n' →
    (cs ++ [d]).foldlM step ⟨done, .none⟩ = some (begin (token :: done) d)

/-! ## Escapes -/

theorem hexValue?_hexDigit {d : Nat} (h : d < 16) : hexValue? (hexDigit d) = some d := by
  have all : ∀ d : Fin 16, hexValue? (hexDigit d) = some d.val := by decide
  exact all ⟨d, h⟩

/-- The places where escapes are decoded, whatever string they belong to. -/
structure Decodes (within : List Char × Escape → Lexer) : Prop where
  letter : ∀ chars c, isBlank c = false → c ≠ '\n' → c ≠ '\r' →
    step (within (chars, .backslash)) c = (escapeStep chars c).map within
  digit : ∀ chars value missing c,
    step (within (chars, .code value missing)) c = (codeStep chars value missing c).map within

theorem decodes_text (done : List Token) :
    Decodes fun next => ⟨done, .text .basic next.1 next.2⟩ where
  letter _ _ _ _ _ := rfl
  digit _ _ _ _ := rfl

theorem decodes_block (done : List Token) :
    Decodes fun next => ⟨done, .block .basic next.1 0 next.2⟩ where
  letter chars c hblank hfeed hreturn := by simp [step, blockStep, hblank, hfeed, hreturn]
  digit _ _ _ _ := rfl

/-- After a backslash the code is read as the character. -/
def Encodes (code : List Char) (c : Char) : Prop :=
  ∀ within, Decodes within → ∀ read,
    code.foldlM step (within (read, .backslash)) = some (within (c :: read, .none))

theorem encodes_letter {letter c : Char} (hblank : isBlank letter = false) (hfeed : letter ≠ '\n')
    (hreturn : letter ≠ '\r') (hcode : codeLength? letter = none)
    (hescaped : escaped? letter = some c) : Encodes [letter] c := by
  intro within hwithin read
  simp [hwithin.letter _ _ hblank hfeed hreturn, escapeStep, hcode, hescaped]

theorem encodes_unit {c : Char} (h : c.toNat < 256) :
    Encodes ['u', '0', '0', hexDigit (c.toNat / 16), hexDigit (c.toNat % 16)] c := by
  intro within hwithin read
  have hhigh := hexValue?_hexDigit (d := c.toNat / 16) (by omega)
  have hlow := hexValue?_hexDigit (d := c.toNat % 16) (by omega)
  have hzero : hexValue? '0' = some 0 := by decide
  have hunit : c.toNat / 16 * 16 + c.toNat % 16 = c.toNat := by omega
  have hchar : ofCode? c.toNat = some c := by
    have hvalid : c.toNat.isValidChar := c.valid
    rw [ofCode?, if_pos hvalid, Char.ofNat_toNat]
  have hopen : step (within (read, .backslash)) 'u' = some (within (read, .code 0 4)) :=
    hwithin.letter read 'u' rfl (by decide) (by decide)
  simp [hopen, hwithin.digit, codeStep, hzero, hhigh, hlow, hunit, hchar]

/-- A character that may stand in any string, where it is not a mark. -/
structure IsPlain (c : Char) : Prop where
  ne_backslash : c ≠ '\\'
  ne_feed : c ≠ '\n'
  ne_return : c ≠ '\r'
  isContent : isContent c = true

theorem isContent_of_not_isControl {spared : List Char} {c : Char}
    (h : isControl spared c = false) (hspared : c ∈ spared → c = '\t') : isContent c = true := by
  simp only [isControl, Bool.and_eq_false_iff, Bool.or_eq_false_iff, decide_eq_false_iff_not,
    beq_eq_false_iff_ne, Bool.not_eq_false', List.contains_iff_mem] at h
  simp only [isContent, Bool.or_eq_true, Bool.and_eq_true, decide_eq_true_eq, beq_iff_eq,
    bne_iff_ne]
  rcases h with ⟨hlow, hdelete⟩ | hmem
  · exact .inr ⟨by omega, hdelete⟩
  · exact .inl (hspared hmem)

/-- A character is written as itself or as a backslash and a code for it. -/
theorem escapeChar_cases (c : Char) :
    escapeChar c = [c] ∧ IsPlain c ∨ ∃ code, escapeChar c = '\\' :: code ∧ Encodes code c := by
  unfold escapeChar
  split
  iterate 6 exact .inr ⟨_, rfl, encodes_letter rfl (by decide) (by decide) rfl rfl⟩
  next hfeed hform hreturn hslash =>
    split
    · next hcontrol =>
      have hsmall : c.toNat < 256 := by
        simp only [isControl, Bool.and_eq_true, Bool.or_eq_true, decide_eq_true_eq, beq_iff_eq]
          at hcontrol
        omega
      exact .inr ⟨_, rfl, encodes_unit hsmall⟩
    · next hcontrol =>
      have hcontent := isContent_of_not_isControl (Bool.eq_false_iff.2 hcontrol) nofun
      exact .inl ⟨rfl, hslash, hfeed, hreturn, hcontent⟩

/-! ## Strings on one line -/

section Line

variable {done : List Token} {quote : Quote} {read : List Char}

/-- The first character of a string is read like any other. -/
theorem step_opened {c : Char} (h : c ≠ quote.mark) :
    step ⟨done, .opened quote false⟩ c = step ⟨done, .text quote [] .none⟩ c := by
  simp [step, h]

theorem step_text {c : Char} (hmark : c ≠ quote.mark) (hslash : quote = .basic → c ≠ '\\')
    (hcontent : isContent c = true) :
    step ⟨done, .text quote read .none⟩ c = some ⟨done, .text quote (c :: read) .none⟩ := by
  have hplain : (c == '\\' && quote == .basic) = false := by
    cases quote with
    | literal => exact Bool.and_false _
    | basic => simp [hslash rfl]
  simp [step, textStep, hmark, hplain, hcontent]

/-- Characters between two marks are read as the text that they are within a string. -/
theorem spells_text (quote : Quote) {inside cs : List Char}
    (hfirst : ∀ c ∈ inside.head?, c ≠ quote.mark)
    (hinside : ∀ done, inside.foldlM step ⟨done, .text quote [] .none⟩ =
      some ⟨done, .text quote cs.reverse .none⟩) :
    Spells (quote.mark :: inside ++ [quote.mark]) (.text (String.ofList cs)) := by
  intro done d hd
  have hopen : step ⟨done, .none⟩ quote.mark = some ⟨done, .opened quote false⟩ := by
    cases quote <;> rfl
  rw [List.cons_append, List.cons_append, foldlM_cons_of_eq _ hopen, List.append_assoc,
    List.singleton_append]
  cases inside with
  | nil =>
    obtain rfl : cs = [] := by simpa using hinside done
    have hsecond : step ⟨done, .opened quote false⟩ quote.mark =
        some ⟨done, .opened quote true⟩ := by
      simp [step]
    have hother : d ≠ quote.mark := by rcases hd with rfl | rfl <;> cases quote <;> decide
    have hend : step ⟨done, .opened quote true⟩ d = some (begin (.text "" :: done) d) := by
      simp [step, hother]
    rw [List.nil_append, foldlM_cons_of_eq _ hsecond, foldlM_cons_of_eq _ hend]
    rfl
  | cons first rest =>
    have hread := hinside done
    rw [List.foldlM_cons, ← step_opened (hfirst first rfl), ← List.foldlM_cons] at hread
    have hclose : step ⟨done, .text quote cs.reverse .none⟩ quote.mark =
        some ⟨.text (String.ofList cs) :: done, .none⟩ := by
      simp [step, textStep, textOf]
    rw [foldlM_append_of_eq _ hread, foldlM_cons_of_eq _ hclose]
    rfl

theorem foldlM_literal (done : List Token) (read : List Char) {cs : List Char} (hmark : '\'' ∉ cs)
    (hcontent : ∀ c ∈ cs, isContent c = true) :
    cs.foldlM step ⟨done, .text .literal read .none⟩ =
      some ⟨done, .text .literal (cs.reverse ++ read) .none⟩ := by
  induction cs generalizing read with
  | nil => rfl
  | cons c rest ih =>
    simp only [List.mem_cons, not_or] at hmark
    have hfirst : step ⟨done, .text .literal read .none⟩ c =
        some ⟨done, .text .literal (c :: read) .none⟩ :=
      step_text (Ne.symm hmark.1) nofun (hcontent c List.mem_cons_self)
    rw [foldlM_cons_of_eq _ hfirst,
      ih _ hmark.2 fun d hd => hcontent d (List.mem_cons_of_mem c hd)]
    simp

/-- A text without the mark and without control characters may stand as it is. -/
theorem spells_literal {cs : List Char} (hmark : '\'' ∉ cs)
    (hcontent : ∀ c ∈ cs, isContent c = true) :
    Spells ('\'' :: cs ++ ['\'']) (.text (String.ofList cs)) := by
  refine spells_text .literal ?_ fun done => ?_
  · rintro c hc rfl
    exact hmark (List.mem_of_mem_head? hc)
  · have hread := foldlM_literal done [] hmark hcontent
    rw [List.append_nil] at hread
    exact hread

/-- A character in a basic string, a mark included. -/
theorem foldlM_textChar (c : Char) :
    (if c == '"' then ['\\', '"'] else escapeChar c).foldlM step
        ⟨done, .text .basic read .none⟩ =
      some ⟨done, .text .basic (c :: read) .none⟩ := by
  have hslash : step ⟨done, .text .basic read .none⟩ '\\' =
      some ⟨done, .text .basic read .backslash⟩ := rfl
  by_cases hquote : c = '"'
  · subst hquote
    rfl
  · rw [if_neg (by simpa using hquote)]
    rcases escapeChar_cases c with ⟨hself, hplain⟩ | ⟨code, hcode, hencodes⟩
    · rw [hself, foldlM_cons_of_eq _ (step_text hquote (fun _ => hplain.ne_backslash)
        hplain.isContent)]
      rfl
    · rw [hcode, foldlM_cons_of_eq _ hslash]
      exact hencodes _ (decodes_text done) read

theorem foldlM_textChars (done : List Token) (read cs : List Char) :
    (textChars cs).foldlM step ⟨done, .text .basic read .none⟩ =
      some ⟨done, .text .basic (cs.reverse ++ read) .none⟩ := by
  induction cs generalizing read with
  | nil => rfl
  | cons c rest ih =>
    rw [textChars, List.flatMap_cons, foldlM_append_of_eq _ (foldlM_textChar c)]
    simpa [textChars] using ih (c :: read)

/-- Every text can be written as a basic string on one line. -/
theorem spells_basic (cs : List Char) :
    Spells ('"' :: textChars cs ++ ['"']) (.text (String.ofList cs)) := by
  refine spells_text .basic ?_ fun done => ?_
  · cases cs with
    | nil => nofun
    | cons c rest =>
      intro first hfirst
      rw [textChars, List.flatMap_cons] at hfirst
      by_cases hquote : c = '"'
      · subst hquote
        cases hfirst
        decide
      · rw [if_neg (by simpa using hquote)] at hfirst
        rcases escapeChar_cases c with ⟨hself, -⟩ | ⟨code, hcode, -⟩
        · rw [hself] at hfirst
          cases hfirst
          exact hquote
        · rw [hcode] at hfirst
          cases hfirst
          decide
  · have hread := foldlM_textChars done [] cs
    rw [List.append_nil] at hread
    exact hread

end Line

/-! ## Blocks -/

section Block

variable {done : List Token} {quote : Quote} {read : List Char} {marks : Nat}

theorem step_mark (h : marks < 4) :
    step ⟨done, .block quote read marks .none⟩ quote.mark =
      some ⟨done, .block quote read (marks + 1) .none⟩ := by
  simp [step, blockStep, blockChar, Nat.ne_of_lt h]

/-- Marks that do not end a block belong to its text when another character comes. -/
theorem step_block (quote : Quote) {c : Char} (hmarks : marks < 3) (hmark : c ≠ quote.mark)
    (hslash : quote = .basic → c ≠ '\\') (hreturn : c ≠ '\r')
    (hcontent : c = '\n' ∨ isContent c = true) :
    step ⟨done, .block quote read marks .none⟩ c =
      some ⟨done, .block quote (c :: (List.replicate marks quote.mark ++ read)) 0 .none⟩ := by
  have hplain : (c == '\\' && quote == .basic) = false := by
    cases quote with
    | literal => exact Bool.and_false _
    | basic => simp [hslash rfl]
  have hopen : ¬ 3 ≤ marks := by omega
  simp [step, blockStep, blockChar, hmark, hopen, hplain, hreturn, hcontent]

theorem step_block_backslash (done : List Token) (read : List Char) (hmarks : marks < 3) :
    step ⟨done, .block .basic read marks .none⟩ '\\' =
      some ⟨done, .block .basic (List.replicate marks '"' ++ read) 0 .backslash⟩ := by
  have hopen : ¬ 3 ≤ marks := by omega
  simp [step, blockStep, blockChar, Quote.mark, hopen]

/-- Nothing is dropped of a block that does not begin with a line end. -/
theorem step_fresh {c : Char} (hfeed : c ≠ '\n') (hreturn : c ≠ '\r') :
    step ⟨done, .block quote [] 0 .fresh⟩ c = step ⟨done, .block quote [] 0 .none⟩ c := by
  simp [step, blockStep, hfeed, hreturn]

/-- The lexer is within a block, of which it has read the text up to here. -/
def InBlock (done : List Token) (quote : Quote) (cs : List Char) (l : Lexer) : Prop :=
  ∃ read marks, marks < 3 ∧ l = ⟨done, .block quote read marks .none⟩ ∧
    List.replicate marks quote.mark ++ read = cs.reverse

/-- Up to two marks before the closing ones belong to the text. -/
theorem InBlock.close {cs : List Char} {l : Lexer} (h : InBlock done quote cs l) {d : Char}
    (hd : d = ' ' ∨ d = '\n') :
    [quote.mark, quote.mark, quote.mark, d].foldlM step l =
      some (begin (.block (String.ofList cs) :: done) d) := by
  obtain ⟨read, marks, hmarks, rfl, htext⟩ := h
  have hcs : String.ofList cs = textOf (List.replicate marks quote.mark ++ read) := by
    rw [textOf, htext, List.reverse_reverse]
  have hother : d ≠ quote.mark := by rcases hd with rfl | rfl <;> cases quote <;> decide
  rw [hcs, foldlM_cons_of_eq _ (step_mark (by omega)), foldlM_cons_of_eq _ (step_mark (by omega))]
  by_cases htwo : marks = 2
  · subst htwo
    have hlast : step ⟨done, .block quote read 4 .none⟩ quote.mark =
        some ⟨.block (textOf (List.replicate 2 quote.mark ++ read)) :: done, .none⟩ := by
      simp [step, blockStep, blockChar]
    rw [foldlM_cons_of_eq _ hlast]
    rfl
  · have hend : step ⟨done, .block quote read (marks + 1 + 1 + 1) .none⟩ d =
        some (begin (.block (textOf (List.replicate marks quote.mark ++ read)) :: done) d) := by
      simp [step, blockStep, blockChar, hother]
    rw [foldlM_cons_of_eq _ (step_mark (by omega)), foldlM_cons_of_eq _ hend]
    rfl

/-- Characters between three marks are read as the text that they are within a block. -/
theorem spells_block (quote : Quote) {lines : Bool} {inside cs : List Char}
    (hfirst : lines = false → ∀ c ∈ inside.head?, c ≠ '\n' ∧ c ≠ '\r')
    (hinside : ∀ done, ∃ l, inside.foldlM step ⟨done, .block quote [] 0 .none⟩ = some l ∧
      InBlock done quote cs l) :
    Spells (between quote.mark lines inside) (.block (String.ofList cs)) := by
  intro done d hd
  obtain ⟨l, hread, hin⟩ := hinside done
  have hrest := foldlM_append_of_eq [quote.mark, quote.mark, quote.mark, d] hread
  rw [hin.close hd] at hrest
  have hopen : [quote.mark, quote.mark, quote.mark].foldlM step ⟨done, .none⟩ =
      some ⟨done, .block quote [] 0 .fresh⟩ := by
    cases quote <;> rfl
  have hmark : quote.mark ≠ '\n' ∧ quote.mark ≠ '\r' := by cases quote <;> decide
  rw [between, List.append_assoc, List.append_assoc, foldlM_append_of_eq _ hopen]
  cases lines with
  | true =>
    have hdrop : step ⟨done, .block quote [] 0 .fresh⟩ '\n' =
        some ⟨done, .block quote [] 0 .none⟩ := rfl
    rw [if_pos rfl, List.cons_append, foldlM_cons_of_eq _ hdrop]
    exact hrest
  | false =>
    rw [if_neg Bool.false_ne_true]
    cases inside with
    | nil =>
      rw [← hrest]
      simp only [List.nil_append, List.cons_append, List.foldlM_cons,
        step_fresh hmark.1 hmark.2]
    | cons first rest =>
      obtain ⟨hfeed, hreturn⟩ := hfirst rfl first rfl
      rw [← hrest]
      simp only [List.cons_append, List.nil_append, List.foldlM_cons, step_fresh hfeed hreturn]

theorem inBlock_self (quote : Quote) (hmarks : marks < 3) :
    InBlock done quote (List.replicate marks quote.mark ++ read).reverse
      ⟨done, .block quote read marks .none⟩ :=
  ⟨read, marks, hmarks, rfl, (List.reverse_reverse _).symm⟩

/-- What is written of a text within a basic block is read back, after any text and marks. -/
theorem foldlM_blockChars (done : List Token) (read : List Char) (marks : Nat) (cs : List Char)
    (hmarks : marks < 3) :
    ∃ l, (blockChars marks cs).foldlM step ⟨done, .block .basic read marks .none⟩ = some l ∧
      InBlock done .basic ((List.replicate marks '"' ++ read).reverse ++ cs) l := by
  -- on the text; the marks so far, which the writer counts, are those that the lexer holds back
  induction cs generalizing read marks with
  | nil => exact ⟨_, rfl, by simpa [Quote.mark] using inBlock_self .basic hmarks⟩
  | cons c rest ih =>
    have hslash := step_block_backslash done read hmarks
    have hafter := ih (c :: (List.replicate marks '"' ++ read)) 0 (by omega)
    simp only [List.replicate_zero, List.nil_append, List.reverse_cons, List.append_assoc,
      List.singleton_append] at hafter
    by_cases hquote : c = '"'
    · subst hquote
      by_cases htwo : marks = 2
      · subst htwo
        obtain ⟨l, hread, hin⟩ := hafter
        have hescape : step ⟨done, .block .basic (List.replicate 2 '"' ++ read) 0 .backslash⟩ '"' =
            some ⟨done, .block .basic ('"' :: (List.replicate 2 '"' ++ read)) 0 .none⟩ := rfl
        refine ⟨l, ?_, hin⟩
        rw [blockChars, if_pos (by decide), if_pos rfl, foldlM_cons_of_eq _ hslash,
          foldlM_cons_of_eq _ hescape]
        exact hread
      · have hmark : step ⟨done, .block .basic read marks .none⟩ '"' =
            some ⟨done, .block .basic read (marks + 1) .none⟩ :=
          step_mark (by omega)
        obtain ⟨l, hread, hin⟩ := ih read (marks + 1) (by omega)
        refine ⟨l, ?_, ?_⟩
        · rw [blockChars, if_pos (by decide), if_neg htwo, foldlM_cons_of_eq _ hmark]
          exact hread
        · rw [List.replicate_succ] at hin
          simpa using hin
    · obtain ⟨l, hread, hin⟩ := hafter
      refine ⟨l, ?_, hin⟩
      by_cases hfeed : c = '\n'
      · subst hfeed
        rw [blockChars, if_neg (by decide), if_pos (by decide), foldlM_cons_of_eq _
          (step_block .basic hmarks (by decide) (fun _ => by decide) (by decide) (.inl rfl))]
        exact hread
      · rw [blockChars, if_neg (by simpa using hquote), if_neg (by simpa using hfeed)]
        rcases escapeChar_cases c with ⟨hself, hplain⟩ | ⟨code, hcode, hencodes⟩
        · rw [hself, List.singleton_append, foldlM_cons_of_eq _ (step_block .basic hmarks hquote
            (fun _ => hplain.ne_backslash) hplain.ne_return (.inr hplain.isContent))]
          exact hread
        · rw [hcode, List.cons_append, foldlM_cons_of_eq _ hslash,
            foldlM_append_of_eq _ (hencodes _ (decodes_block done) _)]
          exact hread

/-- The first character within a basic block is no line end, unless the text begins with one. -/
theorem head?_blockChars {cs : List Char} (h : '\n' ∉ cs) :
    ∀ c ∈ (blockChars 0 cs).head?, c ≠ '\n' ∧ c ≠ '\r' := by
  cases cs with
  | nil => nofun
  | cons first rest =>
    simp only [List.mem_cons, not_or] at h
    intro c hc
    rw [blockChars] at hc
    by_cases hquote : first = '"'
    · subst hquote
      cases hc
      decide
    · rw [if_neg (by simpa using hquote), if_neg (by simpa using Ne.symm h.1)] at hc
      rcases escapeChar_cases first with ⟨hself, hplain⟩ | ⟨code, hcode, -⟩
      · rw [hself] at hc
        cases hc
        exact ⟨hplain.ne_feed, hplain.ne_return⟩
      · rw [hcode] at hc
        cases hc
        decide

/-- Every text can be written as a basic block; one without line ends may begin at once. -/
theorem spells_basicBlock {lines : Bool} {cs : List Char} (h : lines = false → '\n' ∉ cs) :
    Spells (between '"' lines (blockChars 0 cs)) (.block (String.ofList cs)) := by
  refine spells_block .basic (fun hlines => head?_blockChars (h hlines)) fun done => ?_
  simpa using foldlM_blockChars done [] 0 cs (by omega)

theorem hasRun_of_append {mark : Char} (front : List Char) {cs : List Char}
    (h : hasRun mark (front ++ cs) = false) : hasRun mark cs = false := by
  induction front with
  | nil => exact h
  | cons c front ih =>
    rw [List.cons_append] at h
    unfold hasRun at h
    exact ih (Bool.or_eq_false_iff.1 h).2

theorem foldlM_literalBlock (done : List Token) (read : List Char) (marks : Nat) {cs : List Char}
    (hmarks : marks < 3)
    (hrun : hasRun '\'' (List.replicate marks '\'' ++ cs) = false)
    (hcontent : ∀ c ∈ cs, c = '\n' ∨ c ≠ '\r' ∧ isContent c = true) :
    ∃ l, cs.foldlM step ⟨done, .block .literal read marks .none⟩ = some l ∧
      InBlock done .literal ((List.replicate marks '\'' ++ read).reverse ++ cs) l := by
  induction cs generalizing read marks with
  | nil => exact ⟨_, rfl, by simpa [Quote.mark] using inBlock_self .literal hmarks⟩
  | cons c rest ih =>
    have hrest : ∀ d ∈ rest, d = '\n' ∨ d ≠ '\r' ∧ isContent d = true :=
      fun d hd => hcontent d (List.mem_cons_of_mem c hd)
    by_cases hquote : c = '\''
    · subst hquote
      have htwo : marks ≠ 2 := by
        rintro rfl
        simp [hasRun, List.replicate] at hrun
      have hshift : List.replicate marks '\'' ++ '\'' :: rest =
          List.replicate (marks + 1) '\'' ++ rest := by
        simp [List.replicate_succ']
      rw [hshift] at hrun
      obtain ⟨l, hread, hin⟩ := ih read (marks + 1) (by omega) hrun hrest
      refine ⟨l, ?_, ?_⟩
      · have hmark : step ⟨done, .block .literal read marks .none⟩ '\'' =
            some ⟨done, .block .literal read (marks + 1) .none⟩ :=
          step_mark (by omega)
        rw [foldlM_cons_of_eq _ hmark]
        exact hread
      · rw [List.replicate_succ] at hin
        simpa using hin
    · have hreturn : c ≠ '\r' := by
        rcases hcontent c List.mem_cons_self with rfl | ⟨hreturn, -⟩
        · decide
        · exact hreturn
      have hcontent : c = '\n' ∨ isContent c = true :=
        (hcontent c List.mem_cons_self).imp_right And.right
      have hrun : hasRun '\'' rest = false := by
        refine hasRun_of_append (List.replicate marks '\'' ++ [c]) ?_
        simpa using hrun
      obtain ⟨l, hread, hin⟩ := ih (c :: (List.replicate marks '\'' ++ read)) 0
        (by omega) (by simpa using hrun) hrest
      refine ⟨l, ?_, by simpa using hin⟩
      rw [foldlM_cons_of_eq _ (step_block .literal hmarks hquote nofun hreturn hcontent)]
      exact hread

/-- A text without three marks in a row and without control characters may stand in a block as it
is. -/
theorem spells_literalBlock {lines : Bool} {cs : List Char} (h : lines = false → '\n' ∉ cs)
    (hrun : hasRun '\'' cs = false)
    (hcontent : ∀ c ∈ cs, c = '\n' ∨ c ≠ '\r' ∧ isContent c = true) :
    Spells (between '\'' lines cs) (.block (String.ofList cs)) := by
  refine spells_block .literal ?_ fun done => ?_
  · rintro hlines c hc
    have hmem := List.mem_of_mem_head? hc
    rcases hcontent c hmem with rfl | ⟨hreturn, -⟩
    · exact absurd hmem (h hlines)
    · refine ⟨?_, hreturn⟩
      rintro rfl
      exact h hlines hmem
  · simpa using foldlM_literalBlock done [] 0 (by omega)
      (by simpa using hrun) hcontent

end Block

/-! ## Keys and values -/

theorem ne_of_isBareChar {c d : Char} (hc : isBareChar c = true) (hd : isBareChar d = false) :
    c ≠ d := by
  rintro rfl
  rw [hc] at hd
  cases hd

theorem begin_of_isBareChar {c : Char} (h : isBareChar c = true) (done : List Token) :
    begin done c = ⟨done, .atom [c]⟩ := by
  unfold begin
  split
  iterate 14 exact absurd h (by decide)
  rfl

theorem not_endsAtom {c : Char} (h : isBareChar c = true) : endsAtom c = false := by
  have hne (d : Char) (hd : isBareChar d = false) : (c == d) = false :=
    beq_eq_false_iff_ne.2 (ne_of_isBareChar h hd)
  simp (disch := decide) only [endsAtom, isBlank, hne, Bool.or_self]

theorem foldlM_atom {cs read : List Char} {done : List Token}
    (h : ∀ c ∈ cs, isBareChar c = true) :
    cs.foldlM step ⟨done, .atom read⟩ = some ⟨done, .atom (cs.reverse ++ read)⟩ := by
  induction cs generalizing read with
  | nil => rfl
  | cons c rest ih =>
    have hfirst : step ⟨done, .atom read⟩ c = some ⟨done, .atom (c :: read)⟩ := by
      simp [step, not_endsAtom (h c List.mem_cons_self)]
    rw [foldlM_cons_of_eq _ hfirst, ih fun d hd => h d (List.mem_cons_of_mem c hd)]
    simp

theorem spells_bare {cs : List Char} (hne : cs ≠ []) (h : ∀ c ∈ cs, isBareChar c = true) :
    Spells cs (.atom cs) := by
  intro done d hd
  cases cs with
  | nil => exact absurd rfl hne
  | cons first rest =>
    have hfirst : step ⟨done, .none⟩ first = some ⟨done, .atom [first]⟩ :=
      congrArg some (begin_of_isBareChar (h first List.mem_cons_self) done)
    have hrest : ∀ c ∈ rest, isBareChar c = true :=
      fun c hc => h c (List.mem_cons_of_mem first hc)
    have hend : step ⟨done, .atom (rest.reverse ++ [first])⟩ d =
        some (begin (.atom (first :: rest) :: done) d) := by
      have hends : endsAtom d = true := by rcases hd with rfl | rfl <;> rfl
      simp [step, hends]
    rw [List.cons_append, foldlM_cons_of_eq _ hfirst, foldlM_append_of_eq _ (foldlM_atom hrest),
      foldlM_cons_of_eq _ hend]
    rfl

/-- A key is read as its characters, if they are all of bare keys, or else as a text. -/
theorem spells_keyChars (cs : List Char) :
    cs.all isBareChar = true ∧ Spells (keyChars cs) (.atom cs) ∨
      Spells (keyChars cs) (.text (String.ofList cs)) := by
  unfold keyChars
  simp only [Bool.and_eq_true]
  split
  · next h =>
    obtain ⟨hne, hbare⟩ := h
    refine .inl ⟨hbare, spells_bare (by simpa using hne) ?_⟩
    simpa using hbare
  · split
    · exact .inr (spells_basic cs)
    · split
      · next h =>
        obtain ⟨hcontent, hquote⟩ := h
        simp only [Bool.not_eq_true', List.any_eq_false, Bool.not_eq_true] at hcontent
        refine .inr (spells_literal (by simpa using hquote) fun c hc => ?_)
        exact isContent_of_not_isControl (hcontent c hc) (by simp)
      · exact .inr (spells_basic cs)

theorem eq_of_not_isControl {c : Char} (h : isControl ['\t', '\n'] c = false) :
    c = '\n' ∨ c ≠ '\r' ∧ isContent c = true := by
  by_cases hfeed : c = '\n'
  · exact .inl hfeed
  · refine .inr ⟨?_, isContent_of_not_isControl h ?_⟩
    · rintro rfl
      cases h
    · simp [hfeed]

/-- A value is read as its text, on one line or as a block. -/
theorem spells_valueChars (cs : List Char) :
    Spells (valueChars cs) (.text (String.ofList cs)) ∨
      Spells (valueChars cs) (.block (String.ofList cs)) := by
  have hplain (h : (!cs.any (isControl ['\t', '\n'])) = true) :
      ∀ c ∈ cs, c = '\n' ∨ c ≠ '\r' ∧ isContent c = true := by
    intro c hc
    simp only [Bool.not_eq_true', List.any_eq_false, Bool.not_eq_true] at h
    exact eq_of_not_isControl (h c hc)
  have hlines : cs.contains '\n' = false → '\n' ∉ cs := by simp
  unfold valueChars
  simp only [Bool.and_eq_true]
  split
  · exact .inl (spells_basic cs)
  · split
    · next h =>
      obtain ⟨⟨hcontent, hquote⟩, hline⟩ := h
      refine .inl (spells_literal (by simpa using hquote) fun c hc => ?_)
      rcases hplain hcontent c hc with rfl | ⟨-, hc⟩
      · exact absurd hc (by simpa using hline)
      · exact hc
    · split
      · exact .inr (spells_basicBlock hlines)
      · split
        · next h =>
          obtain ⟨hcontent, hrun⟩ := h
          exact .inr (spells_literalBlock hlines (by simpa using hrun) (hplain hcontent))
        · split
          · exact .inr (spells_basicBlock nofun)
          · exact .inl (spells_basic cs)

end PanelClient.Toml
