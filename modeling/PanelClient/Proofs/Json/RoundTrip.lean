import PanelClient.Json.Printer
import PanelClient.Json.Reader
import PanelClient.Proofs.Entries.Order
import PanelClient.Proofs.Json.Numerals

/-!
# What is written is read back

The text of a value that is not nested too deeply (`depth`) is read as the value but for its binary
numbers, which may come out as others, and the order of its members (`reread?`,
`parse?_render_of_reread?`). It is read as that very value (`parse?_render`) if its integers are of
the ranges of 64-bit words, it has no binary numbers, and its members stand in order (`IsPlain`).
The reader has a numeral or a word only when it sees what follows, so what is proved of each value
is that any character that can follow finds it delivered (`Reader.Holds`).
-/

namespace PanelClient.Json

open Reader

/-! ## Strings -/

theorem hexValue?_hexDigit {d : Nat} (h : d < 16) : hexValue? (hexDigit d) = some d := by
  have all : ∀ d : Fin 16, hexValue? (hexDigit d) = some d.val := by decide
  exact all ⟨d, h⟩

variable (frames : List Frame) (stage : Stage) (read : List Char)

/-- A character that needs no escape is read as itself. -/
theorem step_plain {c : Char} (hquote : c ≠ '"') (hslash : c ≠ '\\') (hprint : ¬ c.toNat < 0x20) :
    step ⟨frames, stage, .text read .none⟩ c =
      some ⟨frames, stage, .text (c :: read) .none⟩ := by
  simp [step, textStep, hquote, hslash, hprint]

/-- A control character is written as a code unit, which is read as the character. -/
theorem foldlM_unit {c : Char} (h : c.toNat < 0x20) :
    ['\\', 'u', '0', '0', hexDigit (c.toNat / 16), hexDigit (c.toNat % 16)].foldlM step
        ⟨frames, stage, .text read .none⟩ =
      some ⟨frames, stage, .text (c :: read) .none⟩ := by
  have hhigh := hexValue?_hexDigit (d := c.toNat / 16) (by omega)
  have hlow := hexValue?_hexDigit (d := c.toNat % 16) (by omega)
  have hzero : hexValue? '0' = some 0 := by decide
  have hunit : c.toNat / 16 * 16 + c.toNat % 16 = c.toNat := by omega
  have hend : endUnit read c.toNat = some (c :: read, .none) := by
    have hhalf : isHigh c.toNat = false ∧ isLow c.toNat = false := by
      simp only [isHigh, isLow, Bool.and_eq_false_iff, decide_eq_false_iff_not]
      omega
    simp [endUnit, hhalf]
  simp [step, textStep, hzero, hhigh, hlow, hunit, hend]

/-- Every character of a string is read back. -/
theorem foldlM_escapeChar (c : Char) :
    (escapeChar c).foldlM step ⟨frames, stage, .text read .none⟩ =
      some ⟨frames, stage, .text (c :: read) .none⟩ := by
  unfold escapeChar
  split
  iterate 7 rfl
  next hquote hslash _ _ _ _ _ =>
    split
    · next hcontrol => exact foldlM_unit frames stage read hcontrol
    · next hprint =>
      rw [List.foldlM_cons, step_plain frames stage read hquote hslash hprint]
      rfl

theorem foldlM_flatMap_escapeChar (cs : List Char) :
    (cs.flatMap escapeChar).foldlM step ⟨frames, stage, .text read .none⟩ =
      some ⟨frames, stage, .text (cs.reverse ++ read) .none⟩ := by
  induction cs generalizing read with
  | nil => rfl
  | cons c cs ih =>
    rw [List.flatMap_cons, List.foldlM_append, foldlM_escapeChar]
    simp [ih]

/-- A string is read where a value or a name may stand. -/
theorem foldlM_quoted (s : String) (h : stage = .value ∨ ∃ members, stage = .name members) :
    (quoted s).foldlM step ⟨frames, stage, .none⟩ =
      some (endText frames stage s.toList.reverse) := by
  have hopen : step ⟨frames, stage, .none⟩ '"' = some ⟨frames, stage, .text [] .none⟩ := by
    rcases h with rfl | ⟨members, rfl⟩ <;> rfl
  rw [quoted, List.cons_append, List.foldlM_cons, hopen, Option.bind_eq_bind, Option.bind_some,
    List.foldlM_append, foldlM_flatMap_escapeChar]
  simp [step]

theorem foldlM_text (s : String) :
    (quoted s).foldlM step ⟨frames, .value, .none⟩ = some (deliver frames (.text s)) := by
  rw [foldlM_quoted frames .value s (.inl rfl)]
  simp [endText]

theorem foldlM_name (members : Entries Json) (name : String) :
    (quoted name).foldlM step ⟨frames, .name members, .none⟩ =
      some ⟨frames, .colon members name, .none⟩ := by
  rw [foldlM_quoted frames (.name members) name (.inr ⟨members, rfl⟩)]
  simp [endText]

/-! ## Lexemes that end with what follows -/

/-- The character ends numerals and words. -/
def endsLexeme (c : Char) : Bool :=
  !isNumeralChar c && !c.isLower

/-- Whatever follows, the reader goes on as if the value had been delivered. -/
structure Reader.Holds (r : Reader) (frames : List Frame) (value : Json) : Prop where
  step : ∀ c, endsLexeme c = true → r.step c = (deliver frames value).step c
  finish : frames = [] → r.finish = some value

variable {frames stage read}

theorem step_deliver (value : Json) (c : Char) :
    (deliver frames value).step c =
      between (deliver frames value).frames (deliver frames value).stage c := by
  rcases frames with _ | ⟨_ | _, _⟩ <;> rfl

theorem holds_deliver (value : Json) : (deliver frames value).Holds frames value where
  step _ _ := rfl
  finish h := by rw [h]; rfl

theorem holds_number {cs : List Char} {value : Json} (h : number? cs = some value) :
    (Reader.mk frames .value (.number cs.reverse)).Holds frames value where
  step c hc := by
    simp only [endsLexeme, Bool.and_eq_true, Bool.not_eq_true'] at hc
    rw [step_deliver]
    simp [step, hc, h]
  finish hframes := by simp [finish, hframes, h]

theorem holds_word {cs : List Char} {value : Json} (h : word? cs = some value) :
    (Reader.mk frames .value (.word cs.reverse)).Holds frames value where
  step c hc := by
    simp only [endsLexeme, Bool.and_eq_true, Bool.not_eq_true'] at hc
    rw [step_deliver]
    simp [step, hc, h]
  finish hframes := by simp [finish, hframes, h]

theorem foldlM_numeralChars {cs : List Char} (h : ∀ c ∈ cs, isNumeralChar c = true) :
    cs.foldlM step ⟨frames, stage, .number read⟩ =
      some ⟨frames, stage, .number (cs.reverse ++ read)⟩ := by
  induction cs generalizing read with
  | nil => rfl
  | cons c cs ih =>
    have first := h c List.mem_cons_self
    have rest : ∀ d ∈ cs, isNumeralChar d = true := by
      intro d hd
      exact h d (List.mem_cons_of_mem c hd)
    simp [step, first, ih rest]

theorem beq_eq_false_of_isDigit {c d : Char} (hc : c.isDigit = true) (hd : d.isDigit = false) :
    (c == d) = false := by
  rw [beq_eq_false_iff_ne]
  rintro rfl
  rw [hc] at hd
  cases hd

theorem isSpace_of_isDigit {c : Char} (h : c.isDigit = true) : isSpace c = false := by
  simp only [isSpace, beq_eq_false_of_isDigit h (rfl : ' '.isDigit = false),
    beq_eq_false_of_isDigit h (rfl : '\n'.isDigit = false),
    beq_eq_false_of_isDigit h (rfl : '\t'.isDigit = false),
    beq_eq_false_of_isDigit h (rfl : '\r'.isDigit = false), Bool.or_self]

/-- A value that begins with a sign or a digit is a numeral. -/
theorem step_numeral {c : Char} (h : c = '-' ∨ c.isDigit = true) :
    step ⟨frames, .value, .none⟩ c = some ⟨frames, .value, .number [c]⟩ := by
  rcases h with rfl | hdigit
  · rfl
  · simp [step, between, beginValue, isSpace_of_isDigit hdigit, hdigit,
      beq_eq_false_of_isDigit hdigit (rfl : '"'.isDigit = false),
      beq_eq_false_of_isDigit hdigit (rfl : '['.isDigit = false),
      beq_eq_false_of_isDigit hdigit (rfl : '\x7b'.isDigit = false)]

theorem foldlM_numeral {cs : List Char} (h : IsNumeral cs) :
    cs.foldlM step ⟨frames, .value, .none⟩ = some ⟨frames, .value, .number cs.reverse⟩ := by
  obtain ⟨first, rest, rfl, hfirst, hrest⟩ := h
  rw [List.foldlM_cons, step_numeral hfirst]
  simp [foldlM_numeralChars hrest]

theorem holds_numeral {cs : List Char} {value : Json} (h : IsNumeral cs)
    (hvalue : number? cs = some value) :
    ∃ r, cs.foldlM step ⟨frames, .value, .none⟩ = some r ∧ r.Holds frames value :=
  ⟨_, foldlM_numeral h, holds_number hvalue⟩

/-! ## Values -/

mutual

/-- The value has no binary numbers, and integers and members as the reader leaves them. -/
def IsPlain : Json → Prop
  | null | bool _ | text _ => True
  | integer n => minSigned ≤ n ∧ n ≤ maxUnsigned
  | number _ => False
  | array items => itemsPlain items
  | object members => Entries.Sorted members ∧ membersPlain members

def itemsPlain : List Json → Prop
  | [] => True
  | item :: rest => IsPlain item ∧ itemsPlain rest

/-- The value of every member is plain. -/
def membersPlain : List (String × Json) → Prop
  | [] => True
  | (_, value) :: rest => IsPlain value ∧ membersPlain rest

end

mutual

/-- How many containers are open at once within a value. -/
def depth : Json → Nat
  | array items => itemsDepth items + 1
  | object members => membersDepth members + 1
  | _ => 0

/-- How many containers are open at once within items. -/
def itemsDepth : List Json → Nat
  | [] => 0
  | item :: rest => max (depth item) (itemsDepth rest)

/-- How many containers are open at once within members. -/
def membersDepth : List (String × Json) → Nat
  | [] => 0
  | (_, value) :: rest => max (depth value) (membersDepth rest)

end

mutual

/-- What is read of the text of a value, if the reader takes its numbers. -/
def reread? : Json → Option Json
  | integer n => number? (Decimal.intDigits n)
  | number x => number? (layout.write x)
  | array items => (rereadItems? items).map array
  | object members => (rereadMembers? members).map fun read => object (Entries.ofPairs read)
  | value => some value

def rereadItems? : List Json → Option (List Json)
  | [] => some []
  | item :: rest =>
    (reread? item).bind fun first => (rereadItems? rest).map fun read => first :: read

/-- What is read of the text of members, before they are put in order. -/
def rereadMembers? : List (String × Json) → Option (List (String × Json))
  | [] => some []
  | (name, value) :: rest =>
    (reread? value).bind fun first => (rereadMembers? rest).map fun read => (name, first) :: read

end

mutual

/-- A plain value is read as it is. -/
theorem reread?_of_isPlain (value : Json) (h : value.IsPlain) : reread? value = some value := by
  match value, h with
  | null, _ | bool _, _ | text _, _ => rfl
  | integer n, h =>
    rw [IsPlain] at h
    exact number?_intDigits h.1 h.2
  | array items, h =>
    rw [IsPlain] at h
    rw [reread?, rereadItems?_of_itemsPlain items h]
    rfl
  | object members, h =>
    rw [IsPlain] at h
    rw [reread?, rereadMembers?_of_membersPlain members h.2, Option.map_some,
      Entries.ofPairs_of_sorted h.1]

theorem rereadItems?_of_itemsPlain (items : List Json) (h : itemsPlain items) :
    rereadItems? items = some items := by
  match items, h with
  | [], _ => rfl
  | item :: rest, h =>
    rw [itemsPlain] at h
    rw [rereadItems?, reread?_of_isPlain item h.1, rereadItems?_of_itemsPlain rest h.2]
    rfl

theorem rereadMembers?_of_membersPlain (members : List (String × Json)) (h : membersPlain members) :
    rereadMembers? members = some members := by
  match members, h with
  | [], _ => rfl
  | (name, value) :: rest, h =>
    rw [membersPlain] at h
    rw [rereadMembers?, reread?_of_isPlain value h.1, rereadMembers?_of_membersPlain rest h.2]
    rfl

end

theorem IsNumeral.head {cs : List Char} (h : IsNumeral cs) :
    ∃ first rest, cs = first :: rest ∧ first ≠ ']' ∧ isSpace first = false := by
  obtain ⟨first, rest, rfl, rfl | hdigit, -⟩ := h
  · exact ⟨_, rest, rfl, by decide, by decide⟩
  · have hclose := beq_eq_false_of_isDigit hdigit (rfl : ']'.isDigit = false)
    exact ⟨first, rest, rfl, beq_eq_false_iff_ne.1 hclose, isSpace_of_isDigit hdigit⟩

/-- No value begins with what could end an array or be passed over. -/
theorem chars_head (value : Json) :
    ∃ first rest, chars value = first :: rest ∧ first ≠ ']' ∧ isSpace first = false := by
  cases value with
  | integer n => exact (isNumeral_intDigits n).head
  | number x => exact (isNumeral_write layout x).head
  | bool b => cases b <;> exact ⟨_, _, rfl, by decide, by decide⟩
  | text s => exact ⟨_, _, rfl, by decide, by decide⟩
  | null => exact ⟨_, _, rfl, by decide, by decide⟩
  | array items => exact ⟨_, _, by rw [chars]; rfl, by decide, by decide⟩
  | object members => exact ⟨_, _, by rw [chars]; rfl, by decide, by decide⟩

theorem itemsChars_cons_cons (item next : Json) (rest : List Json) :
    itemsChars (item :: next :: rest) = chars item ++ ',' :: itemsChars (next :: rest) := rfl

theorem membersChars_cons_cons (name : String) (value : Json) (next : String × Json)
    (rest : List (String × Json)) :
    membersChars ((name, value) :: next :: rest) =
      quoted name ++ ':' :: chars value ++ ',' :: membersChars (next :: rest) := rfl

theorem itemsChars_head (item : Json) (rest : List Json) :
    ∃ first others, itemsChars (item :: rest) = first :: others ∧ first ≠ ']' ∧
      isSpace first = false := by
  obtain ⟨first, others, hchars, hfirst⟩ := chars_head item
  cases rest with
  | nil => exact ⟨first, others, hchars, hfirst⟩
  | cons next rest =>
    refine ⟨first, others ++ ',' :: itemsChars (next :: rest), ?_, hfirst⟩
    rw [itemsChars_cons_cons, hchars, List.cons_append]

theorem membersChars_head (member : String × Json) (rest : List (String × Json)) :
    ∃ others, membersChars (member :: rest) = '"' :: others := by
  cases rest <;> exact ⟨_, rfl⟩

/-- A value after the opening bracket is the first item. -/
theorem foldlM_arrayStart {cs rest : List Char} {first : Char} (h : cs = first :: rest)
    (hclose : first ≠ ']') (hspace : isSpace first = false) :
    cs.foldlM step ⟨frames, .arrayStart, .none⟩ =
      cs.foldlM step ⟨.item [] :: frames, .value, .none⟩ := by
  subst h
  simp [step, between, hclose, hspace]

/-- After an item the array goes on or ends. -/
theorem Reader.Holds.afterItem {r : Reader} {before : List Json} {item : Json}
    (h : r.Holds (.item before :: frames) item) :
    r.step ',' = some ⟨.item (item :: before) :: frames, .value, .none⟩ ∧
      r.step ']' = some (deliver frames (.array (before.reverse ++ [item]))) := by
  rw [h.step ',' (by decide), h.step ']' (by decide), ← List.reverse_cons]
  exact ⟨rfl, rfl⟩

/-- After a member the object goes on or ends. -/
theorem Reader.Holds.afterMember {r : Reader} {before : Entries Json} {name : String}
    {value : Json} (h : r.Holds (.member before name :: frames) value) :
    r.step ',' = some ⟨frames, .name (before.insert name value), .none⟩ ∧
      r.step '\x7d' = some (deliver frames (.object (before.insert name value))) := by
  rw [h.step ',' (by decide), h.step '\x7d' (by decide)]
  exact ⟨rfl, rfl⟩

theorem step_open_array (h : frames.length < maxDepth) :
    step ⟨frames, .value, .none⟩ '[' = some ⟨frames, .arrayStart, .none⟩ := by
  simp [step, between, isSpace, beginValue, h]

theorem step_open_object (h : frames.length < maxDepth) :
    step ⟨frames, .value, .none⟩ '\x7b' = some ⟨frames, .objectStart, .none⟩ := by
  simp [step, between, isSpace, beginValue, h]

theorem step_colon (before : Entries Json) (name : String) :
    step ⟨frames, .colon before name, .none⟩ ':' =
      some ⟨.member before name :: frames, .value, .none⟩ := rfl

theorem rereadItems?_cons_eq {item : Json} {rest read : List Json}
    (h : rereadItems? (item :: rest) = some read) :
    ∃ first others, reread? item = some first ∧ rereadItems? rest = some others ∧
      read = first :: others := by
  rw [rereadItems?, Option.bind_eq_some_iff] at h
  obtain ⟨first, hfirst, h⟩ := h
  obtain ⟨others, hothers, rfl⟩ := Option.map_eq_some_iff.1 h
  exact ⟨first, others, hfirst, hothers, rfl⟩

theorem rereadMembers?_cons_eq {name : String} {value : Json} {rest read : List (String × Json)}
    (h : rereadMembers? ((name, value) :: rest) = some read) :
    ∃ first others, reread? value = some first ∧ rereadMembers? rest = some others ∧
      read = (name, first) :: others := by
  rw [rereadMembers?, Option.bind_eq_some_iff] at h
  obtain ⟨first, hfirst, h⟩ := h
  obtain ⟨others, hothers, rfl⟩ := Option.map_eq_some_iff.1 h
  exact ⟨first, others, hfirst, hothers, rfl⟩

mutual

/-- After the characters of a value the reader holds what is read of them. -/
theorem foldlM_chars (value : Json) {got : Json} (hgot : reread? value = some got)
    (frames : List Frame) (hdepth : frames.length + value.depth ≤ maxDepth) :
    ∃ r, (chars value).foldlM step ⟨frames, .value, .none⟩ = some r ∧ r.Holds frames got := by
  match value, hgot, hdepth with
  | null, hgot, _ =>
    cases hgot
    exact ⟨⟨frames, .value, .word ['n', 'u', 'l', 'l'].reverse⟩, rfl, holds_word rfl⟩
  | bool true, hgot, _ =>
    cases hgot
    exact ⟨⟨frames, .value, .word ['t', 'r', 'u', 'e'].reverse⟩, rfl, holds_word rfl⟩
  | bool false, hgot, _ =>
    cases hgot
    exact ⟨⟨frames, .value, .word ['f', 'a', 'l', 's', 'e'].reverse⟩, rfl, holds_word rfl⟩
  | integer n, hgot, _ => exact holds_numeral (isNumeral_intDigits n) hgot
  | number x, hgot, _ => exact holds_numeral (isNumeral_write layout x) hgot
  | text s, hgot, _ =>
    cases hgot
    exact ⟨_, foldlM_text frames s, holds_deliver _⟩
  | array [], hgot, hdepth =>
    cases hgot
    rw [depth] at hdepth
    have hopen : frames.length < maxDepth := by omega
    refine ⟨_, ?_, holds_deliver _⟩
    simp [chars, itemsChars, step, between, isSpace, beginValue, hopen]
  | array (item :: rest), hgot, hdepth =>
    obtain ⟨read, hread, rfl⟩ := Option.map_eq_some_iff.1 hgot
    rw [depth] at hdepth
    have hopen : frames.length < maxDepth := by omega
    have hitems := foldlM_items (item :: rest) hread (by simp) frames (by omega) []
    obtain ⟨first, others, hchars, hclose, hspace⟩ := itemsChars_head item rest
    have hcons : itemsChars (item :: rest) ++ [']'] = first :: (others ++ [']']) := by
      rw [hchars, List.cons_append]
    refine ⟨_, ?_, holds_deliver _⟩
    rw [chars, List.cons_append, List.foldlM_cons, step_open_array hopen, Option.bind_eq_bind,
      Option.bind_some, foldlM_arrayStart hcons hclose hspace, hitems]
    rfl
  | object [], hgot, hdepth =>
    obtain rfl : object [] = got := Option.some.inj hgot
    rw [depth] at hdepth
    have hopen : frames.length < maxDepth := by omega
    refine ⟨_, ?_, holds_deliver _⟩
    simp [chars, membersChars, step, between, isSpace, beginValue, hopen]
  | object (member :: rest), hgot, hdepth =>
    obtain ⟨read, hread, rfl⟩ := Option.map_eq_some_iff.1 hgot
    rw [depth] at hdepth
    have hopen : frames.length < maxDepth := by omega
    have hmembers := foldlM_members (member :: rest) hread (by simp) frames (by omega) []
    obtain ⟨others, hchars⟩ := membersChars_head member rest
    have hcons : membersChars (member :: rest) ++ ['\x7d'] = '"' :: (others ++ ['\x7d']) := by
      rw [hchars, List.cons_append]
    refine ⟨_, ?_, holds_deliver _⟩
    rw [chars, List.cons_append, List.foldlM_cons, step_open_object hopen, Option.bind_eq_bind,
      Option.bind_some]
    rw [hcons] at hmembers ⊢
    exact hmembers

/-- After the characters of items and a closing bracket the array is delivered. -/
theorem foldlM_items (items : List Json) {read : List Json} (hread : rereadItems? items = some read)
    (hne : items ≠ []) (frames : List Frame)
    (hdepth : frames.length + 1 + itemsDepth items ≤ maxDepth) (before : List Json) :
    (itemsChars items ++ [']']).foldlM step ⟨.item before :: frames, .value, .none⟩ =
      some (deliver frames (.array (before.reverse ++ read))) := by
  match items, hread, hdepth with
  | [item], hread, hdepth =>
    obtain ⟨got, others, hgot, hothers, rfl⟩ := rereadItems?_cons_eq hread
    cases hothers
    rw [itemsDepth] at hdepth
    obtain ⟨r, hfold, hholds⟩ := foldlM_chars item hgot (.item before :: frames)
      (by simp only [List.length_cons]; omega)
    simp only [itemsChars, List.foldlM_append, List.foldlM_cons, hfold, hholds.afterItem.2,
      Option.bind_eq_bind, Option.bind_some]
    rfl
  | item :: next :: rest, hread, hdepth =>
    obtain ⟨got, others, hgot, hothers, rfl⟩ := rereadItems?_cons_eq hread
    rw [itemsDepth] at hdepth
    obtain ⟨r, hfold, hholds⟩ := foldlM_chars item hgot (.item before :: frames)
      (by simp only [List.length_cons]; omega)
    have following := foldlM_items (next :: rest) hothers (by simp) frames (by omega)
      (got :: before)
    rw [itemsChars_cons_cons, List.append_assoc, List.foldlM_append, hfold, List.cons_append]
    simp only [Option.bind_eq_bind, Option.bind_some, List.foldlM_cons, hholds.afterItem.1,
      following]
    simp

/-- After the characters of members and a closing brace the object is delivered. -/
theorem foldlM_members (members : List (String × Json)) {read : List (String × Json)}
    (hread : rereadMembers? members = some read) (hne : members ≠ []) (frames : List Frame)
    (hdepth : frames.length + 1 + membersDepth members ≤ maxDepth) (before : Entries Json) :
    (membersChars members ++ ['\x7d']).foldlM step ⟨frames, .name before, .none⟩ =
      some (deliver frames (.object (read.foldl
        (fun (entries : Entries Json) pair => entries.insert pair.1 pair.2) before))) := by
  match members, hread, hdepth with
  | [(name, value)], hread, hdepth =>
    obtain ⟨got, others, hgot, hothers, rfl⟩ := rereadMembers?_cons_eq hread
    cases hothers
    rw [membersDepth] at hdepth
    obtain ⟨r, hfold, hholds⟩ := foldlM_chars value hgot (.member before name :: frames)
      (by simp only [List.length_cons]; omega)
    simp only [membersChars, List.foldlM_append, List.foldlM_cons, foldlM_name frames before name,
      step_colon before name, hfold, hholds.afterMember.2, Option.bind_eq_bind, Option.bind_some]
    rfl
  | (name, value) :: next :: rest, hread, hdepth =>
    obtain ⟨got, others, hgot, hothers, rfl⟩ := rereadMembers?_cons_eq hread
    rw [membersDepth] at hdepth
    obtain ⟨r, hfold, hholds⟩ := foldlM_chars value hgot (.member before name :: frames)
      (by simp only [List.length_cons]; omega)
    have following := foldlM_members (next :: rest) hothers (by simp) frames (by omega)
      (before.insert name got)
    rw [membersChars_cons_cons, List.append_assoc, List.append_assoc, List.foldlM_append,
      foldlM_name frames before name, List.cons_append]
    simp only [Option.bind_eq_bind, Option.bind_some, List.foldlM_cons, step_colon before name]
    rw [List.foldlM_append, hfold, List.cons_append]
    simp only [Option.bind_eq_bind, Option.bind_some, List.foldlM_cons, hholds.afterMember.1,
      following]
    rfl

end

/-- The text of a value that is not nested too deeply is read, if its numbers are. -/
theorem parse?_render_of_reread? {value got : Json} (hgot : reread? value = some got)
    (hdepth : value.depth ≤ maxDepth) : parse? (render value) = some got := by
  obtain ⟨r, hfold, hholds⟩ := foldlM_chars value hgot [] (by simpa using hdepth)
  rw [parse?, render, String.toList_ofList, parseChars?, start, hfold]
  exact hholds.finish rfl

/-- A plain value that is not nested too deeply is read back from its text. -/
theorem parse?_render {value : Json} (hplain : value.IsPlain) (hdepth : value.depth ≤ maxDepth) :
    parse? (render value) = some value :=
  parse?_render_of_reread? (reread?_of_isPlain value hplain) hdepth

end PanelClient.Json
