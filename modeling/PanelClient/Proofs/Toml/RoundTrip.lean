import PanelClient.Proofs.Entries.Order
import PanelClient.Proofs.Toml.Strings
import PanelClient.Toml.Document

/-!
# What is written is read back

The text of a flat table is read as the document with that table (`parse?_render`), if its keys
stand in order. A line is read as six tokens, which put the value under its key.
-/

namespace PanelClient.Toml

open Lexer

variable {done : List Token}

/-! ## The tokens of a line -/

theorem keyChars_head (cs : List Char) :
    ∃ first rest, keyChars cs = first :: rest ∧ first ≠ '\ufeff' := by
  unfold keyChars
  dsimp only
  split
  · next h =>
    simp only [Bool.and_eq_true, Bool.not_eq_true', List.isEmpty_eq_false_iff] at h
    obtain ⟨first, rest, rfl⟩ := List.exists_cons_of_ne_nil h.1
    have hbare : isBareChar first = true := List.all_eq_true.1 h.2 first List.mem_cons_self
    exact ⟨first, rest, rfl, ne_of_isBareChar hbare rfl⟩
  · split
    · exact ⟨_, _, rfl, by decide⟩
    · split <;> exact ⟨_, _, rfl, by decide⟩

theorem valueChars_head (cs : List Char) :
    ∃ first rest, valueChars cs = first :: rest ∧ isBlank first = false := by
  unfold valueChars
  dsimp only
  split
  · exact ⟨_, _, rfl, rfl⟩
  · split
    · exact ⟨_, _, rfl, rfl⟩
    · split
      · exact ⟨_, _, rfl, rfl⟩
      · split
        · exact ⟨_, _, rfl, rfl⟩
        · split <;> exact ⟨_, _, rfl, rfl⟩

/-- After a blank a token begins as it does elsewhere. -/
theorem foldlM_blank {cs : List Char}
    (h : ∃ first rest, cs = first :: rest ∧ isBlank first = false) :
    cs.foldlM step ⟨done, .blank true⟩ = cs.foldlM step ⟨.blank true :: done, .none⟩ := by
  obtain ⟨first, rest, rfl, hfirst⟩ := h
  simp [step, hfirst]

/-- The tokens of a line with a key and a text. -/
def IsLine (key value : String) (tokens : List Token) : Prop :=
  ∃ name text, Reader.keyPart? name = some key ∧ (text = .text value ∨ text = .block value) ∧
    tokens = [name, .blank true, .equals, .blank true, text, .newline]

theorem exists_keyToken (key : String) :
    ∃ name, Spells (keyChars key.toList) name ∧ Reader.keyPart? name = some key := by
  rcases spells_keyChars key.toList with ⟨hbare, hspells⟩ | hspells
  · refine ⟨_, hspells, ?_⟩
    have hkey : key.toList.all Reader.isKeyChar = true := hbare
    rw [Reader.keyPart?, if_pos hkey, String.ofList_toList]
  · exact ⟨_, hspells, by rw [Reader.keyPart?, String.ofList_toList]⟩

theorem exists_valueToken (value : String) :
    ∃ text, Spells (valueChars value.toList) text ∧ (text = .text value ∨ text = .block value) := by
  rcases spells_valueChars value.toList with hspells | hspells
  · exact ⟨_, hspells, .inl (by rw [String.ofList_toList])⟩
  · exact ⟨_, hspells, .inr (by rw [String.ofList_toList])⟩

theorem foldlM_lineChars (key value : String) :
    ∃ tokens, IsLine key value tokens ∧ ∀ done,
      (lineChars key value).foldlM step ⟨done, .none⟩ = some ⟨tokens.reverse ++ done, .none⟩ := by
  obtain ⟨name, hname, hkey⟩ := exists_keyToken key
  obtain ⟨text, htext, hvalue⟩ := exists_valueToken value
  refine ⟨_, ⟨name, text, hkey, hvalue, rfl⟩, fun done => ?_⟩
  have hchars : lineChars key value =
      (keyChars key.toList ++ [' ']) ++ '=' :: ' ' :: (valueChars value.toList ++ ['\n']) := by
    simp [lineChars]
  have hequals : step ⟨name :: done, .blank true⟩ '=' =
      some ⟨.equals :: .blank true :: name :: done, .none⟩ := rfl
  have hspace : step ⟨.equals :: .blank true :: name :: done, .none⟩ ' ' =
      some ⟨.equals :: .blank true :: name :: done, .blank true⟩ := rfl
  have hhead : ∃ first rest, valueChars value.toList ++ ['\n'] = first :: rest ∧
      isBlank first = false := by
    obtain ⟨first, rest, hcons, hfirst⟩ := valueChars_head value.toList
    exact ⟨first, rest ++ ['\n'], by rw [hcons, List.cons_append], hfirst⟩
  rw [hchars, foldlM_append_of_eq _ (hname done ' ' (.inl rfl)), begin, foldlM_cons_of_eq _ hequals,
    foldlM_cons_of_eq _ hspace, foldlM_blank hhead, htext _ '\n' (.inr rfl)]
  rfl

/-! ## Reading a line -/

/-- The members of the document with a flat table of texts. -/
def document (entries : Entries String) : Members :=
  entries.map fun (key, value) => (key, .text value)

theorem insert_document {entries : Entries String} {key : String} (value : String)
    (h : ∀ entry ∈ entries, entry.1 < key) :
    (document entries).insert key (.text value) = document (entries ++ [(key, value)]) := by
  have hmembers : ∀ member ∈ document entries, member.1 < key := by
    intro member hmember
    obtain ⟨entry, hentry, rfl⟩ := List.mem_map.1 hmember
    exact h entry hentry
  rw [Entries.insert_eq_concat _ hmembers, document, document, List.map_append]
  rfl

/-- A line puts its value under its key, which must be new. -/
theorem foldlM_line {key value : String} {tokens : List Token} (h : IsLine key value tokens)
    {root : Members} (hfresh : root.get? key = none) (target : List String) :
    tokens.foldlM Reader.step ⟨root, [], target, [], .line⟩ =
      some ⟨root.insert key (.text value), [], [key], [], .line⟩ := by
  obtain ⟨name, text, hname, htext, rfl⟩ := h
  have hkey : Reader.step ⟨root, [], target, [], .line⟩ name =
      some ⟨root, [], target, [], .keyEnd .assignment [key]⟩ := by
    cases name with
    | atom chars => simp [Reader.step, Reader.between, hname]
    | text value => simp [Reader.step, Reader.between, hname]
    | _ => cases hname
  have hassign : assignIn [] [key] (.text value) root = some (root.insert key (.text value)) := by
    simp [assignIn, assign, reach, Entries.contains, hfresh]
  have hdeliver : Reader.deliver ⟨root, [], [key], [], .value⟩ (.text value) =
      some ⟨root.insert key (.text value), [], [key], [], .lineEnd⟩ := by
    simp [Reader.deliver, hassign]
  have hvalue : Reader.step ⟨root, [], [key], [], .value⟩ text =
      some ⟨root.insert key (.text value), [], [key], [], .lineEnd⟩ := by
    rcases htext with rfl | rfl <;> exact hdeliver
  rw [foldlM_cons_of_eq _ hkey]
  exact foldlM_cons_of_eq [Token.newline] hvalue

/-! ## Documents -/

/-- Lines in order are read as the entries after those before. -/
theorem exists_tokens (before entries : Entries String)
    (hsorted : Entries.Sorted (before ++ entries)) (target : List String) :
    ∃ (tokens : List Token) (last : List String),
      (∀ done, (entries.flatMap fun (key, value) => lineChars key value).foldlM step
        ⟨done, .none⟩ = some ⟨tokens.reverse ++ done, .none⟩) ∧
      tokens.foldlM Reader.step ⟨document before, [], target, [], .line⟩ =
        some ⟨document (before ++ entries), [], last, [], .line⟩ := by
  induction entries generalizing before target with
  | nil => exact ⟨[], target, fun done => rfl, by rw [List.append_nil]; rfl⟩
  | cons entry rest ih =>
    obtain ⟨key, value⟩ := entry
    obtain ⟨line, hline, hlexed⟩ := foldlM_lineChars key value
    obtain ⟨tokens, last, hrest, hread⟩ := ih (before ++ [(key, value)]) (by simpa using hsorted)
      [key]
    have hlt := hsorted.lt_of_append
    have hfresh : (document before).get? key = none := by
      refine Entries.get?_eq_none_of_lt fun member hmember => ?_
      obtain ⟨entry, hentry, rfl⟩ := List.mem_map.1 hmember
      exact hlt entry hentry
    refine ⟨line ++ tokens, last, fun done => ?_, ?_⟩
    · rw [List.flatMap_cons, foldlM_append_of_eq _ (hlexed done), hrest]
      simp
    · rw [foldlM_append_of_eq _ (foldlM_line hline hfresh target), insert_document value hlt, hread]
      simp

theorem dropMark_render (entries : Entries String) :
    dropMark (render entries).toList =
      entries.flatMap fun (key, value) => lineChars key value := by
  rw [render, String.toList_ofList]
  cases entries with
  | nil => rfl
  | cons entry rest =>
    obtain ⟨key, value⟩ := entry
    obtain ⟨first, others, hkey, hmark⟩ := keyChars_head key.toList
    simp only [List.flatMap_cons, lineChars, hkey, List.cons_append]
    unfold dropMark
    split
    · next heq => exact absurd (List.cons.inj heq).1 hmark
    · rfl

/-- A flat table of texts is read back from its text. -/
theorem parse?_render {entries : Entries String} (h : entries.Sorted) :
    parse? (render entries) = some (document entries) := by
  obtain ⟨tokens, last, hlexed, hread⟩ := exists_tokens [] entries h []
  have htokens : tokens? (render entries) = some tokens := by
    rw [tokens?, dropMark_render, hlexed]
    simp [Lexer.finish]
  rw [parse?, htokens, Option.bind_eq_bind, Option.bind_some, Reader.start]
  have hstart : tokens.foldlM Reader.step ⟨[], [], [], [], .line⟩ = _ := hread
  rw [hstart]
  rfl

end PanelClient.Toml
