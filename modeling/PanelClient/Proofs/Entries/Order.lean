import Mathlib.Data.List.Induction
import PanelClient.Entries

/-!
# The order of entries

Entries that are made by insertion stand in strictly rising order (`Sorted.insert`,
`sorted_ofPairs`), and what comes in order is appended (`insert_eq_concat`). Pairs with different
names are all kept (`mem_ofPairs`) and found (`get?_ofPairs`).
-/

namespace PanelClient.Entries

variable {α : Type} {entries : Entries α} {name : String} {value : α}

theorem insert_cons_of_lt {key : String} (h : name < key) (value old : α) (rest : Entries α) :
    insert name value ((key, old) :: rest) = (name, value) :: (key, old) :: rest := by
  have hne : name ≠ key := fun heq => String.lt_irrefl key (heq ▸ h)
  rw [insert, if_neg hne, if_pos h]

theorem mem_insert {pair : String × α} (h : pair ∈ entries.insert name value) :
    pair = (name, value) ∨ pair ∈ entries := by
  induction entries with
  | nil => exact .inl (List.mem_singleton.1 h)
  | cons first rest ih =>
    obtain ⟨key, old⟩ := first
    simp only [insert] at h
    split at h
    · rcases List.mem_cons.1 h with heq | hrest
      · exact .inl heq
      · exact .inr (List.mem_cons_of_mem _ hrest)
    · split at h
      · rcases List.mem_cons.1 h with heq | hrest
        · exact .inl heq
        · exact .inr hrest
      · rcases List.mem_cons.1 h with heq | hrest
        · exact .inr (heq ▸ List.mem_cons_self)
        · exact (ih hrest).imp id (List.mem_cons_of_mem _)

theorem mem_insert_self (entries : Entries α) (name : String) (value : α) :
    (name, value) ∈ entries.insert name value := by
  induction entries with
  | nil => exact List.mem_singleton_self _
  | cons first rest ih =>
    obtain ⟨key, old⟩ := first
    simp only [insert]
    split
    · exact List.mem_cons_self
    · split
      · exact List.mem_cons_self
      · exact List.mem_cons_of_mem _ ih

/-- What stands under another name stays. -/
theorem mem_insert_of_ne {pair : String × α} (h : pair ∈ entries) (hne : pair.1 ≠ name) :
    pair ∈ entries.insert name value := by
  induction entries with
  | nil => cases h
  | cons first rest ih =>
    obtain ⟨key, old⟩ := first
    simp only [insert]
    split
    · next heq =>
      rcases List.mem_cons.1 h with rfl | hrest
      · exact absurd heq.symm hne
      · exact List.mem_cons_of_mem _ hrest
    · split
      · exact List.mem_cons_of_mem _ h
      · rcases List.mem_cons.1 h with rfl | hrest
        · exact List.mem_cons_self
        · exact List.mem_cons_of_mem _ (ih hrest)

theorem Sorted.insert (h : Sorted entries) (name : String) (value : α) :
    Sorted (entries.insert name value) := by
  induction entries with
  | nil => exact List.pairwise_singleton ..
  | cons first rest ih =>
    obtain ⟨key, old⟩ := first
    obtain ⟨hfirst, hrest⟩ := List.pairwise_cons.1 h
    simp only [Entries.insert]
    split
    · next heq =>
      subst heq
      exact List.pairwise_cons.2 ⟨hfirst, hrest⟩
    · split
      · next hlt =>
        refine List.pairwise_cons.2 ⟨fun pair hpair => ?_, h⟩
        rcases List.mem_cons.1 hpair with rfl | hmem
        · exact hlt
        · exact String.lt_trans hlt (hfirst pair hmem)
      · next hne hge =>
        refine List.pairwise_cons.2 ⟨fun pair hpair => ?_, ih hrest⟩
        rcases mem_insert hpair with rfl | hmem
        · exact Std.lt_of_le_of_ne (String.not_lt.1 hge) (Ne.symm hne)
        · exact hfirst pair hmem

/-- Of two values set under one name the second stands. -/
theorem insert_insert (entries : Entries α) (name : String) (first second : α) :
    (entries.insert name first).insert name second = entries.insert name second := by
  induction entries with
  | nil => simp [Entries.insert]
  | cons entry rest ih =>
    obtain ⟨key, old⟩ := entry
    simp only [Entries.insert]
    by_cases heq : name = key
    · simp [heq, Entries.insert]
    · by_cases hlt : name < key
      · simp [heq, hlt, Entries.insert]
      · simp [heq, hlt, Entries.insert, ih]

theorem insert_eq_concat (value : α) (h : ∀ entry ∈ entries, entry.1 < name) :
    entries.insert name value = entries ++ [(name, value)] := by
  induction entries with
  | nil => rfl
  | cons entry rest ih =>
    obtain ⟨key, old⟩ := entry
    have hlt : key < name := h (key, old) List.mem_cons_self
    have hne : name ≠ key := by
      rintro rfl
      exact String.lt_irrefl name hlt
    have hge : ¬ name < key := by
      intro hgt
      exact String.lt_irrefl key (String.lt_trans hlt hgt)
    have hrest : ∀ entry ∈ rest, entry.1 < name := by
      intro entry hentry
      exact h entry (List.mem_cons_of_mem (key, old) hentry)
    simp only [Entries.insert, if_neg hne, if_neg hge, List.cons_append]
    rw [ih hrest]

theorem Sorted.lt_of_append {before rest : Entries α}
    (h : Sorted (before ++ (name, value) :: rest)) :
    ∀ entry ∈ before, entry.1 < name := by
  intro entry hentry
  obtain ⟨-, -, hacross⟩ := List.pairwise_append.1 h
  exact hacross entry hentry (name, value) List.mem_cons_self

theorem get?_eq_none_of_lt (h : ∀ entry ∈ entries, entry.1 < name) : entries.get? name = none := by
  induction entries with
  | nil => rfl
  | cons entry rest ih =>
    obtain ⟨key, old⟩ := entry
    have hne : key ≠ name := by
      rintro rfl
      exact String.lt_irrefl key (h (key, old) List.mem_cons_self)
    rw [get?_cons, if_neg hne]
    exact ih fun entry hentry => h entry (List.mem_cons_of_mem (key, old) hentry)

theorem get?_eq_none_of_fresh (h : name ∉ entries.map Prod.fst) : entries.get? name = none := by
  induction entries with
  | nil => rfl
  | cons entry rest ih =>
    obtain ⟨key, value⟩ := entry
    rw [List.map_cons, List.mem_cons, not_or] at h
    obtain ⟨hkey, hrest⟩ := h
    rw [get?_cons, if_neg (Ne.symm hkey), ih hrest]

/-- If no name stands twice, what is kept is found where it was, and what is dropped is not found
anywhere else. -/
theorem get?_filter (h : (entries.map Prod.fst).Nodup) (keep : String × α → Bool) (name : String) :
    get? name (entries.filter keep) =
      (entries.get? name).filter fun value => keep (name, value) := by
  induction entries with
  | nil => rfl
  | cons entry rest ih =>
    obtain ⟨key, value⟩ := entry
    obtain ⟨hfresh, hrest⟩ := List.nodup_cons.1 h
    rw [List.filter_cons, get?_cons]
    by_cases hkey : key = name
    · subst hkey
      rw [if_pos rfl, Option.filter_some]
      split
      · rw [get?_cons, if_pos rfl]
      · rw [ih hrest, get?_eq_none_of_fresh hfresh, Option.filter_none]
    · rw [if_neg hkey, ← ih hrest]
      split
      · rw [get?_cons, if_neg hkey]
      · rfl

theorem ofPairs_concat (pairs : List (String × α)) (name : String) (value : α) :
    ofPairs (pairs ++ [(name, value)]) = (ofPairs pairs).insert name value := by
  simp [ofPairs]

/-- Pairs in order are entries as they are. -/
theorem ofPairs_of_sorted {pairs : List (String × α)} (h : Sorted pairs) :
    ofPairs pairs = pairs := by
  induction pairs using List.reverseRecOn with
  | nil => rfl
  | append_singleton pairs last ih =>
    rw [ofPairs_concat, ih (List.pairwise_append.1 h).1, insert_eq_concat _ (Sorted.lt_of_append h)]

/-- Two pairs in the wrong order change places. -/
theorem ofPairs_pair_of_lt {first second : String} (h : second < first) (a b : α) :
    ofPairs [(first, a), (second, b)] = [(second, b), (first, a)] :=
  insert_cons_of_lt h b a []

theorem sorted_ofPairs (pairs : List (String × α)) : Sorted (ofPairs pairs) := by
  induction pairs using List.reverseRecOn with
  | nil => exact List.Pairwise.nil
  | append_singleton pairs pair ih =>
    rw [ofPairs_concat]
    exact ih.insert ..

theorem mem_of_mem_ofPairs {pairs : List (String × α)} {pair : String × α}
    (h : pair ∈ ofPairs pairs) : pair ∈ pairs := by
  induction pairs using List.reverseRecOn with
  | nil => exact h
  | append_singleton pairs last ih =>
    rw [ofPairs_concat] at h
    rcases mem_insert h with rfl | hmem
    · simp
    · exact List.mem_append_left _ (ih hmem)

/-- Of pairs with different names, all are entries. -/
theorem mem_ofPairs {pairs : List (String × α)} (hnodup : (pairs.map Prod.fst).Nodup)
    {pair : String × α} : pair ∈ ofPairs pairs ↔ pair ∈ pairs := by
  refine ⟨mem_of_mem_ofPairs, fun h => ?_⟩
  induction pairs using List.reverseRecOn with
  | nil => cases h
  | append_singleton pairs last ih =>
    rw [List.map_append, List.nodup_append] at hnodup
    obtain ⟨hbefore, -, hdistinct⟩ := hnodup
    rw [ofPairs_concat]
    rcases List.mem_append.1 h with hmem | hlast
    · exact mem_insert_of_ne (ih hbefore hmem)
        (hdistinct pair.1 (List.mem_map_of_mem hmem) last.1 (by simp))
    · obtain rfl := List.mem_singleton.1 hlast
      exact mem_insert_self ..

/-- Of pairs with different names, each is found. -/
theorem get?_ofPairs {pairs : List (String × α)} (hnodup : (pairs.map Prod.fst).Nodup)
    (name : String) : get? name (ofPairs pairs) = get? name pairs := by
  have hfold (before : Entries α) :
      get? name (pairs.foldl (fun entries pair => insert pair.1 pair.2 entries) before) =
        (get? name pairs).or (get? name before) := by
    induction pairs generalizing before with
    | nil => rfl
    | cons pair rest ih =>
      obtain ⟨key, value⟩ := pair
      obtain ⟨hfresh, hrest⟩ := List.nodup_cons.1 hnodup
      rw [List.foldl_cons, ih hrest, get?_insert, get?_cons]
      by_cases hkey : key = name
      · subst hkey
        rw [get?_eq_none_of_fresh hfresh, if_pos rfl, if_pos rfl, Option.none_or, Option.some_or]
      · rw [if_neg hkey, if_neg hkey]
  rw [ofPairs, hfold, get?_nil, Option.or_none]

end PanelClient.Entries
