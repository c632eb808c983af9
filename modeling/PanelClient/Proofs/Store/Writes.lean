import PanelClient.Proofs.Entries.Order
import PanelClient.Store.Basic

/-!
# What writes leave in a store

Which texts a store holds after a write that succeeds or fails: a store in a file keeps a text that
could not be written, a store that refuses a name does not (`Store.takes`). For several writes of
which the first failure ends the rest (`Store.setAll`), `Store.reached` are the texts that took
their place, and `Store.get?_setAll_of_mem` and `Store.get?_setAll_of_not_mem` say that they are all
that changed. Every write to a store that is reliable (`Store.IsReliable`) succeeds, and made again
it changes nothing (`Store.IsReliable.lasting_set_set`).
-/

namespace PanelClient

namespace Disk

/-- No write to the place fails. -/
structure IsReliable (disk : Disk) : Prop where
  ne_folder : disk.spot ≠ .folder
  ne_blocked : disk.spot ≠ .blocked
  no_faults : ∀ fault ∈ disk.faults, fault = false

theorem IsReliable.refusal?_eq_none {disk : Disk} (h : disk.IsReliable) : disk.refusal? = none := by
  unfold refusal?
  split
  · next rest hfaults =>
    have hmem : true ∈ disk.faults := by
      rw [hfaults]
      exact List.mem_cons_self
    cases h.no_faults true hmem
  · next hspot _ => exact absurd hspot h.ne_folder
  · next hspot _ => exact absurd hspot h.ne_blocked
  · rfl

/-- A write leaves its text and a disk that is as reliable. -/
theorem IsReliable.written {disk : Disk} (h : disk.IsReliable) (text : String) :
    (⟨.file text, disk.faults.drop 1⟩ : Disk).IsReliable :=
  ⟨by simp, by simp, fun fault hfault => h.no_faults fault (List.mem_of_mem_drop hfault)⟩

theorem IsReliable.write_eq {disk : Disk} (h : disk.IsReliable) (text : String) :
    disk.write text = (.ok (), ⟨.file text, disk.faults.drop 1⟩) := by
  simp only [write, h.refusal?_eq_none]

end Disk

namespace FileStore

theorem values_persist (store : FileStore) : store.persist.2.values = store.values := by
  unfold persist
  split <;> rfl

/-- What a write that succeeds leaves. -/
def wrote (store : FileStore) (name text : String) : FileStore :=
  let values := store.values.insert name text
  ⟨store.path, values, ⟨.file (Toml.render values), store.disk.faults.drop 1⟩⟩

theorem set_of_isReliable {store : FileStore} (h : store.disk.IsReliable) (name text : String) :
    store.set name text = (.ok (), store.wrote name text) := by
  simp only [set, persist, Disk.IsReliable.write_eq h, wrote]

theorem isReliable_wrote {store : FileStore} (h : store.disk.IsReliable) (name text : String) :
    (store.wrote name text).disk.IsReliable :=
  h.written _

theorem get?_set (store : FileStore) (name text other : String) :
    (store.set name text).2.get? other = if name = other then some text else store.get? other := by
  simp only [get?, set, values_persist]
  exact Entries.get?_insert ..

end FileStore

namespace Store

variable {store : Store}

/-- No write to the store fails. -/
def IsReliable : Store → Prop
  | memory _ => True
  | guarded refused _ => refused = []
  | file store => store.disk.IsReliable

/-- A write under the name changes what the store holds, whether it succeeds or not. -/
def takes (store : Store) (name : String) : Bool :=
  match store with
  | guarded refused _ => !refused.contains name
  | _ => true

@[simp] theorem takes_guarded (refused : List String) (values : Entries String) (name : String) :
    (guarded refused values).takes name = !refused.contains name := rfl

/-- After a write the name has the new text, if the store takes it, and nothing else changes. -/
theorem get?_set (store : Store) (name text other : String) :
    (store.set name text).2.get? other =
      if name = other ∧ store.takes name then some text else store.get? other := by
  cases store with
  | memory values =>
    have taken : (memory values).takes name := rfl
    simp only [taken, and_true]
    exact Entries.get?_insert ..
  | guarded refused values =>
    cases hrefused : refused.contains name with
    | true => simp [set, get?, List.contains_iff_mem.1 hrefused]
    | false =>
      have taken : (guarded refused values).takes name := by rw [takes_guarded, hrefused]; rfl
      simp only [set, hrefused, taken, and_true, Bool.false_eq_true, if_false]
      exact Entries.get?_insert ..
  | file store =>
    have taken : (file store).takes name := rfl
    simp only [taken, and_true]
    exact FileStore.get?_set ..

theorem takes_of_set_eq_ok {name text : String} (h : (store.set name text).1 = .ok ()) :
    store.takes name := by
  cases store with
  | guarded refused values =>
    simp only [set] at h
    split at h
    · simp at h
    · next htaken => simpa using htaken
  | _ => rfl

/-- What a store takes is not changed by writes. -/
theorem takes_set (store : Store) (name text other : String) :
    (store.set name text).2.takes other = store.takes other := by
  cases store with
  | guarded refused values =>
    simp only [set]
    split <;> rfl
  | _ => rfl

/-- A reliable store takes every write and stays reliable. -/
theorem IsReliable.set_eq (h : store.IsReliable) (name text : String) :
    ∃ after, store.set name text = (.ok (), after) ∧ after.IsReliable := by
  cases store with
  | memory values => exact ⟨_, rfl, trivial⟩
  | guarded refused values =>
    obtain rfl : refused = [] := h
    exact ⟨_, rfl, rfl⟩
  | file store =>
    refine ⟨file (store.wrote name text), ?_, FileStore.isReliable_wrote h name text⟩
    rw [set, FileStore.set_of_isReliable h]

/-! ## The same write again -/

/-- The store without what the disk has in stock for coming writes. -/
def lasting : Store → Store
  | file store => file { store with disk := .holding store.disk.spot }
  | store => store

/-- If writes succeed, one that is made again leaves the same behind. -/
theorem IsReliable.lasting_set_set (h : store.IsReliable) (name text : String) :
    ((store.set name text).2.set name text).2.lasting = (store.set name text).2.lasting := by
  cases store with
  | memory values => exact congrArg memory (Entries.insert_insert values name text text)
  | guarded refused values =>
    obtain rfl : refused = [] := h
    exact congrArg (guarded []) (Entries.insert_insert values name text text)
  | file store =>
    have hwrote := FileStore.set_of_isReliable h name text
    have hagain := FileStore.set_of_isReliable (FileStore.isReliable_wrote h name text) name text
    simp only [set, hwrote, hagain]
    simp only [lasting, FileStore.wrote, Entries.insert_insert]

/-! ## Several writes -/

/-- Puts texts under names, one after the other. The first that cannot be written ends it. -/
def setAll (store : Store) : List (String × String) → Except StoreError Unit × Store
  | [] => (.ok (), store)
  | (name, text) :: rest =>
    match store.set name text with
    | (.ok (), store) => store.setAll rest
    | (.error error, store) => (.error error, store)

/-- The texts that take their place when they are put under their names one after the other. -/
def reached (store : Store) : List (String × String) → List (String × String)
  | [] => []
  | (name, text) :: rest =>
    match store.set name text with
    | (.ok (), after) => (name, text) :: after.reached rest
    | (.error _, _) => if store.takes name then [(name, text)] else []

theorem reached_subset (store : Store) (pairs : List (String × String)) :
    store.reached pairs ⊆ pairs := by
  induction pairs generalizing store with
  | nil => exact List.Subset.refl _
  | cons pair rest ih =>
    obtain ⟨name, text⟩ := pair
    simp only [reached]
    split
    · next after _ => exact List.cons_subset_cons _ (ih after)
    · split
      · exact List.cons_subset_cons _ (List.nil_subset _)
      · exact List.nil_subset _

theorem get?_setAll_of_not_mem {pairs : List (String × String)} {name : String}
    (h : name ∉ (store.reached pairs).map Prod.fst) :
    (store.setAll pairs).2.get? name = store.get? name := by
  induction pairs generalizing store with
  | nil => rfl
  | cons pair rest ih =>
    obtain ⟨key, text⟩ := pair
    have first := get?_set store key text name
    simp only [reached] at h
    simp only [setAll]
    split at h
    · next after hset =>
      simp only [List.map_cons, List.mem_cons, not_or] at h
      simp only [hset] at first ⊢
      rw [ih h.2, first, if_neg fun e => h.1 e.1.symm]
    · next error after hset =>
      simp only [hset] at first ⊢
      rw [first, if_neg]
      rintro ⟨rfl, htakes⟩
      simp [htakes] at h

theorem get?_setAll_of_mem {pairs : List (String × String)} {name text : String}
    (hnodup : (pairs.map Prod.fst).Nodup) (h : (name, text) ∈ store.reached pairs) :
    (store.setAll pairs).2.get? name = some text := by
  induction pairs generalizing store with
  | nil => cases h
  | cons pair rest ih =>
    obtain ⟨key, value⟩ := pair
    have first := get?_set store key value name
    rw [List.map_cons, List.nodup_cons] at hnodup
    simp only [reached] at h
    simp only [setAll]
    split at h
    · next after hset =>
      have taken : store.takes key := takes_of_set_eq_ok (by rw [hset])
      simp only [hset] at first ⊢
      rcases List.mem_cons.1 h with heq | hrest
      · obtain ⟨rfl, rfl⟩ := Prod.mk.inj heq
        -- No later pair has this name, so what was put first stays.
        have fresh : name ∉ (after.reached rest).map Prod.fst := fun hmem =>
          hnodup.1 (List.map_subset _ (reached_subset after rest) hmem)
        rw [get?_setAll_of_not_mem fresh, first, if_pos ⟨rfl, taken⟩]
      · exact ih hnodup.2 hrest
    · next error after hset =>
      simp only [hset] at first ⊢
      split at h
      · next taken =>
        obtain ⟨rfl, rfl⟩ := Prod.mk.inj (List.mem_singleton.1 h)
        rw [first, if_pos ⟨rfl, taken⟩]
      · cases h

theorem takes_setAll (store : Store) (pairs : List (String × String)) (name : String) :
    (store.setAll pairs).2.takes name = store.takes name := by
  induction pairs generalizing store with
  | nil => rfl
  | cons pair rest ih =>
    have hfirst := store.takes_set pair.1 pair.2 name
    simp only [setAll]
    split
    · next after hset =>
      rw [hset] at hfirst
      exact (ih after).trans hfirst
    · next error after hset =>
      rw [hset] at hfirst
      exact hfirst

/-- A reliable store takes all texts and stays reliable. -/
theorem IsReliable.setAll_eq (h : store.IsReliable) (pairs : List (String × String)) :
    ∃ after, store.setAll pairs = (.ok (), after) ∧ after.IsReliable := by
  induction pairs generalizing store with
  | nil => exact ⟨store, rfl, h⟩
  | cons pair rest ih =>
    obtain ⟨after, hset, kept⟩ := h.set_eq pair.1 pair.2
    simp only [setAll, hset]
    exact ih kept

theorem IsReliable.setAll_snd (h : store.IsReliable) (pairs : List (String × String)) :
    (store.setAll pairs).2 = pairs.foldl (fun store pair => (store.set pair.1 pair.2).2) store := by
  induction pairs generalizing store with
  | nil => rfl
  | cons pair rest ih =>
    obtain ⟨after, hset, kept⟩ := h.set_eq pair.1 pair.2
    simp only [setAll, List.foldl_cons, hset]
    exact ih kept

theorem IsReliable.reached_eq (h : store.IsReliable) (pairs : List (String × String)) :
    store.reached pairs = pairs := by
  induction pairs generalizing store with
  | nil => rfl
  | cons pair rest ih =>
    obtain ⟨after, hset, kept⟩ := h.set_eq pair.1 pair.2
    simp only [reached, hset]
    rw [ih kept]

end Store

end PanelClient
