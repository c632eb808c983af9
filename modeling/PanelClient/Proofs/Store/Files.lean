import PanelClient.Proofs.Store.Writes
import PanelClient.Proofs.Toml.Ordered
import PanelClient.Proofs.Toml.RoundTrip

/-!
# The files of stores

What a write does to the file (`FileStore.persist_cases`), and what is found when a store is opened.
What has been written is found again (`FileStore.openAt_of_persist`).
-/

namespace PanelClient

namespace Disk

/-- A write puts the text in place, or fails and leaves the place as it was. -/
theorem write_cases (disk : Disk) (text : String) :
    (∃ after, disk.write text = (.ok (), after) ∧ after.spot = .file text) ∨
      ∃ cause after, disk.write text = (.error cause, after) ∧ after.spot = disk.spot := by
  unfold write
  split
  · exact .inr ⟨_, _, rfl, rfl⟩
  · exact .inl ⟨_, rfl, rfl⟩

theorem text?_eq_some {disk : Disk} {text : String} :
    disk.text? = some text ↔ disk.spot = .file text := by
  obtain ⟨spot, faults⟩ := disk
  cases spot <;> simp [text?]

end Disk

namespace FileStore

variable {store : FileStore} {path : String} {disk : Disk}

/-! ## Texts of documents -/

theorem texts?_document (entries : Entries String) :
    texts? (Toml.document entries) = some entries := by
  induction entries with
  | nil => rfl
  | cons entry rest ih =>
    obtain ⟨name, text⟩ := entry
    have hrest : (Toml.document rest).mapM _ = some rest := ih
    rw [Toml.document, List.map_cons, texts?, List.mapM_cons]
    simp only [Option.pure_def, Option.bind_eq_bind, Option.bind_some]
    rw [← Toml.document, hrest]
    rfl

/-- A document of texts is the document of its texts. -/
theorem document_of_texts? {members : Toml.Members} {entries : Entries String}
    (h : texts? members = some entries) : members = Toml.document entries := by
  induction members generalizing entries with
  | nil =>
    cases h
    rfl
  | cons member rest ih =>
    obtain ⟨name, value⟩ := member
    rw [texts?, List.mapM_cons] at h
    obtain ⟨entry, hentry, h⟩ := Option.bind_eq_some_iff.1 h
    obtain ⟨others, hothers, h⟩ := Option.bind_eq_some_iff.1 h
    cases h
    cases value with
    | text text =>
      cases hentry
      rw [ih hothers]
      rfl
    | _ => cases hentry

theorem decode?_render {entries : Entries String} (h : entries.Sorted) :
    decode? (Toml.render entries) = some entries := by
  rw [decode?, Toml.parse?_render h, Option.bind_some, texts?_document]

theorem sorted_of_decode? {text : String} {entries : Entries String}
    (h : decode? text = some entries) :
    entries.Sorted := by
  obtain ⟨members, hparsed, htexts⟩ := Option.bind_eq_some_iff.1 h
  have hsorted : (Toml.document entries).Sorted :=
    document_of_texts? htexts ▸ Toml.sorted_of_parse? hparsed
  rw [Toml.document] at hsorted
  simpa [Entries.Sorted, List.pairwise_map] using hsorted

/-! ## Opening and writing -/

theorem openAt_of_file {entries : Entries String} (hsorted : entries.Sorted)
    (hspot : disk.spot = .file (Toml.render entries)) (path : String) :
    openAt path disk = .ok ⟨path, entries, disk⟩ := by
  have hread : disk.read = .ok (some (Toml.render entries)) := by simp [Disk.read, hspot]
  simp only [openAt, hread, decode?_render hsorted]

/-- What is found depends on the place alone. -/
theorem openAt_of_spot_eq {values : Entries String} {other : Disk} (hspot : other.spot = disk.spot)
    (h : openAt path disk = .ok ⟨path, values, disk⟩) :
    openAt path other = .ok ⟨path, values, other⟩ := by
  have hread : other.read = disk.read := by simp only [Disk.read, hspot]
  unfold openAt at h ⊢
  rw [hread]
  split at h
  · cases h
  · cases h
    rfl
  · split at h <;> cases h
    rfl

/-- A store that has just been opened holds entries in order. -/
theorem openAt_eq_ok (h : openAt path disk = .ok store) :
    store = ⟨path, store.values, disk⟩ ∧ store.values.Sorted := by
  unfold openAt at h
  split at h
  · cases h
  · cases h
    exact ⟨rfl, List.Pairwise.nil⟩
  · split at h
    · next values hdecoded =>
      cases h
      exact ⟨rfl, sorted_of_decode? hdecoded⟩
    · cases h

/-- The file then has what the store holds, or it is as before and the error is reported. -/
theorem persist_cases (store : FileStore) :
    (∃ disk, store.persist = (.ok (), { store with disk }) ∧
      disk.spot = .file (Toml.render store.values)) ∨
    ∃ error disk, store.persist = (.error error, { store with disk }) ∧
      disk.spot = store.disk.spot := by
  unfold persist
  rcases store.disk.write_cases (Toml.render store.values) with
    ⟨after, hwrite, hspot⟩ | ⟨cause, after, hwrite, hspot⟩
  · exact .inl ⟨after, by rw [hwrite], hspot⟩
  · exact .inr ⟨_, after, by rw [hwrite], hspot⟩

/-- A store that is opened on the text that another has written holds exactly what that one
holds. -/
theorem openAt_of_persist {written : FileStore} (hsorted : store.values.Sorted)
    (hwritten : store.persist = (.ok (), written)) (hcopy : disk.text? = written.disk.text?)
    (path : String) : openAt path disk = .ok ⟨path, store.values, disk⟩ := by
  rcases store.persist_cases with ⟨after, hpersist, hspot⟩ | ⟨error, after, hpersist, -⟩
  · rw [hpersist] at hwritten
    cases hwritten
    have htext : disk.text? = some (Toml.render store.values) :=
      hcopy.trans (Disk.text?_eq_some.2 hspot)
    exact openAt_of_file hsorted (Disk.text?_eq_some.1 htext) path
  · rw [hpersist] at hwritten
    cases hwritten

/-- A store with texts that need every form of writing, one of them under an empty name. -/
def awkward : FileStore :=
  let values := Entries.ofPairs [("", "\r\n"), ("a.b = \"c\"", "\t'''\"\"\"\\"),
    ("\x00", "\x7f\x00"), ("back\\slash'", "\n\"\"\"\"\r"), ("plain", ""),
    ("quote\"", "ends in \\"), ("été", "\"'\n'''\n")]
  ⟨"session.toml", values, Disk.holding .vacant⟩

theorem openAt_of_persist_awkward :
    ∃ written, awkward.values.Sorted ∧ awkward.persist = (.ok (), written) ∧
      openAt "copy.toml" written.disk = .ok ⟨"copy.toml", awkward.values, written.disk⟩ :=
  have hsorted : awkward.values.Sorted := Entries.sorted_ofPairs _
  ⟨_, hsorted, rfl, openAt_of_persist hsorted rfl rfl "copy.toml"⟩

end FileStore

end PanelClient
