import PanelClient.Proofs.Store.Files

/-!
# What a file's store remembers

A store in a file is changed, asked and opened again, and any of its writes may fail
(`Store.performAll`). A store in memory that is given the same changes (`Shadow`) tells what it
answers, and what that one held when a change last succeeded is what the file holds
(`FileStore.remembers`). As long as no write fails nobody can tell the two stores apart.
-/

namespace PanelClient

/-! ## Histories of a store -/

inductive Change where
  | set (name text : String)
  | clear
deriving DecidableEq, Repr

/-- What is asked of a store. -/
inductive Access where
  | change (change : Change)
  | get (name : String)
  /-- The store is given up and opened again. -/
  | reopen
deriving DecidableEq, Repr

inductive Response where
  | changed (result : Except StoreError Unit)
  | found (text? : Option String)
  | reopened

namespace Response

/-- A change has succeeded. -/
def isDone : Response → Bool
  | changed (.ok _) => true
  | _ => false

/-- A change has failed. -/
def isFailure : Response → Bool
  | changed (.error _) => true
  | _ => false

theorem any_isDone_concat {answer : Response} (h : answer.isDone = false)
    (record : List (Access × Response)) (access : Access) :
    (record ++ [(access, answer)]).any (·.2.isDone) = record.any (·.2.isDone) := by
  rw [List.any_append, List.any_cons, List.any_nil, Bool.or_false, h, Bool.or_false]

end Response

namespace Store

def change (store : Store) : Change → Except StoreError Unit × Store
  | .set name text => store.set name text
  | .clear => store.clear

/-- The answer, and the store after it; there is none if it cannot be opened. A store in memory is
never given up. -/
def perform (store : Store) : Access → Except StoreError (Response × Store)
  | .change change =>
    let (result, store) := store.change change
    .ok (.changed result, store)
  | .get name => .ok (.found (store.get? name), store)
  | .reopen =>
    match store with
    | file store =>
      (FileStore.openAt store.path store.disk).map fun opened => (.reopened, file opened)
    | store => .ok (.reopened, store)

/-- One access after the other, each with its answer. -/
def performAll (store : Store) : List Access → Except StoreError (List (Access × Response) × Store)
  | [] => .ok ([], store)
  | access :: rest => do
    let (answer, store) ← store.perform access
    let (record, store) ← store.performAll rest
    return ((access, answer) :: record, store)

theorem performAll_concat {store middle last : Store} {accesses : List Access} {access : Access}
    {record : List (Access × Response)} {answer : Response}
    (hbefore : store.performAll accesses = .ok (record, middle))
    (hlast : middle.perform access = .ok (answer, last)) :
    store.performAll (accesses ++ [access]) = .ok (record ++ [(access, answer)], last) := by
  induction accesses generalizing store record with
  | nil =>
    cases hbefore
    simp [performAll, hlast, bind, Except.bind, pure, Except.pure]
  | cons first rest ih =>
    rw [performAll] at hbefore
    rw [List.cons_append, performAll]
    cases hfirst : store.perform first with
    | error error => simp [hfirst, bind, Except.bind] at hbefore
    | ok result =>
      simp only [hfirst, bind, Except.bind] at hbefore ⊢
      cases hrest : result.2.performAll rest with
      | error error => simp [hrest] at hbefore
      | ok tail =>
        simp only [hrest] at hbefore
        cases hbefore
        simp only [ih hrest]
        rfl

end Store

/-! ## The store in memory beside it -/

/-- A store in memory, and what it was when a change last succeeded. -/
structure Shadow where
  memory : Store
  saved : Store

namespace Shadow

/-- Both begin with the same texts. -/
def holding (values : Entries String) : Shadow := ⟨.memory values, .memory values⟩

/-- The store in memory is given every change, also one that has failed for the file. When the file
is opened again, a new one begins with what was saved. -/
def after (shadow : Shadow) : Access × Response → Shadow
  | (.change change, answer) =>
    let memory := (shadow.memory.change change).2
    ⟨memory, if answer.isDone then memory else shadow.saved⟩
  | (.get _, _) => shadow
  | (.reopen, _) => ⟨shadow.saved, shadow.saved⟩

def along (shadow : Shadow) (record : List (Access × Response)) : Shadow :=
  record.foldl after shadow

theorem along_concat (shadow : Shadow) (record : List (Access × Response))
    (entry : Access × Response) :
    shadow.along (record ++ [entry]) = (shadow.along record).after entry := by
  simp [along]

end Shadow

/-! ## A change of the two -/

namespace Change

/-- The texts after a change. -/
def on (change : Change) (values : Entries String) : Entries String :=
  match change with
  | set name text => values.insert name text
  | clear => []

theorem sorted_on (change : Change) {values : Entries String} (h : values.Sorted) :
    (change.on values).Sorted := by
  cases change with
  | set name text => exact h.insert name text
  | clear => exact List.Pairwise.nil

end Change

namespace Store

theorem change_memory (values : Entries String) (change : Change) :
    (memory values).change change = (.ok (), memory (change.on values)) := by
  cases change <;> rfl

theorem change_file (store : FileStore) (change : Change) :
    (file store).change change =
      let written := FileStore.persist { store with values := change.on store.values }
      (written.1, file written.2) := by
  cases change <;> rfl

end Store

/-! ## The course of a history -/

/-- What holds of a file's store after a history that began with a store just opened. -/
structure Tracks (opened : FileStore) (record : List (Access × Response)) (store : FileStore)
    (saved : Entries String) : Prop where
  sorted : store.values.Sorted
  path_eq : store.path = opened.path
  shadow_eq : (Shadow.holding opened.values).along record = ⟨.memory store.values, .memory saved⟩
  reopens : FileStore.openAt store.path store.disk = .ok ⟨store.path, saved, store.disk⟩
  spot_eq : store.disk.spot =
    if record.any (·.2.isDone) then .file (Toml.render saved) else opened.disk.spot
  found : ∀ before name answer after, record = before ++ (.get name, answer) :: after →
    answer = .found (((Shadow.holding opened.values).along before).memory.get? name)
  unfailing : (∀ entry ∈ record, entry.2.isFailure = false) → saved = store.values ∧
    (Store.memory opened.values).performAll (record.map Prod.fst) =
      .ok (record, .memory store.values)

namespace Tracks

variable {opened store next : FileStore} {record : List (Access × Response)}
  {saved : Entries String}

theorem of_openAt {path : String} {disk : Disk} (h : FileStore.openAt path disk = .ok opened) :
    Tracks opened [] opened opened.values where
  sorted := (FileStore.openAt_eq_ok h).2
  path_eq := rfl
  shadow_eq := rfl
  reopens := by
    obtain ⟨heq, -⟩ := FileStore.openAt_eq_ok h
    rw [heq] at h ⊢
    exact h
  spot_eq := rfl
  found := by simp
  unfailing := fun _ => ⟨rfl, rfl⟩

/-- An access that asks for nothing leaves the answers before it. -/
theorem found_concat (h : Tracks opened record store saved) {access : Access} {answer : Response}
    (hlast : ∀ name, access = .get name → answer = .found (store.get? name)) :
    ∀ before name reply after,
      record ++ [(access, answer)] = before ++ (.get name, reply) :: after →
      reply = .found (((Shadow.holding opened.values).along before).memory.get? name) := by
  intro before name reply after heq
  rcases List.eq_nil_or_concat after with rfl | ⟨others, last, rfl⟩
  · obtain ⟨rfl, hentry⟩ := List.append_inj' heq rfl
    cases hentry
    rw [h.shadow_eq]
    exact hlast name rfl
  · have hconcat : record ++ [(access, answer)] =
        (before ++ (.get name, reply) :: others) ++ [last] := by simpa using heq
    exact h.found before name reply others (List.append_inj' hconcat rfl).1

theorem performAll_concat (h : Tracks opened record store saved) {access : Access}
    {answer : Response}
    {values : Entries String}
    (hperform : (Store.memory store.values).perform access = .ok (answer, .memory values))
    (hunfailing : ∀ entry ∈ record ++ [(access, answer)], entry.2.isFailure = false) :
    (Store.memory opened.values).performAll ((record ++ [(access, answer)]).map Prod.fst) =
      .ok (record ++ [(access, answer)], .memory values) := by
  have hbefore := (h.unfailing fun entry hentry =>
    hunfailing entry (List.mem_append_left _ hentry)).2
  rw [List.map_append]
  exact Store.performAll_concat hbefore hperform

theorem get (h : Tracks opened record store saved) (name : String) :
    Tracks opened (record ++ [(.get name, .found (store.get? name))]) store saved where
  sorted := h.sorted
  path_eq := h.path_eq
  shadow_eq := by rw [Shadow.along_concat, h.shadow_eq]; rfl
  reopens := h.reopens
  spot_eq := by rw [Response.any_isDone_concat rfl, h.spot_eq]
  found := h.found_concat fun asked hasked => by
    cases hasked
    rfl
  unfailing := fun hunfailing =>
    ⟨(h.unfailing fun entry hentry => hunfailing entry (List.mem_append_left _ hentry)).1,
      h.performAll_concat rfl hunfailing⟩

theorem reopen (h : Tracks opened record store saved) :
    Tracks opened (record ++ [(.reopen, .reopened)]) ⟨store.path, saved, store.disk⟩ saved where
  sorted := (FileStore.openAt_eq_ok h.reopens).2
  path_eq := h.path_eq
  shadow_eq := by rw [Shadow.along_concat, h.shadow_eq]; rfl
  reopens := h.reopens
  spot_eq := by rw [Response.any_isDone_concat rfl, h.spot_eq]
  found := h.found_concat fun asked hasked => by cases hasked
  unfailing := fun hunfailing => by
    -- Nothing has failed, so what was saved is what the store holds.
    have hsaved := (h.unfailing fun entry hentry =>
      hunfailing entry (List.mem_append_left _ hentry)).1
    exact ⟨rfl, hsaved ▸ h.performAll_concat rfl hunfailing⟩

theorem change_ok (h : Tracks opened record store saved) {change : Change} {disk : Disk}
    (hspot : disk.spot = .file (Toml.render (change.on store.values))) :
    Tracks opened (record ++ [(.change change, .changed (.ok ()))])
      { store with values := change.on store.values, disk } (change.on store.values) where
  sorted := change.sorted_on h.sorted
  path_eq := h.path_eq
  shadow_eq := by
    rw [Shadow.along_concat, h.shadow_eq, Shadow.after]
    simp [Store.change_memory, Response.isDone]
  reopens := FileStore.openAt_of_file (change.sorted_on h.sorted) hspot store.path
  spot_eq := by simp [Response.isDone, hspot]
  found := h.found_concat fun asked hasked => by cases hasked
  unfailing := fun hunfailing => by
    have hperform : (Store.memory store.values).perform (.change change) =
        .ok (.changed (.ok ()), .memory (change.on store.values)) := by
      rw [Store.perform, Store.change_memory]
    exact ⟨rfl, h.performAll_concat hperform hunfailing⟩

/-- The change counts for the store, the file stays as it was. -/
theorem change_error (h : Tracks opened record store saved) {change : Change} {error : StoreError}
    {disk : Disk} (hspot : disk.spot = store.disk.spot) :
    Tracks opened (record ++ [(.change change, .changed (.error error))])
      { store with values := change.on store.values, disk } saved where
  sorted := change.sorted_on h.sorted
  path_eq := h.path_eq
  shadow_eq := by
    rw [Shadow.along_concat, h.shadow_eq, Shadow.after]
    simp [Store.change_memory, Response.isDone]
  reopens := FileStore.openAt_of_spot_eq hspot h.reopens
  spot_eq := by rw [Response.any_isDone_concat rfl, hspot, h.spot_eq]
  found := h.found_concat fun asked hasked => by cases hasked
  unfailing := fun hunfailing => by
    have hfailed := hunfailing (.change change, .changed (.error error)) (by simp)
    cases hfailed

/-- Every access is answered, and what holds before it holds after it. -/
theorem perform (h : Tracks opened record store saved) (access : Access) :
    ∃ answer next saved, (Store.file store).perform access = .ok (answer, .file next) ∧
      Tracks opened (record ++ [(access, answer)]) next saved := by
  cases access with
  | get name => exact ⟨_, _, _, rfl, h.get name⟩
  | reopen =>
    refine ⟨.reopened, _, _, ?_, h.reopen⟩
    rw [Store.perform, h.reopens]
    rfl
  | change change =>
    rcases FileStore.persist_cases { store with values := change.on store.values } with
      ⟨disk, hpersist, hspot⟩ | ⟨error, disk, hpersist, hspot⟩
    · refine ⟨.changed (.ok ()), _, _, ?_, h.change_ok hspot⟩
      rw [Store.perform, Store.change_file, hpersist]
    · refine ⟨.changed (.error error), _, _, ?_, h.change_error hspot⟩
      rw [Store.perform, Store.change_file, hpersist]

theorem performAll (h : Tracks opened record store saved) (accesses : List Access) :
    ∃ later last saved, (Store.file store).performAll accesses = .ok (later, .file last) ∧
      later.map Prod.fst = accesses ∧ Tracks opened (record ++ later) last saved := by
  induction accesses generalizing record store saved with
  | nil => exact ⟨[], store, saved, rfl, rfl, by rwa [List.append_nil]⟩
  | cons access rest ih =>
    obtain ⟨answer, next, _, hperform, hnext⟩ := h.perform access
    obtain ⟨later, last, final, hrest, hfst, hlast⟩ := ih hnext
    refine ⟨(access, answer) :: later, last, final, ?_, by rw [List.map_cons, hfst], ?_⟩
    · rw [Store.performAll, hperform]
      simp only [bind, Except.bind, hrest]
      rfl
    · simpa using hlast

end Tracks

/-- Every access to a store that has been opened is answered, also those that open it again. A
question is answered as by the store in memory beside it. The file is as it was found until a change
succeeds, then it holds what that store held when a change last succeeded, and this is what is found
when the store is opened again. Without a failure the answers are those of a store in memory that is
never given up. -/
theorem FileStore.remembers {path : String} {disk : Disk} {opened : FileStore}
    (hopened : FileStore.openAt path disk = .ok opened) (accesses : List Access) :
    ∃ record last saved, (Store.file opened).performAll accesses = .ok (record, .file last) ∧
      record.map Prod.fst = accesses ∧
      (Shadow.holding opened.values).along record = ⟨.memory last.values, .memory saved⟩ ∧
      (∀ before name answer after, record = before ++ (.get name, answer) :: after →
        answer = .found (((Shadow.holding opened.values).along before).memory.get? name)) ∧
      (last.disk.spot =
        if record.any (·.2.isDone) then .file (Toml.render saved) else disk.spot) ∧
      FileStore.openAt path last.disk = .ok ⟨path, saved, last.disk⟩ ∧
      ((∀ entry ∈ record, entry.2.isFailure = false) → saved = last.values ∧
        (Store.memory opened.values).performAll accesses = .ok (record, .memory last.values)) := by
  obtain ⟨record, last, saved, hrun, hfst, h⟩ := (Tracks.of_openAt hopened).performAll accesses
  rw [List.nil_append] at h
  have hpath : last.path = path := by
    rw [h.path_eq, (FileStore.openAt_eq_ok hopened).1]
  have hdisk : opened.disk = disk := by rw [(FileStore.openAt_eq_ok hopened).1]
  refine ⟨record, last, saved, hrun, hfst, h.shadow_eq, h.found, ?_, ?_, ?_⟩
  · rw [← hdisk]
    exact h.spot_eq
  · rw [← hpath]
    exact h.reopens
  · rw [← hfst]
    exact h.unfailing

/-- A file with a name that nobody asks for, on a disk where the first and the third write fail. -/
def Disk.unsteady : Disk := ⟨.file (Toml.render [("theme", "dark")]), [true, false, true]⟩

theorem FileStore.remembers_on_unsteady :
    ∃ opened, FileStore.openAt "session.toml" Disk.unsteady = .ok opened ∧
      ∃ record last saved, (Store.file opened).performAll
          [.change (.set "token" "t"), .change (.set "language" "fr"), .change .clear, .get "token",
            .reopen, .get "token"] = .ok (record, .file last) ∧
        record.length = 6 ∧
        (Shadow.holding opened.values).along record = ⟨.memory last.values, .memory saved⟩ ∧
        FileStore.openAt "session.toml" last.disk = .ok ⟨"session.toml", saved, last.disk⟩ := by
  have hsorted : Entries.Sorted [("theme", "dark")] := List.pairwise_singleton ..
  have hopened : FileStore.openAt "session.toml" Disk.unsteady =
      .ok ⟨"session.toml", [("theme", "dark")], Disk.unsteady⟩ :=
    FileStore.openAt_of_file hsorted rfl "session.toml"
  obtain ⟨record, last, saved, hrun, hfst, hshadow, -, -, hreopens, -⟩ :=
    FileStore.remembers hopened
      [.change (.set "token" "t"), .change (.set "language" "fr"), .change .clear, .get "token",
        .reopen, .get "token"]
  have hlength : record.length = 6 := by simpa using congrArg List.length hfst
  exact ⟨_, hopened, record, last, saved, hrun, hlength, hshadow, hreopens⟩

end PanelClient
