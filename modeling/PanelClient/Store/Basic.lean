import PanelClient.Store.Disk
import PanelClient.Toml.Document
import PanelClient.Toml.Printer

/-!
# Stores

A store keeps texts under names. One in memory lasts as long as the process; one in a file reads the
file when it is opened and writes all of it after every change. A change to a file's store counts
for this process even if it cannot be written.
-/

namespace PanelClient

/-- Why a store could not do what it was asked to. -/
inductive StoreError where
  | unreadable (path cause : String)
  | malformed (path cause : String)
  | unwritable (path cause : String)
deriving DecidableEq, Repr

/-- What is said about the error. -/
def StoreError.message : StoreError → String
  | unreadable path cause => "Failed to read store file '" ++ path ++ "': " ++ cause
  | malformed path cause => "Failed to parse store file '" ++ path ++ "': " ++ cause
  | unwritable path cause => "Failed to write store file '" ++ path ++ "': " ++ cause

/-! ## Stores in a file -/

/-- A store in a file: what it holds, and the place of the file. -/
structure FileStore where
  path : String
  values : Entries String
  disk : Disk
deriving Repr

namespace FileStore

/-- The texts of a document whose members are all texts. -/
def texts? (members : Toml.Members) : Option (Entries String) :=
  members.mapM fun (name, value) =>
    match value with
    | .text text => some (name, text)
    | _ => none

/-- The entries that a file's text holds. -/
def decode? (text : String) : Option (Entries String) :=
  (Toml.parse? text).bind texts?

/-- Opens the store; without a file it is empty. -/
def openAt (path : String) (disk : Disk) : Except StoreError FileStore :=
  match disk.read with
  | .error cause => .error (.unreadable path cause)
  | .ok none => .ok ⟨path, [], disk⟩
  | .ok (some text) =>
    match decode? text with
    | some values => .ok ⟨path, values, disk⟩
    | none => .error (.malformed path "TOML parse error")

/-- Writes the whole store to its file. -/
def persist (store : FileStore) : Except StoreError Unit × FileStore :=
  match store.disk.write (Toml.render store.values) with
  | (.ok (), disk) => (.ok (), { store with disk })
  | (.error cause, disk) => (.error (.unwritable store.path cause), { store with disk })

def get? (store : FileStore) (name : String) : Option String :=
  store.values.get? name

/-- Puts a text under a name. -/
def set (store : FileStore) (name text : String) : Except StoreError Unit × FileStore :=
  persist { store with values := store.values.insert name text }

def clear (store : FileStore) : Except StoreError Unit × FileStore :=
  persist { store with values := [] }

end FileStore

/-! ## Stores of any kind -/

inductive Store where
  | memory (values : Entries String)
  /-- A store in memory that refuses to change what is under some names. -/
  | guarded (refused : List String) (values : Entries String)
  | file (store : FileStore)
deriving Repr

namespace Store

def get? (store : Store) (name : String) : Option String :=
  match store with
  | memory values | guarded _ values => values.get? name
  | file store => store.get? name

/-- Puts a text under a name. -/
def set (store : Store) (name text : String) : Except StoreError Unit × Store :=
  match store with
  | memory values => (.ok (), memory (values.insert name text))
  | guarded refused values =>
    if refused.contains name then (.error (.unwritable "session.toml" "read-only"), store)
    else (.ok (), guarded refused (values.insert name text))
  | file store =>
    let (result, store) := store.set name text
    (result, file store)

def clear (store : Store) : Except StoreError Unit × Store :=
  match store with
  | memory _ => (.ok (), memory [])
  | guarded refused _ => (.ok (), guarded refused [])
  | file store =>
    let (result, store) := store.clear
    (result, file store)

end Store

end PanelClient
