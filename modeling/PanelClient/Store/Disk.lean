/-!
# A file on a disk

What a store sees of the disk: one place, which may be vacant, hold a file, or be unfit for one. A
write may also fail for reasons of its own (`faults`); it then leaves the place as it was.
-/

namespace PanelClient

/-- What is at a place on the disk. -/
inductive Spot where
  | vacant
  | file (text : String)
  /-- A file whose bytes are no text. -/
  | binary
  | folder
  /-- A place below something that is not a folder. -/
  | blocked
deriving DecidableEq, Repr

structure Disk where
  spot : Spot
  /-- Whether the coming writes fail, one after the other; after the last of them none does. -/
  faults : List Bool
deriving DecidableEq, Repr

namespace Disk

def holding (spot : Spot) : Disk := ⟨spot, []⟩

/-- The text at the place, none if nothing is there, or why it cannot be read. -/
def read (disk : Disk) : Except String (Option String) :=
  match disk.spot with
  | .vacant | .blocked => .ok none
  | .file text => .ok (some text)
  | .binary => .error "stream did not contain valid UTF-8"
  | .folder => .error "Is a directory (os error 21)"

/-- Why a text cannot be written to the place. -/
def refusal? (disk : Disk) : Option String :=
  match disk.faults, disk.spot with
  | true :: _, _ => some "Input/output error (os error 5)"
  | _, .folder => some "Is a directory (os error 21)"
  | _, .blocked => some "File exists (os error 17)"
  | _, _ => none

/-- Replaces what is at the place by a text, if that can be written. -/
def write (disk : Disk) (text : String) : Except String Unit × Disk :=
  let faults := disk.faults.drop 1
  match disk.refusal? with
  | some cause => (.error cause, { disk with faults })
  | none => (.ok (), ⟨.file text, faults⟩)

/-- The text of the file at the place. -/
def text? (disk : Disk) : Option String :=
  match disk.spot with
  | .file text => some text
  | _ => none

end Disk

end PanelClient
