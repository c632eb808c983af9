import PanelClient.Entries
import PanelClient.Store.Disk

/-!
# Files

What the command line sees of the disk: places under paths, which start from the user's home. A path
is taken without the steps that lead nowhere, so that `./a//b` and `a/b` are the same.
-/

namespace PanelClient

/-- Places under paths; any other place is vacant unless it follows from these what is there. -/
structure Files where
  spots : Entries Spot
deriving Repr

namespace Files

/-- The path of the usual configuration. -/
def configPath : String := ".config/subpanel/config.toml"

/-- The path of the usual session. -/
def sessionPath : String := ".local/share/subpanel/session.toml"

/-- The steps of a path. A path from the root of the disk begins with an empty step. -/
def steps (path : String) : List (List Char) :=
  let parts := path.toList.splitOn '/'
  let isRooted := path.toList.head? == some '/'
  (if isRooted then [[]] else []) ++ parts.filter fun part => part != [] && part != ['.']

/-- What is at a place on the disk, before anything is written there. -/
def spot (files : Files) (path : String) : Spot :=
  let wanted := steps path
  match files.spots.find? fun place => steps place.1 == wanted with
  | some place => place.2
  | none =>
    if path.isEmpty then .blocked
    else if wanted.isEmpty then .folder
    else if files.spots.any fun place => wanted.isPrefixOf (steps place.1) then .folder
    else if files.spots.any fun place =>
        (steps place.1).isPrefixOf wanted && place.2 != .folder then
      .blocked
    else .vacant

def text? (files : Files) (path : String) : Option String :=
  (Disk.holding (files.spot path)).text?

/-- The files with something else at a place. -/
def put (path : String) (spot : Spot) (files : Files) : Files :=
  ⟨Entries.insert path spot (files.spots.filter fun place => steps place.1 != steps path)⟩

/-- The files with a text at a place, if there is one now. -/
def putText (path : String) (text : Option String) (files : Files) : Files :=
  match text with
  | some text => files.put path (.file text)
  | none => files

/-- Files with these texts, as far as there are any. -/
def ofTexts (texts : List (String × Option String)) : Files :=
  texts.foldl (fun files place => files.putText place.1 place.2) ⟨[]⟩

end Files

end PanelClient
