/-!
# Entries

A finite map from names to values, held as the list of its pairs in the order of their names.
JSON objects, field errors and stores of settings are all of this form. `insert` keeps the order and
replaces the value of a name that is there already.
-/

namespace PanelClient

/-- Pairs of a name and a value, in the order of the names, each name once. -/
abbrev Entries (α : Type) := List (String × α)

namespace Entries

variable {α β : Type}

def get? (name : String) : Entries α → Option α
  | [] => none
  | (key, value) :: rest => if key = name then some value else get? name rest

/-- The entries with the name's value set. -/
def insert (name : String) (value : α) : Entries α → Entries α
  | [] => [(name, value)]
  | (key, old) :: rest =>
    if name = key then (name, value) :: rest
    else if name < key then (name, value) :: (key, old) :: rest
    else (key, old) :: insert name value rest

/-- The entries of a list of pairs, the last pair of a name counting. -/
def ofPairs (pairs : List (String × α)) : Entries α :=
  pairs.foldl (fun entries pair => entries.insert pair.1 pair.2) []

def contains (name : String) (entries : Entries α) : Bool :=
  (entries.get? name).isSome

/-- The names stand in strictly rising order. -/
def Sorted : Entries α → Prop :=
  List.Pairwise fun a b => a.1 < b.1

@[simp] theorem get?_nil (name : String) : get? name ([] : Entries α) = none := rfl

theorem get?_cons (name key : String) (value : α) (rest : Entries α) :
    get? name ((key, value) :: rest) = if key = name then some value else get? name rest := rfl

/-- Setting a name's value is what later questions see, and other names keep theirs. -/
theorem get?_insert (entries : Entries α) (key name : String) (value : α) :
    get? name (insert key value entries) =
      if key = name then some value else get? name entries := by
  induction entries with
  | nil => rfl
  | cons pair rest ih =>
    obtain ⟨k, old⟩ := pair
    simp only [insert]
    split
    · next heq =>
      subst heq
      by_cases h : key = name <;> simp [get?_cons, h]
    · split
      · rw [get?_cons]
      · next hne _ =>
        rw [get?_cons, ih, get?_cons]
        by_cases hk : k = name
        · subst hk
          simp [hne]
        · simp [hk]

end Entries

end PanelClient
