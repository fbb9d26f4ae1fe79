/-!
# Tables

Finite maps whose entries keep the order in which their keys first came in.
Setting a key that is present replaces its value and leaves it in its place.
-/

namespace ContainerFleet

/-- A list of entries, read as a map from the first component to the second. -/
abbrev Table (κ α : Type) := List (κ × α)

namespace Table

variable {κ α : Type} [DecidableEq κ]

def get? (table : Table κ α) (key : κ) : Option α :=
  match table with
  | [] => none
  | (present, value) :: later => if present = key then some value else get? later key

/-- Bind a key to a value. -/
def set (table : Table κ α) (key : κ) (value : α) : Table κ α :=
  match table with
  | [] => [(key, value)]
  | (present, old) :: later =>
    if present = key then (key, value) :: later else (present, old) :: set later key value

def contains (table : Table κ α) (key : κ) : Bool :=
  (table.get? key).isSome

/-- Remove every entry of a key. -/
def erase (table : Table κ α) (key : κ) : Table κ α :=
  table.filter fun entry => entry.1 ≠ key

def keys (table : Table κ α) : List κ :=
  table.map Prod.fst

/-- The table that results from setting entries one after another. -/
def ofEntries (entries : List (κ × α)) : Table κ α :=
  entries.foldl (fun table entry => table.set entry.1 entry.2) []

@[simp] theorem get?_nil (key : κ) : get? ([] : Table κ α) key = none := rfl

theorem get?_set (table : Table κ α) (key other : κ) (value : α) :
    (table.set key value).get? other = if key = other then some value else table.get? other := by
  induction table with
  | nil => rfl
  | cons entry later inductive_step =>
    obtain ⟨present, old⟩ := entry
    by_cases same : present = key
    · subst same
      by_cases asked : present = other <;> simp [set, get?, asked]
    · by_cases asked : present = other
      · subst asked
        simp [set, get?, same, Ne.symm same]
      · simp [set, get?, same, asked, inductive_step]

theorem get?_erase (table : Table κ α) (key other : κ) :
    (table.erase key).get? other = if key = other then none else table.get? other := by
  induction table with
  | nil => simp [erase]
  | cons entry later inductive_step =>
    obtain ⟨present, old⟩ := entry
    simp only [erase] at inductive_step ⊢
    by_cases same : present = key
    · subst same
      by_cases asked : present = other <;> simp_all [get?]
    · by_cases asked : present = other
      · subst asked
        simp [get?, same, Ne.symm same]
      · simpa [get?, same, asked] using inductive_step

theorem keys_set_of_contains (table : Table κ α) (key : κ) (value : α)
    (present : table.contains key = true) : (table.set key value).keys = table.keys := by
  induction table with
  | nil => cases present
  | cons entry later inductive_step =>
    obtain ⟨first, old⟩ := entry
    by_cases same : first = key
    · simp [set, keys, same]
    · have inLater : contains later key = true := by simpa [contains, get?, same] using present
      simpa [set, keys, same] using inductive_step inLater

theorem keys_set_of_not_contains (table : Table κ α) (key : κ) (value : α)
    (absent : table.contains key = false) : (table.set key value).keys = table.keys ++ [key] := by
  induction table with
  | nil => rfl
  | cons entry later inductive_step =>
    obtain ⟨first, old⟩ := entry
    by_cases same : first = key
    · simp [contains, get?, same] at absent
    · have notLater : contains later key = false := by simpa [contains, get?, same] using absent
      simpa [set, keys, same] using inductive_step notLater

end Table
end ContainerFleet
