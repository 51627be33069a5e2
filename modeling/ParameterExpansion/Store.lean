import ParameterExpansion.Text.Basic

/-!
# Stores

A store keeps items under names.  The item put last under a name is the one that is found there.
-/

namespace ParameterExpansion

/-- Items under names; of two entries of one name the first counts. -/
structure Store (Item : Type) where
  entries : List (Name × Item) := []
  deriving DecidableEq, Repr

/-- Variables and their values. -/
abbrev Variables := Store Text

namespace Store

variable {Item : Type}

/-- The item under a name. -/
def get? (store : Store Item) (name : Name) : Option Item :=
  store.entries.lookup name

/-- Put an item under a name. -/
def put (store : Store Item) (name : Name) (item : Item) : Store Item :=
  ⟨(name, item) :: store.entries⟩

/-- Drop the item under a name, if there is one. -/
def drop (store : Store Item) (name : Name) : Store Item :=
  ⟨store.entries.filter fun entry => entry.1 != name⟩

/-- Two stores together, the items of the second before those of the first. -/
def override (store newer : Store Item) : Store Item :=
  ⟨newer.entries ++ store.entries⟩

/-- A store made by putting entries one after the other. -/
def ofList (entries : List (Name × Item)) : Store Item :=
  ⟨entries.reverse⟩

@[simp]
theorem get?_put_self (store : Store Item) (name : Name) (item : Item) :
    (store.put name item).get? name = some item := by
  simp [get?, put]

@[simp]
theorem get?_put_of_ne
    (store : Store Item)
    {name other : Name}
    (item : Item)
    (different : other ≠ name) :
    (store.put name item).get? other = store.get? other := by
  have : (other == name) = false := by simpa using different
  simp [get?, put, List.lookup_cons, this]

@[simp]
theorem get?_drop_self (store : Store Item) (name : Name) :
    (store.drop name).get? name = none := by
  simp only [get?, drop]
  induction store.entries with
  | nil => rfl
  | cons entry rest ih =>
    obtain ⟨key, item⟩ := entry
    by_cases same : key = name
    · have dropped : (key != name) = false := by simpa using same
      simp only [List.filter_cons, dropped, Bool.false_eq_true, if_false, ih]
    · have kept : (key != name) = true := by simpa using same
      have : (name == key) = false := by simpa using Ne.symm same
      simp only [List.filter_cons, kept, if_true, List.lookup_cons, this, ih]

@[simp]
theorem get?_drop_of_ne
    (store : Store Item)
    {name other : Name}
    (different : other ≠ name) :
    (store.drop name).get? other = store.get? other := by
  simp only [get?, drop]
  induction store.entries with
  | nil => rfl
  | cons entry rest ih =>
    obtain ⟨key, item⟩ := entry
    by_cases same : key = name
    · subst same
      have : (other == key) = false := by simpa using different
      simpa [List.lookup_cons, this] using ih
    · have kept : (key != name) = true := by simpa using same
      simp only [List.filter_cons, kept, if_true, List.lookup_cons, ih]

@[simp]
theorem get?_override (store newer : Store Item) (name : Name) :
    (store.override newer).get? name = (newer.get? name).or (store.get? name) := by
  simp [get?, override, List.lookup_append]

end Store

end ParameterExpansion
