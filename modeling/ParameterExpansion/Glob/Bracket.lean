import ParameterExpansion.Glob.CharacterClass

/-!
# Bracket expressions

A bracket expression matches one character of a set.  It lists characters, ranges and classes, and a
mark in front, `!` or `^`, makes it match what it does not list.  A closing bracket in first place
is a listed character.  An expression that is never closed is none.
-/

namespace ParameterExpansion.Glob

/-- One entry of a bracket expression. -/
inductive BracketItem where
  | character (c : Char)
  | range (low high : Char)
  | charClass (kind : CharacterClass)
  deriving DecidableEq, Repr

/-- The entry lists the character. -/
def BracketItem.contains (c : Char) : BracketItem → Bool
  | .character listed => c == listed
  | .range low high => low ≤ c && c ≤ high
  | .charClass kind => kind.contains c

/--
A bracket expression: whether it is negated, the characters it lists, in ascending order and once
each, its ranges and its classes in the order written.
-/
structure Bracket where
  negated : Bool
  characters : List Char
  ranges : List (Char × Char)
  classes : List CharacterClass
  deriving DecidableEq, Repr

namespace Bracket

/-- The character of an entry that lists one. -/
def characterOf? : BracketItem → Option Char
  | .character c => some c
  | _ => none

/-- The range of an entry that is one. -/
def rangeOf? : BracketItem → Option (Char × Char)
  | .range low high => some (low, high)
  | _ => none

/-- The class of an entry that names one. -/
def classOf? : BracketItem → Option CharacterClass
  | .charClass kind => some kind
  | _ => none

/-- The bracket expression that entries make. -/
def ofItems (negated : Bool) (items : List BracketItem) : Bracket where
  negated := negated
  characters :=
    (items.filterMap characterOf?).eraseDups.mergeSort fun left right => left.toNat ≤ right.toNat
  ranges := items.filterMap rangeOf?
  classes := items.filterMap classOf?

/-- The expression lists the character. -/
def lists (bracket : Bracket) (c : Char) : Bool :=
  bracket.characters.contains c ||
    bracket.ranges.any (fun (low, high) => low ≤ c && c ≤ high) ||
    bracket.classes.any (·.contains c)

/-- The expression matches the character. -/
def contains (bracket : Bracket) (c : Char) : Bool :=
  bracket.lists c != bracket.negated

/-- What entries list is what one of them lists. -/
theorem lists_ofItems (negated : Bool) (items : List BracketItem) (c : Char) :
    (ofItems negated items).lists c = items.any (·.contains c) := by
  have split :
      ((items.filterMap characterOf?).contains c ||
        (items.filterMap rangeOf?).any (fun (low, high) => low ≤ c && c ≤ high) ||
        (items.filterMap classOf?).any (·.contains c)) = items.any (·.contains c) := by
    induction items with
    | nil => rfl
    | cons item rest ih =>
      rw [List.any_cons, ← ih]
      cases item with
      | character own =>
        simp only [List.filterMap_cons, characterOf?, rangeOf?, classOf?, List.contains_cons,
          BracketItem.contains, Bool.or_assoc]
      | range low high =>
        simp only [List.filterMap_cons, characterOf?, rangeOf?, classOf?, List.any_cons,
          BracketItem.contains, Bool.or_assoc, Bool.or_left_comm]
      | charClass kind =>
        simp only [List.filterMap_cons, characterOf?, rangeOf?, classOf?, List.any_cons,
          BracketItem.contains, Bool.or_left_comm]
  rw [← split]
  have same :
      (ofItems negated items).characters.contains c =
        (items.filterMap characterOf?).contains c := by
    rw [Bool.eq_iff_iff]
    simp only [ofItems, List.contains_iff_mem, List.mem_mergeSort, List.mem_eraseDups]
  rw [lists, same]
  rfl

/--
Read the entry at the front of a text.  A dash makes a range unless a closing bracket or the end of
the text comes after it.
-/
def readItem? : Text → Option (BracketItem × Text)
  | [] => none
  | c :: rest =>
    match (if c = '[' then
        match rest with
        | ':' :: named => CharacterClass.read? named
        | _ => none
      else none) with
    | some (kind, after) => some (.charClass kind, after)
    | none =>
      match rest with
      | '-' :: high :: after =>
        if high = ']' then some (.character c, rest) else some (.range c high, after)
      | _ => some (.character c, rest)

/-- What follows an entry is shorter than the text it was read from. -/
theorem length_lt_of_readItem?
    {text rest : Text} {item : BracketItem}
    (found : readItem? text = some (item, rest)) :
    rest.length < text.length := by
  cases text with
  | nil => simp [readItem?] at found
  | cons c tail =>
    simp only [readItem?] at found
    split at found
    · rename_i kind after named
      obtain ⟨_, rfl⟩ : _ ∧ after = rest := by simpa using found
      split at named
      · split at named
        · have := CharacterClass.length_lt_of_read? named
          simp only [List.length_cons]
          omega
        · simp at named
      · simp at named
    · split at found
      · split at found
        all_goals
          simp only [Option.some.injEq, Prod.mk.injEq] at found
          obtain ⟨_, rfl⟩ := found
          simp only [List.length_cons]
          omega
      · obtain ⟨_, rfl⟩ : _ ∧ tail = rest := by simpa using found
        simp

/-- Read entries up to the closing bracket; `done` holds those read, the last first. -/
def readItems? (done : List BracketItem) (text : Text) : Option (List BracketItem × Text) :=
  match text with
  | [] => none
  | c :: rest =>
    if c = ']' ∧ done ≠ [] then some (done.reverse, rest)
    else
      match found : readItem? (c :: rest) with
      | none => none
      | some (item, after) =>
        have := length_lt_of_readItem? found
        readItems? (item :: done) after
termination_by text.length
decreasing_by exact this

/-- What follows the closing bracket is shorter than the text of the entries. -/
theorem length_lt_of_readItems?
    {done items : List BracketItem} {text rest : Text}
    (found : readItems? done text = some (items, rest)) :
    rest.length < text.length := by
  fun_induction readItems? done text with
  | case1 => simp at found
  | case2 done c tail _ =>
    obtain ⟨_, rfl⟩ : _ ∧ tail = rest := by simpa using found
    simp
  | case3 => simp at found
  | case4 done c tail _ item after _ shorter ih =>
    have := ih found
    omega

/-- Read a bracket expression whose opening bracket has been read. -/
def read? (text : Text) : Option (Bracket × Text) :=
  match text with
  | '!' :: rest => (readItems? [] rest).map fun (items, after) => (ofItems true items, after)
  | '^' :: rest => (readItems? [] rest).map fun (items, after) => (ofItems true items, after)
  | _ => (readItems? [] text).map fun (items, after) => (ofItems false items, after)

/-- What follows a bracket expression is shorter than the text after its opening bracket. -/
theorem length_lt_of_read?
    {text rest : Text} {bracket : Bracket}
    (found : read? text = some (bracket, rest)) :
    rest.length < text.length := by
  unfold read? at found
  split at found
  all_goals
    obtain ⟨⟨items, after⟩, inner, same⟩ := Option.map_eq_some_iff.mp found
    have := length_lt_of_readItems? inner
    obtain ⟨_, rfl⟩ : _ ∧ after = rest := by simpa using same
    simp only [List.length_cons] at *
    omega

end Bracket

end ParameterExpansion.Glob
