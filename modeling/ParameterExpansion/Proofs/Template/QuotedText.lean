import ParameterExpansion.Proofs.Template.RoundTrip

/-!
# Quoted text in an expansion

Text with a backslash in front of every character is read, as a word of an operation, into its
characters, whatever they are: none of them closes the expansion, divides a pattern from its
replacement or lengthens an operator.  So an expansion with quoted words is parsed as the operation
on these words.
-/

namespace ParameterExpansion.Template

/-- The word that quoted text is parsed as. -/
def quotedWord (text : Text) : Word :=
  text.map fun c => .escaped [c]

/-! ## Quoted text as a word -/

theorem lexes_quoteEach (text : Text) :
    Lexes true (quoteEach text) (text.map .escaped) := by
  simpa using @lexes_quoteEach_append true text [] [] rfl Lexes.nil

/-- Quoted text may stand wherever quotes are read. -/
theorem holds_quoteEach
    {place : Place}
    (quotes : place.quotes = true)
    (text : Text) :
    place.Holds (quoteEach text) := by
  refine ⟨text.map .escaped, ?_, ?_⟩
  · rw [quotes]
    exact lexes_quoteEach text
  · intro c member
    simp at member

theorem balanced_quoteEach (text : Text) :
    Balanced (quoteEach text) := by
  exact (holds_inner_iff _).mp (holds_quoteEach rfl text)

theorem eq_backslash_of_quoteEach
    {text rest : Text} {c : Char}
    (same : quoteEach text = c :: rest) :
    c = '\\' := by
  cases text with
  | nil => simp [quoteEach] at same
  | cons other text => exact (List.cons.inj same).1.symm

theorem joinLexemes_map_escaped (text : Text) :
    joinLexemes (text.map .escaped) = text.map .escaped := by
  induction text with
  | nil => rfl
  | cons c text ih => rw [List.map_cons, List.map_cons, joinLexemes, ih]

/-- Quoted text is parsed as its characters, each of them quoted. -/
theorem parseWord_quoteEach
    {limits : Limits} {depth : Int}
    (shallow : depth ≤ limits.nesting)
    (text : Text) :
    parseWord limits true depth (quoteEach text) = .ok (quotedWord text) := by
  refine parseWord_eq_ok_iff.mpr ⟨shallow, _, lexes_quoteEach text, ?_⟩
  rw [joinLexemes_map_escaped, quotedWord, List.forall₂_map_left_iff, List.forall₂_map_right_iff]
  exact List.forall₂_same.mpr fun c _ => ParsesTo.escaped c

/-! ## Expansions with quoted words -/

section Expansions

variable {limits : Limits} {name : Name}

/-- An expansion that is written from a name and an operation is parsed as these. -/
theorem parseText_writeBody
    {source : Operation Text} {operation : Operation (List Part)}
    (isName : IsName name)
    (fragmented : source.IsFragmented)
    (related : Operation.Related
      (fun text word => parseWord limits true 1 text = .ok word) source operation)
    (nests : 1 ≤ limits.nesting)
    (fits : (enclose (writeBody name source)).length ≤ limits.size) :
    parseText limits (enclose (writeBody name source)) =
      .ok [.expansion name operation (enclose (writeBody name source))] := by
  have balanced := balanced_writeBody isName fragmented.2
  have read := readBody_writeBody isName fragmented
  exact parseText_enclose balanced read related (by omega) fits

/-- Quoted text begins with a backslash, and so with no sign that would lengthen a removal. -/
theorem isFragmented_remove_quoteEach
    (side : Glob.Side)
    (longest : Bool)
    (text : Text) :
    (Operation.remove side longest (quoteEach text)).IsFragmented := by
  apply isFragmented_remove (balanced_quoteEach text)
  intro _ rest same
  have quote := eq_backslash_of_quoteEach same
  cases side with
  | leading => exact absurd quote (by decide)
  | trailing => exact absurd quote (by decide)

/-- The body of a replacement with pattern and replacement quoted, and a slash between them. -/
def dividedBody (name : Name) (scope : Scope) (pattern replacement : Text) : Text :=
  name ++ ('/' :: scope.suffix ++ (quoteEach pattern ++ '/' :: quoteEach replacement))

theorem balanced_dividedBody
    (isName : IsName name)
    (scope : Scope)
    (pattern replacement : Text) :
    Balanced (dividedBody name scope pattern replacement) := by
  have slash : IsOrdinary '/' ∧ '/' ≠ '{' := by decide
  have words :=
    (balanced_quoteEach pattern).join (balanced_quoteEach replacement) slash.1 slash.2
  apply Balanced.append_ordinary fun c => isName.isOrdinary
  apply Balanced.append_ordinary _ words
  exact List.forall_mem_cons.mpr ⟨slash.1, fun c => isOrdinary_of_mem_suffix⟩

/-- The slash between quoted words divides them, and none of the characters in them does. -/
theorem readBody_replace_quoteEach
    {pattern : Text}
    (isName : IsName name)
    (nonempty : pattern ≠ [])
    (scope : Scope)
    (replacement : Text) :
    readBody (dividedBody name scope pattern replacement) =
      .ok (name, .replace scope (quoteEach pattern) (quoteEach replacement)) := by
  rw [dividedBody, readBody_append isName, readOperation_slash,
    readReplacement_append_slash (holds_quoteEach rfl pattern) (balanced_quoteEach replacement) scope]
  · rfl
  · -- A quote stands first behind the operator, and so no sign that would lengthen it.
    intro _ c first
    cases pattern with
    | nil => exact (nonempty rfl).elim
    | cons other pattern =>
        obtain rfl : '\\' = c := by simpa [quoteEach] using first
        decide
  · intro c first
    obtain rfl : '/' = c := by simpa using first
    decide

theorem parseText_replace_quoteEach
    {scope : Scope} {pattern replacement : Text}
    (isName : IsName name)
    (nonempty : pattern ≠ [])
    (nests : 1 ≤ limits.nesting)
    (fits : (enclose (dividedBody name scope pattern replacement)).length ≤ limits.size) :
    ∃ raw, parseText limits (enclose (dividedBody name scope pattern replacement)) =
      .ok [.expansion name (.replace scope (quotedWord pattern) (quotedWord replacement)) raw] := by
  have balanced := balanced_dividedBody isName scope pattern replacement
  have read := readBody_replace_quoteEach isName nonempty scope replacement
  have parsed := parseWord_quoteEach nests pattern
  have parsedReplacement := parseWord_quoteEach nests replacement
  exact ⟨_, parseText_enclose balanced read (.replace scope parsed parsedReplacement)
    (by omega) fits⟩

end Expansions

end ParameterExpansion.Template
