import ParameterExpansion.Proofs.Template.NormalForm

/-!
# Printing words

A word is printed so that it can be read again.  Every dollar of literal text is doubled, a quoted
character stands behind a backslash, and an operation is written between its parameter's name and
the closing brace with its words printed.  The text that an expansion carries plays no part in this;
refreshing a word sets it to what is printed.
-/

namespace ParameterExpansion.Template

/-! ## Operations whose words are text -/

/-- Literal text with every dollar doubled. -/
def doubleDollars (text : Text) : Text :=
  text.flatMap fun c => if c = '$' then ['$', '$'] else [c]

theorem doubleDollars_cons
    {c : Char}
    (other : c ≠ '$')
    (text : Text) :
    doubleDollars (c :: text) = c :: doubleDollars text := by
  simp [doubleDollars, other]

/-- Text with a backslash in front of every character. -/
def quoteEach (text : Text) : Text :=
  text.flatMap fun c => ['\\', c]

def colonText (colon : Bool) : Text :=
  if colon then [':'] else []

def DefaultSign.character : DefaultSign → Char
  | .minus => '-'
  | .equals => '='

def LetterCase.character : LetterCase → Char
  | .upper => '^'
  | .lower => ','

/-- What stands behind the slash of a replacement, in front of the pattern. -/
def Scope.suffix : Scope → Text
  | .first => []
  | .all => ['/']
  | .atStart => ['#']
  | .atEnd => ['%']

/-- A length behind a colon, or nothing if there is none. -/
def lengthText : Option Int → Text
  | none => []
  | some length => ':' :: Text.Decimal.ofInt length

/-- A replacement behind a slash, or nothing if there is none. -/
def replacementText (replacement : Text) : Text :=
  if replacement = [] then [] else '/' :: replacement

/-- What is written behind the name of a parameter. -/
def writeOperation : Operation Text → Text
  | .value | .length => []
  | .changeCase target everywhere =>
      if everywhere then [target.character, target.character] else [target.character]
  | .substring offset length? =>
      ':' :: ' ' :: Text.Decimal.ofInt offset ++ lengthText length?
  | .fallback colon sign word => colonText colon ++ sign.character :: word
  | .alternative colon word => colonText colon ++ '+' :: word
  | .orFail colon => colonText colon ++ ['?']
  | .orFailWith colon message => colonText colon ++ '?' :: message
  | .remove side longest pattern =>
      if longest then sideSign side :: sideSign side :: pattern else sideSign side :: pattern
  | .replace scope pattern replacement =>
      '/' :: scope.suffix ++ pattern ++ replacementText replacement

/-- The body of an expansion. -/
def writeBody (name : Name) : Operation Text → Text
  | .length => '#' :: name
  | operation => name ++ writeOperation operation

/-! ## Words -/

mutual

/-- The text of a part. -/
def printPart : Part → Text
  | .literal text => doubleDollars text
  | .escaped text => quoteEach text
  | .expansion name operation _ => enclose (writeBody name (printOperation operation))

/-- The operation with its words printed. -/
def printOperation : Operation (List Part) → Operation Text
  | .value => .value
  | .length => .length
  | .changeCase target everywhere => .changeCase target everywhere
  | .substring offset length => .substring offset length
  | .fallback colon sign word => .fallback colon sign (printWord word)
  | .alternative colon word => .alternative colon (printWord word)
  | .orFail colon => .orFail colon
  | .orFailWith colon message => .orFailWith colon (printWord message)
  | .remove side longest pattern => .remove side longest (printWord pattern)
  | .replace scope pattern replacement =>
      .replace scope (printWord pattern) (printWord replacement)

/-- The text of a word: the texts of its parts, one after the other. -/
def printWord : List Part → Text
  | [] => []
  | part :: rest => printPart part ++ printWord rest

end

mutual

/-- The part with every expansion carrying the text that is printed for it. -/
def refreshPart : Part → Part
  | .literal text => .literal text
  | .escaped text => .escaped text
  | .expansion name operation _ =>
      .expansion name (refreshOperation operation)
        (enclose (writeBody name (printOperation operation)))

/-- The operation with its words refreshed. -/
def refreshOperation : Operation (List Part) → Operation (List Part)
  | .value => .value
  | .length => .length
  | .changeCase target everywhere => .changeCase target everywhere
  | .substring offset length => .substring offset length
  | .fallback colon sign word => .fallback colon sign (refreshWord word)
  | .alternative colon word => .alternative colon (refreshWord word)
  | .orFail colon => .orFail colon
  | .orFailWith colon message => .orFailWith colon (refreshWord message)
  | .remove side longest pattern => .remove side longest (refreshWord pattern)
  | .replace scope pattern replacement =>
      .replace scope (refreshWord pattern) (refreshWord replacement)

/-- The word with all its parts refreshed. -/
def refreshWord : List Part → List Part
  | [] => []
  | part :: rest => refreshPart part :: refreshWord rest

end

theorem refreshWord_eq_map (word : List Part) :
    refreshWord word = word.map refreshPart := by
  induction word with
  | nil => rfl
  | cons part rest ih => rw [refreshWord, ih, List.map_cons]

/-- Refreshing makes no literal text and removes none. -/
theorem map_isLiteral_refreshWord (word : List Part) :
    (refreshWord word).map Part.isLiteral = word.map Part.isLiteral := by
  rw [refreshWord_eq_map, List.map_map]
  apply List.map_congr_left
  intro part _
  cases part <;> rfl

/-! ## Operations and their printed words -/

theorem related_printOperation (operation : Operation (List Part)) :
    Operation.Related (fun word text => word ∈ operation.words ∧ text = printWord word)
      operation (printOperation operation) := by
  cases operation with
  | value => exact Operation.Related.value
  | length => exact Operation.Related.length
  | changeCase target everywhere => exact Operation.Related.changeCase _ _
  | substring offset length => exact Operation.Related.substring _ _
  | fallback colon sign word =>
      exact Operation.Related.fallback _ _ ⟨List.mem_singleton_self _, rfl⟩
  | alternative colon word =>
      exact Operation.Related.alternative _ ⟨List.mem_singleton_self _, rfl⟩
  | orFail colon => exact Operation.Related.orFail _
  | orFailWith colon message =>
      exact Operation.Related.orFailWith _ ⟨List.mem_singleton_self _, rfl⟩
  | remove side longest pattern =>
      exact Operation.Related.remove _ _ ⟨List.mem_singleton_self _, rfl⟩
  | replace scope pattern replacement =>
      apply Operation.Related.replace
      · exact ⟨Operation.mem_words_replace_iff.mpr (Or.inl rfl), rfl⟩
      · exact ⟨Operation.mem_words_replace_iff.mpr (Or.inr rfl), rfl⟩

/-- What relates the text of each word to the word refreshed relates the operations. -/
theorem related_refreshOperation
    {relation : Text → List Part → Prop} {operation : Operation (List Part)}
    (related : ∀ word ∈ operation.words, relation (printWord word) (refreshWord word)) :
    Operation.Related relation (printOperation operation) (refreshOperation operation) := by
  cases operation with
  | value => exact Operation.Related.value
  | length => exact Operation.Related.length
  | changeCase target everywhere => exact Operation.Related.changeCase _ _
  | substring offset length => exact Operation.Related.substring _ _
  | fallback colon sign word =>
      exact Operation.Related.fallback _ _ (related word (List.mem_singleton_self _))
  | alternative colon word =>
      exact Operation.Related.alternative _ (related word (List.mem_singleton_self _))
  | orFail colon => exact Operation.Related.orFail _
  | orFailWith colon message =>
      exact Operation.Related.orFailWith _ (related message (List.mem_singleton_self _))
  | remove side longest pattern =>
      exact Operation.Related.remove _ _ (related pattern (List.mem_singleton_self _))
  | replace scope pattern replacement =>
      apply Operation.Related.replace
      · exact related pattern (Operation.mem_words_replace_iff.mpr (Or.inl rfl))
      · exact related replacement (Operation.mem_words_replace_iff.mpr (Or.inr rfl))

theorem refreshOperation_eq_self
    {operation : Operation (List Part)}
    (same : ∀ word ∈ operation.words, refreshWord word = word) :
    refreshOperation operation = operation := by
  cases operation with
  | value | length | changeCase | substring | orFail => rfl
  | fallback | alternative | orFailWith | remove =>
      rw [refreshOperation, same _ (List.mem_singleton_self _)]
  | replace scope pattern replacement =>
      have patternSame := same pattern (Operation.mem_words_replace_iff.mpr (Or.inl rfl))
      have replacementSame := same replacement (Operation.mem_words_replace_iff.mpr (Or.inr rfl))
      rw [refreshOperation, patternSame, replacementSame]

/-! ## Words that are refreshed already -/

/-- An expansion carries the text that is printed for it. -/
def Part.CarriesPrinted : Part → Prop
  | .expansion name operation raw => raw = printPart (.expansion name operation raw)
  | _ => True

/-- A word is refreshed already if each of its expansions carries what is printed. -/
theorem refreshWord_eq_self
    {word : List Part}
    (carries : ∀ part ∈ wordExpansions word, part.CarriesPrinted) :
    refreshWord word = word := by
  induction word using word_induction with
  | step word ih =>
  have parts : ∀ part ∈ word, refreshPart part = part := by
    intro part member
    cases part with
    | literal text => rfl
    | escaped text => rfl
    | expansion name operation raw =>
        have same : refreshOperation operation = operation := by
          apply refreshOperation_eq_self
          intro inner isInner
          apply ih name operation raw member inner isInner
          intro other isOther
          exact carries other (wordExpansions_subset_of_mem member isInner isOther)
        have own := carries _ (mem_wordExpansions_of_mem member)
        rw [refreshPart, same]
        rw [Part.CarriesPrinted, printPart] at own
        rw [← own]
  rw [refreshWord_eq_map, List.map_congr_left parts]
  exact List.map_id' word

end ParameterExpansion.Template
