import Mathlib.Data.List.Forall2
import ParameterExpansion.Proofs.Template.Lexing
import ParameterExpansion.Template

/-!
# Parsing that succeeds

What a word that was parsed consists of, said without the order in which parsing looks for failures:
the text consists of lexemes, these are joined into contents, and each part of the word is parsed
from one of the contents.  An expansion is parsed from a body when its operation is read from the
body and the words of that operation are parsed one level deeper.
-/

namespace ParameterExpansion.Template

/-! ## Operations word by word -/

/-- The same operation on words that are related one by one. -/
inductive Operation.Related {Source Target : Type} (relation : Source → Target → Prop) :
    Operation Source → Operation Target → Prop where
  | value : Related relation .value .value
  | length : Related relation .length .length
  | changeCase (target : LetterCase) (everywhere : Bool) :
      Related relation (.changeCase target everywhere) (.changeCase target everywhere)
  | substring (offset : Int) (length : Option Int) :
      Related relation (.substring offset length) (.substring offset length)
  | fallback (colon : Bool) (sign : DefaultSign) {source : Source} {target : Target}
      (related : relation source target) :
      Related relation (.fallback colon sign source) (.fallback colon sign target)
  | alternative (colon : Bool) {source : Source} {target : Target}
      (related : relation source target) :
      Related relation (.alternative colon source) (.alternative colon target)
  | orFail (colon : Bool) : Related relation (.orFail colon) (.orFail colon)
  | orFailWith (colon : Bool) {source : Source} {target : Target}
      (related : relation source target) :
      Related relation (.orFailWith colon source) (.orFailWith colon target)
  | remove (side : Glob.Side) (longest : Bool) {source : Source} {target : Target}
      (related : relation source target) :
      Related relation (.remove side longest source) (.remove side longest target)
  | replace (scope : Scope) {pattern replacement : Source} {pattern' replacement' : Target}
      (patterns : relation pattern pattern') (replacements : relation replacement replacement') :
      Related relation (.replace scope pattern replacement)
        (.replace scope pattern' replacement')

/-- What relates the words of two operations one by one may be replaced by what follows from it. -/
theorem Operation.Related.imp
    {Source Target : Type} {relation relation' : Source → Target → Prop}
    {operation : Operation Source} {operation' : Operation Target}
    (related : Operation.Related relation operation operation')
    (imp : ∀ word ∈ operation.words, ∀ word' ∈ operation'.words,
      relation word word' → relation' word word') :
    Operation.Related relation' operation operation' := by
  cases related with
  | value => exact Related.value
  | length => exact Related.length
  | changeCase target everywhere => exact Related.changeCase _ _
  | substring offset length => exact Related.substring _ _
  | orFail colon => exact Related.orFail _
  | fallback colon sign related =>
      exact Related.fallback _ _ (imp _ (by simp [words]) _ (by simp [words]) related)
  | alternative colon related =>
      exact Related.alternative _ (imp _ (by simp [words]) _ (by simp [words]) related)
  | orFailWith colon related =>
      exact Related.orFailWith _ (imp _ (by simp [words]) _ (by simp [words]) related)
  | remove side longest related =>
      exact Related.remove _ _ (imp _ (by simp [words]) _ (by simp [words]) related)
  | replace scope patterns replacements =>
      apply Related.replace
      · exact imp _ (by simp [words]) _ (by simp [words]) patterns
      · exact imp _ (by simp [words]) _ (by simp [words]) replacements

/-- Each word of the second operation is related to one of the first. -/
theorem Operation.Related.exists_of_mem
    {Source Target : Type} {relation : Source → Target → Prop}
    {operation : Operation Source} {operation' : Operation Target} {word' : Target}
    (related : Operation.Related relation operation operation')
    (member : word' ∈ operation'.words) :
    ∃ word ∈ operation.words, relation word word' := by
  cases related with
  | value | length | changeCase | substring | orFail => simp [words] at member
  | fallback | alternative | orFailWith | remove =>
      rename_i related
      obtain rfl := List.mem_singleton.mp member
      exact ⟨_, List.mem_singleton_self _, related⟩
  | replace scope patterns replacements =>
      rcases List.mem_cons.mp member with rfl | member
      · exact ⟨_, by simp [words], patterns⟩
      · obtain rfl := List.mem_singleton.mp member
        exact ⟨_, by simp [words], replacements⟩

theorem bind_eq_ok_iff
    {Error Value Result : Type}
    (first : Except Error Value)
    (next : Value → Except Error Result)
    (result : Result) :
    (first >>= next) = .ok result ↔ ∃ value, first = .ok value ∧ next value = .ok result := by
  cases first with
  | error error => simp [bind, Except.bind]
  | ok value => simp [bind, Except.bind]

theorem bind_eq_error_iff
    {Error Value Result : Type}
    (first : Except Error Value)
    (next : Value → Except Error Result)
    (error : Error) :
    (first >>= next) = .error error ↔
      first = .error error ∨ ∃ value, first = .ok value ∧ next value = .error error := by
  cases first with
  | error other => simp [bind, Except.bind]
  | ok value => simp [bind, Except.bind]

/-- Traversing succeeds when every word does. -/
theorem Operation.traverse_eq_ok_iff
    {Error Word Target : Type}
    (step : Word → Except Error Target)
    (operation : Operation Word)
    (result : Operation Target) :
    operation.traverse step = .ok result ↔
      Operation.Related (fun word target => step word = .ok target) operation result := by
  constructor
  · intro traversed
    cases operation with
    | value => cases traversed; exact Related.value
    | length => cases traversed; exact Related.length
    | changeCase target everywhere => cases traversed; exact Related.changeCase _ _
    | substring offset length => cases traversed; exact Related.substring _ _
    | orFail colon => cases traversed; exact Related.orFail _
    | fallback colon sign word =>
        rcases (bind_eq_ok_iff _ _ _).mp traversed with ⟨target, stepped, same⟩
        cases same
        exact Related.fallback _ _ stepped
    | alternative colon word =>
        rcases (bind_eq_ok_iff _ _ _).mp traversed with ⟨target, stepped, same⟩
        cases same
        exact Related.alternative _ stepped
    | orFailWith colon message =>
        rcases (bind_eq_ok_iff _ _ _).mp traversed with ⟨target, stepped, same⟩
        cases same
        exact Related.orFailWith _ stepped
    | remove side longest pattern =>
        rcases (bind_eq_ok_iff _ _ _).mp traversed with ⟨target, stepped, same⟩
        cases same
        exact Related.remove _ _ stepped
    | replace scope pattern replacement =>
        rcases (bind_eq_ok_iff _ _ _).mp traversed with ⟨target, stepped, traversed⟩
        rcases (bind_eq_ok_iff _ _ _).mp traversed with ⟨target', stepped', same⟩
        cases same
        exact Related.replace _ stepped stepped'
  · intro related
    cases related with
    | value => rfl
    | length => rfl
    | changeCase target everywhere => rfl
    | substring offset length => rfl
    | orFail colon => rfl
    | fallback colon sign stepped => simp [traverse, stepped, bind, Except.bind, pure, Except.pure]
    | alternative colon stepped => simp [traverse, stepped, bind, Except.bind, pure, Except.pure]
    | orFailWith colon stepped => simp [traverse, stepped, bind, Except.bind, pure, Except.pure]
    | remove side longest stepped => simp [traverse, stepped, bind, Except.bind, pure, Except.pure]
    | replace scope stepped stepped' =>
        simp [traverse, stepped, stepped', bind, Except.bind, pure, Except.pure]

/-! ## Words and bodies -/

/-- Parsing a list succeeds when every item does. -/
theorem mapM_eq_ok_iff
    {Error Item Result : Type}
    (step : Item → Except Error Result)
    (items : List Item)
    (results : List Result) :
    items.mapM step = .ok results ↔
      List.Forall₂ (fun item result => step item = .ok result) items results := by
  induction items generalizing results with
  | nil =>
      rw [List.mapM_nil, List.forall₂_nil_left_iff]
      simp [pure, Except.pure, eq_comm]
  | cons item items ih =>
      rw [List.mapM_cons, bind_eq_ok_iff, List.forall₂_cons_left_iff]
      constructor
      · rintro ⟨result, stepped, others⟩
        rcases (bind_eq_ok_iff _ _ _).mp others with ⟨rest, steppedRest, same⟩
        cases same
        exact ⟨result, rest, stepped, (ih rest).mp steppedRest, rfl⟩
      · rintro ⟨result, rest, stepped, steppedRest, rfl⟩
        refine ⟨result, stepped, (bind_eq_ok_iff _ _ _).mpr ?_⟩
        exact ⟨rest, (ih rest).mpr steppedRest, rfl⟩

/-- The part is parsed from the content of a segment. -/
inductive ParsesTo (limits : Limits) (depth : Int) : Content → Part → Prop where
  | literal (text : Text) : ParsesTo limits depth (.literal text) (.literal text)
  | escaped (c : Char) : ParsesTo limits depth (.escaped c) (.escaped [c])
  | expansion {body : Text} {part : Part} (parsed : parseBody limits depth body = .ok part) :
      ParsesTo limits depth (.expansion body) part

theorem parseSegment_eq_ok_iff
    (limits : Limits)
    (depth : Int)
    (segment : Segment)
    (part : Part) :
    parseSegment limits depth segment = .ok part ↔
      ParsesTo limits depth segment.content part := by
  rcases segment with ⟨content, position⟩
  constructor
  · intro parsed
    cases content with
    | literal text => cases parsed; exact ParsesTo.literal text
    | escaped c => cases parsed; exact ParsesTo.escaped c
    | expansion body => exact ParsesTo.expansion parsed
  · intro parses
    cases parses with
    | literal text => rfl
    | escaped c => rfl
    | expansion parsed => exact parsed

/-- A word is parsed if the depth is allowed and each of its parts is parsed from a content. -/
theorem parseWord_eq_ok_iff
    {limits : Limits} {escapes : Bool} {depth : Int} {text : Text} {word : Word} :
    parseWord limits escapes depth text = .ok word ↔
      depth ≤ limits.nesting ∧
        ∃ lexemes, Lexes escapes text lexemes ∧
          List.Forall₂ (ParsesTo limits depth) (joinLexemes lexemes) word := by
  have parts (lexemes : List Lexeme) :
      (segmentsOf (locate 0 lexemes)).mapM (parseSegment limits depth) = .ok word ↔
        List.Forall₂ (ParsesTo limits depth) (joinLexemes lexemes) word := by
    rw [mapM_eq_ok_iff, ← map_lexeme_locate 0 lexemes, ← map_content_segmentsOf,
      List.forall₂_map_left_iff, map_lexeme_locate]
    simp only [parseSegment_eq_ok_iff]
  rw [parseWord_eq]
  by_cases tooDeep : limits.nesting < depth
  · rw [if_pos tooDeep]
    simp [Int.not_le.mpr tooDeep]
  · rw [if_neg tooDeep]
    constructor
    · intro parsed
      rcases (bind_eq_ok_iff _ _ _).mp parsed with ⟨segments, scanned, mapped⟩
      rcases scan_eq_ok_iff.mp scanned with ⟨lexemes, lexes, rfl⟩
      exact ⟨Int.not_lt.mp tooDeep, lexemes, lexes, (parts lexemes).mp mapped⟩
    · rintro ⟨_, lexemes, lexes, parses⟩
      have scanned := scan_eq_ok_iff.mpr ⟨lexemes, lexes, rfl⟩
      exact (bind_eq_ok_iff _ _ _).mpr ⟨_, scanned, (parts lexemes).mpr parses⟩

/-- The part that a content becomes; where its segment starts plays no part in it. -/
def parseContent (limits : Limits) (depth : Int) (content : Content) : Except Failure Part :=
  parseSegment limits depth ⟨content, 0⟩

theorem parseContent_eq_ok_iff
    {limits : Limits} {depth : Int} {content : Content} {part : Part} :
    parseContent limits depth content = .ok part ↔ ParsesTo limits depth content part := by
  exact parseSegment_eq_ok_iff limits depth ⟨content, 0⟩ part

/-- Text that consists of lexemes is parsed content by content, also when that fails. -/
theorem Lexes.parseWord_eq_mapM
    {limits : Limits} {escapes : Bool} {depth : Int} {text : Text} {lexemes : List Lexeme}
    (lexes : Lexes escapes text lexemes)
    (allowed : depth ≤ limits.nesting) :
    parseWord limits escapes depth text =
      (joinLexemes lexemes).mapM (parseContent limits depth) := by
  have scanned : scan escapes text = .ok (segmentsOf (locate 0 lexemes)) :=
    scan_eq_ok_iff.mpr ⟨lexemes, lexes, rfl⟩
  rw [parseWord_eq, if_neg (Int.not_lt.mpr allowed), scanned,
    ← map_lexeme_locate 0 lexemes, ← map_content_segmentsOf, List.mapM_map, map_lexeme_locate]
  rfl

/-- A template is parsed if it is not too long and parsed as a word that stands on its own. -/
theorem parseText_eq_ok_iff
    {limits : Limits} {text : Text} {word : Word} :
    parseText limits text = .ok word ↔
      text.length ≤ limits.size ∧ parseWord limits false 0 text = .ok word := by
  rw [parseText]
  split
  · rename_i tooLong
    simp [Int.not_le.mpr tooLong]
  · rename_i fits
    simp [Int.not_lt.mp fits]

/-- An expansion is parsed if its operation is read and the words of the operation are parsed. -/
theorem parseBody_eq_ok_iff
    {limits : Limits} {depth : Int} {body : Text} {part : Part} :
    parseBody limits depth body = .ok part ↔
      ∃ name source operation,
        readBody body = .ok (name, source) ∧
        Operation.Related
          (fun text word => parseWord limits true (depth + 1) text = .ok word) source operation ∧
        part = .expansion name operation (enclose body) := by
  rw [parseBody_eq]
  constructor
  · intro parsed
    rcases (bind_eq_ok_iff _ _ _).mp parsed with ⟨⟨name, source⟩, read, mapped⟩
    cases traversed : source.traverse (parseWord limits true (depth + 1)) with
    | error failure => simp [traversed, Except.map] at mapped
    | ok operation =>
        simp only [traversed, Except.map, Except.ok.injEq] at mapped
        refine ⟨name, source, operation, read, ?_, mapped.symm⟩
        exact (Operation.traverse_eq_ok_iff _ _ _).mp traversed
  · rintro ⟨name, source, operation, read, related, rfl⟩
    have traversed := (Operation.traverse_eq_ok_iff _ _ _).mpr related
    refine (bind_eq_ok_iff _ _ _).mpr ⟨(name, source), read, ?_⟩
    simp only [traversed, Except.map]

/-- A balanced body with its braces around it is parsed as the expansion that the body is. -/
theorem parseWord_enclose
    {limits : Limits} {depth : Int} {body : Text} {part : Part}
    (balanced : Balanced body)
    (allowed : depth ≤ limits.nesting)
    (parsed : parseBody limits depth body = .ok part) :
    parseWord limits false depth (enclose body) = .ok [part] := by
  have lexes : Lexes false (enclose body) [.expansion body] := Lexes.expansion balanced Lexes.nil
  refine parseWord_eq_ok_iff.mpr ⟨allowed, _, lexes, ?_⟩
  exact List.Forall₂.cons (ParsesTo.expansion parsed) List.Forall₂.nil

/-- A template that is one expansion is parsed as the expansion that its body is read as. -/
theorem parseText_enclose
    {limits : Limits} {body : Text} {name : Name} {source : Operation Text}
    {operation : Operation (List Part)}
    (balanced : Balanced body)
    (read : readBody body = .ok (name, source))
    (related : Operation.Related
      (fun text word => parseWord limits true 1 text = .ok word) source operation)
    (nests : 0 ≤ limits.nesting)
    (fits : (enclose body).length ≤ limits.size) :
    parseText limits (enclose body) = .ok [.expansion name operation (enclose body)] := by
  have parsed : parseBody limits 0 body = .ok (.expansion name operation (enclose body)) :=
    parseBody_eq_ok_iff.mpr ⟨name, source, operation, read, related, rfl⟩
  exact parseText_eq_ok_iff.mpr ⟨fits, parseWord_enclose balanced nests parsed⟩

/-- A template that is one expansion fails as reading the body of the expansion does. -/
theorem parseText_enclose_eq_error
    {limits : Limits} {body : Text} {failure : Failure}
    (balanced : Balanced body)
    (failed : readBody body = .error failure)
    (nests : 0 ≤ limits.nesting)
    (fits : (enclose body).length ≤ limits.size) :
    parseText limits (enclose body) = .error failure := by
  have lexes : Lexes false (enclose body) [.expansion body] := Lexes.expansion balanced Lexes.nil
  have content : parseContent limits 0 (.expansion body) = .error failure := by
    show parseBody limits 0 body = .error failure
    rw [parseBody_eq, failed]
    rfl
  rw [parseText, if_neg (Int.not_lt.mpr fits), lexes.parseWord_eq_mapM nests, joinLexemes,
    joinLexemes, List.mapM_cons, content]
  rfl

end ParameterExpansion.Template
