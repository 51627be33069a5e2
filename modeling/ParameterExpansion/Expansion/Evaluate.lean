import ParameterExpansion.Expansion.Dialogue
import ParameterExpansion.Expansion.Replacement
import ParameterExpansion.Expansion.Substring
import ParameterExpansion.Template.Word
import ParameterExpansion.Text.CaseConversion
import ParameterExpansion.Text.Decimal

/-!
# Expanding words

Expanding a word is a dialogue that asks for each parameter before it turns to the words of the
operation, and turns to these in order.  Operators on presence ask without insisting and skip the
word that they do not need.  The word of a removal is expanded piece by piece, because characters
that were quoted in it have no meaning as a pattern.
-/

namespace ParameterExpansion.Expansion

open Template

/-- Change the case of the first character or of all. -/
def changeCase (target : LetterCase) (everywhere : Bool) (value : Text) : Text :=
  match target, everywhere with
  | .upper, true => value.toUpper
  | .upper, false => value.mapFirst Character.upper
  | .lower, true => value.toLower
  | .lower, false => value.mapFirst Character.lower

mutual

/-- Expand one part. -/
def expandPart : Part → Dialogue Text
  | .literal text => .answer text
  | .escaped text => .answer text
  | .expansion name operation raw => expandOperation name raw operation

/-- Expand an operation on a parameter, in an expansion with a given text. -/
def expandOperation (name : Name) (raw : Text) : Operation (List Part) → Dialogue Text
  | .value => .ask name true fun value? => .answer (value?.getD [])
  | .length => .ask name true fun value? => .answer (Text.Decimal.ofNat (value?.getD []).length)
  | .changeCase target everywhere => .ask name true fun value? =>
    .answer (changeCase target everywhere (value?.getD []))
  | .substring offset length? => .ask name true fun value? =>
    match substring (value?.getD []) offset length? with
    | .ok text => .answer text
    | .error fault => .fail (.invalid raw fault)
  | .fallback _ _ word => .ask name false fun
    | some value => .answer value
    | none => expandParts [] word
  | .alternative _ word => .ask name false fun
    | some _ => expandParts [] word
    | none => .answer []
  | .orFail _ => .ask name false fun
    | some value => .answer value
    | none => .fail (.parameterUnset name [])
  | .orFailWith _ message => .ask name false fun
    | some value => .answer value
    | none => do .fail (.parameterUnset name (← expandParts [] message))
  | .remove side longest pattern => .ask name true fun value? => do
    let pieces ← expandPieces [] pattern
    return Glob.remove side longest (Glob.compile pieces) (value?.getD [])
  | .replace scope pattern replacement => .ask name true fun value? => do
    let pattern ← expandParts [] pattern
    let replacement ← expandParts [] replacement
    return replace scope pattern replacement (value?.getD [])

/-- Expand parts in order and join them; `done` holds the texts made, the last first. -/
def expandParts (done : List Text) : List Part → Dialogue Text
  | [] => .answer done.reverse.flatten
  | .literal text :: rest => expandParts (text :: done) rest
  | .escaped text :: rest => expandParts (text :: done) rest
  | part :: rest => do
    let text ← expandPart part
    expandParts (text :: done) rest

/--
Expand the parts of a pattern in order, keeping them apart; `done` holds the pieces made, the last
first.  Only quoted characters lose their meaning as a pattern.
-/
def expandPieces (done : List Glob.Piece) : List Part → Dialogue (List Glob.Piece)
  | [] => .answer done.reverse
  | .literal text :: rest => expandPieces (⟨text, true⟩ :: done) rest
  | .escaped text :: rest => expandPieces (⟨text, false⟩ :: done) rest
  | part :: rest => do
    let text ← expandPart part
    expandPieces (⟨text, true⟩ :: done) rest

end

/-- Expand a word. -/
def expandWord (word : Word) : Dialogue Text :=
  expandParts [] word

/-- Expand a word as a pattern. -/
def expandPattern (word : Word) : Dialogue (List Glob.Piece) :=
  expandPieces [] word

end ParameterExpansion.Expansion
