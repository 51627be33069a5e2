import ParameterExpansion.Limits
import ParameterExpansion.Template.Body
import ParameterExpansion.Template.Segment
import ParameterExpansion.Template.Word

/-!
# Parsing words

Text becomes a word in two steps: it is scanned into segments as a whole, and then the bodies of its
expansions are read in order, each with its own words parsed one level deeper.  The nesting limit is
checked before a text is scanned.  Every text parsed on the way is shorter than the one it is part
of, so parsing ends whatever the limit is.
-/

namespace ParameterExpansion.Template

mutual

/-- Parse text into a word.  Backslashes quote only in the words of an operation. -/
def parseWord (limits : Limits) (escapes : Bool) (depth : Int) (text : Text) :
    Except Failure Word :=
  if limits.nesting < depth then .error (.ofExcess (.nesting limits.nesting))
  else
    match scanned : scan escapes text with
    | .error failure => .error failure
    | .ok segments =>
      segments.attach.mapM fun ⟨segment, member⟩ =>
        match segment, member with
        | ⟨.literal text, _⟩, _ => .ok (.literal text)
        | ⟨.escaped c, _⟩, _ => .ok (.escaped [c])
        | ⟨.expansion body, _⟩, member =>
          have := length_of_mem_scan scanned member
          parseBody limits depth body
termination_by text.length

/-- Parse the body of an expansion. -/
def parseBody (limits : Limits) (depth : Int) (body : Text) : Except Failure Part :=
  match read : readBody body with
  | .error failure => .error failure
  | .ok (name, operation) => do
    let operation ← operation.attachWords.traverse fun ⟨word, member⟩ =>
      have := length_of_mem_readBody read member
      parseWord limits true (depth + 1) word
    return .expansion name operation (enclose body)
termination_by body.length

end

/-- The part that a segment becomes. -/
def parseSegment (limits : Limits) (depth : Int) (segment : Segment) : Except Failure Part :=
  match segment.content with
  | .literal text => .ok (.literal text)
  | .escaped c => .ok (.escaped [c])
  | .expansion body => parseBody limits depth body

/-- Parsing a word: check the depth, scan, parse the segments in order. -/
theorem parseWord_eq (limits : Limits) (escapes : Bool) (depth : Int) (text : Text) :
    parseWord limits escapes depth text =
      if limits.nesting < depth then .error (.ofExcess (.nesting limits.nesting))
      else (scan escapes text).bind (·.mapM (parseSegment limits depth)) := by
  rw [parseWord]
  split
  · rfl
  · split
    · rename_i failure failed
      simp only [failed, Except.bind]
    · rename_i segments scanned
      have plain :
          (scan escapes text).bind (·.mapM (parseSegment limits depth)) =
            segments.mapM (parseSegment limits depth) := by
        simp only [scanned, Except.bind]
      rw [plain, List.mapM_subtype (g := parseSegment limits depth), List.unattach_attach]
      rintro ⟨content, position⟩ member
      cases content <;> rfl

/-- Parsing a body: read it, then parse the words of its operation in order. -/
theorem parseBody_eq (limits : Limits) (depth : Int) (body : Text) :
    parseBody limits depth body =
      (readBody body).bind fun (name, operation) =>
        (operation.traverse (parseWord limits true (depth + 1))).map fun operation =>
          .expansion name operation (enclose body) := by
  rw [parseBody]
  split
  · rename_i failure failed
    simp only [failed, Except.bind]
  · rename_i name operation read
    have plain :
        ((readBody body).bind fun (name, operation) =>
          (operation.traverse (parseWord limits true (depth + 1))).map fun operation =>
            Part.expansion name operation (enclose body)) =
          (operation.traverse (parseWord limits true (depth + 1))).map fun operation =>
            Part.expansion name operation (enclose body) := by
      simp only [read, Except.bind]
    rw [plain]
    change
      ((operation.attachWords.traverse fun word =>
        parseWord limits true (depth + 1) word.val).bind fun operation =>
          .ok (Part.expansion name operation (enclose body))) = _
    rw [Operation.traverse_attachWords]
    cases operation.traverse (parseWord limits true (depth + 1)) <;> rfl

end ParameterExpansion.Template
