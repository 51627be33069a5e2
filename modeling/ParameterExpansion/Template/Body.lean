import ParameterExpansion.Template.Number
import ParameterExpansion.Template.Operation
import ParameterExpansion.Template.Separator

/-!
# The body of an expansion

A body is `#` and a name, or a name and an operation.  An operator is taken as long as possible, and
a colon belongs to an operator on presence if the sign of one follows, otherwise to a substring.
The words of the operation stay text here; what is proved is that they are shorter than the body.
-/

namespace ParameterExpansion.Template

/-- The text of an expansion with a given body. -/
def enclose (body : Text) : Text :=
  '$' :: '{' :: body ++ ['}']

theorem length_enclose (body : Text) :
    (enclose body).length = body.length + 3 := by
  simp [enclose]

/-- Letters of ASCII and the underscore, with which a name may start. -/
def startsName (c : Char) : Bool :=
  'a' ≤ c && c ≤ 'z' || 'A' ≤ c && c ≤ 'Z' || c == '_'

/-- Characters of which a name may go on: those that may start one, and the digits of ASCII. -/
def continuesName (c : Char) : Bool :=
  startsName c || '0' ≤ c && c ≤ '9'

/-- The longest name at the front of a text, and the text after it. -/
def readName? : Text → Option (Name × Text)
  | [] => none
  | c :: rest =>
    if startsName c then some (c :: rest.takeWhile continuesName, rest.dropWhile continuesName)
    else none

/-- A name and the text after it make up the text they were read from, and a name is not empty. -/
theorem eq_of_readName?
    {text rest : Text} {name : Name}
    (read : readName? text = some (name, rest)) :
    text = name ++ rest ∧ name ≠ [] := by
  cases text with
  | nil => simp [readName?] at read
  | cons c tail =>
    simp only [readName?] at read
    split at read
    · obtain ⟨rfl, rfl⟩ : _ = name ∧ _ = rest := by simpa using read
      simp
    · simp at read

/-- Read an offset and, after a colon, a length. -/
def readSubstring (expansion text : Text) : Except Failure (Operation Text) := do
  match text.cutAtFirst ':' with
  | (offset, none) => return .substring (← readNumber expansion offset) none
  | (offset, some length) =>
    let offset ← readNumber expansion offset
    let length ← readNumber expansion length
    return .substring offset (some length)

/-- A substring operation has no words. -/
theorem words_readSubstring
    {expansion text : Text} {operation : Operation Text}
    (read : readSubstring expansion text = .ok operation) :
    operation.words = [] := by
  unfold readSubstring at read
  split at read
  · rename_i field _
    cases offset : readNumber expansion field with
    | error => simp [offset, bind, Except.bind] at read
    | ok =>
      simp only [offset, bind, Except.bind, pure, Except.pure, Except.ok.injEq] at read
      simp [← read, Operation.words]
  · rename_i field count _
    cases offset : readNumber expansion field with
    | error => simp [offset, bind, Except.bind] at read
    | ok =>
      cases size : readNumber expansion count with
      | error => simp [offset, size, bind, Except.bind] at read
      | ok =>
        simp only [offset, size, bind, Except.bind, pure, Except.pure, Except.ok.injEq] at read
        simp [← read, Operation.words]

/-- Cut the text of a replacement operation into pattern and replacement. -/
def readReplacement (scope : Scope) (text : Text) : Operation Text :=
  let (pattern, replacement?) := splitFree '/' text
  .replace scope pattern (replacement?.getD [])

/-- Pattern and replacement are no longer than the text they were cut from. -/
theorem length_of_mem_readReplacement
    {scope : Scope} {text word : Text}
    (member : word ∈ (readReplacement scope text).words) :
    word.length ≤ text.length := by
  have bounds := length_le_of_splitFree (rfl : splitFree '/' text = (_, _))
  simp only [readReplacement, Operation.words, List.mem_cons, List.not_mem_nil, or_false] at member
  rcases member with rfl | rfl
  · exact bounds.1
  · exact bounds.2

/-- The operator on presence with a given sign, if it is one, and its word. -/
def readPresence? (colon : Bool) : Text → Option (Operation Text)
  | '=' :: word => some (.fallback colon .equals word)
  | '-' :: word => some (.fallback colon .minus word)
  | '+' :: word => some (.alternative colon word)
  | ['?'] => some (.orFail colon)
  | '?' :: message => some (.orFailWith colon message)
  | _ => none

/-- The word of an operator on presence is shorter than the text that begins with its sign. -/
theorem length_of_mem_readPresence?
    {colon : Bool} {text word : Text} {operation : Operation Text}
    (read : readPresence? colon text = some operation)
    (member : word ∈ operation.words) :
    word.length < text.length := by
  unfold readPresence? at read
  split at read
  case h_6 => simp at read
  all_goals
    obtain rfl := Option.some.inj read
    simp only [Operation.words, List.mem_cons, List.not_mem_nil, or_false] at member
  all_goals simp [member]

/-- Read what follows the name in a body. -/
def readOperation (expansion : Text) : Text → Except Failure (Operation Text)
  | [] => .ok .value
  | ['^', '^'] => .ok (.changeCase .upper true)
  | ['^'] => .ok (.changeCase .upper false)
  | [',', ','] => .ok (.changeCase .lower true)
  | [','] => .ok (.changeCase .lower false)
  | ':' :: rest =>
    match readPresence? true rest with
    | some operation => .ok operation
    | none =>
      if rest.isEmpty then .error (.invalid expansion .badSubstitution)
      else readSubstring expansion rest
  | '/' :: '/' :: rest => .ok (readReplacement .all rest)
  | '/' :: '#' :: rest => .ok (readReplacement .atStart rest)
  | '/' :: '%' :: rest => .ok (readReplacement .atEnd rest)
  | '/' :: rest => .ok (readReplacement .first rest)
  | '#' :: '#' :: pattern => .ok (.remove .leading true pattern)
  | '#' :: pattern => .ok (.remove .leading false pattern)
  | '%' :: '%' :: pattern => .ok (.remove .trailing true pattern)
  | '%' :: pattern => .ok (.remove .trailing false pattern)
  | rest =>
    match readPresence? false rest with
    | some operation => .ok operation
    | none => .error (.invalid expansion .badSubstitution)

/-- The words of an operation are shorter than the text it was read from. -/
theorem length_of_mem_readOperation
    {expansion text word : Text} {operation : Operation Text}
    (read : readOperation expansion text = .ok operation)
    (member : word ∈ operation.words) :
    word.length < text.length := by
  unfold readOperation at read
  split at read
  case h_6 rest =>
    split at read
    · rename_i presence
      obtain rfl := Except.ok.inj read
      have := length_of_mem_readPresence? presence member
      simp only [List.length_cons]
      omega
    · split at read
      · simp at read
      · simp [words_readSubstring read] at member
  case h_15 =>
    split at read
    · rename_i presence
      obtain rfl := Except.ok.inj read
      exact length_of_mem_readPresence? presence member
    · simp at read
  all_goals obtain rfl := Except.ok.inj read
  case h_7 | h_8 | h_9 | h_10 =>
    have := length_of_mem_readReplacement member
    simp only [List.length_cons]
    omega
  case h_11 | h_12 | h_13 | h_14 =>
    simp only [Operation.words, List.mem_cons, List.not_mem_nil, or_false] at member
    simp only [member, List.length_cons]
    omega
  all_goals simp [Operation.words] at member

/-- Read a body that starts with a name. -/
def readNamed (body : Text) : Except Failure (Name × Operation Text) := do
  match readName? body with
  | none => throw (.invalid (enclose body) .badSubstitution)
  | some (name, rest) => return (name, ← readOperation (enclose body) rest)

/-- Read a body: the name of its parameter and the operation, with words as text. -/
def readBody (body : Text) : Except Failure (Name × Operation Text) :=
  match body with
  | '#' :: rest =>
    match readName? rest with
    | some (name, []) => .ok (name, .length)
    | _ => readNamed body
  | _ => readNamed body

/-- The words of a body that starts with a name are shorter than the body by two. -/
theorem length_of_mem_readNamed
    {body word : Text} {name : Name} {operation : Operation Text}
    (read : readNamed body = .ok (name, operation))
    (member : word ∈ operation.words) :
    word.length + 2 ≤ body.length := by
  unfold readNamed at read
  split at read
  · simp [throw, throwThe, MonadExceptOf.throw] at read
  · rename_i found rest isName
    obtain ⟨whole, nonempty⟩ := eq_of_readName? isName
    have positive := List.length_pos_iff.mpr nonempty
    cases inner : readOperation (enclose body) rest with
    | error => simp [inner, bind, Except.bind] at read
    | ok result =>
      obtain ⟨_, rfl⟩ : found = name ∧ result = operation := by
        simpa [inner, bind, Except.bind, pure, Except.pure] using read
      have := length_of_mem_readOperation inner member
      have := congrArg List.length whole
      rw [List.length_append] at this
      omega

/-- The words of a body are shorter than the body by two. -/
theorem length_of_mem_readBody
    {body word : Text} {name : Name} {operation : Operation Text}
    (read : readBody body = .ok (name, operation))
    (member : word ∈ operation.words) :
    word.length + 2 ≤ body.length := by
  unfold readBody at read
  split at read
  · split at read
    · obtain ⟨_, rfl⟩ : _ ∧ .length = operation := by simpa using read
      simp [Operation.words] at member
    · exact length_of_mem_readNamed read member
  · exact length_of_mem_readNamed read member

end ParameterExpansion.Template
