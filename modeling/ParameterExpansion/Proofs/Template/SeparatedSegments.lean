import ParameterExpansion.Proofs.Template.ParsedForm

/-!
# The segments on the two sides of a separator

Dividing text at the first free slash and scanning it are two readers of one set of rules.  The
slash that divides is a literal character of the text, and the first one: what is quoted and what
lies inside an expansion is passed by both.  So the segments of a text are those of its head, the
slash, and those of its tail further on, with literal runs that meet joined.
-/

namespace ParameterExpansion.Template

/-! ## Segments one behind the other -/

/-- The segment of a text that stands further on by a number of characters. -/
def Segment.movedBy (offset : Nat) (segment : Segment) : Segment :=
  { segment with position := segment.position + offset }

/-- Put a segment in front of others, joining literal text to literal text that follows it. -/
def Segment.joinTo : Segment → List Segment → List Segment
  | ⟨.literal text, position⟩, ⟨.literal more, _⟩ :: others =>
      ⟨.literal (text ++ more), position⟩ :: others
  | segment, others => segment :: others

/-- Segments with all literal runs joined that meet. -/
def joinSegments (segments : List Segment) : List Segment :=
  segments.foldr Segment.joinTo []

/-- A literal character is joined like a literal run of one character. -/
theorem joinTo_singleton
    (c : Char)
    (position : Nat)
    (segments : List Segment) :
    Segment.joinTo ⟨.literal [c], position⟩ segments = prependLiteral c position segments := by
  rcases segments with _ | ⟨⟨content, place⟩, others⟩
  · rfl
  · cases content <;> rfl

theorem joinTo_literal_cons
    (c : Char)
    (text : Text)
    (position place : Nat)
    (segments : List Segment) :
    Segment.joinTo ⟨.literal (c :: text), position⟩ segments =
      prependLiteral c position (Segment.joinTo ⟨.literal text, place⟩ segments) := by
  rcases segments with _ | ⟨⟨content, behind⟩, others⟩
  · rfl
  · cases content <;> rfl

theorem joinSegments_prependLiteral_append
    (c : Char)
    (position : Nat)
    (segments others : List Segment) :
    joinSegments (prependLiteral c position segments ++ others) =
      prependLiteral c position (joinSegments (segments ++ others)) := by
  rcases segments with _ | ⟨⟨content, place⟩, segments⟩
  · exact joinTo_singleton c position (joinSegments others)
  · cases content with
    | literal text => exact joinTo_literal_cons c text position place _
    | escaped quoted => rfl
    | expansion body => rfl

/-- A lexeme is put in front of segments as it is put in front of the joined segments. -/
theorem joinSegments_prepend_append
    (located : Located)
    (segments others : List Segment) :
    joinSegments (located.prepend segments ++ others) =
      located.prepend (joinSegments (segments ++ others)) := by
  rcases located with ⟨position, lexeme⟩
  cases lexeme with
  | plain c => exact joinSegments_prependLiteral_append c position segments others
  | dollarPair => exact joinSegments_prependLiteral_append '$' position segments others
  | escaped c => rfl
  | expansion body => rfl

theorem joinSegments_segmentsOf_append
    (lexemes : List Located)
    (others : List Segment) :
    joinSegments (segmentsOf lexemes ++ others) =
      lexemes.foldr Located.prepend (joinSegments others) := by
  induction lexemes with
  | nil => rfl
  | cons located lexemes ih =>
      rw [segmentsOf, List.foldr_cons, ← segmentsOf, joinSegments_prepend_append, ih]
      rfl

/-- Segments that lexemes make are joined already. -/
theorem joinSegments_segmentsOf (lexemes : List Located) :
    joinSegments (segmentsOf lexemes) = segmentsOf lexemes := by
  have joined := joinSegments_segmentsOf_append lexemes []
  rwa [List.append_nil] at joined

/-! ## Segments further on -/

theorem prependLiteral_map_movedBy
    (c : Char)
    (position offset : Nat)
    (segments : List Segment) :
    prependLiteral c (position + offset) (segments.map (Segment.movedBy offset)) =
      (prependLiteral c position segments).map (Segment.movedBy offset) := by
  rcases segments with _ | ⟨⟨content, place⟩, segments⟩
  · rfl
  · cases content <;> rfl

/-- Lexemes further on make the same segments further on. -/
theorem segmentsOf_locate_add
    (lexemes : List Lexeme)
    (position offset : Nat) :
    segmentsOf (locate (position + offset) lexemes) =
      (segmentsOf (locate position lexemes)).map (Segment.movedBy offset) := by
  induction lexemes generalizing position with
  | nil => rfl
  | cons lexeme lexemes ih =>
      have behind := ih (position + lexeme.spelling.length)
      rw [Nat.add_right_comm] at behind
      simp only [locate, segmentsOf, List.foldr_cons] at behind ⊢
      rw [behind]
      cases lexeme with
      | plain c => exact prependLiteral_map_movedBy c position offset _
      | dollarPair => exact prependLiteral_map_movedBy '$' position offset _
      | escaped c => rfl
      | expansion body => rfl

theorem locate_append
    (before after : List Lexeme)
    (position : Nat) :
    locate position (before ++ after) =
      locate position before ++
        locate (position + (before.flatMap Lexeme.spelling).length) after := by
  induction before generalizing position with
  | nil => rfl
  | cons lexeme before ih =>
      rw [List.cons_append, locate, ih, locate, List.flatMap_cons, List.length_append,
        Nat.add_assoc, List.cons_append]

/--
The segments of two texts with a literal character between them are those of the first, the
character, and those of the second, further on by what is in front of it, joined.
-/
theorem segmentsOf_locate_append_plain
    {head : Text} {before after : List Lexeme}
    (spelled : before.flatMap Lexeme.spelling = head)
    (c : Char) :
    segmentsOf (locate 0 (before ++ .plain c :: after)) =
      joinSegments
        (segmentsOf (locate 0 before) ++ ⟨.literal [c], head.length⟩ ::
          (segmentsOf (locate 0 after)).map (Segment.movedBy (head.length + 1))) := by
  have further :
      (segmentsOf (locate 0 after)).map (Segment.movedBy (head.length + 1)) =
        segmentsOf (locate (head.length + 1) after) := by
    rw [← segmentsOf_locate_add, Nat.zero_add]
  have between (segments : List Segment) :
      joinSegments (⟨.literal [c], head.length⟩ :: segments) =
        prependLiteral c head.length (joinSegments segments) :=
    joinTo_singleton c head.length (joinSegments segments)
  rw [joinSegments_segmentsOf_append, further, between, joinSegments_segmentsOf, locate_append,
    spelled, Nat.zero_add, segmentsOf, List.foldr_append]
  rfl

/-! ## Slashes of literal text -/

/-- No literal segment holds the character. -/
def HoldsNoLiteral (c : Char) (segments : List Segment) : Prop :=
  ∀ text position, ⟨.literal text, position⟩ ∈ segments → c ∉ text

theorem holdsNoLiteral_segmentsOf
    {c : Char} {lexemes : List Lexeme}
    (other : c ≠ '$')
    (absent : .plain c ∉ lexemes)
    (position : Nat) :
    HoldsNoLiteral c (segmentsOf (locate position lexemes)) := by
  intro text place member isChar
  have isContent := List.mem_map_of_mem (f := Segment.content) member
  rw [map_content_segmentsOf, map_lexeme_locate] at isContent
  rcases (isFrom_of_mem_joinLexemes isContent).2 c isChar with isDollar | isLexeme
  · exact other isDollar
  · exact absent isLexeme

/--
A text that can be scanned is divided at the first slash among its literal characters.  If there is
none, it is not divided.  Otherwise head, slash and tail make up the text, both sides can be
scanned, no literal segment of the head holds a slash, and the segments of the text are those of the
head, the slash, and those of the tail moved behind it, with literal runs that meet joined.
-/
theorem scan_eq_join_of_splitFree
    {text : Text} {segments : List Segment}
    (scanned : scan true text = .ok segments) :
    (∀ head, splitFree '/' text = (head, none) → head = text ∧ HoldsNoLiteral '/' segments) ∧
    ∀ head tail, splitFree '/' text = (head, some tail) →
      text = head ++ '/' :: tail ∧
      ∃ before after,
        scan true head = .ok before ∧ scan true tail = .ok after ∧
        HoldsNoLiteral '/' before ∧
        segments =
          joinSegments
            (before ++ ⟨.literal ['/'], head.length⟩ ::
              after.map (Segment.movedBy (head.length + 1))) := by
  rcases scan_eq_ok_iff.mp scanned with ⟨lexemes, lexes, rfl⟩
  by_cases divides : .plain '/' ∈ lexemes
  · rcases List.eq_append_cons_of_mem divides with ⟨before, after, rfl, absent⟩
    have cut := lexes.cutAtSeparator?_eq_some (by decide) absent []
    rcases lexes.split with ⟨head, tail, rfl, headLexes, tailLexes⟩
    rw [headLexes.spelling, tailLexes.spelling] at cut
    constructor
    · intro other parts
      simp [splitFree, cut] at parts
    · intro other behind parts
      obtain ⟨rfl, rfl⟩ : head = other ∧ tail = behind := by
        simpa [splitFree, cut] using parts
      refine ⟨rfl, _, _, scan_eq_ok_iff.mpr ⟨before, headLexes, rfl⟩,
        scan_eq_ok_iff.mpr ⟨after, tailLexes, rfl⟩, ?_, ?_⟩
      · exact holdsNoLiteral_segmentsOf (by decide) absent 0
      · exact segmentsOf_locate_append_plain headLexes.spelling '/'
  · have cut := lexes.cutAtSeparator?_eq_none divides []
    constructor
    · intro head parts
      obtain rfl : text = head := by simpa [splitFree, cut] using parts
      exact ⟨rfl, holdsNoLiteral_segmentsOf (by decide) divides 0⟩
    · intro head tail parts
      simp [splitFree, cut] at parts

/-- The text `\/${x/y}$/b/` is divided behind the dollar that stands alone, and nowhere before. -/
theorem scan_eq_join_of_splitFree_lone_dollar :
    let head := ['\\', '/', '$', '{', 'x', '/', 'y', '}', '$']
    let tail := ['b', '/']
    let segments : List Segment :=
      [⟨.escaped '/', 0⟩, ⟨.expansion ['x', '/', 'y'], 2⟩, ⟨.literal ['$', '/', 'b', '/'], 8⟩]
    scan true (head ++ '/' :: tail) = .ok segments ∧
      splitFree '/' (head ++ '/' :: tail) = (head, some tail) ∧
      ∃ before after,
        scan true head = .ok before ∧ scan true tail = .ok after ∧
        HoldsNoLiteral '/' before ∧
        segments =
          joinSegments (before ++ ⟨.literal ['/'], 9⟩ :: after.map (Segment.movedBy 10)) := by
  intro head tail segments
  have scanned : scan true (head ++ '/' :: tail) = .ok segments := by
    cbv
  have parts : splitFree '/' (head ++ '/' :: tail) = (head, some tail) := by
    cbv
  exact ⟨scanned, parts, ((scan_eq_join_of_splitFree scanned).2 head tail parts).2⟩

end ParameterExpansion.Template
