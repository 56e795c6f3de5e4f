import QueryLint.Lint.Source
import QueryLint.Proofs.Parser.Ensures.Statements
import QueryLint.Proofs.Parser.Scripts
import QueryLint.Proofs.Token.Faults
import QueryLint.Proofs.Token.Layout

/-!
Where the errors of a source are reported. A lexical error stands where the literal or comment begins
that is not complete, and what is wrong with a token stands where the token begins. Every error that
parsing reports is one of them, possibly within the names of forms, or one of the two errors that keep
their place in the message only: the diagnostic of such an error has no place.
-/

namespace QueryLint

open Text (Bytes)

/-! ### Errors of a parser -/

namespace SyntaxError

/-- An error stands where a token, a literal or a comment begins. -/
def Stands (stream : TokenStream) (error : SyntaxError) : Prop :=
  match error.root with
  | .lexical cause => cause.Begins stream
  | .syntactic position _ | .malformedArray position =>
    ∃ token ∈ stream.tokens, position = token.span.start
  | .pivotWithoutCall _ | .within .. => True

/-- An error that keeps its place in its message only. -/
def IsBare (error : SyntaxError) : Prop :=
  (∃ position, error.root = .malformedArray position) ∨
    ∃ position, error.root = .pivotWithoutCall position

theorem root_ne_within (error : SyntaxError) (context : String) (inner : SyntaxError) :
    error.root ≠ .within context inner := by
  induction error with
  | within _ _ ih => exact ih
  | _ => nofun

theorem diagnostic_start (error : SyntaxError) :
    error.diagnostic.span.start = error.position?.getD {} := by
  unfold diagnostic position?
  cases error.root <;> rfl

theorem position?_eq_none_iff (error : SyntaxError) : error.position? = none ↔ error.IsBare := by
  unfold position? IsBare
  cases found : error.root with
  | within context inner => exact absurd found (error.root_ne_within context inner)
  | _ => simp

end SyntaxError

def ParseResult.error? {α : Type} : ParseResult α → Option SyntaxError
  | .accepted _ recovered => recovered
  | .rejected error => some error
  | .exhausted => none

theorem ParseResult.Ensures.error {α : Type} {allowed : SyntaxError → Prop} {Q : α → Prop}
    {result : ParseResult α} (ensures : result.Ensures allowed Q) :
    ∀ error ∈ result.error?, allowed error := by
  cases result with
  | accepted value recovered => exact ensures.2
  | rejected error => exact fun _ same => Option.some.inj same ▸ ensures
  | exhausted => nofun

theorem ParserInput.token_mem {input : ParserInput} (nonempty : 0 < input.tokens.size) (place : Nat) :
    input.token place ∈ input.tokens.toList := by
  have last : input.tokens.size - 1 < input.tokens.size := by omega
  rw [Array.mem_toList_iff, token, Array.back?_eq_getElem?, Array.getElem?_eq_getElem last]
  cases found : input.tokens[place]? with
  | some token => exact Array.mem_of_getElem? found
  | none => exact Array.getElem_mem _

/-! ### Errors of a source -/

theorem LexicalError.Begins.span {stream : TokenStream} {error : LexicalError}
    (begins : error.Begins stream) :
    ∃ span ∈ stream.tokens.map Token.span ++ stream.comments.map Comment.span,
      error.position = span.start := by
  obtain ⟨position, fault⟩ := error
  cases fault with
  | unterminatedString =>
    obtain ⟨token, listed, -, same⟩ := begins
    exact ⟨_, List.mem_append_left _ (List.mem_map_of_mem listed), same⟩
  | unterminatedIdentifier =>
    obtain ⟨token, listed, -, same⟩ := begins
    exact ⟨_, List.mem_append_left _ (List.mem_map_of_mem listed), same⟩
  | unterminatedComment =>
    obtain ⟨comment, listed, -, same⟩ := begins
    exact ⟨_, List.mem_append_right _ (List.mem_map_of_mem listed), same⟩

theorem SyntaxError.Stands.span {stream : TokenStream} {error : SyntaxError} {position : Position}
    (stands : error.Stands stream) (found : error.position? = some position) :
    ∃ span ∈ stream.tokens.map Token.span ++ stream.comments.map Comment.span,
      position = span.start := by
  unfold Stands at stands
  unfold position? at found
  split at found
  next cause root =>
    rw [root] at stands
    cases found
    exact LexicalError.Begins.span stands
  next place fault root =>
    rw [root] at stands
    cases found
    obtain ⟨token, listed, same⟩ := stands
    exact ⟨_, List.mem_append_left _ (List.mem_map_of_mem listed), same⟩
  next => cases found

section Sources

variable {source : Bytes} {error : SyntaxError}

theorem Parser.start_admits {dialect : Dialect} (proper : dialect.Proper) (bounded : dialect.Bounded)
    (source : Bytes) : (start dialect source).1.Admits
      (SyntaxError.Stands (TokenStream.ofSource dialect.lexicon source)) := by
  have listed := (start dialect source).1.token_mem (start_wellFormed proper bounded source).nonempty
  exact ⟨fun place _ => ⟨_, listed place, rfl⟩, fun place => ⟨_, listed place, rfl⟩,
    fun _ => trivial, fun _ _ stands => stands⟩

theorem reported_stands
    (reported : (Query.parse Dialect.bigQuery source).error? = some error ∨
      (Script.parse Dialect.bigQuery source).error? = some error) :
    error.Stands (TokenStream.ofSource Dialect.bigQuery.lexicon source) := by
  have places := Dialect.bigQuery_placesClauses
  have admits := Parser.start_admits Dialect.bigQuery_proper Dialect.bigQuery_bounded source
  have lexical := TokenStream.ofSource_begins Dialect.bigQuery.lexicon source
  rcases reported with reported | reported
  · exact (Query.parse_ensures places admits lexical).error error reported
  · exact (Script.parse_ensures places admits lexical).error error reported

/-- The diagnostic of what parsing reports lies in the source, at the start of the token, literal or
comment that is at fault, unless the error is one of the two that keep their place in the message. -/
theorem reported_located
    (reported : (Query.parse Dialect.bigQuery source).error? = some error ∨
      (Script.parse Dialect.bigQuery source).error? = some error) :
    error.Stands (TokenStream.ofSource Dialect.bigQuery.lexicon source) ∧
      ((error.IsBare ∧ error.position? = none ∧ error.diagnostic.span.start = {}) ∨
        ∃ position, error.position? = some position ∧ error.diagnostic.span.start = position ∧
          1 ≤ position.line ∧ 0 ≤ position.offset ∧ position.offset ≤ source.length) := by
  have stands := reported_stands reported
  refine ⟨stands, ?_⟩
  cases place : error.position? with
  | none =>
    refine .inl ⟨error.position?_eq_none_iff.1 place, rfl, ?_⟩
    rw [error.diagnostic_start, place]
    rfl
  | some position =>
    obtain ⟨span, listed, rfl⟩ := stands.span place
    obtain ⟨i, j, -, forward, inside, rfl⟩ :=
      (TokenStream.ofSource_accountsFor Dialect.bigQuery_proper source).placed span listed
    refine .inr ⟨_, rfl, ?_, ?_⟩
    · rw [error.diagnostic_start, place]
      rfl
    · simp only [Span.between, Position.atOffset]
      omega

/-- The word for an array in front of a number, which its diagnostic does not place. -/
theorem malformed_array_unplaced :
    ∃ error, (Query.parse Dialect.bigQuery (Text.encode "SELECT ARRAY 1")).error? = some error ∧
      error.Stands (TokenStream.ofSource Dialect.bigQuery.lexicon (Text.encode "SELECT ARRAY 1")) ∧
      error.IsBare ∧ error.diagnostic.span.start = {} := by
  have reported : (Query.parse Dialect.bigQuery (Text.encode "SELECT ARRAY 1")).error? =
      some (.malformedArray ⟨1, 14, 13⟩) := by decide +kernel
  obtain ⟨stands, ⟨bare, -, unplaced⟩ | ⟨_, found, _⟩⟩ := reported_located (.inl reported)
  · exact ⟨_, reported, stands, bare, unplaced⟩
  · cases found

end Sources

end QueryLint
