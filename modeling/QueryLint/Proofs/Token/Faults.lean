import QueryLint.Token.Stream

/-!
What lexical errors say. Only a string, a quoted identifier or a block comment can be incomplete, and the
error about it stands where it begins.
-/

namespace QueryLint

open Text (Bytes)

/-- What is not complete begins where the error stands. -/
def LexicalError.Begins (stream : TokenStream) (error : LexicalError) : Prop :=
  match error.fault with
  | .unterminatedString =>
    ∃ token ∈ stream.tokens, token.kind = .string ∧ error.position = token.span.start
  | .unterminatedIdentifier =>
    ∃ token ∈ stream.tokens, token.quoted = true ∧ error.position = token.span.start
  | .unterminatedComment =>
    ∃ comment ∈ stream.comments, comment.kind = .block ∧ error.position = comment.span.start

theorem LexicalError.Begins.mono {stream wider : TokenStream} {error : LexicalError}
    (begins : error.Begins stream) (tokens : stream.tokens ⊆ wider.tokens)
    (comments : stream.comments ⊆ wider.comments) : error.Begins wider := by
  obtain ⟨position, fault⟩ := error
  cases fault with
  | unterminatedString =>
    obtain ⟨token, listed, holds⟩ := begins
    exact ⟨token, tokens listed, holds⟩
  | unterminatedIdentifier =>
    obtain ⟨token, listed, holds⟩ := begins
    exact ⟨token, tokens listed, holds⟩
  | unterminatedComment =>
    obtain ⟨comment, listed, holds⟩ := begins
    exact ⟨comment, comments listed, holds⟩

def PieceContent.OwnFault : PieceContent → Prop
  | .blank => True
  | .comment kind _ fault => ∀ what ∈ fault, what = .unterminatedComment ∧ kind = .block
  | .lexeme kind _ quoted fault => ∀ what ∈ fault,
    (what = .unterminatedString ∧ kind = .string) ∨ (what = .unterminatedIdentifier ∧ quoted = true)

namespace Lexing

theorem mem_of_closed {closed : Bool} {what other : LexicalFault}
    (member : what ∈ if closed then none else some other) : what = other := by
  cases closed with
  | true => cases member
  | false => exact (Option.some.inj member).symm

theorem readLexeme_ownFault (lexicon : Lexicon) (b : UInt8) (rest : Bytes) :
    (readLexeme lexicon b rest).1.OwnFault := by
  have verbatim_ownFault (kind : TokenKind) (width : Nat) (bytes : Bytes) :
      (verbatim kind width bytes).1.OwnFault := nofun
  have string_ownFault (skip : Nat) (raw : Bool) (bytes : Bytes) :
      (stringLexeme skip raw bytes).1.OwnFault := fun _ unclosed => .inl ⟨mem_of_closed unclosed, rfl⟩
  unfold readLexeme
  dsimp only
  split
  · exact verbatim_ownFault _ _ _
  split
  · exact verbatim_ownFault _ _ _
  split
  · exact string_ownFault _ _ _
  split
  · exact fun _ unclosed => .inr ⟨mem_of_closed unclosed, rfl⟩
  split
  · exact verbatim_ownFault _ _ _
  split
  · exact string_ownFault _ _ _
  split
  · exact verbatim_ownFault _ _ _
  split <;> exact verbatim_ownFault _ _ _

theorem read_ownFault (lexicon : Lexicon) (b : UInt8) (rest : Bytes) :
    (read lexicon b rest).1.OwnFault := by
  unfold read
  dsimp only
  split
  · trivial
  split
  · exact nofun
  split
  · exact fun _ unclosed => ⟨mem_of_closed unclosed, rfl⟩
  · exact readLexeme_ownFault ..

theorem piecesFrom_ownFault (lexicon : Lexicon) (bytes : Bytes) (skip : Nat) :
    ∀ piece ∈ piecesFrom lexicon bytes skip, piece.content.OwnFault := by
  fun_induction piecesFrom lexicon bytes skip with
  | case1 => exact List.forall_mem_nil _
  | case2 _ _ _ ih => exact ih
  | case3 b rest content width start ih =>
    have first : content.OwnFault := by
      have own := read_ownFault lexicon b rest
      rwa [start] at own
    exact List.forall_mem_cons.2 ⟨first, ih⟩

end Lexing

namespace TokenStream

/-- A fault of a lexeme stands where its token begins. -/
theorem fault_begins {stream : TokenStream} {kind : TokenKind} {literal : Bytes} {start stop : Position}
    {quoted : Bool} {fault : Option LexicalFault}
    (listed : { kind, literal, span := ⟨start, stop⟩, quoted } ∈ stream.tokens)
    (own : (PieceContent.lexeme kind literal quoted fault).OwnFault) :
    ∀ error ∈ fault.toList.map (⟨start, ·⟩), LexicalError.Begins stream error := by
  intro error member
  obtain ⟨what, found, rfl⟩ := List.mem_map.1 member
  rcases own what (Option.mem_toList.1 found) with ⟨rfl, string⟩ | ⟨rfl, quoted⟩
  · exact ⟨_, listed, string, rfl⟩
  · exact ⟨_, listed, quoted, rfl⟩

theorem lay_begins (position : Position) (pieces : List Piece)
    (own : ∀ piece ∈ pieces, piece.content.OwnFault) :
    ∀ error ∈ (lay position pieces).errors, error.Begins (lay position pieces) := by
  induction pieces generalizing position with
  | nil => nofun
  | cons piece pieces ih =>
    obtain ⟨here, others⟩ := List.forall_mem_cons.1 own
    have later := ih (position.advance piece.source) others
    rw [lay]
    dsimp only
    cases content : piece.content with
    | blank => exact later
    | comment kind literal fault =>
      rw [content] at here
      intro error member
      rcases List.mem_append.1 member with first | member
      · obtain ⟨what, found, rfl⟩ := List.mem_map.1 first
        obtain ⟨rfl, rfl⟩ := here what (Option.mem_toList.1 found)
        exact ⟨_, List.mem_cons_self, rfl, rfl⟩
      · exact (later error member).mono (List.Subset.refl _) (List.subset_cons_self _ _)
    | lexeme kind literal quoted fault =>
      rw [content] at here
      dsimp only
      split
      · exact fault_begins List.mem_cons_self here
      · intro error member
        rcases List.mem_append.1 member with first | member
        · exact fault_begins List.mem_cons_self here error first
        · exact (later error member).mono (List.subset_cons_self _ _) (List.Subset.refl _)

theorem ofSource_begins (lexicon : Lexicon) (source : Bytes) :
    ∀ error ∈ (ofSource lexicon source).errors, error.Begins (ofSource lexicon source) :=
  lay_begins .start _ (Lexing.piecesFrom_ownFault lexicon source 0)

end TokenStream

end QueryLint
