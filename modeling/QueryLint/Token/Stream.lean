import QueryLint.Token.Piece

/-!
The tokens, comments and lexical errors of a source, each at its position. Positions are those
that the bytes of the pieces before it lead to.
-/

namespace QueryLint

open Text (Bytes)

/-- An incomplete literal or comment, at its first byte. -/
structure LexicalError where
  position : Position
  fault : LexicalFault
deriving DecidableEq, Repr, Inhabited

/-- What reading a source yields. The tokens end with one of kind `endOfInput`. -/
structure TokenStream where
  tokens : List Token := []
  comments : List Comment := []
  errors : List LexicalError := []

namespace TokenStream

/-- Lays pieces out from a position on. A lexeme of kind `endOfInput` ends the stream early. -/
def lay (position : Position) : List Piece → TokenStream
  | [] => { tokens := [{ kind := .endOfInput, span := ⟨position, position⟩ }] }
  | piece :: pieces =>
    let stop := position.advance piece.source
    let span : Span := ⟨position, stop⟩
    let faults (fault : Option LexicalFault) : List LexicalError :=
      fault.toList.map (⟨position, ·⟩)
    match piece.content with
    | .blank => lay stop pieces
    | .comment kind literal fault =>
      let rest := lay stop pieces
      { rest with
        comments := { kind, literal, span } :: rest.comments
        errors := faults fault ++ rest.errors }
    | .lexeme kind literal quoted fault =>
      let token : Token := { kind, literal, span, quoted }
      if kind = .endOfInput then { tokens := [token], errors := faults fault }
      else
        let rest := lay stop pieces
        { rest with
          tokens := token :: rest.tokens
          errors := faults fault ++ rest.errors }

def ofSource (lexicon : Lexicon) (source : Bytes) : TokenStream :=
  lay .start (lexicon.pieces source)

end TokenStream

end QueryLint
