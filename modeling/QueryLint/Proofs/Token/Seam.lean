import QueryLint.Proofs.Syntax.Relocated
import QueryLint.Proofs.Token.Layout
import QueryLint.Proofs.Token.Settled

/-!
Sources with a line feed between them. A source that is cut without a fault is cut in the same way where
a line feed and further bytes follow, and these are cut as if they stood alone. Their tokens and comments
lie as many lines and bytes further on as there are before them.
-/

namespace QueryLint

open Text (Bytes)

/-! ### Streams -/

namespace TokenStream

def before (first second : TokenStream) : TokenStream where
  tokens := first.tokens.dropLast ++ second.tokens
  comments := first.comments ++ second.comments
  errors := first.errors ++ second.errors

variable {position : Position} {piece : Piece} {pieces : List Piece} {first second : TokenStream}

theorem lay_tokens_ne_nil (position : Position) (pieces : List Piece) :
    (lay position pieces).tokens ≠ [] := by
  induction pieces generalizing position with
  | nil => exact List.cons_ne_nil _ _
  | cons piece pieces ih =>
    rw [lay]
    dsimp only
    split
    · exact ih _
    · exact ih _
    · split <;> exact List.cons_ne_nil _ _

def headed (piece : Piece) (position : Position) (rest : TokenStream) : TokenStream :=
  let span : Span := ⟨position, position.advance piece.source⟩
  let errors := piece.content.fault?.toList.map (⟨position, ·⟩) ++ rest.errors
  match piece.content with
  | .blank => rest
  | .comment kind literal _ => { rest with comments := { kind, literal, span } :: rest.comments, errors }
  | .lexeme kind literal quoted _ =>
    { rest with tokens := { kind, literal, span, quoted } :: rest.tokens, errors }

theorem lay_cons (fits : piece.Fits) :
    lay position (piece :: pieces) =
      headed piece position (lay (position.advance piece.source) pieces) := by
  rw [lay, headed]
  dsimp only
  cases kind : piece.content with
  | blank => rfl
  | comment => rfl
  | lexeme =>
    have content := fits.content
    rw [kind] at content
    exact if_neg content.1

theorem headed_before (nonempty : first.tokens ≠ []) :
    headed piece position (first.before second) = (headed piece position first).before second := by
  unfold headed
  dsimp only
  split
  · rfl
  · simp [before]
  · simp [before, List.dropLast_cons_of_ne_nil nonempty]

theorem headed_errors (clean : (headed piece position first).errors = []) :
    piece.content.fault? = none ∧ first.errors = [] := by
  unfold headed at clean
  dsimp only at clean
  split at clean
  next blank => exact ⟨by rw [blank]; rfl, clean⟩
  all_goals
    obtain ⟨own, rest⟩ := List.append_eq_nil_iff.1 clean
    exact ⟨by simpa using own, rest⟩

section Sources

variable {lexicon : Lexicon} (proper : lexicon.Proper)

include proper

theorem pieces_fits (b : UInt8) (rest : Bytes) :
    Piece.Fits ⟨(b :: rest).take (Lexing.read lexicon b rest).2, (Lexing.read lexicon b rest).1⟩ :=
  Lexing.pieces_fit proper (b :: rest) _ (Lexing.pieces_eq_read proper b rest ▸ List.mem_cons_self)

theorem lay_blank {b : UInt8} (blank : Lexing.isBlank b = true) (position : Position) (rest : Bytes) :
    lay position (lexicon.pieces (b :: rest)) = lay (position.next b) (lexicon.pieces rest) := by
  have reads {b : UInt8} (blank : Lexing.isBlank b = true) (position : Position) (rest : Bytes) :
      lay position (lexicon.pieces (b :: rest)) =
        lay (position.advance (b :: rest.take (Lexing.widthWhile Lexing.isBlank rest)))
          (lexicon.pieces (rest.drop (Lexing.widthWhile Lexing.isBlank rest))) := by
    have read : Lexing.read lexicon b rest = (.blank, Lexing.widthWhile Lexing.isBlank rest + 1) := by
      simp only [Lexing.read, if_pos blank, Lexing.widthWhile, List.takeWhile_cons_of_pos blank,
        List.length_cons]
    rw [Lexing.pieces_eq_read proper, read]
    rfl
  rw [reads blank]
  cases rest with
  | nil => rfl
  | cons c rest =>
    by_cases more : Lexing.isBlank c = true
    · have width : Lexing.widthWhile Lexing.isBlank (c :: rest) =
          Lexing.widthWhile Lexing.isBlank rest + 1 := by
        simp only [Lexing.widthWhile, List.takeWhile_cons_of_pos more, List.length_cons]
      rw [width, reads more]
      rfl
    · have width : Lexing.widthWhile Lexing.isBlank (c :: rest) = 0 := by
        simp only [Lexing.widthWhile, List.takeWhile_cons_of_neg more, List.length_nil]
      rw [width]
      rfl

/-- A source without faults is laid out in front of a line feed as if it stood alone. -/
theorem lay_feed (unbroken : lexicon.Unbroken) (position : Position) (source others : Bytes)
    (clean : (lay position (lexicon.pieces source)).errors = []) :
    lay position (lexicon.pieces (source ++ 0x0A :: others)) =
      (lay position (lexicon.pieces source)).before
        (lay (position.advance source) (lexicon.pieces (0x0A :: others))) := by
  induction h : source.length using Nat.strongRecOn generalizing position source with
  | ind n ih =>
  cases source with
  | nil => rfl
  | cons b rest =>
    cases blank : Lexing.isBlank b with
    | true =>
      rw [lay_blank proper blank] at clean ⊢
      rw [List.cons_append, lay_blank proper blank]
      exact ih rest.length (by rw [← h]; exact Nat.lt_succ_self _) _ rest clean rfl
    | false =>
      have fits := pieces_fits proper b rest
      have cut := Lexing.pieces_eq_read proper b rest
      rw [cut, lay_cons fits] at clean
      obtain ⟨full, clean⟩ := headed_errors clean
      have settles := Lexing.read_settles unbroken blank full
      have within : (Lexing.read lexicon b rest).2 ≤ (b :: rest).length := settles.within
      have stays : Lexing.read lexicon b (rest ++ 0x0A :: others) = Lexing.read lexicon b rest :=
        settles.stays others
      have cut' := Lexing.pieces_eq_read proper b (rest ++ 0x0A :: others)
      rw [stays, ← List.cons_append, List.take_append_of_le_length within,
        List.drop_append_of_le_length within] at cut'
      have shorter : ((b :: rest).drop (Lexing.read lexicon b rest).2).length < n := by
        have positive := (Lexing.read_fits proper b rest).1
        rw [List.length_drop, h]
        simp only [List.length_cons] at h
        omega
      rw [cut', cut, lay_cons fits, lay_cons fits, ih _ shorter _ _ clean rfl,
        headed_before (lay_tokens_ne_nil _ _), ← Position.advance_append, List.take_append_drop]

end Sources

end TokenStream

/-! ### Text in front of a source -/

/-- The position in a source where a text that ends a line stands in front of it. An unset position
stays unset. -/
def Position.after (text : Bytes) (position : Position) : Position :=
  if position.isValid then
    ⟨position.line + text.count 0x0A, position.column, position.offset + text.length⟩
  else position

namespace Position

variable {text : Bytes} {position : Position}

theorem isValid_next (valid : position.isValid = true) (b : UInt8) :
    (position.next b).isValid = true := by
  have positive : 0 < position.line := of_decide_eq_true valid
  refine decide_eq_true ?_
  unfold next
  split
  · exact Int.lt_trans positive (Int.lt_succ _)
  · exact positive

theorem isValid_advance (valid : position.isValid = true) (bytes : Bytes) :
    (position.advance bytes).isValid = true := by
  induction bytes generalizing position with
  | nil => exact valid
  | cons b bytes ih => exact ih (isValid_next valid b)

theorem offset_after (valid : position.isValid = true) :
    (position.after text).offset = position.offset + text.length := by
  rw [after, if_pos valid]

theorem next_after (valid : position.isValid = true) (b : UInt8) :
    (position.after text).next b = (position.next b).after text := by
  rw [after, if_pos valid, after, if_pos (isValid_next valid b), next, next]
  split
  · simp only [mk.injEq, true_and]
    omega
  · simp only [mk.injEq, true_and]
    omega

theorem advance_after (valid : position.isValid = true) (bytes : Bytes) :
    (position.after text).advance bytes = (position.advance bytes).after text := by
  induction bytes generalizing position with
  | nil => rfl
  | cons b bytes ih =>
    change ((position.after text).next b).advance bytes = ((position.next b).advance bytes).after text
    rw [next_after valid, ih (isValid_next valid b)]

theorem start_after (line : Bytes) : start.after (line ++ [0x0A]) = start.advance (line ++ [0x0A]) := by
  rw [advance_start]
  simp [after, start, isValid]

end Position

instance : Located TokenStream where
  relocate place stream :=
    ⟨relocate place stream.tokens, relocate place stream.comments, relocate place stream.errors⟩
  relocate_id _ := by simp only [relocate_id]

namespace TokenStream

variable {text : Bytes} {position : Position}

/-- Pieces are laid out behind a text as they are on their own. -/
theorem lay_after (valid : position.isValid = true) (pieces : List Piece) :
    lay (position.after text) pieces = relocate (Position.after text) (lay position pieces) := by
  induction pieces generalizing position with
  | nil => rfl
  | cons piece pieces ih =>
    rw [lay, lay]
    dsimp only
    rw [Position.advance_after valid, ih (Position.isValid_advance valid _)]
    cases piece.content with
    | blank => rfl
    | comment _ _ fault => cases fault <;> rfl
    | lexeme kind _ _ fault =>
      by_cases ends : kind = .endOfInput
      · simp only [if_pos ends]
        cases fault <;> rfl
      · simp only [if_neg ends]
        cases fault <;> rfl

end TokenStream

/-! ### A semicolon on a line of its own -/

namespace Dialect

theorem bigQuery_unbroken : bigQuery.lexicon.Unbroken := nofun

theorem read_semicolon (rest : Bytes) : Lexing.read bigQuery.lexicon 0x3B rest =
    (.lexeme Symbol.semicolon [0x3B] false none, 1) := by
  have builtin : Lexing.builtinSymbol? 0x3B rest.head? = some (.semicolon, 1) := by
    cases rest <;> rfl
  have none : Lexing.symbol? bigQuery.lexicon (0x3B :: rest) = none := rfl
  have lexeme : Lexing.read bigQuery.lexicon 0x3B rest =
      Lexing.readLexeme bigQuery.lexicon 0x3B rest := rfl
  rw [lexeme, Lexing.readLexeme, none, builtin]
  rfl

end Dialect

namespace TokenStream

def semicolonAt (position : Position) : Token :=
  { kind := Symbol.semicolon, literal := [0x3B], span := ⟨position, position.next 0x3B⟩ }

/-- Two sources with a semicolon on a line between them are read as they are on their own, the second
one in its place. -/
theorem ofSource_joined {first second : Bytes}
    (clean : (ofSource Dialect.bigQuery.lexicon first).errors = []) :
    ofSource Dialect.bigQuery.lexicon (first ++ 0x0A :: 0x3B :: 0x0A :: second) =
      let stream := relocate (Position.after (first ++ [0x0A, 0x3B, 0x0A]))
        (ofSource Dialect.bigQuery.lexicon second)
      (ofSource Dialect.bigQuery.lexicon first).before
        { stream with tokens :=
            semicolonAt (Position.start.advance (first ++ [0x0A])) :: stream.tokens } := by
  have proper := Dialect.bigQuery_proper.lexicon
  have feed : Lexing.isBlank 0x0A = true := rfl
  have cut := Lexing.pieces_eq_read proper 0x3B (0x0A :: second)
  rw [Dialect.read_semicolon] at cut
  have stop : Position.start.after (first ++ [0x0A, 0x3B, 0x0A]) =
      Position.start.advance (first ++ [0x0A, 0x3B, 0x0A]) := by
    have ended := Position.start_after (first ++ [0x0A, 0x3B])
    rwa [List.append_assoc] at ended
  have placed : (((Position.start.advance first).next 0x0A).next 0x3B).next 0x0A =
      Position.start.after (first ++ [0x0A, 0x3B, 0x0A]) := by
    rw [stop, Position.advance_append]
    rfl
  have second' : lay ((Position.start.advance first).next 0x0A)
      (Dialect.bigQuery.lexicon.pieces (0x3B :: 0x0A :: second)) =
        let stream := lay (((Position.start.advance first).next 0x0A).next 0x3B)
          (Dialect.bigQuery.lexicon.pieces (0x0A :: second))
        { stream with tokens :=
            semicolonAt ((Position.start.advance first).next 0x0A) :: stream.tokens } := by
    rw [cut]
    rfl
  rw [ofSource, lay_feed proper Dialect.bigQuery_unbroken _ _ _ clean, lay_blank proper feed, second',
    lay_blank proper feed, placed, lay_after rfl, Position.advance_append]
  rfl

end TokenStream

end QueryLint
