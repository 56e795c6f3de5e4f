import QueryLint.Dialect.BigQuery
import QueryLint.Proofs.Text.Utf8

/-!
How a source is cut. Every piece takes at least one byte of the source, so cutting comes to the end
of the source and the pieces together are the source. What a piece holds is what its bytes say:
white space is white space only, and a lexeme that is neither a string nor quoted is its own
literal.
-/

namespace QueryLint

open Text (Bytes)

/-- A lexicon that spells its symbols and leaves the mark for the end of the input alone. -/
structure Lexicon.Proper (lexicon : Lexicon) : Prop where
  spelled : ∀ entry ∈ lexicon.symbols, entry.1 ≠ []
  symbols : ∀ entry ∈ lexicon.symbols, entry.2 ≠ .endOfInput
  words : ∀ entry ∈ lexicon.words, entry.2 ≠ .endOfInput

/-- A dialect whose symbols have a spelling and that gives no symbol and no keyword the meaning of
the end of the input. -/
structure Dialect.Proper (dialect : Dialect) : Prop where
  symbols : ∀ entry ∈ dialect.symbols, entry.1 ≠ "" ∧ entry.2 ≠ .endOfInput
  words : ∀ entry ∈ dialect.words, entry.2 ≠ .endOfInput

namespace Dialect

theorem bigQuery_proper : bigQuery.Proper := by
  constructor <;> decide

theorem Proper.lexicon {dialect : Dialect} (proper : dialect.Proper) : dialect.lexicon.Proper where
  spelled entry member := by
    obtain ⟨⟨symbol, kind⟩, listed, rfl⟩ := List.mem_map.1 member
    exact Text.encode_ne_nil (proper.symbols _ listed).1
  symbols entry member := by
    obtain ⟨⟨symbol, kind⟩, listed, rfl⟩ := List.mem_map.1 member
    exact (proper.symbols _ listed).2
  words := proper.words

end Dialect

/-- What the content of a piece says about its bytes. -/
def PieceContent.Fits (content : PieceContent) (source : Bytes) : Prop :=
  match content with
  | .blank => ∀ b ∈ source, Lexing.isBlank b = true
  | .comment .. => True
  | .lexeme kind literal quoted _ =>
    kind ≠ .endOfInput ∧ (kind ≠ .string → quoted = false → literal = source)

structure Piece.Fits (piece : Piece) : Prop where
  nonempty : piece.source ≠ []
  content : piece.content.Fits piece.source

namespace Lexing

/-! ### Widths -/

theorem widthWhile_pos {keep : UInt8 → Bool} {b : UInt8} (rest : Bytes) (kept : keep b = true) :
    0 < widthWhile keep (b :: rest) := by
  simp [widthWhile, kept]

theorem builtinSymbol?_pos {b : UInt8} {next : Option UInt8} {symbol : Symbol} {width : Nat}
    (found : builtinSymbol? b next = some (symbol, width)) : 0 < width := by
  unfold builtinSymbol? at found
  split at found
  all_goals first
    | (simp only [Option.some.injEq, Prod.mk.injEq] at found; omega)
    | (split at found <;> simp only [Option.some.injEq, Prod.mk.injEq, reduceCtorEq] at found; omega)
    | simp only [reduceCtorEq] at found

theorem startsIdentifier_of_isDigit {b : UInt8} (digit : (Char.ofNat b.toNat).isDigit = true) :
    startsIdentifier b = false := by
  have all : ∀ n : Fin 256, (Char.ofNat n).isDigit = true → startsIdentifier (.ofFin n) = false := by
    decide +kernel
  exact all b.toFin digit

/-- A point that is no symbol stands before a digit. -/
theorem digit_of_point {rest : Bytes} (none : builtinSymbol? 0x2E rest.head? = none) :
    startsWith startsIdentifier rest = false := by
  cases rest with
  | nil => simp [builtinSymbol?] at none
  | cons c rest =>
    have point : Char.ofNat (0x2E : UInt8).toNat = '.' := by decide
    simp only [builtinSymbol?, point, List.head?_cons, Option.map_some, ite_eq_left_iff,
      reduceCtorEq, imp_false, Bool.not_eq_true, Bool.not_eq_false] at none
    simp only [startsWith, List.head?_cons, Option.any_some]
    exact startsIdentifier_of_isDigit none

theorem numberWidth_pos {b : UInt8} {rest : Bytes} (starts : isDigit b = true ∨ b = 0x2E)
    (none : builtinSymbol? b rest.head? = none) : 0 < numberWidth (b :: rest) := by
  unfold numberWidth
  split
  · omega
  · dsimp only
    rcases starts with digit | rfl
    · have taken : 0 < widthWhile isDigit (b :: rest) := widthWhile_pos rest digit
      omega
    · have whole : widthWhile isDigit (0x2E :: rest) = 0 := by simp [widthWhile, isDigit]
      have fraction : 0 < fractionWidth (0x2E :: rest) := by
        simp only [fractionWidth, digit_of_point none, Bool.not_false, Bool.and_true, decide_true,
          if_true]
        omega
      simp only [whole, List.drop_zero]
      omega

/-! ### Lexemes -/

/-- The first bytes as many as a reading takes fit what it says. -/
def ReadingFits (bytes : Bytes) (reading : Reading) : Prop :=
  0 < reading.2 ∧ reading.1.Fits (bytes.take reading.2)

theorem verbatim_fits {kind : TokenKind} {width : Nat} (bytes : Bytes) (positive : 0 < width)
    (proper : kind ≠ .endOfInput) : ReadingFits bytes (verbatim kind width bytes) :=
  ⟨positive, proper, fun _ _ => rfl⟩

theorem stringLexeme_fits (skip : Nat) (raw : Bool) (bytes : Bytes) :
    ReadingFits bytes (stringLexeme skip raw bytes) := by
  refine ⟨?_, by decide, fun other => absurd rfl other⟩
  simp only [stringLexeme]
  split <;> omega

theorem identifierLexeme_fits (bytes : Bytes) : ReadingFits bytes (identifierLexeme bytes) := by
  refine ⟨?_, by decide, nofun⟩
  simp only [identifierLexeme]
  omega

theorem parameterLexeme_fits (bytes : Bytes) : ReadingFits bytes (parameterLexeme bytes) := by
  refine verbatim_fits bytes ?_ (by decide)
  split <;> omega

theorem mem_of_lookup {α β : Type} [BEq α] [LawfulBEq α] {key : α} {value : β}
    {entries : List (α × β)} (found : entries.lookup key = some value) :
    (key, value) ∈ entries := by
  obtain ⟨before, after, rfl, _⟩ := List.lookup_eq_some_iff.1 found
  simp

theorem kindOfWord_ne_endOfInput {lexicon : Lexicon} (proper : lexicon.Proper) (text : String) :
    kindOfWord lexicon text ≠ .endOfInput := by
  unfold kindOfWord
  dsimp only
  split
  · nofun
  · cases found : lexicon.words.lookup (Text.upper text) with
    | none => nofun
    | some kind => exact proper.words _ (mem_of_lookup found)

theorem wordLexeme_fits {lexicon : Lexicon} (proper : lexicon.Proper) {b : UInt8} (rest : Bytes)
    (starts : startsIdentifier b = true) :
    ReadingFits (b :: rest) (wordLexeme lexicon (b :: rest)) :=
  verbatim_fits _ (widthWhile_pos rest (by simp [continuesIdentifier, starts]))
    (kindOfWord_ne_endOfInput proper _)

def longerSymbol (best : Option (Bytes × TokenKind)) (fit : Bytes × TokenKind) :
    Option (Bytes × TokenKind) :=
  match best with
  | some longest => if longest.1.length < fit.1.length then some fit else best
  | none => some fit

theorem mem_of_symbol? {lexicon : Lexicon} {bytes symbol : Bytes} {kind : TokenKind}
    (found : symbol? lexicon bytes = some (symbol, kind)) : (symbol, kind) ∈ lexicon.symbols := by
  have longest : ∀ (fits : List (Bytes × TokenKind)) (best : Option (Bytes × TokenKind)),
      fits.foldl longerSymbol best = some (symbol, kind) →
      best = some (symbol, kind) ∨ (symbol, kind) ∈ fits := by
    intro fits
    induction fits with
    | nil => exact fun best found => .inl found
    | cons fit fits ih =>
      intro best found
      rcases ih _ found with same | member
      · cases best with
        | none => exact .inr (by simp only [longerSymbol, Option.some.injEq] at same; simp [same])
        | some longest =>
          simp only [longerSymbol] at same
          split at same
          · exact .inr (by simp only [Option.some.injEq] at same; simp [same])
          · exact .inl same
      · exact .inr (List.mem_cons_of_mem _ member)
  rcases longest _ _ found with impossible | member
  · cases impossible
  · exact (List.mem_filter.1 member).1

theorem readLexeme_fits {lexicon : Lexicon} (proper : lexicon.Proper) (b : UInt8) (rest : Bytes) :
    ReadingFits (b :: rest) (readLexeme lexicon b rest) := by
  unfold readLexeme
  dsimp only
  split
  next symbol kind found =>
    have member := mem_of_symbol? found
    exact verbatim_fits _ (List.length_pos_iff.2 (proper.spelled _ member))
      (proper.symbols _ member)
  next =>
    split
    next symbol width found => exact verbatim_fits _ (builtinSymbol?_pos found) (by nofun)
    next none =>
      split
      · exact stringLexeme_fits 0 false _
      split
      · exact identifierLexeme_fits _
      split
      · exact parameterLexeme_fits _
      split
      · exact stringLexeme_fits _ _ _
      split
      next starts => exact wordLexeme_fits proper rest starts
      split
      next number =>
        simp only [Bool.or_eq_true, decide_eq_true_eq] at number
        exact verbatim_fits _ (numberWidth_pos number none) (by decide)
      · exact verbatim_fits _ Nat.one_pos (by decide)

/-! ### Pieces -/

theorem all_take_widthWhile (keep : UInt8 → Bool) (bytes : Bytes) :
    ∀ b ∈ bytes.take (widthWhile keep bytes), keep b = true := by
  intro b member
  have prefixed : bytes.take (widthWhile keep bytes) = bytes.takeWhile keep :=
    (List.prefix_iff_eq_take.1 (List.takeWhile_prefix keep)).symm
  rw [prefixed] at member
  exact List.all_eq_true.1 List.all_takeWhile b member

theorem read_fits {lexicon : Lexicon} (proper : lexicon.Proper) (b : UInt8) (rest : Bytes) :
    ReadingFits (b :: rest) (read lexicon b rest) := by
  unfold read
  dsimp only
  split
  next blank => exact ⟨widthWhile_pos rest blank, all_take_widthWhile isBlank _⟩
  split
  next starts =>
    refine ⟨widthWhile_pos rest ?_, trivial⟩
    simp only [Bool.or_eq_true, Bool.and_eq_true, decide_eq_true_eq] at starts
    rcases starts with rfl | ⟨rfl, _⟩ <;> decide
  split
  · exact ⟨by simp only [blockComment]; omega, trivial⟩
  · exact readLexeme_fits proper b rest

theorem piecesFrom_skip (lexicon : Lexicon) (bytes : Bytes) (skip : Nat) :
    piecesFrom lexicon bytes skip = piecesFrom lexicon (bytes.drop skip) 0 := by
  induction bytes generalizing skip with
  | nil => cases skip <;> rfl
  | cons b rest ih =>
    cases skip with
    | zero => rfl
    | succ skip => exact ih skip

/-- Cutting goes on after the bytes of the first piece. -/
theorem pieces_eq_read {lexicon : Lexicon} (proper : lexicon.Proper) (b : UInt8) (rest : Bytes) :
    lexicon.pieces (b :: rest) = ⟨(b :: rest).take (read lexicon b rest).2, (read lexicon b rest).1⟩ ::
      lexicon.pieces ((b :: rest).drop (read lexicon b rest).2) := by
  obtain ⟨width, positive⟩ := Nat.exists_eq_add_one.2 (read_fits proper b rest).1
  simp only [Lexicon.pieces, piecesFrom, positive, Nat.add_sub_cancel, List.drop_succ_cons,
    ← piecesFrom_skip]

theorem pieces_cons {lexicon : Lexicon} (proper : lexicon.Proper) (b : UInt8) (rest : Bytes) :
    ∃ (content : PieceContent) (width : Nat), ReadingFits (b :: rest) (content, width) ∧
      lexicon.pieces (b :: rest) =
        ⟨(b :: rest).take width, content⟩ :: lexicon.pieces ((b :: rest).drop width) :=
  ⟨_, _, read_fits proper b rest, pieces_eq_read proper b rest⟩

/-- The pieces of a source together are the source. -/
theorem flatMap_source_pieces {lexicon : Lexicon} (proper : lexicon.Proper) (source : Bytes) :
    (lexicon.pieces source).flatMap Piece.source = source := by
  induction h : source.length using Nat.strongRecOn generalizing source with
  | ind n ih =>
    cases source with
    | nil => rfl
    | cons b rest =>
      obtain ⟨content, width, fits, cut⟩ := pieces_cons proper b rest
      have positive : 0 < width := fits.1
      have shorter : ((b :: rest).drop width).length < n := by
        simp only [List.length_drop, ← h, List.length_cons]
        omega
      rw [cut, List.flatMap_cons, ih _ shorter _ rfl, List.take_append_drop]

theorem pieces_fit {lexicon : Lexicon} (proper : lexicon.Proper) (source : Bytes) :
    ∀ piece ∈ lexicon.pieces source, piece.Fits := by
  induction h : source.length using Nat.strongRecOn generalizing source with
  | ind n ih =>
    cases source with
    | nil => exact List.forall_mem_nil _
    | cons b rest =>
      obtain ⟨content, width, fits, cut⟩ := pieces_cons proper b rest
      have positive : 0 < width := fits.1
      have shorter : ((b :: rest).drop width).length < n := by
        simp only [List.length_drop, ← h, List.length_cons]
        omega
      intro piece member
      rcases List.mem_cons.1 (cut ▸ member) with rfl | member
      · refine ⟨?_, fits.2⟩
        obtain ⟨width, rfl⟩ := Nat.exists_eq_add_one.2 positive
        exact List.cons_ne_nil _ _
      · exact ih _ shorter _ rfl piece member

end Lexing

end QueryLint
