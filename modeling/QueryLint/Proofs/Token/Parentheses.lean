import QueryLint.Proofs.Token.Comments

/-!
How parentheses are written. A lexicon without symbols of its own, whose words are words, knows the
parentheses from one byte each.
-/

namespace QueryLint

open Text (Bytes)

/-- A lexicon that knows no other symbols than every lexicon does. -/
structure Lexicon.Builtin (lexicon : Lexicon) : Prop where
  symbols : lexicon.symbols = []
  words : ∀ entry ∈ lexicon.words, entry.2.isWord = true

theorem Dialect.lexicon_builtin {dialect : Dialect} (symbols : dialect.symbols = [])
    (words : ∀ entry ∈ dialect.words, entry.2.isWord = true) : dialect.lexicon.Builtin where
  symbols := by rw [lexicon, symbols, List.map_nil]
  words := words

theorem Dialect.bigQuery_builtin : bigQuery.lexicon.Builtin :=
  lexicon_builtin rfl (by decide)

namespace Lexing

variable {lexicon : Lexicon} {b : UInt8} {rest literal : Bytes} {quoted : Bool}
  {fault : Option LexicalFault}

theorem kindOfWord_ne_symbol (builtin : lexicon.Builtin) (text : String) (symbol : Symbol) :
    kindOfWord lexicon text ≠ symbol := by
  unfold kindOfWord
  dsimp only
  split
  · nofun
  · cases found : lexicon.words.lookup (Text.upper text) with
    | none => nofun
    | some kind =>
      have word := builtin.words _ (mem_of_lookup found)
      rintro rfl
      cases word

theorem builtinSymbol?_of_readLexeme (builtin : lexicon.Builtin) {symbol : Symbol}
    (found : (readLexeme lexicon b rest).1 = .lexeme symbol literal quoted fault) :
    ∃ width, builtinSymbol? b rest.head? = some (symbol, width) ∧
      literal = (b :: rest).take width := by
  have none : symbol? lexicon (b :: rest) = none := by
    rw [symbol?, builtin.symbols]
    rfl
  unfold readLexeme at found
  dsimp only at found
  rw [none] at found
  dsimp only at found
  split at found
  next symbol' width known =>
    cases found
    exact ⟨width, known, rfl⟩
  next =>
    iterate 4
      split at found
      · cases found
    split at found
    · exact absurd (PieceContent.lexeme.inj found).1 (kindOfWord_ne_symbol builtin _ symbol)
    split at found <;> cases found

theorem toNat_ofNat_byte (b : UInt8) : (Char.ofNat b.toNat).toNat = b.toNat := by
  have all : ∀ n : Fin 256, (Char.ofNat n).toNat = n := by decide +kernel
  exact all b.toFin

theorem byte_of_char {c : UInt8} (same : Char.ofNat b.toNat = Char.ofNat c.toNat) : b = c := by
  rw [← UInt8.toNat_inj, ← toNat_ofNat_byte b, same, toNat_ofNat_byte]

inductive IsParenthesis : Symbol → UInt8 → Prop
  | left : IsParenthesis .leftParen 0x28
  | right : IsParenthesis .rightParen 0x29

theorem builtinSymbol?_parenthesis {symbol : Symbol} {c : UInt8} (written : IsParenthesis symbol c)
    {next : Option UInt8} {width : Nat} (found : builtinSymbol? b next = some (symbol, width)) :
    b = c ∧ width = 1 := by
  unfold builtinSymbol? at found
  cases written <;> split at found
  all_goals first
    | (cases found; exact ⟨byte_of_char ‹_›, rfl⟩)
    | (split at found <;> cases found)
    | cases found

/-- A lexeme that is a parenthesis is its byte. -/
theorem literal_of_read (builtin : lexicon.Builtin) {symbol : Symbol} {c : UInt8}
    (written : IsParenthesis symbol c)
    (found : (read lexicon b rest).1 = .lexeme symbol literal quoted fault) : literal = [c] := by
  unfold read at found
  dsimp only at found
  iterate 3
    split at found
    · cases found
  obtain ⟨width, known, rfl⟩ := builtinSymbol?_of_readLexeme builtin found
  obtain ⟨rfl, rfl⟩ := builtinSymbol?_parenthesis written known
  rfl

end Lexing

theorem TokenStream.literal_of_parenthesis {lexicon : Lexicon} (proper : lexicon.Proper)
    (builtin : lexicon.Builtin) {symbol : Symbol} {c : UInt8}
    (written : Lexing.IsParenthesis symbol c) (source : Bytes) :
    ∀ token ∈ (ofSource lexicon source).tokens, token.kind = symbol → token.literal = [c] := by
  refine lay_induction proper (fun _ stream => ∀ token ∈ stream.tokens,
    token.kind = symbol → token.literal = [c]) ?_ ?_ 0 (Nat.zero_le _)
  · intro token member found
    obtain rfl := List.mem_singleton.1 member
    cases found
  · intro n m b rest stream _ _ _ _ later
    unfold headed
    dsimp only
    cases content : (Lexing.read lexicon b rest).1 with
    | blank => exact later
    | comment => exact later
    | lexeme kind literal quoted fault =>
      refine List.forall_mem_cons.2 ⟨fun found => ?_, later⟩
      obtain rfl : kind = symbol := found
      exact Lexing.literal_of_read builtin written content

end QueryLint
