import QueryLint.Proofs.Token.Seam

/-!
Quoted text reads back. A string literal that is written with its backslashes and quotes escaped holds
what was written, whichever quotes it stands between and whatever follows it. A name between back quotes
does so only as far as its backslashes go: quoting puts a backslash before a back quote and leaves the
backslashes of the name alone, while reading takes each of them away, except before a zero byte.
-/

namespace QueryLint

open Text (Bytes encode)

namespace Lexing

/-! ### Strings -/

/-- A byte of a string literal. A backslash and the quote stand behind a backslash; a line feed is
written as a backslash and the letter `n` if `feeds` says so. -/
def escapeByte (quote : UInt8) (feeds : Bool) (b : UInt8) : Bytes :=
  if b = 0x5C ∨ b = quote then [0x5C, b]
  else if b = 0x0A ∧ feeds = true then [0x5C, 0x6E]
  else [b]

def escape (quote : UInt8) (feeds : Bool) (content : Bytes) : Bytes :=
  content.flatMap (escapeByte quote feeds)

def IsQuote (b : UInt8) : Prop := b = 0x27 ∨ b = 0x22

theorem IsQuote.unescape {quote : UInt8} (isQuote : IsQuote quote) : unescape quote = quote := by
  rcases isQuote with rfl | rfl <;> decide

theorem IsQuote.ne_zero {quote : UInt8} (isQuote : IsQuote quote) : quote ≠ 0 := by
  rcases isQuote with rfl | rfl <;> decide

theorem IsQuote.ne_backslash {quote : UInt8} (isQuote : IsQuote quote) : quote ≠ 0x5C := by
  rcases isQuote with rfl | rfl <;> decide

section Strings

variable {quote : UInt8} {triple feeds : Bool}

theorem readString_backslash {c : UInt8} (raw : Bool) (rest : Bytes) (text : c ≠ 0) :
    readString quote triple raw (0x5C :: c :: rest) =
      (readString quote triple raw rest).behind (if raw then [0x5C, c] else [unescape c]) 2 := by
  rw [readString.eq_def]
  simp only [if_true, if_neg text]

/-- An escaped byte reads back. A line feed can only stand in a string between triple quotes. -/
theorem readString_escapeByte (isQuote : IsQuote quote) (held : feeds = true ∨ triple = true)
    (b : UInt8) (rest : Bytes) :
    readString quote triple false (escapeByte quote feeds b ++ rest) =
      (readString quote triple false rest).behind [b] (escapeByte quote feeds b).length := by
  unfold escapeByte
  by_cases special : b = 0x5C ∨ b = quote
  · have text : b ≠ 0 := by
      rcases special with rfl | rfl
      · decide
      · exact isQuote.ne_zero
    have plain : unescape b = b := by
      rcases special with rfl | rfl
      · decide
      · exact isQuote.unescape
    simp only [if_pos special]
    apply Eq.trans (readString_backslash false rest text)
    rw [plain]
    rfl
  · obtain ⟨noBackslash, noQuote⟩ := not_or.1 special
    by_cases feed : b = 0x0A ∧ feeds = true
    · simp only [if_neg special, if_pos feed]
      apply Eq.trans (readString_backslash false rest (by decide))
      rw [feed.1]
      rfl
    · have goesOn : ¬(decide (b = 0x0A) && !triple) = true := by
        rcases held with rfl | rfl
        · simpa using fun same => absurd ⟨same, rfl⟩ feed
        · simp
      simp only [if_neg special, if_neg feed]
      apply Eq.trans (readString_plain noBackslash)
      simp only [noQuote, decide_false, Bool.false_and, Bool.false_eq_true, if_false, if_neg goesOn]
      rfl

theorem Quotation.behind_behind (quotation : Quotation) (first second : Bytes) (n m : Nat) :
    (quotation.behind second m).behind first n = quotation.behind (first ++ second) (n + m) := by
  simp only [Quotation.behind, List.append_assoc, Nat.add_assoc]

theorem readString_escape (isQuote : IsQuote quote) (held : feeds = true ∨ triple = true)
    (content rest : Bytes) :
    readString quote triple false (escape quote feeds content ++ rest) =
      (readString quote triple false rest).behind content (escape quote feeds content).length := by
  induction content with
  | nil => simp [escape, Quotation.behind]
  | cons b content ih =>
    have cut : escape quote feeds (b :: content) =
        escapeByte quote feeds b ++ escape quote feeds content := List.flatMap_cons
    rw [cut, List.append_assoc, readString_escapeByte isQuote held, ih, Quotation.behind_behind,
      List.length_append]
    rfl

def quotes (quote : UInt8) (triple : Bool) : Bytes := List.replicate (if triple then 3 else 1) quote

def stringLiteral (quote : UInt8) (triple : Bool) (written : Bytes) : Bytes :=
  quotes quote triple ++ written ++ quotes quote triple

theorem readString_quotes (isQuote : IsQuote quote) (raw : Bool) (rest : Bytes) :
    readString quote triple raw (quotes quote triple ++ rest) =
      { width := (quotes quote triple).length, closed := true } := by
  cases triple with
  | false =>
    apply Eq.trans (readString_plain isQuote.ne_backslash)
    simp [quotes]
  | true =>
    apply Eq.trans (readString_plain isQuote.ne_backslash)
    simp [quotes, List.replicate]

theorem head?_escapeByte (isQuote : IsQuote quote) (b : UInt8) (rest : Bytes) :
    (escapeByte quote feeds b ++ rest).head? ≠ some quote := by
  have apart : (0x5C : UInt8) ≠ quote := isQuote.ne_backslash.symm
  unfold escapeByte
  by_cases special : b = 0x5C ∨ b = quote
  · simpa [if_pos special] using apart
  · by_cases feed : b = 0x0A ∧ feeds = true
    · simpa [if_neg special, if_pos feed] using apart
    · simpa [if_neg special, if_neg feed] using (not_or.1 special).2

/-- What is written with escapes between two quotes does not look like the start of a string between
triple quotes. -/
theorem take_escape (isQuote : IsQuote quote) (content : Bytes) {rest : Bytes}
    (apart : rest.head? ≠ some quote) :
    (escape quote feeds content ++ quote :: rest).take 2 ≠ [quote, quote] := by
  intro doubled
  cases content with
  | nil =>
    cases rest with
    | nil => simp [escape] at doubled
    | cons c rest =>
      apply apart
      simpa [escape] using doubled
  | cons b content =>
    have first : (escape quote feeds (b :: content) ++ quote :: rest).head? = some quote := by
      have both := congrArg List.head? doubled
      rwa [List.head?_take, if_neg (by decide)] at both
    apply head?_escapeByte isQuote b (escape quote feeds content ++ quote :: rest)
    rwa [escape, List.flatMap_cons, List.append_assoc] at first

/-- How many quotes open a string is seen from the two bytes after the first one. -/
theorem stringLexeme_quotes {inner : Bytes} (opens : triple = true ∨ inner.take 2 ≠ [quote, quote]) :
    stringLexeme 0 false (quotes quote triple ++ inner) =
      let quotation := readString quote triple false inner
      (.lexeme .string quotation.content false
        (if quotation.closed then none else some .unterminatedString),
        (quotes quote triple).length + quotation.width) := by
  have start : (quotes quote triple ++ inner).drop 0 =
      quote :: ((quotes quote triple).tail ++ inner) := by
    cases triple <;> rfl
  have tripled : decide (((quotes quote triple).tail ++ inner).take 2 = [quote, quote]) = triple := by
    cases triple with
    | false => exact decide_eq_false (opens.resolve_left Bool.false_ne_true)
    | true => exact decide_eq_true rfl
  have width : (0 + if triple then 3 else 1) = (quotes quote triple).length := by
    cases triple <;> rfl
  rw [stringLexeme_eq false start]
  dsimp only
  rw [tripled, width, List.drop_left]

theorem stringLexeme_literal (isQuote : IsQuote quote) (held : feeds = true ∨ triple = true)
    (content : Bytes) {rest : Bytes} (apart : rest.head? ≠ some quote) :
    stringLexeme 0 false (stringLiteral quote triple (escape quote feeds content) ++ rest) =
      (.lexeme .string content false none,
        (stringLiteral quote triple (escape quote feeds content)).length) := by
  have opens : triple = true ∨
      (escape quote feeds content ++ (quotes quote triple ++ rest)).take 2 ≠ [quote, quote] := by
    cases triple with
    | false => exact .inr (take_escape isQuote content apart)
    | true => exact .inl rfl
  have reads : readString quote triple false
      (escape quote feeds content ++ (quotes quote triple ++ rest)) =
        { content, width := (escape quote feeds content).length + (quotes quote triple).length,
          closed := true } := by
    rw [readString_escape isQuote held, readString_quotes isQuote, Quotation.behind, List.append_nil]
  have width : (stringLiteral quote triple (escape quote feeds content)).length =
      (quotes quote triple).length +
        ((escape quote feeds content).length + (quotes quote triple).length) := by
    simp only [stringLiteral, List.length_append, Nat.add_assoc]
  have cut : stringLiteral quote triple (escape quote feeds content) ++ rest =
      quotes quote triple ++ (escape quote feeds content ++ (quotes quote triple ++ rest)) := by
    simp only [stringLiteral, List.append_assoc]
  rw [cut, stringLexeme_quotes opens, reads, width]
  rfl

end Strings

/-! ### Names -/

/-- A name as it is written between back quotes: a back quote of the name stands behind a backslash. -/
def escapeName (name : Bytes) : Bytes := name.flatMap fun b => if b = 0x60 then [0x5C, 0x60] else [b]

def quotedName (name : Bytes) : Bytes := 0x60 :: (escapeName name ++ [0x60])

def readName (name : Bytes) : Quotation := readIdentifier (escapeName name ++ [0x60])

section Names

variable (name : Bytes)

theorem escapeName_cons (b : UInt8) :
    escapeName (b :: name) = (if b = 0x60 then [0x5C, 0x60] else [b]) ++ escapeName name :=
  List.flatMap_cons

theorem readIdentifier_backslash (c : UInt8) (rest : Bytes) :
    readIdentifier (0x5C :: c :: rest) =
      (readIdentifier rest).behind (if c = 0 then [0x5C, c] else [c]) 2 := by
  rw [readIdentifier.eq_def]
  rfl

theorem readName_nil : readName [] = { width := 1, closed := true } := rfl

theorem readName_backQuote : readName (0x60 :: name) = (readName name).behind [0x60] 2 := by
  unfold readName
  rw [escapeName_cons]
  exact readIdentifier_backslash 0x60 (escapeName name ++ [0x60])

theorem readName_feed : readName (0x0A :: name) = {} := by
  unfold readName
  rw [escapeName_cons]
  exact readIdentifier_plain (by decide)

theorem readName_plain {b : UInt8} (noFeed : b ≠ 0x0A) (noBackslash : b ≠ 0x5C) (noQuote : b ≠ 0x60) :
    readName (b :: name) = (readName name).behind [b] 1 := by
  unfold readName
  rw [escapeName_cons, if_neg noQuote]
  apply Eq.trans (readIdentifier_plain noBackslash)
  rw [if_neg noFeed, if_neg noQuote]
  rfl

/-- A backslash at the end of a name takes the closing back quote. -/
theorem readName_backslash : readName [0x5C] = { content := [0x60], width := 2 } := rfl

/-- A backslash before a back quote takes the backslash that the back quote was given, so that the name
ends there. -/
theorem readName_backslash_backQuote :
    readName (0x5C :: 0x60 :: name) = { content := [0x5C], width := 3, closed := true } := by
  unfold readName
  rw [escapeName_cons, escapeName_cons, if_neg (by decide), if_pos rfl]
  show readIdentifier (0x5C :: 0x5C :: 0x60 :: (escapeName name ++ [0x60])) = _
  rw [readIdentifier_backslash, readIdentifier_plain (by decide)]
  rfl

/-- Any other byte after a backslash is taken as it is; only before a zero byte does the backslash
stay. -/
theorem readName_backslash_other {c : UInt8} (noQuote : c ≠ 0x60) :
    readName (0x5C :: c :: name) =
      (readName name).behind (if c = 0 then [0x5C, c] else [c]) 2 := by
  unfold readName
  rw [escapeName_cons, escapeName_cons, if_neg noQuote]
  exact readIdentifier_backslash c (escapeName name ++ [0x60])

end Names

/-- A name that quoting keeps: it has no line feed, and a zero byte follows each of its backslashes. -/
def Quotable (name : Bytes) : Prop :=
  0x0A ∉ name ∧ ∀ before after, name = before ++ 0x5C :: after → after.head? = some 0

theorem quotable_nil : Quotable [] := by
  refine ⟨List.not_mem_nil, ?_⟩
  intro before after cut
  simp at cut

theorem quotable_cons {b : UInt8} {name : Bytes} :
    Quotable (b :: name) ↔ b ≠ 0x0A ∧ (b = 0x5C → name.head? = some 0) ∧ Quotable name := by
  constructor
  · intro ⟨noFeed, kept⟩
    rw [List.mem_cons, not_or] at noFeed
    refine ⟨Ne.symm noFeed.1, ?_, noFeed.2, ?_⟩
    · rintro rfl
      exact kept [] name rfl
    · intro before after cut
      exact kept (b :: before) after (congrArg (b :: ·) cut)
  · intro ⟨noFeed, first, others, kept⟩
    constructor
    · rw [List.mem_cons, not_or]
      exact ⟨Ne.symm noFeed, others⟩
    · intro before after cut
      cases before with
      | nil =>
        obtain ⟨rfl, rfl⟩ := List.cons.inj cut
        exact first rfl
      | cons c before => exact kept before after (List.cons.inj cut).2

/-- What happens to the first bytes of a quoted name: they are kept, they lose a backslash, or reading
ends with them. -/
inductive NameStep (name : Bytes) : Prop
  | keeps {front back : Bytes} (cut : name = front ++ back) (taken : 0 < front.length)
      (reads : readName name = (readName back).behind front (escapeName front).length)
      (quotable : Quotable name ↔ Quotable back)
  | loses {front back content : Bytes} {width : Nat} (cut : name = front ++ back)
      (reads : readName name = (readName back).behind content width)
      (shorter : content.length < front.length) (spoilt : ¬Quotable name)
  | ends (short : (readName name).content.length ≤ name.length)
      (other : ¬((readName name).content = name ∧ (readName name).closed = true))
      (spoilt : ¬Quotable name)

theorem nameStep_backslash : ∀ name : Bytes, NameStep (0x5C :: name)
  | [] => by
    apply NameStep.ends
    · rw [readName_backslash]
      decide
    · rw [readName_backslash]
      decide
    · simp [quotable_cons]
  | c :: name => by
    have spoilt (text : c ≠ 0) : ¬Quotable (0x5C :: c :: name) := by
      intro quotable
      have zero := (quotable_cons.1 quotable).2.1 rfl
      exact text (Option.some.inj zero)
    by_cases backQuote : c = 0x60
    · subst backQuote
      have reads := readName_backslash_backQuote name
      apply NameStep.ends
      · simp [reads]
      · simp [reads]
      · exact spoilt (by decide)
    have reads := readName_backslash_other name backQuote
    by_cases zero : c = 0
    · subst zero
      have cut : 0x5C :: 0 :: name = [0x5C, 0] ++ name := rfl
      apply NameStep.keeps cut (by decide) reads
      simp [quotable_cons]
    · have cut : 0x5C :: c :: name = [0x5C, c] ++ name := rfl
      rw [if_neg zero] at reads
      exact .loses cut reads (by simp) (spoilt zero)

theorem nameStep (b : UInt8) (name : Bytes) : NameStep (b :: name) := by
  by_cases backslash : b = 0x5C
  · subst backslash
    exact nameStep_backslash name
  by_cases feed : b = 0x0A
  · subst feed
    have reads := readName_feed name
    apply NameStep.ends
    · simp [reads]
    · simp [reads]
    · simp [quotable_cons]
  have cut : b :: name = [b] ++ name := rfl
  have quotable : Quotable (b :: name) ↔ Quotable name := by
    simp [quotable_cons, backslash, feed]
  by_cases backQuote : b = 0x60
  · subst backQuote
    exact .keeps cut Nat.one_pos (readName_backQuote name) quotable
  · have written : (escapeName [b]).length = 1 := by
      rw [escapeName_cons, if_neg backQuote]
      rfl
    apply NameStep.keeps cut Nat.one_pos _ quotable
    rw [written]
    exact readName_plain name feed backslash backQuote

theorem head?_escapeName (name : Bytes) : (escapeName name).head? ≠ some 0x60 := by
  cases name with
  | nil => exact nofun
  | cons b name =>
    rw [escapeName_cons]
    by_cases backQuote : b = 0x60
    · simp [backQuote]
    · simp [backQuote]

theorem escapeName_injective : Function.Injective escapeName := by
  intro first second same
  induction first generalizing second with
  | nil =>
    cases second with
    | nil => rfl
    | cons c second =>
      rw [escapeName_cons] at same
      split at same <;> cases same
  | cons b first ih =>
    cases second with
    | nil =>
      rw [escapeName_cons] at same
      split at same <;> cases same
    | cons c second =>
      rw [escapeName_cons, escapeName_cons] at same
      by_cases left : b = 0x60
      · by_cases right : c = 0x60
        · rw [left, right, List.append_cancel_left_eq] at same
          rw [left, right, ih same]
        · rw [if_pos left, if_neg right] at same
          have rest : 0x60 :: escapeName first = escapeName second := (List.cons.inj same).2
          exact absurd (congrArg List.head? rest).symm (head?_escapeName second)
      · by_cases right : c = 0x60
        · rw [if_neg left, if_pos right] at same
          have rest : escapeName first = 0x60 :: escapeName second := (List.cons.inj same).2
          exact absurd (congrArg List.head? rest) (head?_escapeName first)
        · rw [if_neg left, if_neg right] at same
          have rest : escapeName first = escapeName second := (List.cons.inj same).2
          rw [(List.cons.inj same).1, ih rest]

theorem quotedName_injective : Function.Injective quotedName := by
  intro first second same
  apply escapeName_injective
  exact List.append_cancel_right (List.cons.inj same).2

theorem length_lt_of_cut {name front back : Bytes} (cut : name = front ++ back)
    (taken : 0 < front.length) : back.length < name.length := by
  rw [cut, List.length_append]
  omega

theorem length_readName_le (name : Bytes) : (readName name).content.length ≤ name.length := by
  induction h : name.length using Nat.strongRecOn generalizing name with
  | ind n ih =>
  cases name with
  | nil => simp [readName_nil]
  | cons b name =>
    cases nameStep b name with
    | @keeps front back cut taken reads =>
      have rest := ih back.length (h ▸ length_lt_of_cut cut taken) back rfl
      rw [← h, reads, cut, Quotation.behind, List.length_append, List.length_append]
      omega
    | @loses front back content width cut reads shorter =>
      have rest := ih back.length (h ▸ length_lt_of_cut cut (Nat.zero_lt_of_lt shorter)) back rfl
      rw [← h, reads, cut, Quotation.behind, List.length_append, List.length_append]
      omega
    | ends short => exact h ▸ short

/-- A name is read back if and only if quoting keeps it. -/
theorem readName_eq_iff (name : Bytes) :
    ((readName name).content = name ∧ (readName name).closed = true) ↔ Quotable name := by
  induction h : name.length using Nat.strongRecOn generalizing name with
  | ind n ih =>
  cases name with
  | nil => simp [readName_nil, quotable_nil]
  | cons b name =>
    cases nameStep b name with
    | @keeps front back cut taken reads quotable =>
      have rest := ih back.length (h ▸ length_lt_of_cut cut taken) back rfl
      rw [quotable, ← rest, reads, cut, Quotation.behind, List.append_cancel_left_eq]
    | @loses front back content width cut reads shorter spoilt =>
      have rest := length_readName_le back
      refine iff_of_false ?_ spoilt
      intro ⟨same, _⟩
      rw [reads, cut, Quotation.behind] at same
      have total := congrArg List.length same
      rw [List.length_append, List.length_append] at total
      omega
    | ends short other spoilt => exact iff_of_false other spoilt

theorem readName_of_quotable {name : Bytes} (quotable : Quotable name) :
    readName name = { content := name, width := (escapeName name).length + 1, closed := true } := by
  induction h : name.length using Nat.strongRecOn generalizing name with
  | ind n ih =>
  cases name with
  | nil => rfl
  | cons b name =>
    cases nameStep b name with
    | @keeps front back cut taken reads same =>
      have rest := ih back.length (h ▸ length_lt_of_cut cut taken) (same.1 quotable) rfl
      have width : (escapeName (front ++ back)).length =
          (escapeName front).length + (escapeName back).length := by
        rw [escapeName, List.flatMap_append, List.length_append]
        rfl
      rw [reads, cut, rest, width]
      simp only [Quotation.behind, Nat.add_assoc]
    | loses _ _ _ spoilt => exact absurd quotable spoilt
    | ends _ _ spoilt => exact absurd quotable spoilt

end Lexing

/-! ### Streams -/

def Lexicon.Spares (lexicon : Lexicon) (b : UInt8) : Prop :=
  ∀ entry ∈ lexicon.symbols, entry.1.head? ≠ some b

namespace Lexing

theorem symbol?_eq_none {lexicon : Lexicon} {b : UInt8} (spares : lexicon.Spares b) (rest : Bytes) :
    symbol? lexicon (b :: rest) = none := by
  have fits : (lexicon.symbols.filter fun entry =>
      !entry.1.isEmpty && entry.1.isPrefixOf (b :: rest)) = [] := by
    apply List.filter_eq_nil_iff.2
    intro entry member fit
    apply spares entry member
    obtain ⟨symbol, kind⟩ := entry
    cases symbol with
    | nil => simp at fit
    | cons c symbol =>
      have first : c = b := by simp at fit; exact fit.1
      rw [first]
      rfl
  exact congrArg (List.foldl longerSymbol none) fits

theorem read_string {lexicon : Lexicon} {quote : UInt8} (isQuote : IsQuote quote)
    (spares : lexicon.Spares quote) (rest : Bytes) :
    read lexicon quote rest = stringLexeme 0 false (quote :: rest) := by
  have builtin : builtinSymbol? quote rest.head? = none := by
    rcases isQuote with rfl | rfl <;> cases rest <;> rfl
  have lexeme : read lexicon quote rest = readLexeme lexicon quote rest := by
    rcases isQuote with rfl | rfl <;> rfl
  rw [lexeme, readLexeme, symbol?_eq_none spares, builtin]
  rcases isQuote with rfl | rfl <;> rfl

theorem read_identifier {lexicon : Lexicon} (spares : lexicon.Spares 0x60) (rest : Bytes) :
    read lexicon 0x60 rest = identifierLexeme (0x60 :: rest) := by
  have builtin : builtinSymbol? 0x60 rest.head? = none := by
    cases rest <;> rfl
  have lexeme : read lexicon 0x60 rest = readLexeme lexicon 0x60 rest := rfl
  rw [lexeme, readLexeme, symbol?_eq_none spares, builtin]
  rfl

end Lexing

namespace TokenStream

theorem ofSource_of_read {lexicon : Lexicon} (proper : lexicon.Proper) {b : UInt8} {tail rest : Bytes}
    {content : PieceContent}
    (reads : Lexing.read lexicon b (tail ++ rest) = (content, (b :: tail).length)) :
    ofSource lexicon (b :: tail ++ rest) = headed ⟨b :: tail, content⟩ .start
      (lay (Position.start.advance (b :: tail)) (lexicon.pieces rest)) := by
  have cut := Lexing.pieces_eq_read proper b (tail ++ rest)
  have fits := pieces_fits proper b (tail ++ rest)
  rw [reads, ← List.cons_append, List.take_left] at fits
  rw [reads, ← List.cons_append, List.take_left, List.drop_left] at cut
  rw [ofSource, cut, lay_cons fits]

/-- The source begins with a string literal that holds a content: it is the first token, nothing is
wrong with it, and reading goes on with what follows it. -/
def ReadsString (lexicon : Lexicon) (written content rest : Bytes) : Prop :=
  let stop := Position.start.advance written
  let others := lay stop (lexicon.pieces rest)
  ofSource lexicon (written ++ rest) = { others with
    tokens := { kind := .string, literal := content, span := ⟨.start, stop⟩ } :: others.tokens }

theorem readsString_literal {lexicon : Lexicon} (proper : lexicon.Proper) {quote : UInt8}
    (isQuote : Lexing.IsQuote quote) (spares : lexicon.Spares quote) {triple feeds : Bool}
    (held : feeds = true ∨ triple = true) (content : Bytes) {rest : Bytes}
    (apart : rest.head? ≠ some quote) :
    ReadsString lexicon (Lexing.stringLiteral quote triple (Lexing.escape quote feeds content))
      content rest := by
  have lexeme := Lexing.stringLexeme_literal isQuote held content apart
  obtain ⟨tail, opens⟩ : ∃ tail,
      Lexing.stringLiteral quote triple (Lexing.escape quote feeds content) = quote :: tail := by
    cases triple <;> exact ⟨_, rfl⟩
  rw [opens] at lexeme ⊢
  have reads := (Lexing.read_string isQuote spares (tail ++ rest)).trans lexeme
  exact ofSource_of_read proper reads

/-- String literals hold what was written. Between single or double quotes, alone or tripled, every
content reads back if its backslashes and quotes are escaped, and its line feeds too unless the quotes
are tripled. The literal ends with its closing quotes, and what follows is read as if it began there. -/
theorem string_reads_back {quote : UInt8} (isQuote : Lexing.IsQuote quote) (content rest : Bytes)
    (apart : rest.head? ≠ some quote) (triple feeds : Bool) (held : feeds = true ∨ triple = true) :
    let written := Lexing.stringLiteral quote triple (Lexing.escape quote feeds content)
    ReadsString Dialect.bigQuery.lexicon written content rest ∧
      ∀ lexicon : Lexicon, lexicon.Proper → lexicon.Spares quote →
        ReadsString lexicon written content rest := by
  constructor
  · exact readsString_literal Dialect.bigQuery_proper.lexicon isQuote nofun held content apart
  · intro lexicon proper spares
    exact readsString_literal proper isQuote spares held content apart

/-- An empty literal before a quote of the other kind, and a content of quotes, backslashes, a line feed
and a zero byte between triple quotes under a lexicon with a symbol of its own. -/
theorem string_reads_back_quotes :
    let content : Bytes := [0x27, 0x5C, 0x27, 0x0A, 0x00, 0x5C, 0x22, 0x27]
    let arrows : Lexicon := { symbols := [([0x2D, 0x3E], .symbol .arrow)] }
    Lexing.IsQuote 0x27 ∧ [0x22].head? ≠ some (0x27 : UInt8) ∧
      ReadsString Dialect.bigQuery.lexicon [0x27, 0x27] [] [0x22] ∧
      arrows.Proper ∧ arrows.Spares 0x27 ∧
      ReadsString arrows (Lexing.stringLiteral 0x27 true (Lexing.escape 0x27 false content)) content
        [0x22] := by
  have isQuote : Lexing.IsQuote 0x27 := .inl rfl
  have apart : [0x22].head? ≠ some (0x27 : UInt8) := by decide
  have proper : Lexicon.Proper { symbols := [([0x2D, 0x3E], .symbol .arrow)] } := by
    constructor <;> decide
  have spares : Lexicon.Spares { symbols := [([0x2D, 0x3E], .symbol .arrow)] } 0x27 := by
    unfold Lexicon.Spares
    decide
  exact ⟨isQuote, apart, (string_reads_back isQuote [] [0x22] apart false true (.inl rfl)).1, proper,
    spares, (string_reads_back isQuote _ [0x22] apart true false (.inr rfl)).2 _ proper spares⟩

/-- The source is a quoted name that holds a content: one token takes all of it, and nothing is wrong
with it. -/
def ReadsName (lexicon : Lexicon) (written content : Bytes) : Prop :=
  let stop := Position.start.advance written
  ofSource lexicon written = {
    tokens := [{ kind := .identifier, literal := content, span := ⟨.start, stop⟩, quoted := true },
      { kind := .endOfInput, span := ⟨stop, stop⟩ }] }

theorem readsName_iff (name : Bytes) :
    ReadsName Dialect.bigQuery.lexicon (Lexing.quotedName name) name ↔ Lexing.Quotable name := by
  have proper := Dialect.bigQuery_proper.lexicon
  have begins : ∀ rest : Bytes, Lexing.read Dialect.bigQuery.lexicon 0x60 rest =
      Lexing.identifierLexeme (0x60 :: rest) := Lexing.read_identifier nofun
  constructor
  · intro reads
    have cut := Lexing.pieces_eq_read proper 0x60 (Lexing.escapeName name ++ [0x60])
    have fits := pieces_fits proper 0x60 (Lexing.escapeName name ++ [0x60])
    rw [begins] at cut fits
    unfold ReadsName ofSource Lexing.quotedName at reads
    rw [cut, lay_cons fits] at reads
    have tokens := congrArg TokenStream.tokens reads
    have errors := congrArg TokenStream.errors reads
    have content : (Lexing.readName name).content = name :=
      congrArg Token.literal (List.cons.inj tokens).1
    have full := (headed_errors errors).1
    have closed : (Lexing.readName name).closed = true := by
      apply Bool.of_not_eq_false
      intro opened
      have fault : (if (Lexing.readName name).closed then none
        else some LexicalFault.unterminatedIdentifier) = none := full
      rw [opened] at fault
      cases fault
    exact (Lexing.readName_eq_iff name).1 ⟨content, closed⟩
  · intro quotable
    have lexeme : Lexing.identifierLexeme (0x60 :: (Lexing.escapeName name ++ [0x60])) =
        (.lexeme .identifier name true none, (Lexing.quotedName name).length) := by
      have read : Lexing.readIdentifier (Lexing.escapeName name ++ [0x60]) = _ :=
        Lexing.readName_of_quotable quotable
      have width : 1 + ((Lexing.escapeName name).length + 1) = (Lexing.quotedName name).length := by
        rw [Lexing.quotedName, List.length_cons, List.length_append, Nat.add_comm]
        rfl
      rw [Lexing.identifierLexeme, List.drop_one, List.tail_cons, read, ← width]
      rfl
    have reads : Lexing.read Dialect.bigQuery.lexicon 0x60 (Lexing.escapeName name ++ [0x60] ++ []) =
        (.lexeme .identifier name true none, (Lexing.quotedName name).length) := by
      rw [List.append_nil, begins, lexeme]
    have stream := ofSource_of_read proper reads
    rw [List.append_nil] at stream
    exact stream

theorem encode_quoteName (name : String) :
    encode (Dialect.bigQuery.quoteName name) = Lexing.quotedName (encode name) := by
  have quoting : Dialect.bigQuery.quoting = { opening := "`", closing := "`", escape := "\\`" } := rfl
  have single : "`".toList = [Char.ofNat 0x60] := by decide
  have backQuote : encode "`" = [0x60] := by decide +kernel
  have escaped : encode "\\`" = [0x5C, 0x60] := by decide +kernel
  unfold Dialect.quoteName
  rw [quoting]
  dsimp only
  rw [Text.encode_append, Text.encode_append, Text.encode_replaceAll single (by decide),
    backQuote, escaped]
  rfl

theorem quoteName_injective : Function.Injective Dialect.bigQuery.quoteName := by
  intro first second same
  have bytes := congrArg encode same
  rw [encode_quoteName, encode_quoteName] at bytes
  exact Text.encode_injective (Lexing.quotedName_injective bytes)

/-- Quoting a name loses nothing, but the quoted name is read back only if quoting keeps it: a name with
a backslash before anything but a zero byte is read as another one or not at all. -/
theorem quoted_name_reads_back (name : Bytes) :
    (∀ text : String, encode (Dialect.bigQuery.quoteName text) = Lexing.quotedName (encode text)) ∧
    Function.Injective Dialect.bigQuery.quoteName ∧
    (∀ other : Bytes, Lexing.quotedName other = Lexing.quotedName name ↔ other = name) ∧
    (ReadsName Dialect.bigQuery.lexicon (Lexing.quotedName name) name ↔ Lexing.Quotable name) := by
  refine ⟨encode_quoteName, quoteName_injective, ?_, readsName_iff name⟩
  intro other
  exact Lexing.quotedName_injective.eq_iff

/-- A backslash inside a name is gone after reading. -/
example : ReadsName Dialect.bigQuery.lexicon (Lexing.quotedName [0x61, 0x5C, 0x62]) [0x61, 0x62] := rfl

end TokenStream

end QueryLint
