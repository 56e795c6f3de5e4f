import QueryLint.Proofs.Token.Cutting

/-!
Readings that do not look any further. A line feed ends whatever stands before it, unless that is a
literal or a comment that is still open: what is complete is read in the same way whether the source
ends behind it or a line feed and further bytes follow.
-/

namespace QueryLint

open Text (Bytes)

namespace Lexing

section Feed

variable {bytes : Bytes} {keep : UInt8 → Bool} (others : Bytes)

/-! ### Looking ahead -/

theorem widthWhile_le (keep : UInt8 → Bool) (bytes : Bytes) : widthWhile keep bytes ≤ bytes.length :=
  (List.takeWhile_sublist keep).length_le

theorem widthWhile_feed (stops : keep 0x0A = false) :
    widthWhile keep (bytes ++ 0x0A :: others) = widthWhile keep bytes := by
  induction bytes with
  | nil => simp [widthWhile, stops]
  | cons b bytes ih =>
    unfold widthWhile at ih ⊢
    rw [List.cons_append, List.takeWhile_cons, List.takeWhile_cons]
    split
    · rw [List.length_cons, List.length_cons, ih]
    · rfl

theorem startsWith_feed (stops : keep 0x0A = false) :
    startsWith keep (bytes ++ 0x0A :: others) = startsWith keep bytes := by
  cases bytes
  · exact stops
  · rfl

theorem length_pos_of_startsWith (starts : startsWith keep bytes = true) : 0 < bytes.length := by
  cases bytes
  · cases starts
  · exact Nat.zero_lt_succ _

theorem head?_feed {c : UInt8} (other : c ≠ 0x0A) :
    (bytes ++ 0x0A :: others).head? = some c ↔ bytes.head? = some c := by
  cases bytes with
  | nil => simp [other.symm]
  | cons => rfl

theorem take_feed {c d : UInt8} (other : c ≠ 0x0A) (other' : d ≠ 0x0A) :
    (bytes ++ 0x0A :: others).take 2 = [c, d] ↔ bytes.take 2 = [c, d] := by
  obtain _ | ⟨a, _ | ⟨b, rest⟩⟩ := bytes <;> simp [other.symm, other'.symm]

theorem isPrefixOf_feed {symbol : Bytes} (unbroken : 0x0A ∉ symbol) :
    symbol.isPrefixOf (bytes ++ 0x0A :: others) = symbol.isPrefixOf bytes := by
  induction symbol generalizing bytes with
  | nil => simp
  | cons c symbol ih =>
    rw [List.mem_cons, not_or] at unbroken
    cases bytes with
    | nil => simp [List.isPrefixOf, Ne.symm unbroken.1]
    | cons b bytes => simp only [List.cons_append, List.isPrefixOf, ih unbroken.2]

end Feed

/-! ### Readings that do not look any further -/

section Settled

variable {ρ : Type} {width : ρ → Nat} {read read' : Bytes → ρ} {bytes : Bytes}

/-- What is read takes none but these bytes, and it is the same where a line feed follows them. -/
structure Settles (width : ρ → Nat) (read : Bytes → ρ) (bytes : Bytes) : Prop where
  within : width (read bytes) ≤ bytes.length
  stays : ∀ others, read (bytes ++ 0x0A :: others) = read bytes

theorem Settles.of_eq {result : ρ} (within : width result ≤ bytes.length) (here : read bytes = result)
    (step : ∀ others, read (bytes ++ 0x0A :: others) = result) : Settles width read bytes :=
  ⟨here ▸ within, fun others => (step others).trans here.symm⟩

theorem Settles.congr (settles : Settles width read bytes) (here : read' bytes = read bytes)
    (step : ∀ others, read' (bytes ++ 0x0A :: others) = read (bytes ++ 0x0A :: others)) :
    Settles width read' bytes :=
  .of_eq (here ▸ settles.within) here fun others =>
    (step others).trans (settles.stays others)

theorem Settles.behind_drop {skip : Nat} (settles : Settles width read (bytes.drop skip))
    (inside : skip ≤ bytes.length) : skip + width (read (bytes.drop skip)) ≤ bytes.length ∧
      ∀ others, read ((bytes ++ 0x0A :: others).drop skip) = read (bytes.drop skip) := by
  have within := settles.within
  rw [List.length_drop] at within
  refine ⟨by omega, fun others => ?_⟩
  rw [List.drop_append_of_le_length inside, settles.stays]

theorem Settles.verbatim {taken : Bytes → Nat} (settles : Settles id taken bytes)
    (kind : Bytes → TokenKind) :
    Settles Prod.snd (fun bytes => Lexing.verbatim (kind (bytes.take (taken bytes))) (taken bytes) bytes)
      bytes := by
  have within : taken bytes ≤ bytes.length := settles.within
  refine ⟨within, fun others => ?_⟩
  rw [settles.stays, List.take_append_of_le_length within, Lexing.verbatim, Lexing.verbatim,
    List.take_append_of_le_length within]

theorem widthWhile_settles (keep : UInt8 → Bool) (stops : keep 0x0A = false) (bytes : Bytes) :
    Settles id (widthWhile keep) bytes :=
  ⟨widthWhile_le keep bytes, fun others => widthWhile_feed others stops⟩

theorem fixed_settles {n : Nat} (within : n ≤ bytes.length) : Settles id (fun _ => n) bytes :=
  ⟨within, fun _ => rfl⟩

theorem Settles.behind {read read' : Bytes → Quotation} {rest content : Bytes}
    (settles : Settles Quotation.width read rest) (front : Bytes)
    (here : read' (front ++ rest) = (read rest).behind content front.length)
    (step : ∀ others, read' (front ++ (rest ++ 0x0A :: others)) =
      (read (rest ++ 0x0A :: others)).behind content front.length) :
    Settles Quotation.width read' (front ++ rest) := by
  refine .of_eq ?_ here fun others => ?_
  · rw [List.length_append]
    exact Nat.add_le_add_left settles.within _
  · rw [List.append_assoc, step, settles.stays]

end Settled

/-! ### Quoted text -/

section Quotations

variable {bytes : Bytes}

theorem readString_plain {quote b : UInt8} {triple raw : Bool} {rest : Bytes} (plain : b ≠ 0x5C) :
    readString quote triple raw (b :: rest) =
      if b = quote && !triple then { width := 1, closed := true }
      else if b = quote && rest.take 2 = [quote, quote] then { width := 3, closed := true }
      else if b = 0x0A && !triple then {}
      else (readString quote triple raw rest).behind [b] 1 := by
  rw [readString.eq_def]
  exact if_neg plain

theorem readString_settles {quote : UInt8} {triple raw : Bool} (other : quote ≠ 0x0A)
    (closed : (readString quote triple raw bytes).closed = true) :
    Settles Quotation.width (readString quote triple raw) bytes := by
  fun_induction readString quote triple raw bytes with
  | case1 | case2 | case6 => cases closed
  | case3 c rest ih => exact (ih closed).behind [0x5C, c] rfl fun others => rfl
  | case4 b rest plain ends =>
    have here (rest : Bytes) :
        readString quote triple raw (b :: rest) = { width := 1, closed := true } := by
      rw [readString_plain plain, if_pos ends]
    exact .of_eq (Nat.le_add_left _ _) (here _) fun others => here _
  | case5 b rest plain single ends =>
    have here {rest : Bytes}
        (ends : (decide (b = quote) && decide (rest.take 2 = [quote, quote])) = true) :
        readString quote triple raw (b :: rest) = { width := 3, closed := true } := by
      rw [readString_plain plain, if_neg single, if_pos ends]
    refine .of_eq ?_ (here ends) fun others => here ?_
    · have taken : (rest.take 2).length = 2 := by simp_all
      rw [List.length_take] at taken
      rw [List.length_cons]
      dsimp only
      omega
    · rwa [← decide_eq_decide.2 (take_feed others other other)] at ends
  | case7 b rest plain single opened more ih =>
    have here {rest : Bytes}
        (opened : ¬(decide (b = quote) && decide (rest.take 2 = [quote, quote])) = true) :
        readString quote triple raw (b :: rest) = (readString quote triple raw rest).behind [b] 1 := by
      rw [readString_plain plain, if_neg single, if_neg opened, if_neg more]
    refine (ih closed).behind [b] (here opened) fun others => here ?_
    rwa [← decide_eq_decide.2 (take_feed others other other)] at opened

theorem readIdentifier_plain {b : UInt8} {rest : Bytes} (plain : b ≠ 0x5C) :
    readIdentifier (b :: rest) =
      if b = 0x0A then {}
      else if b = 0x60 then { width := 1, closed := true }
      else (readIdentifier rest).behind [b] 1 := by
  rw [readIdentifier.eq_def]
  dsimp only
  rw [if_neg plain]

theorem readIdentifier_settles (closed : (readIdentifier bytes).closed = true) :
    Settles Quotation.width readIdentifier bytes := by
  fun_induction readIdentifier bytes with
  | case1 | case2 | case3 => cases closed
  | case4 c rest feed ih => exact (ih closed).behind [0x5C, c] rfl fun others => rfl
  | case5 rest =>
    have here (rest : Bytes) : readIdentifier (0x60 :: rest) = { width := 1, closed := true } := by
      rw [readIdentifier_plain (by decide)]
      rfl
    exact .of_eq (Nat.le_add_left _ _) (here _) fun others => here _
  | case6 b rest feed plain more ih =>
    have here (rest : Bytes) : readIdentifier (b :: rest) = (readIdentifier rest).behind [b] 1 := by
      rw [readIdentifier_plain plain, if_neg feed, if_neg more]
    exact (ih closed).behind [b] (here _) fun others => here _

theorem readComment_settles (closed : (readComment bytes).closed = true) :
    Settles Quotation.width readComment bytes := by
  fun_induction readComment bytes with
  | case1 | case2 => cases closed
  | case3 b rest text ends =>
    have here {rest : Bytes} (ends : (decide (b = 0x2A) && decide (rest.head? = some 0x2F)) = true) :
        readComment (b :: rest) = { width := 2, closed := true } := by
      rw [readComment, if_neg text, if_pos ends]
    refine .of_eq ?_ (here ends) fun others => here ?_
    · obtain _ | ⟨c, rest⟩ := rest
      · simp at ends
      · exact Nat.le_add_left _ _
    · rwa [← decide_eq_decide.2 (head?_feed others (by decide))] at ends
  | case4 b rest text more ih =>
    have here {rest : Bytes} (more : ¬(decide (b = 0x2A) && decide (rest.head? = some 0x2F)) = true) :
        readComment (b :: rest) = (readComment rest).behind [b] 1 := by
      rw [readComment, if_neg text, if_neg more]
    refine (ih closed).behind [b] (here more) fun others => here ?_
    rwa [← decide_eq_decide.2 (head?_feed others (by decide))] at more

end Quotations

/-! ### Numbers -/

section Numbers

variable (bytes : Bytes)

theorem fractionWidth_settles : Settles id fractionWidth bytes := by
  cases bytes with
  | nil => exact .of_eq (Nat.le_refl 0) rfl fun _ => rfl
  | cons point rest =>
    have fewer := widthWhile_le isDigit rest
    refine ⟨?_, fun others => ?_⟩
    · simp only [fractionWidth, id_eq, List.length_cons]
      split <;> omega
    · rw [List.cons_append, fractionWidth, fractionWidth, startsWith_feed others (by decide),
        widthWhile_feed others (by decide)]

theorem exponentWidth_settles : Settles id exponentWidth bytes := by
  cases bytes with
  | nil => exact .of_eq (Nat.le_refl 0) rfl fun _ => rfl
  | cons e rest =>
    generalize signed : (if startsWith (fun b => b == 0x2B || b == 0x2D) rest then 1 else 0) = sign
    have inside : sign ≤ rest.length := by
      rw [← signed]
      split
      next starts => exact length_pos_of_startsWith starts
      next => exact Nat.zero_le _
    obtain ⟨within, stays⟩ :=
      (widthWhile_settles isDigit (by decide) (rest.drop sign)).behind_drop inside
    refine ⟨?_, fun others => ?_⟩
    · simp only [exponentWidth, signed, id_eq, List.length_cons] at within ⊢
      split
      · split <;> omega
      · exact Nat.zero_le _
    · rw [List.cons_append, exponentWidth, exponentWidth, startsWith_feed others (by decide), signed]
      dsimp only
      rw [stays]

theorem decimal_settles : Settles id (fun bytes =>
    let whole := widthWhile isDigit bytes
    let fraction := fractionWidth (bytes.drop whole)
    whole + fraction + exponentWidth (bytes.drop (whole + fraction))) bytes := by
  obtain ⟨within, stays⟩ :=
    (fractionWidth_settles (bytes.drop _)).behind_drop (widthWhile_le isDigit bytes)
  have inside : widthWhile isDigit bytes + fractionWidth (bytes.drop (widthWhile isDigit bytes)) ≤
    bytes.length := within
  obtain ⟨within', stays'⟩ := (exponentWidth_settles (bytes.drop _)).behind_drop inside
  refine ⟨within', fun others => ?_⟩
  dsimp only
  rw [widthWhile_feed others (by decide), stays, stays']

theorem numberWidth_settles (b : UInt8) (rest : Bytes) : Settles id numberWidth (b :: rest) := by
  generalize marked : (decide ((b :: rest).head? = some 0x30) &&
    startsWith (fun b => b == 0x78 || b == 0x58) rest) = hex
  have marked' (others : Bytes) : (decide ((b :: (rest ++ 0x0A :: others)).head? = some 0x30) &&
      startsWith (fun b => b == 0x78 || b == 0x58) (rest ++ 0x0A :: others)) = hex := by
    rw [startsWith_feed others (by decide)]
    exact marked
  cases hex with
  | true =>
    have inside := length_pos_of_startsWith (Bool.and_eq_true_iff.1 marked).2
    obtain ⟨within, stays⟩ :=
      (widthWhile_settles isHexDigit (by decide) (rest.drop 1)).behind_drop inside
    have here : numberWidth (b :: rest) = 2 + widthWhile isHexDigit (rest.drop 1) := if_pos marked
    refine .of_eq ?_ here fun others => ?_
    · simp only [id_eq, List.length_cons] at within ⊢
      omega
    · rw [← stays others]
      exact if_pos (marked' others)
  | false =>
    exact (decimal_settles (b :: rest)).congr (if_neg (Bool.eq_false_iff.1 marked))
      fun others => if_neg (Bool.eq_false_iff.1 (marked' others))

end Numbers

end Lexing

/-! ### Lexemes -/

def Lexicon.Unbroken (lexicon : Lexicon) : Prop := ∀ entry ∈ lexicon.symbols, 0x0A ∉ entry.1

def PieceContent.fault? : PieceContent → Option LexicalFault
  | .blank => none
  | .comment _ _ fault | .lexeme _ _ _ fault => fault

namespace Lexing

section Lexemes

variable {bytes : Bytes}

theorem parameterLexeme_settles (b : UInt8) (rest : Bytes) :
    Settles Prod.snd parameterLexeme (b :: rest) := by
  generalize signs : (if rest.head? = some 0x40 then 2 else 1) = skip
  have inside : skip ≤ (b :: rest).length := by
    rw [← signs]
    split
    next second =>
      cases rest
      · cases second
      · exact Nat.le_add_left 2 _
    next => exact Nat.le_add_left 1 _
  have signs' (others : Bytes) :
      (if (rest ++ 0x0A :: others).head? = some 0x40 then 2 else 1) = skip := by
    have second : (rest ++ 0x0A :: others).head? = some 0x40 ↔ rest.head? = some 0x40 :=
      head?_feed others (by decide)
    simpa only [second] using signs
  obtain ⟨within, stays⟩ :=
    (widthWhile_settles continuesIdentifier (by decide) ((b :: rest).drop skip)).behind_drop inside
  have width : Settles id (fun bytes =>
      let signs := if (bytes.drop 1).head? = some 0x40 then 2 else 1
      signs + widthWhile continuesIdentifier (bytes.drop signs)) (b :: rest) := by
    refine .of_eq within ?_ fun others => ?_
    · simp only [List.drop_succ_cons, List.drop_zero, signs, id_eq]
    · simp only [List.cons_append, List.drop_succ_cons, List.drop_zero, signs', id_eq]
      rw [← List.cons_append, stays]
  exact width.verbatim fun _ => .identifier

theorem wordLexeme_settles (lexicon : Lexicon) (bytes : Bytes) :
    Settles Prod.snd (wordLexeme lexicon) bytes :=
  (widthWhile_settles continuesIdentifier (by decide) bytes).verbatim fun text =>
    kindOfWord lexicon (Text.decode text)

theorem quoted_settles {read : Bytes → Quotation} {skip : Nat} (inside : skip ≤ bytes.length)
    (settles : Settles Quotation.width read (bytes.drop skip))
    (content : Bytes → Quotation → PieceContent) :
    Settles Prod.snd (fun bytes =>
      (content (bytes.take (skip + (read (bytes.drop skip)).width)) (read (bytes.drop skip)),
        skip + (read (bytes.drop skip)).width)) bytes := by
  obtain ⟨within, stays⟩ := settles.behind_drop inside
  refine ⟨within, fun others => ?_⟩
  rw [stays, List.take_append_of_le_length within]

theorem identifierLexeme_settles {b : UInt8} {rest : Bytes}
    (full : (identifierLexeme (b :: rest)).1.fault? = none) :
    Settles Prod.snd identifierLexeme (b :: rest) := by
  have closed : (readIdentifier rest).closed = true := by
    refine Bool.of_not_eq_false fun opened => ?_
    simp [identifierLexeme, PieceContent.fault?, opened] at full
  have inside : 1 ≤ (b :: rest).length := Nat.le_add_left _ _
  exact quoted_settles inside (readIdentifier_settles closed) fun _ quotation =>
    .lexeme .identifier quotation.content true
      (if quotation.closed then none else some .unterminatedIdentifier)

theorem stringLexeme_eq {skip : Nat} {quote : UInt8} {rest : Bytes} (raw : Bool)
    (found : bytes.drop skip = quote :: rest) :
    stringLexeme skip raw bytes =
      let triple := decide (rest.take 2 = [quote, quote])
      let opening := skip + if triple then 3 else 1
      let quotation := readString quote triple raw (bytes.drop opening)
      (.lexeme .string quotation.content false
        (if quotation.closed then none else some .unterminatedString), opening + quotation.width) := by
  rw [stringLexeme, found]
  simp only [decide_eq_true_eq]
  rfl

theorem stringLexeme_settles {skip : Nat} {quote : UInt8} {rest : Bytes} {raw : Bool}
    (other : quote ≠ 0x0A) (found : bytes.drop skip = quote :: rest)
    (full : (stringLexeme skip raw bytes).1.fault? = none) :
    Settles Prod.snd (stringLexeme skip raw) bytes := by
  have total := congrArg List.length found
  rw [List.length_drop, List.length_cons] at total
  have found' (others : Bytes) :
      (bytes ++ 0x0A :: others).drop skip = quote :: (rest ++ 0x0A :: others) := by
    rw [List.drop_append_of_le_length (by omega), found, List.cons_append]
  generalize tripled : decide (rest.take 2 = [quote, quote]) = triple
  have inside : skip + (if triple then 3 else 1) ≤ bytes.length := by
    cases triple with
    | false => simp; omega
    | true =>
      have taken := congrArg List.length (of_decide_eq_true tripled)
      rw [List.length_take] at taken
      simp at taken ⊢
      omega
  have closed :
      (readString quote triple raw (bytes.drop (skip + if triple then 3 else 1))).closed = true := by
    refine Bool.of_not_eq_false fun opened => ?_
    rw [stringLexeme_eq raw found, tripled] at full
    simp [PieceContent.fault?, opened] at full
  refine (quoted_settles inside (readString_settles other closed) fun _ quotation =>
    .lexeme .string quotation.content false
      (if quotation.closed then none else some .unterminatedString)).congr ?_ fun others => ?_
  · rw [stringLexeme_eq raw found, tripled]
  · rw [stringLexeme_eq raw (found' others), decide_eq_decide.2 (take_feed others other other), tripled]

theorem lineComment_settles (bytes : Bytes) : Settles Prod.snd lineComment bytes := by
  have taken := widthWhile_settles (fun b => b != 0x0A && b != 0) (by decide) bytes
  have within : widthWhile (fun b => b != 0x0A && b != 0) bytes ≤ bytes.length := taken.within
  refine ⟨within, fun others => ?_⟩
  rw [lineComment, lineComment, taken.stays]
  rw [List.take_append_of_le_length within]

theorem blockComment_settles (inside : 2 ≤ bytes.length) (full : (blockComment bytes).1.fault? = none) :
    Settles Prod.snd blockComment bytes := by
  have closed : (readComment (bytes.drop 2)).closed = true := by
    refine Bool.of_not_eq_false fun opened => ?_
    simp [blockComment, PieceContent.fault?, opened] at full
  exact quoted_settles inside (readComment_settles closed) fun text quotation => .comment .block text
    (if quotation.closed then none else some .unterminatedComment)

/-! ### Which lexeme starts -/

theorem symbol?_feed {lexicon : Lexicon} (unbroken : lexicon.Unbroken) (others : Bytes) :
    symbol? lexicon (bytes ++ 0x0A :: others) = symbol? lexicon bytes := by
  have fits : ∀ entry ∈ lexicon.symbols,
      (!entry.1.isEmpty && entry.1.isPrefixOf (bytes ++ 0x0A :: others)) =
        (!entry.1.isEmpty && entry.1.isPrefixOf bytes) := fun entry member => by
    rw [isPrefixOf_feed others (unbroken entry member)]
  exact congrArg (List.foldl _ none) (List.filter_congr fits)

theorem length_le_of_symbol? {lexicon : Lexicon} {symbol : Bytes} {kind : TokenKind}
    (found : symbol? lexicon bytes = some (symbol, kind)) : symbol.length ≤ bytes.length := by
  let fits (entry : Bytes × TokenKind) := !entry.1.isEmpty && entry.1.isPrefixOf bytes
  have same : symbol? { lexicon with symbols := lexicon.symbols.filter fits } bytes =
      symbol? lexicon bytes := by
    have twice : (lexicon.symbols.filter fits).filter fits = lexicon.symbols.filter fits := by simp
    exact congrArg (List.foldl _ none) twice
  have fitting := (List.mem_filter.1 (mem_of_symbol? (same.trans found))).2
  exact (List.isPrefixOf_iff_prefix.1 (Bool.and_eq_true_iff.1 fitting).2).length_le

theorem builtinSymbol?_feed (b : UInt8) (others : Bytes) :
    builtinSymbol? b (bytes ++ 0x0A :: others).head? = builtinSymbol? b bytes.head? := by
  cases bytes with
  | cons => rfl
  | nil =>
    have all : ∀ n : Fin 256,
        builtinSymbol? (.ofFin n) (some 0x0A) = builtinSymbol? (.ofFin n) none := by
      decide +kernel
    exact all b.toFin

theorem width_le_of_builtinSymbol? {b : UInt8} {symbol : Symbol} {width : Nat}
    (found : builtinSymbol? b bytes.head? = some (symbol, width)) : width ≤ bytes.length + 1 := by
  cases bytes with
  | nil =>
    have all : ∀ n : Fin 256, ∀ found ∈ builtinSymbol? (.ofFin n) none, found.2 ≤ 1 := by decide +kernel
    exact all b.toFin _ found
  | cons c rest =>
    have short : width ≤ 2 := by
      unfold builtinSymbol? at found
      split at found
      all_goals first
        | (simp only [Option.some.injEq, Prod.mk.injEq] at found; omega)
        | (split at found <;> simp only [Option.some.injEq, Prod.mk.injEq, reduceCtorEq] at found; omega)
        | simp only [reduceCtorEq] at found
    rw [List.length_cons]
    omega

theorem stringMarks?_feed (b : UInt8) (rest others : Bytes) :
    stringMarks? (b :: (rest ++ 0x0A :: others)) = stringMarks? (b :: rest) := by
  cases rest with
  | nil => simp [stringMarks?]
  | cons c rest =>
    unfold stringMarks?
    dsimp only [List.cons_append]
    rw [startsWith_feed others (by decide)]

theorem quote_of_stringMarks? {skip : Nat} {raw : Bool} (found : stringMarks? bytes = some (skip, raw)) :
    ∃ quote rest, quote ≠ 0x0A ∧ bytes.drop skip = quote :: rest := by
  unfold stringMarks? at found
  split at found
  next a b rest =>
    dsimp only at found
    split at found
    next quoted =>
      cases found
      refine ⟨b, rest, ?_, rfl⟩
      rintro rfl
      cases quoted
    next =>
      split at found
      next quoted =>
        cases found
        obtain _ | ⟨c, rest⟩ := rest
        · simp [startsWith] at quoted
        · refine ⟨c, rest, ?_, rfl⟩
          rintro rfl
          simp [startsWith] at quoted
      next => cases found
  next => cases found

theorem readLexeme_settles {lexicon : Lexicon} (unbroken : lexicon.Unbroken) {b : UInt8} {rest : Bytes}
    (full : (readLexeme lexicon b rest).1.fault? = none) :
    Settles Prod.snd (fun bytes => readLexeme lexicon (bytes.headD 0) bytes.tail) (b :: rest) := by
  have symbol (others : Bytes) :
      symbol? lexicon (b :: rest ++ 0x0A :: others) = symbol? lexicon (b :: rest) :=
    symbol?_feed unbroken others
  have builtin (others : Bytes) : builtinSymbol? b (rest ++ 0x0A :: others).head? =
      builtinSymbol? b rest.head? := builtinSymbol?_feed b others
  have marks (others : Bytes) := stringMarks?_feed b rest others
  have reads {f : Bytes → Reading} (settles : Settles Prod.snd f (b :: rest))
      (same : ∀ tail, symbol? lexicon (b :: tail) = symbol? lexicon (b :: rest) →
        builtinSymbol? b tail.head? = builtinSymbol? b rest.head? →
        stringMarks? (b :: tail) = stringMarks? (b :: rest) →
        readLexeme lexicon b tail = f (b :: tail)) :
      Settles Prod.snd (fun bytes => readLexeme lexicon (bytes.headD 0) bytes.tail) (b :: rest) :=
    settles.congr (same rest rfl rfl rfl) fun others =>
      same _ (symbol others) (builtin others) (marks others)
  unfold readLexeme at full
  dsimp only at full
  split at full
  next word kind found =>
    refine reads ((fixed_settles (length_le_of_symbol? found)).verbatim fun _ => kind)
      fun tail same _ _ => ?_
    simp only [readLexeme, same, found]
  next none =>
  split at full
  next builtin width found =>
    refine reads ((fixed_settles (width_le_of_builtinSymbol? found)).verbatim fun _ => .symbol builtin)
      fun tail same same' _ => ?_
    simp only [readLexeme, same, none, same', found]
  next none' =>
  split at full
  next quoted =>
    have other : b ≠ 0x0A := by
      rintro rfl
      cases quoted
    refine reads (stringLexeme_settles other rfl full) fun tail same same' _ => ?_
    simp only [readLexeme, same, none, same', none', if_pos quoted]
  next unquoted =>
  split at full
  next identifier =>
    refine reads (identifierLexeme_settles full) fun tail same same' _ => ?_
    simp only [readLexeme, same, none, same', none', if_neg unquoted, if_pos identifier]
  next unquoted' =>
  split at full
  next parameter =>
    refine reads (parameterLexeme_settles b rest) fun tail same same' _ => ?_
    simp only [readLexeme, same, none, same', none', if_neg unquoted, if_neg unquoted', if_pos parameter]
  next unsigned =>
  split at full
  next skip raw found =>
    obtain ⟨quote, after, other, opens⟩ := quote_of_stringMarks? found
    refine reads (stringLexeme_settles other opens full) fun tail same same' same'' => ?_
    simp only [readLexeme, same, none, same', none', if_neg unquoted, if_neg unquoted', if_neg unsigned,
      same'', found]
  next none'' =>
  have plain (tail : Bytes) (same : symbol? lexicon (b :: tail) = symbol? lexicon (b :: rest))
      (same' : builtinSymbol? b tail.head? = builtinSymbol? b rest.head?)
      (same'' : stringMarks? (b :: tail) = stringMarks? (b :: rest)) : readLexeme lexicon b tail =
        if startsIdentifier b then wordLexeme lexicon (b :: tail)
        else if isDigit b || b = 0x2E then verbatim .number (numberWidth (b :: tail)) (b :: tail)
        else verbatim .illegal 1 (b :: tail) := by
    simp only [readLexeme, same, none, same', none', if_neg unquoted, if_neg unquoted', if_neg unsigned,
      same'', none'']
  by_cases word : startsIdentifier b
  · exact reads (wordLexeme_settles lexicon _) fun tail same same' same'' =>
      (plain tail same same' same'').trans (if_pos word)
  by_cases number : isDigit b || b = 0x2E
  · exact reads ((numberWidth_settles b rest).verbatim fun _ => .number) fun tail same same' same'' =>
      (plain tail same same' same'').trans ((if_neg word).trans (if_pos number))
  · exact reads ((fixed_settles (Nat.le_add_left 1 _)).verbatim fun _ => .illegal)
      fun tail same same' same'' =>
        (plain tail same same' same'').trans ((if_neg word).trans (if_neg number))

end Lexemes

/-! ### Pieces -/

section Pieces

variable {lexicon : Lexicon} {b : UInt8} {rest : Bytes}

/-- A piece that is no white space and has no fault ends before a line feed. -/
theorem read_settles (unbroken : lexicon.Unbroken) (solid : isBlank b = false)
    (full : (read lexicon b rest).1.fault? = none) :
    Settles Prod.snd (fun bytes => read lexicon (bytes.headD 0) bytes.tail) (b :: rest) := by
  have reads {f : Bytes → Reading} (settles : Settles Prod.snd f (b :: rest))
      (same : ∀ tail, (tail.head? = some 0x2D ↔ rest.head? = some 0x2D) →
        (tail.head? = some 0x2A ↔ rest.head? = some 0x2A) → read lexicon b tail = f (b :: tail)) :
      Settles Prod.snd (fun bytes => read lexicon (bytes.headD 0) bytes.tail) (b :: rest) :=
    settles.congr (same rest .rfl .rfl) fun others =>
      same _ (head?_feed others (by decide)) (head?_feed others (by decide))
  have solid : ¬isBlank b = true := Bool.eq_false_iff.1 solid
  unfold read at full
  dsimp only at full
  rw [if_neg solid] at full
  split at full
  next line =>
    refine reads (lineComment_settles (b :: rest)) fun tail dash _ => ?_
    simp only [read, if_neg solid, dash, if_pos line]
  next noLine =>
  split at full
  next block =>
    have inside : 2 ≤ (b :: rest).length := by
      obtain _ | ⟨c, rest⟩ := rest
      · simp at block
      · exact Nat.le_add_left 2 _
    refine reads (blockComment_settles inside full) fun tail dash star => ?_
    simp only [read, if_neg solid, dash, if_neg noLine, star, if_pos block]
  next noBlock =>
    refine reads (readLexeme_settles unbroken full) fun tail dash star => ?_
    simp only [read, if_neg solid, dash, if_neg noLine, star, if_neg noBlock]
    rfl

end Pieces

end Lexing

end QueryLint
