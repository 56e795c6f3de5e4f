import QueryLint.Proofs.Parser.Lockstep.Statements

/-!
The layout of a source. Two sources whose tokens differ in nothing but their places, and in which the
same dashes touch the tokens beside them, are read into the same statements up to places, as far as
reading them gets. White space, line feeds and comments decide nothing else.
-/

namespace QueryLint

open Text (Bytes encode)
open QueryLint.Parser

/-! ### Sources with the same tokens -/

/-- Whether a dash and the token beside it touch; nothing for other pairs of tokens. -/
def Token.dashTouches (first second : Token) : Option Bool :=
  if (first.kind = Symbol.minus ∨ second.kind = Symbol.minus) ∧ second.kind ≠ .endOfInput then
    some (second.span.start.offset = first.span.stop.offset)
  else none

/-- The same tokens in two streams, wherever they stand, with dashes that touch the same neighbours. -/
structure TokenStream.Respaced (a b : TokenStream) : Prop where
  spelled : a.tokens.map (fun token => (token.kind, token.literal, token.quoted)) =
    b.tokens.map fun token => (token.kind, token.literal, token.quoted)
  dashes : a.tokens.zipWith Token.dashTouches a.tokens.tail =
    b.tokens.zipWith Token.dashTouches b.tokens.tail

instance (a b : TokenStream) : Decidable (a.Respaced b) :=
  decidable_of_iff (_ ∧ _) ⟨fun ⟨spelled, dashes⟩ => ⟨spelled, dashes⟩,
    fun ⟨spelled, dashes⟩ => ⟨spelled, dashes⟩⟩

namespace TokenStream

variable {a b : TokenStream}

theorem Respaced.bare_tokens (same : a.Respaced b) : bare a.tokens = bare b.tokens := by
  have moved (token : Token) : bare token =
      (fun spelling => Token.mk spelling.1 spelling.2.1 (Span.relocate (fun _ => {}) {}) spelling.2.2)
        (token.kind, token.literal, token.quoted) := rfl
  have rebuilt := congrArg (List.map fun spelling : TokenKind × Bytes × Bool =>
    Token.mk spelling.1 spelling.2.1 (Span.relocate (fun _ => {}) {}) spelling.2.2) same.spelled
  simp only [List.map_map] at rebuilt
  exact rebuilt

theorem Respaced.length_eq (same : a.Respaced b) : b.tokens.length = a.tokens.length := by
  simpa using (congrArg List.length same.spelled).symm

theorem AccountsFor.not_last {source : Bytes} {n : Nat} (accounts : a.AccountsFor source n) {i : Nat}
    (inside : i + 1 < a.tokens.length) : a.tokens[i].kind ≠ .endOfInput ∧
      a.tokens[i].span.start.offset < a.tokens[i].span.stop.offset := by
  obtain ⟨tokens, ends, others⟩ := accounts.ends
  have length := congrArg List.length ends
  rw [List.length_append, List.length_singleton] at length
  have listed : a.tokens[i] = tokens[i] := by
    rw [List.getElem_of_eq ends, List.getElem_append_left]
  rw [listed]
  exact others _ (List.getElem_mem _)

theorem AccountsFor.lt_of_apart {source : Bytes} {n : Nat} (accounts : a.AccountsFor source n)
    {i j : Nat} (apart : i + 1 < j) (inside : j < a.tokens.length) :
    a.tokens[i].span.stop.offset < a.tokens[j].span.start.offset := by
  have ordered := List.pairwise_iff_getElem.1 accounts.tokens
  have before := ordered i (i + 1) (by omega) (by omega) (Nat.lt_succ_self i)
  have after := ordered (i + 1) j (by omega) (by omega) apart
  have taken := (accounts.not_last (i := i + 1) (by omega)).2
  exact Int.lt_of_le_of_lt before (Int.lt_of_lt_of_le taken after)

theorem Respaced.kind_eq (same : a.Respaced b) {i : Nat} (inside : i < a.tokens.length)
    (inside' : i < b.tokens.length) : b.tokens[i].kind = a.tokens[i].kind := by
  have spelled := List.getElem_of_eq same.spelled (i := i) (by simpa using inside)
  simp only [List.getElem_map] at spelled
  exact (congrArg Prod.fst spelled).symm

theorem Respaced.touches (same : a.Respaced b) {source source' : Bytes} {n m : Nat}
    (accounts : a.AccountsFor source n) (accounts' : b.AccountsFor source' m) {i j : Nat}
    (before : i < j)
    (inside : j + 1 < a.tokens.length) (inside' : j + 1 < b.tokens.length)
    (dash : a.tokens[i].kind = Symbol.minus ∨ a.tokens[j].kind = Symbol.minus) :
    a.tokens[j].span.start.offset = a.tokens[i].span.stop.offset ↔
      b.tokens[j].span.start.offset = b.tokens[i].span.stop.offset := by
  by_cases next : j = i + 1
  · subst next
    have gaps := List.getElem_of_eq same.dashes (i := i) (by simp; omega)
    simp only [List.getElem_zipWith, List.getElem_tail] at gaps
    have dash' := dash
    rw [← same.kind_eq (i := i) (by omega) (by omega),
      ← same.kind_eq (i := i + 1) (by omega) (by omega)] at dash'
    rw [Token.dashTouches, if_pos ⟨dash, (accounts.not_last inside).1⟩, Token.dashTouches,
      if_pos ⟨dash', (accounts'.not_last inside').1⟩] at gaps
    simpa using gaps
  · have away := accounts.lt_of_apart (i := i) (j := j) (by omega) (by omega)
    have away' := accounts'.lt_of_apart (i := i) (j := j) (by omega) (by omega)
    omega

end TokenStream

/-! ### Readings of both sources -/

/-- What parsing two sources has in common: both are accepted with the same statements and the same
recovered error up to places, or both are rejected, for the same error up to its place unless that is
a lexical one. -/
inductive ParseResult.Alike : ParseResult Script → ParseResult Script → Prop
  | accepted {script script' : Script} {recovered recovered' : Option SyntaxError}
      (statements : bare script.statements = bare script'.statements)
      (same : bare recovered = bare recovered') :
      Alike (.accepted script recovered) (.accepted script' recovered')
  | rejected {error error' : SyntaxError} (same : bare error = bare error') :
      Alike (.rejected error) (.rejected error')
  | lexical (error error' : LexicalError) :
      Alike (.rejected (.lexical error)) (.rejected (.lexical error'))

def ParseResult.isAccepted {α : Type} : ParseResult α → Bool
  | .accepted .. => true
  | .rejected _ | .exhausted => false

theorem ParseResult.Alike.isAccepted_eq {result result' : ParseResult Script}
    (alike : result.Alike result') : result.isAccepted = result'.isAccepted := by
  cases alike <;> rfl

section Readings

variable {source source' : Bytes} (same : (sourceTokens source).Respaced (sourceTokens source'))

include same

theorem TokenStream.Respaced.size_eq : (start .bigQuery source').1.tokens.size =
    (start .bigQuery source).1.tokens.size := by
  rw [start_size, start_size, same.length_eq]

theorem TokenStream.Respaced.kinds (i : Nat) : ((start .bigQuery source').1.rest i).map (·.kind) =
    ((start .bigQuery source).1.rest i).map (·.kind) := by
  have kinds := congrArg (List.map Prod.fst) same.spelled
  simp only [List.map_map] at kinds
  rw [ParserInput.rest, ParserInput.rest, List.map_drop, List.map_drop]
  exact congrArg (List.drop i) kinds.symm

theorem TokenStream.Respaced.token_bare {i : Nat} (inside : i < (sourceTokens source).tokens.length) :
    bare ((start .bigQuery source).1.token i) = bare ((start .bigQuery source').1.token i) := by
  have inside' := same.length_eq ▸ inside
  have both := List.getElem_of_eq same.bare_tokens (i := i) (by simpa [bare, relocate] using inside)
  rw [start_token source inside, start_token source' inside']
  simpa only [bare, relocate, List.getElem_map] using both

/-- The second source beside the first one, with no place kept. -/
def respacedExcerpt : Excerpt where
  first := (start .bigQuery source).1
  second := (start .bigQuery source').1
  shift := 0
  last := (start .bigQuery source).1.tokens.size - 1
  place _ := {}
  place' _ := {}
  cut := False
  lax := True
  dialect := start_dialect _
  dialect' := start_dialect _
  unset := rfl
  twin := .inl rfl
  size := by
    have nonempty := (start_formed source).nonempty
    omega
  nonempty := .inl trivial
  room := by
    have nonempty := (start_formed source).nonempty
    have size := same.size_eq
    omega
  whole _ := by
    have nonempty := (start_formed source).nonempty
    have size := same.size_eq
    omega
  tokens i within _ := by
    have nonempty := (start_formed source).nonempty
    rw [Nat.zero_add]
    exact same.token_bare (by rw [← start_size]; omega)
  ends i within := by
    have nonempty := (start_formed source).nonempty
    rw [(start_formed source).ends i (by omega)]
    omega
  seam := False.elim
  dotless := False.elim
  queries i _ := by
    rw [Nat.zero_add]
    exact Token.startQuery_eq (same.kinds i)
  strict _ := ⟨rfl, id⟩
  closings _ i := congrArg (·.map (i + ·)) (Token.closingOffset_eq (same.kinds i) 0)
  touches i j before inside dash := by
    have inside : j + 1 < (sourceTokens source).tokens.length := by rw [← start_size]; omega
    have inside' : j + 1 < (sourceTokens source').tokens.length := same.length_eq ▸ inside
    rw [Nat.zero_add, Nat.zero_add, start_token source (by omega), start_token source (by omega),
      start_token source' (by omega), start_token source' (by omega)]
    rw [start_token source (by omega), start_token source (by omega)] at dash
    exact same.touches (TokenStream.ofSource_accountsFor Dialect.bigQuery_proper source)
      (TokenStream.ofSource_accountsFor Dialect.bigQuery_proper source') before inside inside' dash

end Readings

namespace Script

variable {source source' : Bytes}

/-- Layout does not change the statements of a script. -/
theorem parse_respaced (same : (sourceTokens source).Respaced (sourceTokens source'))
    (lexical : (sourceTokens source).errors = [] ↔ (sourceTokens source').errors = []) :
    (Script.parse .bigQuery source).Alike (Script.parse .bigQuery source') := by
  cases noted : (sourceTokens source).errors with
  | cons error others =>
    cases noted' : (sourceTokens source').errors with
    | nil => rw [lexical.2 noted'] at noted; cases noted
    | cons error' others' =>
      rw [parse_of_lexical noted, parse_of_lexical noted']
      exact .lexical error error'
  | nil =>
    obtain ⟨n, bound, queries, s, run, parsed⟩ := parse_run source
    obtain ⟨n', bound', queries', s', run', parsed'⟩ := parse_run source'
    rw [start_clean noted] at run
    rw [start_clean (lexical.1 noted)] at run'
    have begin : (respacedExcerpt same).Behind {} {} :=
      Excerpt.Level.behind ⟨rfl, Nat.zero_le _, rfl, rfl⟩
    obtain ⟨behind, alike⟩ := statements_agrees (Grammar.level_agrees (respacedExcerpt same) n n') id
      begin run run' (.inl trivial)
    have errors : bare s.errors = bare s'.errors := behind.errors
    have recovered : bare s.recovered.head? = bare s'.recovered.head? := by
      rw [List.head?_eq_getElem?, List.head?_eq_getElem?]
      exact Excerpt.getElem?_alike behind.recovered 0
    rw [parsed, parsed', outcome, outcome]
    cases found : s.errors with
    | nil =>
      rw [found] at errors
      rw [List.map_eq_nil_iff.1 errors.symm]
      exact .accepted alike recovered
    | cons error others =>
      cases found' : s'.errors with
      | nil => rw [found, found'] at errors; cases errors
      | cons error' others' =>
        rw [found, found'] at errors
        exact .rejected (List.cons.inj errors).1

/-- A path with dashes and a negated number, on one line, and on three lines with comments. -/
theorem parse_dashes_respaced :
    (Script.parse .bigQuery (encode "SELECT -1, a - 2 FROM p-q.t")).Alike
      (Script.parse .bigQuery (encode "SELECT -1, /* two */\n  a - 2 -- less\nFROM p-q.t")) :=
  parse_respaced (by decide +kernel) (by decide +kernel)

/-- Sources with the same tokens need not be accepted alike: a comment that is left open is an error. -/
theorem parse_comment_open :
    (sourceTokens (encode "SELECT 1 /* a")).Respaced (sourceTokens (encode "SELECT 1")) ∧
      ¬(Script.parse .bigQuery (encode "SELECT 1 /* a")).Alike
        (Script.parse .bigQuery (encode "SELECT 1")) := by
  refine ⟨by decide +kernel, fun alike => ?_⟩
  have rejected : (Script.parse .bigQuery (encode "SELECT 1 /* a")).isAccepted = false := by
    decide +kernel
  have accepted : (Script.parse .bigQuery (encode "SELECT 1")).isAccepted = true := by decide +kernel
  rw [alike.isAccepted_eq, accepted] at rejected
  cases rejected

end Script

end QueryLint
