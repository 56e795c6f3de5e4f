import QueryLint.Proofs.Parser.Lockstep.Statements
import QueryLint.Proofs.Token.Seam

/-!
Two sources with a semicolon between them. If both are accepted without errors, the parentheses of the
first one are properly nested and it does not end with a dot, its statements come first and those of
the second one follow in their new places. The first source is an excerpt that is cut at the semicolon,
the second one an excerpt behind it.
-/

namespace QueryLint

open Text (Bytes encode)
open QueryLint.Parser

/-! ### Scripts that are accepted -/

namespace ParseResult

variable {α : Type}

/-- Whether something was accepted without any error, not even one that was recovered from. -/
def isClean : ParseResult α → Bool
  | .accepted _ none => true
  | _ => false

theorem exists_of_isClean (result : ParseResult α) (clean : result.isClean = true) :
    ∃ value, result = .accepted value none := by
  match result with
  | .accepted value none => exact ⟨value, rfl⟩

end ParseResult

namespace Script

variable {source : Bytes} {script : Script}

theorem accepted_run (accepted : Script.parse .bigQuery source = .accepted script none) :
    (sourceTokens source).errors = [] ∧ script.comments = (sourceTokens source).comments ∧
      ∃ n bound t, repeated (nextStatement (Grammar.level n)) bound (start .bigQuery source).1 {} =
        some (script.statements, t) ∧ t.errors = [] ∧ t.recovered = [] := by
  obtain ⟨n, bound, queries, t, run, parsed⟩ := parse_run source
  have clean : (sourceTokens source).errors = [] := by
    cases noted : (sourceTokens source).errors with
    | nil => rfl
    | cons error others =>
      rw [parse_of_lexical noted] at accepted
      cases accepted
  rw [start_clean clean] at run
  rw [parsed, outcome] at accepted
  split at accepted
  next quiet =>
    obtain ⟨rfl, recovered⟩ := ParseResult.accepted.inj accepted
    exact ⟨clean, rfl, n, bound, t, run, quiet, List.head?_eq_none_iff.1 recovered⟩
  next => cases accepted

end Script

theorem Parser.statements_ended {input : ParserInput} {g : Grammar} {s t : ParserState} {i bound : Nat}
    {queries : List Query} (leading : Leading input i s) (ended : (input.token i).kind = .endOfInput)
    (run : repeated (nextStatement g) bound input s = some (queries, t)) :
    queries = [] ∧ t.errors = [] ∧ t.recovered = [] := by
  obtain _ | bound := bound
  · cases run
  obtain ⟨found, s₁, read, run⟩ := bind_eq_some run
  obtain ⟨s₂, skipped, asks⟩ := nextStatement_cases leading.errors read
  obtain ⟨same, separated⟩ := semicolons_eq_some skipped
  have here : s₂.index = i := separated.unique ⟨leading.before, leading.gap, by rw [ended]; nofun⟩
  cases asks with
  | ended =>
    cases run
    rw [same]
    exact ⟨rfl, leading.errors, leading.recovered⟩
  | failed more | read more => exact absurd (here ▸ ended) more

theorem Parser.Leading.start (input : ParserInput) : Leading input 0 {} :=
  ⟨Nat.le_refl _, fun k _ before => absurd before (Nat.not_lt_zero k), rfl, rfl⟩

/-! ### The tokens of both sources -/

section Joined

variable {first second : Bytes}

abbrev sourceBody (source : Bytes) : List Token := (sourceTokens source).tokens.dropLast

/-- The first source, a semicolon on a line of its own, and the second source. -/
abbrev joined (first second : Bytes) : Bytes := first ++ 0x0A :: 0x3B :: 0x0A :: second

theorem tokens_eq_body (source : Bytes) : ∃ stop : Token,
    (sourceTokens source).tokens = sourceBody source ++ [stop] ∧ stop.kind = .endOfInput ∧
      stop.literal = [] := by
  obtain ⟨tokens, ends, -⟩ := (TokenStream.ofSource_accountsFor Dialect.bigQuery_proper source).ends
  refine ⟨{ kind := .endOfInput, span := .between source source.length source.length }, ?_, rfl, rfl⟩
  rw [sourceBody, ends, List.dropLast_concat]

theorem start_size_body (source : Bytes) :
    (start .bigQuery source).1.tokens.size = (sourceBody source).length + 1 := by
  obtain ⟨stop, tokens, -⟩ := tokens_eq_body source
  rw [start_size, tokens, List.length_append, List.length_singleton]

theorem start_token_stop (source : Bytes) :
    ((start .bigQuery source).1.token (sourceBody source).length).Final := by
  obtain ⟨stop, tokens, ends, empty⟩ := tokens_eq_body source
  have found : (start .bigQuery source).1.token (sourceBody source).length = stop := by
    rw [start_token source (by rw [tokens]; simp), List.getElem_of_eq tokens]
    simp
  rw [found]
  exact ⟨.inl ends, .inl empty⟩

theorem start_token_body {source : Bytes} {i : Nat} (inside : i < (sourceBody source).length) :
    (start .bigQuery source).1.token i = (sourceBody source)[i] := by
  rw [start_token _ (by rw [← start_size, start_size_body]; omega), List.getElem_dropLast]

theorem ended_of_empty {source : Bytes} (empty : (sourceBody source).length = 0) :
    ((start .bigQuery source).1.token 0).kind = .endOfInput := by
  rw [(start_formed source).ends 0 (by rw [start_size_body]; omega), start_size_body, empty]

theorem start_token_valid {source : Bytes} {i : Nat} (inside : i ≤ (sourceBody source).length) :
    ((start .bigQuery source).1.token i).span.isValid = true := by
  have accounts := TokenStream.ofSource_accountsFor Dialect.bigQuery_proper source
  have listed : i < (sourceTokens source).tokens.length := by
    rw [← start_size, start_size_body]
    omega
  obtain ⟨n, m, -, -, -, placed⟩ := accounts.placed _
    (List.mem_append_left _ (List.mem_map_of_mem (List.getElem_mem listed)))
  rw [start_token _ listed, placed]
  exact Span.isValid_between source n m

variable (clean : (sourceTokens first).errors = [])

abbrev placeBehind (first : Bytes) : Position → Position := Position.after (first ++ [0x0A, 0x3B, 0x0A])

def seamToken (first : Bytes) : Token :=
  TokenStream.semicolonAt (Position.start.advance (first ++ [0x0A]))

include clean

theorem joined_tokens : (sourceTokens (joined first second)).tokens =
    sourceBody first ++ seamToken first :: relocate (placeBehind first) (sourceTokens second).tokens :=
  congrArg TokenStream.tokens (TokenStream.ofSource_joined clean)

theorem joined_comments : (sourceTokens (joined first second)).comments =
    (sourceTokens first).comments ++ relocate (placeBehind first) (sourceTokens second).comments :=
  congrArg TokenStream.comments (TokenStream.ofSource_joined clean)

theorem joined_errors : (sourceTokens (joined first second)).errors =
    (sourceTokens first).errors ++ relocate (placeBehind first) (sourceTokens second).errors :=
  congrArg TokenStream.errors (TokenStream.ofSource_joined clean)

theorem joined_size (second : Bytes) : (start .bigQuery (joined first second)).1.tokens.size =
    (sourceBody first).length + (sourceBody second).length + 2 := by
  have size := start_size_body second
  rw [start_size] at size
  rw [start_size, joined_tokens clean, List.length_append, List.length_cons]
  simp only [relocate, List.length_map, size]
  omega

theorem joined_token_first {i : Nat} (inside : i < (sourceBody first).length) :
    (start .bigQuery (joined first second)).1.token i = (start .bigQuery first).1.token i := by
  have size := joined_size clean second
  have size' := start_size_body first
  rw [start_token _ (by rw [← start_size]; omega), List.getElem_of_eq (joined_tokens clean),
    List.getElem_append_left inside, start_token _ (by rw [← start_size]; omega), List.getElem_dropLast]

theorem joined_token_seam (second : Bytes) :
    (start .bigQuery (joined first second)).1.token (sourceBody first).length = seamToken first := by
  have size := joined_size clean second
  rw [start_token _ (by rw [← start_size]; omega), List.getElem_of_eq (joined_tokens clean)]
  simp

theorem joined_token_second {i : Nat} (inside : i ≤ (sourceBody second).length) :
    (start .bigQuery (joined first second)).1.token ((sourceBody first).length + 1 + i) =
      relocate (placeBehind first) ((start .bigQuery second).1.token i) := by
  have size := joined_size clean second
  have size' := start_size_body second
  rw [start_token _ (by rw [← start_size]; omega), List.getElem_of_eq (joined_tokens clean),
    List.getElem_append_right (by omega), start_token _ (by rw [← start_size]; omega)]
  have next : (sourceBody first).length + 1 + i - (sourceBody first).length = i + 1 := by omega
  simp only [next, List.getElem_cons_succ, relocate, List.getElem_map]

/-! ### Both sources as excerpts -/

theorem joined_startsQuery (balanced : Token.Balanced (sourceBody first)) {i : Nat}
    (within : i ≤ (sourceBody first).length) : (start .bigQuery (joined first second)).1.startsQuery i =
      (start .bigQuery first).1.startsQuery i := by
  obtain ⟨stop, tokens, ends, -⟩ := tokens_eq_body first
  obtain ⟨depth, opened⟩ := Token.openAfter_drop balanced i
  have rest : (start .bigQuery first).1.rest i = (sourceBody first).drop i ++ [stop] := by
    rw [ParserInput.rest, start_tokens, tokens, List.drop_append_of_le_length within]
  have rest' : (start .bigQuery (joined first second)).1.rest i =
      (sourceBody first).drop i ++
        seamToken first :: relocate (placeBehind first) (sourceTokens second).tokens := by
    rw [ParserInput.rest, start_tokens, joined_tokens clean, List.drop_append_of_le_length within]
  rw [ParserInput.startsQuery, ParserInput.startsQuery, rest, rest']
  exact Token.startQuery_ended opened (.inr rfl) (.inl ends) _ []

theorem joined_startsQuery_second (i : Nat) :
    (start .bigQuery (joined first second)).1.startsQuery ((sourceBody first).length + 1 + i) =
      (start .bigQuery second).1.startsQuery i := by
  refine Token.startQuery_eq ?_
  rw [ParserInput.rest, ParserInput.rest, start_tokens, start_tokens, joined_tokens clean,
    Nat.add_assoc, Nat.add_comm 1 i, List.drop_length_add_append, List.drop_succ_cons, List.map_drop,
    List.map_drop]
  exact congrArg (List.drop i) (List.map_map ..)

def frontExcerpt (second : Bytes) (filled : 0 < (sourceBody first).length)
    (balanced : Token.Balanced (sourceBody first))
    (dotless : ∀ token ∈ (sourceBody first).getLast?, token.kind ≠ Symbol.dot) : Excerpt where
  first := (start .bigQuery first).1
  second := (start .bigQuery (joined first second)).1
  shift := 0
  last := (sourceBody first).length
  place := id
  place' := id
  cut := True
  lax := False
  dialect := start_dialect _
  dialect' := start_dialect _
  unset := rfl
  twin := .inl rfl
  size := start_size_body first
  nonempty := .inr filled
  room := by
    rw [joined_size clean]
    omega
  whole uncut := absurd trivial uncut
  tokens i _ inside := by rw [Nat.zero_add, joined_token_first clean (inside trivial)]
  ends i within := by
    rw [(start_formed first).ends i (by rw [start_size_body]; omega), start_size_body]
    omega
  seam _ := by
    rw [Nat.zero_add, joined_token_seam clean]
    exact ⟨start_token_stop first, ⟨.inr rfl, .inr rfl⟩⟩
  dotless _ i last := by
    obtain rfl : i = (sourceBody first).length - 1 := by omega
    refine dotless _ ?_
    rw [start_token_body (by omega), List.getLast?_eq_getElem?]
    exact List.getElem?_eq_getElem _
  queries i within := by rw [Nat.zero_add, joined_startsQuery clean balanced within]
  strict := False.elim
  closings := False.elim
  touches i j before inside _ := by
    rw [Nat.zero_add, Nat.zero_add, joined_token_first clean inside,
      joined_token_first clean (Nat.lt_trans before inside)]

def backExcerpt (filled : 0 < (sourceBody second).length) : Excerpt where
  first := (start .bigQuery second).1
  second := (start .bigQuery (joined first second)).1
  shift := (sourceBody first).length + 1
  last := (sourceBody second).length
  place := placeBehind first
  place' := id
  cut := False
  lax := False
  dialect := start_dialect _
  dialect' := start_dialect _
  unset := rfl
  twin := .inr rfl
  size := start_size_body second
  nonempty := .inr filled
  room := by
    rw [joined_size clean]
    omega
  whole _ := by
    rw [joined_size clean]
    omega
  tokens i within _ := by rw [joined_token_second clean within, relocate_id]
  ends i within := by
    rw [(start_formed second).ends i (by rw [start_size_body]; omega), start_size_body]
    omega
  seam := False.elim
  dotless := False.elim
  queries i _ := joined_startsQuery_second clean i
  strict := False.elim
  closings := False.elim
  touches i j before inside _ := by
    rw [joined_token_second clean (Nat.le_of_lt inside),
      joined_token_second clean (Nat.le_of_lt (Nat.lt_trans before inside))]
    have valid :=
      (Bool.and_eq_true_iff.1 (start_token_valid (Nat.le_of_lt (Nat.lt_trans before inside)))).2
    have valid' := (Bool.and_eq_true_iff.1 (start_token_valid (Nat.le_of_lt inside))).1
    have stop : (relocate (placeBehind first) ((start .bigQuery second).1.token i)).span.stop.offset = _ :=
      Position.offset_after valid
    have start' : (relocate (placeBehind first) ((start .bigQuery second).1.token j)).span.start.offset = _ :=
      Position.offset_after valid'
    rw [stop, start']
    omega

end Joined

/-! ### The statements of both sources -/

namespace Script

variable {first second : Bytes} {script script' : Script}

/-- Reading the joined source gives the statements of the first one and leads to the second one. -/
theorem front_of_run (clean : (sourceTokens first).errors = [])
    (balanced : Token.Balanced (sourceBody first))
    (dotless : ∀ token ∈ (sourceBody first).getLast?, token.kind ≠ Symbol.dot)
    {n n' bound bound' : Nat} {queries queries' : List Query} {t u : ParserState}
    (run : repeated (nextStatement (Grammar.level n)) bound (start .bigQuery first).1 {} =
      some (queries, t))
    (run' : repeated (nextStatement (Grammar.level n')) bound'
      (start .bigQuery (joined first second)).1 {} = some (queries', u))
    (quiet : t.errors = [] ∧ t.recovered = []) :
    ∃ back bound₂ s₂, queries' = queries ++ back ∧
      Leading (start .bigQuery (joined first second)).1 ((sourceBody first).length + 1) s₂ ∧
      repeated (nextStatement (Grammar.level n')) bound₂ (start .bigQuery (joined first second)).1 s₂ =
        some (back, u) := by
  have seam := joined_token_seam clean second
  obtain empty | filled := Nat.eq_zero_or_pos (sourceBody first).length
  · have none : queries = [] := (statements_ended (.start _) (ended_of_empty empty) run).1
    refine ⟨queries', bound', {}, by rw [none]; rfl,
      ⟨Nat.zero_le _, fun k _ before => ?_, rfl, rfl⟩, run'⟩
    obtain rfl : k = (sourceBody first).length := by omega
    rw [seam]
    rfl
  · let x := frontExcerpt clean second filled balanced dotless
    have begin : x.Behind {} {} := Excerpt.Level.behind ⟨rfl, Nat.zero_le _, rfl, rfl⟩
    have semicolon : (x.second.token (x.shift + x.last)).kind = Symbol.semicolon := by
      change ((start .bigQuery (joined first second)).1.token (0 + (sourceBody first).length)).kind = _
      rw [Nat.zero_add, seam]
      rfl
    obtain ⟨front, back, bound₂, s₂, rfl, alike, leading, rest⟩ := statements_through
      (Grammar.level_agrees x n n') trivial semicolon begin run run' (.inr quiet)
    obtain rfl : queries = front := by
      change relocate id queries = relocate id front at alike
      rwa [relocate_id, relocate_id] at alike
    have index : x.shift + x.last = (sourceBody first).length := Nat.zero_add _
    exact ⟨back, bound₂, s₂, rfl, index ▸ leading, rest⟩

/-- Reading on behind the semicolon gives the statements of the second source in their places. -/
theorem back_of_run (clean : (sourceTokens first).errors = []) {n n' bound bound' : Nat}
    {queries back : List Query} {t u s₂ : ParserState}
    (run : repeated (nextStatement (Grammar.level n)) bound (start .bigQuery second).1 {} =
      some (queries, t))
    (leading : Leading (start .bigQuery (joined first second)).1 ((sourceBody first).length + 1) s₂)
    (run' : repeated (nextStatement (Grammar.level n')) bound'
      (start .bigQuery (joined first second)).1 s₂ = some (back, u))
    (quiet : t.errors = [] ∧ t.recovered = []) :
    back = relocate (placeBehind first) queries ∧ u.errors = [] ∧ u.recovered = [] := by
  obtain empty | filled := Nat.eq_zero_or_pos (sourceBody second).length
  · have none : queries = [] := (statements_ended (.start _) (ended_of_empty empty) run).1
    have ended : ((start .bigQuery (joined first second)).1.token
        ((sourceBody first).length + 1)).kind = .endOfInput := by
      rw [← Nat.add_zero ((sourceBody first).length + 1), joined_token_second clean (Nat.zero_le _)]
      exact ended_of_empty empty
    rw [none]
    exact statements_ended leading ended run'
  · let x := backExcerpt clean filled
    have begin : x.Behind {} s₂ := Leading.behind leading
    obtain ⟨behind, alike⟩ :=
      statements_agrees (Grammar.level_agrees x n n') id begin run run' (.inr quiet)
    have errors := behind.errors
    have recovered := behind.recovered
    rw [quiet.1] at errors
    rw [quiet.2] at recovered
    change relocate (placeBehind first) queries = relocate id back at alike
    rw [relocate_id] at alike
    exact ⟨alike.symm, List.map_eq_nil_iff.1 errors.symm, List.map_eq_nil_iff.1 recovered.symm⟩

/-- Two accepted sources with a semicolon on a line between them are read as they are on their own, the
second one in its new place. -/
theorem parse_joined {first second : Bytes} {script script' : Script}
    (accepted : Script.parse .bigQuery first = .accepted script none)
    (accepted' : Script.parse .bigQuery second = .accepted script' none)
    (balanced : Token.Balanced (sourceBody first))
    (dotless : ∀ token ∈ (sourceBody first).getLast?, token.kind ≠ Symbol.dot) :
    Script.parse .bigQuery (first ++ encode "\n;\n" ++ second) =
      .accepted
        { statements := script.statements ++
            relocate (Position.after (first ++ encode "\n;\n")) script'.statements
          comments := script.comments ++
            relocate (Position.after (first ++ encode "\n;\n")) script'.comments }
        none := by
  have separator : encode "\n;\n" = [0x0A, 0x3B, 0x0A] := by decide +kernel
  have source : first ++ [0x0A, 0x3B, 0x0A] ++ second = joined first second := by simp
  obtain ⟨clean, comments, n, bound, t, run, quiet⟩ := accepted_run accepted
  obtain ⟨clean', comments', n', bound', t', run', quiet'⟩ := accepted_run accepted'
  obtain ⟨m, bound₂, queries, u, both, parsed⟩ := parse_run (joined first second)
  have errors : (sourceTokens (joined first second)).errors = [] := by
    rw [joined_errors clean, clean, clean']
    rfl
  rw [start_clean errors] at both
  obtain ⟨back, bound₃, s₂, rfl, leading, rest⟩ := front_of_run clean balanced dotless run both quiet
  obtain ⟨rfl, noted, recovered⟩ := back_of_run clean run' leading rest quiet'
  rw [separator, source, parsed, outcome, noted, recovered, joined_comments clean, comments, comments']
  rfl

/-- A call with a comment behind it, and a script of two statements with a comment before them. -/
theorem parse_call_joined : ∃ script script' : Script,
    Script.parse .bigQuery (encode "SELECT f(a) FROM t -- one") = .accepted script none ∧
      Script.parse .bigQuery (encode "/* two */\nSELECT 2; SELECT (b)") = .accepted script' none ∧
      Script.parse .bigQuery (encode "SELECT f(a) FROM t -- one" ++ encode "\n;\n" ++
          encode "/* two */\nSELECT 2; SELECT (b)") =
        .accepted
          { statements := script.statements ++ relocate
              (Position.after (encode "SELECT f(a) FROM t -- one" ++ encode "\n;\n")) script'.statements
            comments := script.comments ++ relocate
              (Position.after (encode "SELECT f(a) FROM t -- one" ++ encode "\n;\n")) script'.comments }
          none := by
  obtain ⟨script, accepted⟩ := (Script.parse .bigQuery
    (encode "SELECT f(a) FROM t -- one")).exists_of_isClean (by decide +kernel)
  obtain ⟨script', accepted'⟩ := (Script.parse .bigQuery
    (encode "/* two */\nSELECT 2; SELECT (b)")).exists_of_isClean (by decide +kernel)
  exact ⟨script, script', accepted, accepted',
    parse_joined accepted accepted' (by decide +kernel) (by decide +kernel)⟩

end Script

end QueryLint
