import QueryLint.Parser.Script
import QueryLint.Proofs.Parser.Ensures.Queries

/-!
What a parsed statement or script ensures. The grammars of all levels ensure what their productions do,
so every error that parsing reports satisfies any predicate that its lexical errors and the faults at
its tokens satisfy, and no block of what is parsed has a clause without a place.
-/

namespace QueryLint

open QueryLint.Parser Text

theorem Dialect.bigQuery_placesClauses : bigQuery.PlacesClauses := by
  have placed : ∀ rule ∈ bigQuery.clauses, rule.slot ≠ .extensions := by decide
  intro kind rule found
  exact placed rule (List.mem_reverse.1 (List.mem_of_find?_eq_some found))

/-! ### The grammar of an input -/

namespace Grammar

variable {allowed : SyntaxError → Prop} {named : TableName → Prop} {input : ParserInput}
  (admits : input.Admits allowed) (names : input.Names named)
  (places : input.dialect.PlacesClauses)

include places

theorem Regular.next {grammar : Grammar} (known : grammar.Regular allowed named input) :
    grammar.next.Regular allowed named input where
  admits := known.admits
  names := known.names
  expressionAbove := readExpression_ensures known
  query := readQuery_ensures known places
  queryBody := readQueryBody_ensures known places

include admits names

theorem level_regular (n : Nat) : (level n).Regular allowed named input := by
  induction n with
  | zero => exact ⟨admits, names, fun _ => .exhausted, .exhausted, .exhausted⟩
  | succ n ih => exact ih.next places

end Grammar

/-! ### Statements -/

namespace Parser

variable {α : Type} {allowed : SyntaxError → Prop} {named : TableName → Prop} {input : ParserInput}
  {grammar : Grammar} (known : grammar.Regular allowed named input)

include known

theorem statement_ensures :
    Ensures allowed input (statement grammar) fun query => Flawless named [.query query] := by
  refine known.query.bind fun query holds => (Ensures.of_silent (p := discard (accept _))).seq
    fun _ => .skip fun token => .skip fun _ => ?_
  exact ((fault_ensures known.admits _).when _).seq fun _ => .pure holds

theorem nextStatement_ensures :
    Ensures allowed input (nextStatement grammar) fun found => ∀ query ∈ found,
      Flawless named [.query query] := by
  have read : Ensures allowed input semicolons fun _ => True := by
    refine .skip fun _ => (repeated_ensures (A := fun _ => True) ?_ _).discard
    exact .branch (.pure fun _ _ => trivial) (.pure nofun)
  refine .branch (.pure nofun) (read.seq fun _ => .branch (.pure nofun) ?_)
  refine known.query.bind fun query holds => .branch (.pure nofun) (.skip fun token => ?_)
  refine ((unexpected_ensures known.admits _).when _).seq fun _ => .pure fun _ same => ?_
  exact Option.some.inj same ▸ holds

theorem statements_ensures :
    Ensures allowed input (statements grammar) fun queries => ∀ query ∈ queries,
      Flawless named [.query query] :=
  .skip fun _ => repeated_ensures (nextStatement_ensures known) _

end Parser

/-! ### Results -/

def ParseResult.Ensures {α : Type} (allowed : SyntaxError → Prop) (Q : α → Prop) : ParseResult α → Prop
  | .accepted value recovered => Q value ∧ ∀ error ∈ recovered, allowed error
  | .rejected error => allowed error
  | .exhausted => True

theorem ParseResult.Ensures.mono {α : Type} {allowed : SyntaxError → Prop} {Q Q' : α → Prop}
    {result : ParseResult α} (ensures : result.Ensures allowed Q) (weaker : ∀ a, Q a → Q' a) :
    result.Ensures allowed Q' := by
  cases result with
  | accepted value recovered => exact ensures.imp_left (weaker value)
  | rejected | exhausted => exact ensures

theorem Parser.result_ensures {α : Type} {allowed : SyntaxError → Prop} {input : ParserInput}
    {p : Parser α} {Q : α → Prop} {s : ParserState} (ensures : Ensures allowed input p Q)
    (noted : s.Notes allowed) : (result (p input s)).Ensures allowed Q := by
  cases run : p input s with
  | none => trivial
  | some answer =>
    obtain ⟨value, s'⟩ := answer
    obtain ⟨noted', holds⟩ := ensures s value s' run noted
    cases failed : s'.errors with
    | nil =>
      have accepted : result (some (value, s')) = .accepted value s'.recovered.head? := by
        simp only [result, failed]
      rw [accepted]
      exact ⟨holds, fun error found => noted'.recovered error (List.mem_of_mem_head? found)⟩
    | cons error rest =>
      have rejected : result (some (value, s')) = .rejected error := by simp only [result, failed]
      rw [rejected]
      exact noted'.errors error (failed ▸ List.mem_cons_self ..)

section Sources

variable {allowed : SyntaxError → Prop} {named : TableName → Prop} {dialect : Dialect}
  (places : dialect.PlacesClauses)
  {source : Bytes} (admits : (start dialect source).1.Admits allowed)
  (lexical : ∀ error ∈ (TokenStream.ofSource dialect.lexicon source).errors, allowed (.lexical error))

include places admits lexical

omit places admits in
theorem start_notes : (start dialect source).2.Notes allowed := by
  refine ⟨fun error member => ?_, nofun⟩
  obtain ⟨cause, listed, rfl⟩ := List.mem_map.1 member
  exact lexical cause listed

theorem Query.parse_flawless (names : (start dialect source).1.Names named) :
    (Query.parse dialect source).Ensures allowed fun query => Flawless named [.query query] :=
  result_ensures (statement_ensures (Grammar.level_regular admits names places _)) (start_notes lexical)

theorem Query.parse_ensures :
    (Query.parse dialect source).Ensures allowed fun query => Unextended [.query query] :=
  (Query.parse_flawless places admits lexical (ParserInput.names_any _)).mono
    fun _ => Flawless.unextended

theorem Script.parse_ensures :
    (Script.parse dialect source).Ensures allowed fun script => ∀ query ∈ script.statements,
      Unextended [.query query] := by
  have read : (result (Parser.statements (Grammar.ofInput (start dialect source).1)
      (start dialect source).1 (start dialect source).2)).Ensures allowed fun queries =>
        ∀ query ∈ queries, Flawless (fun _ => True) [.query query] :=
    result_ensures
      (statements_ensures (Grammar.level_regular admits (ParserInput.names_any _) places _))
      (start_notes lexical)
  replace read := read.mono fun _ each query listed => (each query listed).unextended
  unfold Script.parse
  dsimp only
  split
  · next answer => rwa [answer] at read
  · next answer => rwa [answer] at read
  · trivial

end Sources

/-- No block of an accepted statement has a clause without a place of its own. -/
theorem Query.unextended_of_accepted {source : Bytes} {query : Query} {recovered : Option SyntaxError}
    (accepted : Query.parse Dialect.bigQuery source = .accepted query recovered) :
    Unextended [.query query] := by
  have anything : ParserInput.Admits (start Dialect.bigQuery source).1 fun _ => True := by
    constructor <;> intros <;> trivial
  have ensured := Query.parse_ensures Dialect.bigQuery_placesClauses anything fun _ _ => trivial
  rw [accepted] at ensured
  exact ensured.1

end QueryLint
