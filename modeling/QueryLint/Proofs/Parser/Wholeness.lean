import QueryLint.Proofs.Parser.Scripts

/-!
Nothing is missing from an accepted tree. Errors are noted on the side while reading goes on, so a
production can come back with operands missing; it has then noted an error, and a tree is accepted
only when there is none. Definitions that were skipped have no query, and leave nothing else out.
-/

namespace QueryLint

open QueryLint.Parser Text

def Part.WholeBelow (part : Part) : Prop := ∀ descendant, Below part descendant → descendant.Whole

section Ranges

variable {input : ParserInput} {i j : Nat} {part : Part}

theorem Within.wholeBelow (within : Within input i j part) : part.WholeBelow := by
  intro descendant below
  induction below generalizing i j with
  | self =>
    obtain ⟨_, _, _, _, whole, _⟩ := within
    exact whole
  | child member _ ih =>
    obtain ⟨_, _, _, _, _, children⟩ := within
    exact ih (children _ member)

theorem Covers.wholeBelow (covers : Covers input i j part) : part.WholeBelow :=
  (covers.within (Nat.le_refl _) (Nat.le_refl _)).wholeBelow

end Ranges

/-- What the productions that nest give when they note no error. -/
structure Grammar.GivesWhole (input : ParserInput) (grammar : Grammar) : Prop where
  expression : ∀ (bound : Precedence) (s : ParserState), s.index < input.tokens.size →
    Gives input s (grammar.expressionAbove bound) fun e _ =>
      e.isMissing = false ∧ (Part.node (.expr e)).WholeBelow
  query : ∀ s : ParserState, s.index < input.tokens.size →
    Gives input s grammar.query fun query _ => (Part.node (.query query)).WholeBelow
  body : ∀ s : ParserState, s.index < input.tokens.size →
    Gives input s grammar.queryBody fun body _ => (Part.node (.body body)).WholeBelow

theorem Grammar.Sound.givesWhole {input : ParserInput} {grammar : Grammar}
    (sound : grammar.Sound input 0) : grammar.GivesWhole input where
  expression bound s inside :=
    (sound.expressionAbove bound s (Nat.zero_le _) inside).mono fun _ _ _ covers =>
      ⟨covers.1, covers.2.wholeBelow⟩
  query s inside := (sound.query s (Nat.zero_le _) inside).mono fun _ _ _ covers => covers.wholeBelow
  body s inside :=
    (sound.queryBody s (Nat.zero_le _) inside).mono fun _ _ _ covers => covers.wholeBelow

/-- Accepted statements and scripts are whole, and a production that comes back with something
missing has noted an error since it was entered. -/
theorem accepted_trees_whole (source : Bytes) :
    (∀ query recovered, Query.parse Dialect.bigQuery source = .accepted query recovered →
      (Part.node (.query query)).WholeBelow) ∧
    (∀ script recovered, Script.parse Dialect.bigQuery source = .accepted script recovered →
      ∀ query ∈ script.statements, (Part.node (.query query)).WholeBelow) ∧
    let input := (start Dialect.bigQuery source).1
    (Grammar.ofInput input).GivesWhole input := by
  have proper := Dialect.bigQuery_proper
  have bounded := Dialect.bigQuery_bounded
  refine ⟨fun query recovered accepted => ?_, fun script recovered accepted query member => ?_, ?_⟩
  · obtain ⟨_, _, covers⟩ := Query.covers_of_parse proper bounded accepted
    exact covers.wholeBelow
  · obtain ⟨_, _, sequenced⟩ := Script.sequenced_of_parse proper bounded accepted
    obtain ⟨_, _, _, _, covers⟩ := sequenced.covers query member
    exact covers.wholeBelow
  · exact (Grammar.ofInput_sound (start_wellFormed proper bounded source)).givesWhole

/-- A statement with a definition that was skipped. -/
theorem skipping_statement_whole :
    ∃ query recovered,
      Query.parse Dialect.bigQuery (encode "WITH a AS (x) SELECT p AND NOT q FROM a") =
        .accepted query recovered ∧
      recovered.isSome = true ∧ (Part.node (.query query)).WholeBelow := by
  obtain ⟨query, recovered, accepted, skipped⟩ := ParseResult.exists_of_isAcceptedWith
    (show (Query.parse Dialect.bigQuery (encode "WITH a AS (x) SELECT p AND NOT q FROM a")).isAcceptedWith
      (fun _ recovered => recovered.isSome) by decide +kernel)
  exact ⟨query, recovered, accepted, skipped, (accepted_trees_whole _).1 query recovered accepted⟩

end QueryLint
