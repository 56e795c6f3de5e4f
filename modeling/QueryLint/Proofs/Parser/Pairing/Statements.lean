import QueryLint.Proofs.Parser.Joined
import QueryLint.Proofs.Parser.Pairing.Queries
import QueryLint.Proofs.Token.Parentheses

/-!
Sources that are accepted without an error. Reading such a source goes over all its tokens and ends with
as many parentheses open as it began with, none; so its parentheses are properly nested, if those are left
out that were taken without a look at them.
-/

namespace QueryLint

open QueryLint.Parser
open Text (Bytes encode)

/-! ### Tokens that are left out -/

namespace Token

def withoutFrom (first : Nat) (skipped : Nat → Bool) (tokens : List Token) : List Token :=
  ((tokens.zipIdx first).filter fun entry => !skipped entry.2).map Prod.fst

abbrev without (skipped : Nat → Bool) (tokens : List Token) : List Token :=
  withoutFrom 0 skipped tokens

section Without

variable {first : Nat} {skipped skipped' : Nat → Bool} {token : Token} {tokens : List Token}

theorem withoutFrom_cons_of_skipped (skips : skipped first = true) :
    withoutFrom first skipped (token :: tokens) = withoutFrom (first + 1) skipped tokens := by
  simp [withoutFrom, skips]

theorem withoutFrom_cons_of_kept (keeps : skipped first = false) :
    withoutFrom first skipped (token :: tokens) = token :: withoutFrom (first + 1) skipped tokens := by
  simp [withoutFrom, keeps]

theorem withoutFrom_congr (same : ∀ i, first ≤ i → skipped i = skipped' i) :
    withoutFrom first skipped tokens = withoutFrom first skipped' tokens := by
  unfold withoutFrom
  congr 1
  refine List.filter_congr fun entry member => ?_
  rw [same _ (List.le_snd_of_mem_zipIdx member)]

theorem openAfter_cons_of_unpaired {depth : Nat} (unpaired : token.kind.Unpaired)
    (inner : token.kind ≠ .endOfInput) :
    openAfter depth (token :: tokens) = openAfter depth tokens := by
  rw [openAfter.eq_def]
  dsimp only
  split
  next opens => exact absurd opens unpaired.ne_leftParen
  next closes => exact absurd closes unpaired.ne_rightParen
  next ended => exact absurd ended inner
  next => rfl

theorem openAfter_cons_of_opens {depth : Nat} (opens : token.kind = Symbol.leftParen) :
    openAfter depth (token :: tokens) = openAfter (depth + 1) tokens := by
  rw [openAfter.eq_def]
  dsimp only
  rw [opens]

theorem openAfter_cons_of_closes {depth : Nat} (closes : token.kind = Symbol.rightParen) :
    openAfter (depth + 1) (token :: tokens) = openAfter depth tokens := by
  rw [openAfter, closes]

end Without

end Token

/-! ### Paths through a source -/

namespace ParserInput

variable {input : ParserInput} (formed : input.WellFormed) {last i depth : Nat}
  (ends : last + 1 = input.tokens.size)

/-- Some tokens from an index on that are not looked at can be left out such that the others before the
last one close as many parentheses as are open. -/
def ClosesFrom (input : ParserInput) (last i depth : Nat) : Prop :=
  ∃ skipped : Nat → Bool, (∀ k, skipped k = true → i ≤ k ∧ input.Unchecked k) ∧
    Token.openAfter depth (Token.withoutFrom i skipped ((input.rest i).take (last - i))) = some 0

include ends

theorem rest_take (before : i < last) :
    (input.rest i).take (last - i) = input.token i :: (input.rest (i + 1)).take (last - (i + 1)) := by
  rw [rest_eq_cons (by omega), ← List.take_succ_cons]
  congr 1
  omega

theorem ClosesFrom.keep {depth' : Nat} (before : i < last)
    (rest : input.ClosesFrom last (i + 1) depth')
    (step : ∀ tokens, Token.openAfter depth (input.token i :: tokens) = Token.openAfter depth' tokens) :
    input.ClosesFrom last i depth := by
  obtain ⟨skipped, unchecked, closes⟩ := rest
  have kept : skipped i = false :=
    Bool.eq_false_iff.2 fun skips => absurd (unchecked i skips).1 (Nat.not_succ_le_self i)
  refine ⟨skipped, fun k skips => ?_, ?_⟩
  · exact ⟨Nat.le_of_succ_le (unchecked k skips).1, (unchecked k skips).2⟩
  rw [rest_take ends before, Token.withoutFrom_cons_of_kept kept, step, closes]

theorem ClosesFrom.skip (before : i < last) (rest : input.ClosesFrom last (i + 1) depth)
    (unchecked : input.Unchecked i) : input.ClosesFrom last i depth := by
  obtain ⟨skipped, others, closes⟩ := rest
  refine ⟨fun k => k == i || skipped k, fun k skips => ?_, ?_⟩
  · obtain here | skips := Bool.or_eq_true_iff.1 skips
    · obtain rfl := beq_iff_eq.1 here
      exact ⟨Nat.le_refl _, unchecked⟩
    · exact ⟨Nat.le_of_succ_le (others k skips).1, (others k skips).2⟩
  · have same : Token.withoutFrom (i + 1) (fun k => k == i || skipped k)
        ((input.rest (i + 1)).take (last - (i + 1))) =
          Token.withoutFrom (i + 1) skipped ((input.rest (i + 1)).take (last - (i + 1))) :=
      Token.withoutFrom_congr fun k after => by simp [Nat.ne_of_gt after]
    rw [rest_take ends before, Token.withoutFrom_cons_of_skipped (by simp), same, closes]

include formed

/-- Behind a step before the last token the parentheses are closed if they are before it. -/
theorem Step.closesFrom {target : Nat × Nat} (step : input.Step (i, depth) target) (inside : i ≤ last)
    (rest : target.1 ≤ last → input.ClosesFrom last target.1 target.2) :
    input.ClosesFrom last i depth := by
  have kind := formed.ends i (by omega)
  obtain before | rfl : i < last ∨ i = last := by omega
  · have next : input.following i = i + 1 := if_pos (by omega)
    have inner : (input.token i).kind ≠ .endOfInput := fun ended => by
      have := kind.1 ended
      omega
    cases step with
    | passes unpaired =>
      exact (next ▸ rest (next ▸ before)).keep ends before
        fun _ => Token.openAfter_cons_of_unpaired unpaired inner
    | opens found =>
      exact (next ▸ rest (next ▸ before)).keep ends before
        fun _ => Token.openAfter_cons_of_opens found
    | closes found =>
      exact (next ▸ rest (next ▸ before)).keep ends before
        fun _ => Token.openAfter_cons_of_closes found
    | skips unchecked => exact (next ▸ rest (next ▸ before)).skip ends before unchecked
  · have stays : input.following i = i := if_neg (by omega)
    have ended := kind.2 ends
    cases step with
    | passes | skips =>
      have rest := rest (Nat.le_of_eq stays)
      rwa [stays] at rest
    | opens found | closes found => cases ended.symm.trans found

theorem Path.closesFrom (path : input.Path i depth last 0) (inside : i ≤ last) :
    input.ClosesFrom last i depth := by
  suffices from' : ∀ source : Nat × Nat, Relation.ReflTransGen input.Step source (last, 0) →
      source.1 ≤ last → input.ClosesFrom last source.1 source.2 from from' _ path inside
  intro source path
  induction path using Relation.ReflTransGen.head_induction_on with
  | refl =>
    refine fun _ => ⟨fun _ => false, nofun, ?_⟩
    rw [Nat.sub_self, List.take_zero]
    rfl
  | head step _ ih => exact fun inside => step.closesFrom formed ends inside ih

end ParserInput

/-! ### Statements -/

namespace Parser

variable {input : ParserInput} {s t : ParserState} {grammar : Grammar} (paired : grammar.Paired input)

include paired

theorem statement_pairs : Pairs input s 0 (statement grammar) 0 :=
  .bind (paired.query _) fun _ _ => .skip fun _ _ => .skip fun _ _ => .skip fun _ _ => .flat

omit paired in
theorem semicolons_pairs : Pairs input s 0 semicolons 0 := by
  refine .look rfl (Pairs.discard (repeated_pairs (fun _ => ?_) _))
  exact .skip fun _ _ => .ite (fun _ => .pure) fun _ => .pure

theorem nextStatement_pairs : Pairs input s 0 (nextStatement grammar) 0 := by
  refine .skip fun _ _ => .ite (fun _ => .pure) fun _ => .bind semicolons_pairs fun _ _ => ?_
  refine .skip fun _ _ => .ite (fun _ => .pure) fun _ => .bind (paired.query _) fun _ _ => ?_
  exact .skip fun _ _ => .ite (fun _ => .pure) fun _ => .skip fun _ _ => .skip fun _ _ => .flat

theorem statements_pairs : Pairs input s 0 (statements grammar) 0 :=
  .skip fun _ _ => repeated_pairs (fun _ => nextStatement_pairs paired) _

omit paired in
theorem statement_ended {query : Query} (run : statement grammar input s = some (query, t))
    (clean : t.Clean) : (input.token t.index).kind = .endOfInput := by
  obtain ⟨_, s₁, _, run⟩ := bind_eq_some run
  obtain ⟨_, s₂, _, run⟩ := bind_eq_some run
  obtain ⟨token, s₃, ⟨⟩, run⟩ := bind_eq_some run
  obtain ⟨failed, s₄, ⟨⟩, run⟩ := bind_eq_some run
  obtain ⟨_, s₅, noted, ⟨⟩⟩ := bind_eq_some run
  unfold when at noted
  split at noted
  · cases noted
    exact absurd clean.errors (by simp)
  next quiet =>
    cases noted
    simpa [clean.errors] using quiet

end Parser

/-! ### Sources -/

theorem Parser.start_plain (source : Bytes) : (start .bigQuery source).1.Plain := by
  have written {symbol : Symbol} {c : UInt8} (paren : Lexing.IsParenthesis symbol c) (i : Nat)
      (found : ((start .bigQuery source).1.token i).kind = symbol) :
      ((start .bigQuery source).1.token i).literal = [c] := by
    have listed {j : Nat} (inside : j < (sourceTokens source).tokens.length)
        (found : ((start .bigQuery source).1.token j).kind = symbol) :
        ((start .bigQuery source).1.token j).literal = [c] := by
      rw [start_token source inside] at found ⊢
      exact TokenStream.literal_of_parenthesis Dialect.bigQuery_proper.lexicon
        Dialect.bigQuery_builtin paren source _ (List.getElem_mem _) found
    obtain inside | beyond := Nat.lt_or_ge i (start .bigQuery source).1.tokens.size
    · exact listed inside found
    · rw [ParserInput.token_of_le beyond] at found ⊢
      exact listed (Nat.sub_one_lt (Nat.ne_of_gt (start_formed source).nonempty)) found
  refine ⟨rfl, fun i found => ?_, fun i found => ?_⟩
  · rw [Token.text, written .left i found]
    decide
  · rw [Token.text, written .right i found]
    decide

/-- The parentheses of a source are properly nested if some tokens are left out that are not looked at:
those behind a dot or behind `HAVING`, and the arguments and parameters of types. -/
def Nested (source : Bytes) : Prop :=
  ∃ skipped : Nat → Bool, (∀ i, skipped i = true → (start .bigQuery source).1.Unchecked i) ∧
    Token.Balanced (Token.without skipped (sourceBody source))

/-- A reading from the first token to the last one that ends in a clean state. -/
theorem nested_of_pairs {α : Type} {p : Parser α} {source : Bytes} {a : α} {t : ParserState}
    (pairs : Pairs (start .bigQuery source).1 (start .bigQuery source).2 0 p 0)
    (run : p (start .bigQuery source).1 (start .bigQuery source).2 = some (a, t)) (clean : t.Clean)
    (ended : t.index + 1 = (start .bigQuery source).1.tokens.size) : Nested source := by
  have path : (start .bigQuery source).1.Path 0 0 t.index 0 := (pairs a t run clean).2 trivial 0
  obtain ⟨skipped, unchecked, closes⟩ := path.closesFrom (start_formed source) ended (Nat.zero_le _)
  have body : ((start .bigQuery source).1.rest 0).take t.index = sourceBody source := by
    rw [sourceBody, List.dropLast_eq_take, ← start_size, ← ended]
    rfl
  rw [Nat.sub_zero, body] at closes
  exact ⟨skipped, fun i skips => (unchecked i skips).2, closes⟩

/-- Whatever is accepted without an error, as one statement or as a script, has its parentheses properly
nested, if those are left out that no production looks at. -/
theorem accepted_parentheses_nested (source : Bytes) :
    (∀ query, Query.parse .bigQuery source = .accepted query none → Nested source) ∧
      ∀ script, Script.parse .bigQuery source = .accepted script none → Nested source := by
  have formed := start_formed source
  have sound := Grammar.ofInput_sound formed
  have paired := Grammar.level_paired (start_plain source)
  refine ⟨fun query accepted => ?_, fun script accepted => ?_⟩
  · obtain ⟨t, run, quiet, recovered⟩ := result_eq_accepted accepted
    have clean : t.Clean := ⟨quiet, List.head?_eq_none_iff.1 recovered⟩
    obtain ⟨_, _, run', moves, _⟩ := statement_gives sound (start_inside formed)
    cases run.symm.trans run'
    refine nested_of_pairs (statement_pairs (paired _)) run clean ?_
    exact (formed.ends _ moves.inside).1 (statement_ended run clean)
  · unfold Script.parse at accepted
    dsimp only at accepted
    split at accepted
    next queries _ parsed =>
      cases accepted
      obtain ⟨t, run, quiet, recovered⟩ := result_eq_accepted parsed
      have clean : t.Clean := ⟨quiet, List.head?_eq_none_iff.1 recovered⟩
      obtain ⟨_, _, run', _, read⟩ := statements_yields formed sound (start_inside formed)
      cases run.symm.trans run'
      exact nested_of_pairs (statements_pairs (paired _)) run clean (read quiet).2
    · cases accepted
    · cases accepted

/-- A call whose parenthesis behind `HAVING` is taken without a look at it. -/
theorem unbalanced_call_nested :
    ∃ query, Query.parse .bigQuery (encode "SELECT SUM(x HAVING ( y) FROM t") = .accepted query none ∧
      ¬Token.Balanced (sourceBody (encode "SELECT SUM(x HAVING ( y) FROM t")) ∧
      Nested (encode "SELECT SUM(x HAVING ( y) FROM t") := by
  obtain ⟨query, accepted⟩ := ParseResult.exists_of_isClean
    (Query.parse .bigQuery (encode "SELECT SUM(x HAVING ( y) FROM t")) (by decide +kernel)
  exact ⟨query, accepted, by decide +kernel, (accepted_parentheses_nested _).1 query accepted⟩

end QueryLint
