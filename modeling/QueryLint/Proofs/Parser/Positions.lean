import QueryLint.Proofs.Parser.Lockstep.Statements
import QueryLint.Proofs.Syntax.Fixed

/-!
Where the positions in a tree come from. A reader that is compared with itself, under a map that keeps
the positions of tokens and forgets all others, gives back what the map leaves alone: every position in
the statements of a script is unset or the place where a token begins or ends.
-/

namespace QueryLint

open Text (Bytes)
open QueryLint.Parser

namespace Position

def keep (positions : List Position) (position : Position) : Position :=
  if position ∈ positions then position else {}

theorem keep_unset (positions : List Position) : keep positions {} = {} := ite_self _

theorem keep_of_mem {positions : List Position} {position : Position} (member : position ∈ positions) :
    keep positions position = position := if_pos member

theorem eq_or_mem_of_keep {positions : List Position} {position : Position}
    (kept : keep positions position = position) : position = {} ∨ position ∈ positions := by
  unfold keep at kept
  split at kept
  · exact .inr ‹_›
  · exact .inl kept.symm

end Position

def TokenStream.positions (stream : TokenStream) : List Position :=
  stream.tokens.flatMap fun token => [token.span.start, token.span.stop]

theorem TokenStream.keep_span {stream : TokenStream} {token : Token} (member : token ∈ stream.tokens) :
    token.span.relocate (Position.keep stream.positions) = token.span := by
  have listed (position : Position) (ends : position ∈ [token.span.start, token.span.stop]) :
      position ∈ stream.positions := List.mem_flatMap.2 ⟨token, member, ends⟩
  rw [Span.relocate, Position.keep_of_mem (listed _ (by simp)), Position.keep_of_mem (listed _ (by simp))]

variable (source : Bytes)

theorem start_size_last : (start .bigQuery source).1.tokens.size =
    (sourceTokens source).tokens.length - 1 + 1 := by
  rw [start_size]
  exact (Nat.sub_add_cancel (start_size source ▸ (start_formed source).nonempty)).symm

/-- A source beside itself, where one reading forgets the positions of no token. -/
def keptExcerpt (lax : Prop) (nonempty : lax ∨ 0 < (sourceTokens source).tokens.length - 1) :
    Excerpt where
  first := (start .bigQuery source).1
  second := (start .bigQuery source).1
  shift := 0
  last := (sourceTokens source).tokens.length - 1
  place := Position.keep (sourceTokens source).positions
  place' := id
  cut := False
  lax := lax
  dialect := start_dialect _
  dialect' := start_dialect _
  unset := Position.keep_unset _
  twin := .inr rfl
  size := start_size_last source
  nonempty := nonempty
  room := by
    rw [start_size_last, Nat.zero_add]
    exact Nat.lt_succ_self _
  whole _ := by rw [start_size_last, Nat.zero_add]
  tokens i within _ := by
    have inside : i < (sourceTokens source).tokens.length := by
      rw [← start_size, start_size_last]
      exact Nat.lt_succ_of_le within
    rw [Nat.zero_add, relocate_id, start_token source inside]
    have kept := TokenStream.keep_span (List.getElem_mem inside)
    exact congrArg (fun span => { (sourceTokens source).tokens[i] with span }) kept
  ends i within := by
    have inside : i < (start .bigQuery source).1.tokens.size := by
      rw [start_size_last]
      exact Nat.lt_succ_of_le within
    rw [(start_formed source).ends i inside, start_size_last, Nat.add_right_cancel_iff]
  seam := False.elim
  dotless := False.elim
  queries i _ := by rw [Nat.zero_add]
  strict _ := ⟨rfl, id⟩
  closings _ _ := rfl
  touches i j _ _ _ := by rw [Nat.zero_add, Nat.zero_add]

variable {source}

/-- Every position in the statements of a script is unset or that of a token. -/
theorem Script.fixes_statements {script : Script} {recovered : Option SyntaxError}
    (accepted : Script.parse .bigQuery source = .accepted script recovered) :
    Fixes (Position.keep (sourceTokens source).positions) script.statements := by
  cases noted : (sourceTokens source).errors with
  | cons error others =>
    rw [parse_of_lexical noted] at accepted
    cases accepted
  | nil =>
    obtain ⟨n, bound, queries, s, run, parsed⟩ := parse_run source
    rw [start_clean noted] at run
    have begin : (keptExcerpt source True (.inl trivial)).Behind {} {} :=
      Excerpt.Level.behind ⟨rfl, Nat.zero_le _, rfl, rfl⟩
    obtain ⟨-, alike⟩ := statements_agrees (Grammar.level_agrees (keptExcerpt source True _) n n) id
      begin run run (.inl trivial)
    rw [parsed, outcome] at accepted
    split at accepted
    · obtain ⟨rfl, -⟩ := ParseResult.accepted.inj accepted
      exact alike.trans (relocate_id queries)
    · cases accepted

end QueryLint
