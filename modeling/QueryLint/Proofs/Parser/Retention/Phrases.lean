import QueryLint.Proofs.Parser.Calls
import QueryLint.Proofs.Parser.Spans
import QueryLint.Proofs.Parser.Retention.Basic
import QueryLint.Proofs.Syntax.Retained

/-!
What lists of expressions, windows, calls and the constructs that look like them retain. Two
productions read an expression and do not put it into the tree: the time zone of `EXTRACT` and the
format of a conversion stand after the operand and before the end of the construct.
-/

namespace QueryLint

open QueryLint.Parser

/-- The nesting productions of a grammar retain the column at `place`: what they give back keeps it
where those of the halting grammar differ. -/
structure Grammar.Retentive (input : ParserInput) (place lo : Nat) (grammar halting : Grammar) :
    Prop where
  sound : grammar.Sound input lo
  expressionAbove (above : Precedence) : RetainsAll input place lo (grammar.expressionAbove above)
    (halting.expressionAbove above) (Expr.Retained (input.offset place))
  query : RetainsAll input place lo grammar.query halting.query
    fun query => (Node.query query).Retains (input.offset place)
  queryBody : RetainsAll input place lo grammar.queryBody halting.queryBody
    fun body => (Node.body body).Retains (input.offset place)

namespace Grammar

variable {input : ParserInput} (formed : input.WellFormed) {place lo : Nat}
  {grammar halting : Grammar} (retentive : grammar.Retentive input place lo halting)
  {s : ParserState}

include retentive

theorem Retentive.expression : RetainsAll input place lo grammar.expression halting.expression
    (Expr.Retained (input.offset place)) :=
  retentive.expressionAbove _

/-! ### Lists of expressions -/

theorem expressions_retains : RetainsAll input place lo grammar.expressions halting.expressions
    fun exprs => RetainedIn (input.offset place) (exprNodes exprs) := by
  intro s after inside
  refine (commaSeparated_retains retentive.expression s after inside).last (by omega)
    fun exprs _ read => ?_
  obtain ⟨e, member, retained⟩ := (read.resolve_left id).2
  exact retainedIn_exprNodes.2 ⟨e, member, retained.kept⟩

include formed

theorem expressionAfter_retains (keyword : Keyword) (after : lo ≤ s.index + 1)
    (inside : s.index < input.tokens.size) :
    Retains input place s.index False s (grammar.expressionAfter keyword)
      (halting.expressionAfter keyword)
      fun expr => RetainedIn (input.offset place) (optionNodes expr) := by
  refine .accept formed inside (fun _ s₁ here₁ inside₁ => ?_) fun _ => .pure inside nofun
  refine (retentive.expression s₁ (by omega) inside₁).start (by omega) fun e s₂ _ inside₂ => ?_
  exact .pure inside₂ fun _ _ retained => retainedIn_optionNodes.2 ⟨e, rfl, retained.kept⟩

theorem orderItem_retains (after : lo ≤ s.index) (inside : s.index < input.tokens.size) :
    Retains input place s.index False s grammar.orderItem halting.orderItem
      fun item => RetainedIn (input.offset place) item.expr.present := by
  refine (retentive.expression s after inside).start (by omega) fun expr s₁ forward₁ inside₁ => ?_
  refine .same (accept_gives inside₁ _) fun descending s₂ forward₂ inside₂ _ => ?_
  refine .same ((accept_gives inside₂ _).discard.when inside₂ _) fun _ s₃ forward₃ inside₃ _ => ?_
  refine .accept formed inside₃ (fun _ s₄ here₄ inside₄ => ?_) fun _ => ?_
  · refine .accept formed inside₄ (fun _ s₅ here₅ inside₅ => ?_) fun _ => ?_
    · exact .pure inside₅ fun _ _ retained => retained.kept
    · refine .accept formed inside₄ (fun _ s₅ here₅ inside₅ => ?_) fun _ => ?_
      · exact .pure inside₅ fun _ _ retained => retained.kept
      · exact .failed (unexpected_gives inside₄ _)
  · exact .pure inside₃ fun _ _ retained => retained.kept

theorem orderItems_retains : RetainsAll input place lo grammar.orderItems halting.orderItems
    fun items => RetainedIn (input.offset place) (orderNodes items) := by
  intro s after inside
  refine (commaSeparated_retains (fun _ after inside =>
    orderItem_retains formed retentive after inside) s after inside).last (by omega)
      fun items _ read => ?_
  exact retainedIn_orderNodes.2 (read.resolve_left id).2

theorem ordering_retains (after : lo ≤ s.index + 1) (inside : s.index < input.tokens.size) :
    Retains input place s.index False s grammar.ordering halting.ordering
      fun items => RetainedIn (input.offset place) (orderNodes items) := by
  refine .accept formed inside (fun _ s₁ here₁ inside₁ => ?_) fun _ => .pure inside nofun
  refine .same (expected_gives formed inside₁) fun _ s₂ forward₂ inside₂ _ => ?_
  exact (orderItems_retains formed retentive s₂ (by omega) inside₂).last (by omega) fun _ _ read =>
    (read.resolve_left id).2

/-! ### Windows -/

theorem frameBound_retains (after : lo ≤ s.index) (inside : s.index < input.tokens.size) :
    Retains input place s.index False s grammar.frameBound halting.frameBound
      fun (_, offset) => RetainedIn (input.offset place) (optionNodes offset) := by
  refine .accept formed inside (fun _ s₁ here₁ inside₁ => ?_) fun _ => ?_
  · refine .accept formed inside₁ (fun _ s₂ here₂ inside₂ => .pure inside₂ nofun) fun _ => ?_
    exact .same (expected_gives formed inside₁) fun _ s₂ _ inside₂ _ => .pure inside₂ nofun
  · refine .accept formed inside (fun _ s₁ here₁ inside₁ => ?_) fun _ => ?_
    · exact .same (expected_gives formed inside₁) fun _ s₂ _ inside₂ _ => .pure inside₂ nofun
    · refine (retentive.expressionAbove _ s after inside).start (by omega)
        fun offset s₁ forward₁ inside₁ => ?_
      have kept (retained : offset.Retained (input.offset place)) :
          RetainedIn (input.offset place) (optionNodes (some offset)) :=
        retainedIn_optionNodes.2 ⟨offset, rfl, retained.kept⟩
      refine .accept formed inside₁ (fun _ s₂ here₂ inside₂ => ?_) fun _ => ?_
      · exact .pure inside₂ fun _ _ => kept
      · refine .same (expected_gives formed inside₁) fun _ s₂ forward₂ inside₂ _ => ?_
        exact .pure inside₂ fun _ _ => kept

theorem frame_retains (after : lo ≤ s.index) (inside : s.index < input.tokens.size) :
    Retains input place s.index False s grammar.frame halting.frame
      fun (_, first, last) => RetainedIn (input.offset place) (optionNodes first) ∨
        RetainedIn (input.offset place) (optionNodes last) := by
  refine .same (frameUnit_gives formed inside) fun unit s₁ forward₁ inside₁ _ => ?_
  cases unit with
  | none => exact .pure inside₁ nofun
  | some unit =>
    refine .accept formed inside₁ (fun _ s₂ here₂ inside₂ => ?_) fun _ => ?_
    · refine (frameBound_retains formed retentive (by omega) inside₂).start (by omega)
        fun (first, firstOffset) s₃ forward₃ inside₃ => ?_
      refine .same (expected_gives formed inside₃) fun _ s₄ forward₄ inside₄ _ => ?_
      refine (frameBound_retains formed retentive (by omega) inside₄).bind (by omega)
        fun (last, lastOffset) s₅ forward₅ inside₅ => ?_
      exact .pure inside₅ fun _ _ read => read.imp_right And.right
    · refine (frameBound_retains formed retentive (by omega) inside₁).start (by omega)
        fun (first, firstOffset) s₂ forward₂ inside₂ => ?_
      exact .pure inside₂ fun _ _ => .inl

theorem partitioning_retains (after : lo ≤ s.index + 1) (inside : s.index < input.tokens.size) :
    Retains input place s.index False s grammar.partitioning halting.partitioning
      fun exprs => RetainedIn (input.offset place) (exprNodes exprs) := by
  refine .accept formed inside (fun _ s₁ here₁ inside₁ => ?_) fun _ => .pure inside nofun
  refine .same (expected_gives formed inside₁) fun _ s₂ forward₂ inside₂ _ => ?_
  exact (expressions_retains retentive s₂ (by omega) inside₂).last (by omega) fun _ _ read =>
    (read.resolve_left id).2

theorem windowSpec_retains (after : lo ≤ s.index + 1) (inside : s.index < input.tokens.size) :
    Retains input place s.index False s grammar.windowSpec halting.windowSpec
      fun window => (Node.window window).Retains (input.offset place) := by
  refine .look rfl (.expect formed inside (fun _ s₁ here₁ inside₁ => ?_) ⟨_, rfl⟩)
  refine .same (windowBase_gives formed inside₁) fun name s₂ forward₂ inside₂ _ => ?_
  refine (partitioning_retains formed retentive (by omega) inside₂).start (by omega)
    fun partitionBy s₃ forward₃ inside₃ => ?_
  refine (ordering_retains formed retentive (by omega) inside₃).bind (by omega)
    fun orderBy s₄ forward₄ inside₄ => ?_
  refine (frame_retains formed retentive (by omega) inside₄).bind (by omega)
    fun (frame, firstOffset, lastOffset) s₅ forward₅ inside₅ => ?_
  refine .same (expected_gives formed inside₅) fun _ s₆ forward₆ inside₆ _ => .span fun span _ => ?_
  refine .pure inside₆ fun _ _ read => .of_children ?_
  simp only [Node.children, WindowSpec.children, retainedIn_append]
  rcases read with (partitioned | ⟨_, ordered⟩) | ⟨_, first | last⟩
  · exact .inl (.inl (.inl partitioned))
  · exact .inl (.inl (.inr ordered))
  · exact .inl (.inr first)
  · exact .inr last

theorem namedWindow_retains (after : lo ≤ s.index + 1) (inside : s.index < input.tokens.size) :
    Attempt.Retains input place s.index False s grammar.namedWindow halting.namedWindow
      fun window => (Node.window window.spec).Retains (input.offset place) := by
  refine .same (identifier_gives formed inside) fun name s₁ forward₁ inside₁ _ => ?_
  refine .same (Attempt.expect_gives formed inside₁) fun _ s₂ forward₂ inside₂ _ => .look rfl ?_
  refine .ite (fun _ => ?_) fun _ => ?_
  · refine (Attempt.complete_retains (windowSpec_retains formed retentive (by omega)
      inside₂)).start (by omega) fun spec s₃ forward₃ inside₃ => ?_
    exact .pure inside₃ fun _ _ retained => retained
  · refine .look rfl (.same (identifier_gives formed inside₂) fun base s₃ forward₃ inside₃ _ => ?_)
    exact .span fun span _ => .pure inside₃ nofun

end Grammar

end QueryLint
