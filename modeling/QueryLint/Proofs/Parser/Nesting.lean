import QueryLint.Parser.Basic

/-!
Parentheses. Tokens are balanced if the parentheses among them are properly nested. A parenthesis that
opens among balanced tokens closes among them, so whether a query begins at one of them does not depend
on how the statement ends behind them. Apart from that only the kinds of tokens matter.
-/

namespace QueryLint

namespace Token

/-- How many parentheses are open after some tokens. There is no answer where one closes that was not
opened, or where the input ends. -/
def openAfter : Nat → List Token → Option Nat
  | depth, [] => some depth
  | depth, token :: tokens =>
    match token.kind with
    | .symbol .leftParen => openAfter (depth + 1) tokens
    | .symbol .rightParen =>
      match depth with
      | 0 => none
      | depth + 1 => openAfter depth tokens
    | .endOfInput => none
    | _ => openAfter depth tokens

/-- Tokens whose parentheses are properly nested: no beginning of them closes more parentheses than it
opens, and all of them together close as many as they open. -/
def Balanced (tokens : List Token) : Prop := openAfter 0 tokens = some 0

instance (tokens : List Token) : Decidable (Balanced tokens) :=
  inferInstanceAs (Decidable (openAfter 0 tokens = some 0))

def isPlain (token : Token) : Bool :=
  token.kind != Symbol.leftParen && token.kind != Symbol.rightParen && token.kind != .endOfInput

/-! ### Closing parentheses -/

section Closing

variable {depth left : Nat} {token : Token} {tokens : List Token}

theorem closingOffset_plain (isPlain : token.isPlain = true) :
    closingOffset depth (token :: tokens) = (closingOffset depth tokens).map (· + 1) := by
  rw [closingOffset]
  split <;> simp_all [Token.isPlain]

theorem closingOffset_leftParen (opens : token.kind = Symbol.leftParen) :
    closingOffset depth (token :: tokens) = (closingOffset (depth + 1) tokens).map (· + 1) := by
  rw [closingOffset, opens]

theorem closingOffset_rightParen (closes : token.kind = Symbol.rightParen) (deep : 1 ≤ depth) :
    closingOffset (depth + 1) (token :: tokens) = (closingOffset depth tokens).map (· + 1) := by
  rw [closingOffset, closes]
  exact if_neg (by omega)

theorem closingOffset_rightParen_one (closes : token.kind = Symbol.rightParen) :
    closingOffset 1 (token :: tokens) = some 0 := by
  rw [closingOffset, closes]
  rfl

theorem openAfter_cases (opened : openAfter depth (token :: tokens) = some left) :
    (token.kind = Symbol.leftParen ∧ openAfter (depth + 1) tokens = some left) ∨
      (∃ outer, token.kind = Symbol.rightParen ∧ depth = outer + 1 ∧
        openAfter outer tokens = some left) ∨
      (token.isPlain = true ∧ openAfter depth tokens = some left) := by
  unfold openAfter at opened
  split at opened
  next opens => exact .inl ⟨opens, opened⟩
  next closes =>
    split at opened
    · cases opened
    · exact .inr (.inl ⟨_, closes, rfl, opened⟩)
  · cases opened
  next noLeft noRight noEnd => exact .inr (.inr ⟨by simp_all [isPlain], opened⟩)

theorem openAfter_drop (opened : openAfter depth tokens = some left) (i : Nat) :
    ∃ depth', openAfter depth' (tokens.drop i) = some left := by
  induction i generalizing depth tokens with
  | zero => exact ⟨depth, opened⟩
  | succ i ih =>
    cases tokens with
    | nil => exact ⟨depth, opened⟩
    | cons token tokens =>
      obtain ⟨_, opened⟩ | ⟨_, _, _, opened⟩ | ⟨_, opened⟩ := openAfter_cases opened <;> exact ih opened

theorem closingOffset_of_openAfter {outer inner : Nat}
    (opened : openAfter (outer + inner) tokens = some left)
    (fewer : left ≤ outer) (deep : 1 ≤ inner) :
    ∃ offset < tokens.length, ∀ rest, closingOffset inner (tokens ++ rest) = some offset := by
  induction tokens generalizing inner with
  | nil =>
    cases opened
    omega
  | cons token tokens ih =>
    have later {inner' : Nat} (opened : openAfter (outer + inner') tokens = some left)
        (deep' : 1 ≤ inner')
        (step : ∀ rest, closingOffset inner (token :: (tokens ++ rest)) =
          (closingOffset inner' (tokens ++ rest)).map (· + 1)) :
        ∃ offset < (token :: tokens).length, ∀ rest,
          closingOffset inner (token :: tokens ++ rest) = some offset := by
      obtain ⟨offset, before, closes⟩ := ih opened deep'
      refine ⟨offset + 1, Nat.succ_lt_succ before, fun rest => ?_⟩
      rw [List.cons_append, step, closes, Option.map_some]
    obtain ⟨opens, opened⟩ | ⟨depth, closes, same, opened⟩ | ⟨plain, opened⟩ := openAfter_cases opened
    · exact later opened (Nat.le_add_left 1 inner) fun rest => closingOffset_leftParen opens
    · obtain rfl | deeper : inner = 1 ∨ 1 < inner := by omega
      · exact ⟨0, Nat.zero_lt_succ _, fun rest => closingOffset_rightParen_one closes⟩
      · obtain ⟨inner, rfl⟩ : ∃ n, inner = n + 1 := ⟨inner - 1, by omega⟩
        obtain rfl : depth = outer + inner := by omega
        exact later opened (by omega) fun rest => closingOffset_rightParen closes (by omega)
    · exact later opened deep fun rest => closingOffset_plain plain

/-- The offset of a closing parenthesis is that of a parenthesis, and the tokens before it close all
that were open but the one that it closes. -/
theorem closingOffset_spec {offset : Nat} (closes : closingOffset (depth + 1) tokens = some offset) :
    (∃ token, tokens[offset]? = some token ∧ token.kind = Symbol.rightParen) ∧
      openAfter depth (tokens.take offset) = some 0 := by
  induction tokens generalizing depth offset with
  | nil => cases closes
  | cons token tokens ih =>
    -- the token is passed over, and the tokens behind it are as deep as it leaves them
    have passed {depth' : Nat} (closes : (closingOffset (depth' + 1) tokens).map (· + 1) = some offset)
        (opened : ∀ rest, openAfter depth (token :: rest) = openAfter depth' rest) :
        (∃ found, (token :: tokens)[offset]? = some found ∧ found.kind = Symbol.rightParen) ∧
          openAfter depth ((token :: tokens).take offset) = some 0 := by
      obtain ⟨before, found, rfl⟩ := Option.map_eq_some_iff.1 closes
      rw [List.take_succ_cons, opened]
      exact ih found
    unfold closingOffset at closes
    split at closes
    next opens => exact passed closes fun rest => by simp only [openAfter, opens]
    next right =>
      split at closes
      next last =>
        obtain rfl : depth = 0 := by omega
        cases closes
        exact ⟨⟨token, rfl, right⟩, rfl⟩
      next deeper =>
        obtain ⟨depth, rfl⟩ : ∃ n, depth = n + 1 := ⟨depth - 1, by omega⟩
        exact passed closes fun rest => by simp only [openAfter, right]
    · cases closes
    next noLeft noRight noEnd =>
      refine passed closes fun rest => ?_
      rw [openAfter.eq_def]
      split <;> simp_all

end Closing

/-! ### Where queries begin -/

/-- Whether a set operation follows the parenthesis that closes the first one. -/
def isOperand (tokens : List Token) : Bool :=
  match closingOffset 0 tokens with
  | some offset => (tokens[offset + 1]?).any (·.kind.isSetOperation)
  | none => false

theorem startQuery_leftParen {token : Token} {tokens : List Token}
    (opens : token.kind = Symbol.leftParen) :
    startQuery (token :: tokens) = (startQuery tokens && isOperand (token :: tokens)) := by
  rw [startQuery, opens]
  rfl

theorem isSetOperation_eq {tokens tokens' : List Token}
    (kinds : tokens.map (·.kind) = tokens'.map (·.kind)) (n : Nat) :
    (tokens[n]?).any (·.kind.isSetOperation) = (tokens'[n]?).any (·.kind.isSetOperation) := by
  have found := congrArg (fun kinds => (kinds[n]?).any (·.isSetOperation)) kinds
  simpa only [List.getElem?_map, Option.any_map] using found

theorem closingOffset_eq {tokens tokens' : List Token}
    (kinds : tokens.map (·.kind) = tokens'.map (·.kind)) (depth : Nat) :
    closingOffset depth tokens = closingOffset depth tokens' := by
  induction tokens generalizing tokens' depth with
  | nil => rw [List.map_eq_nil_iff.1 kinds.symm]
  | cons token tokens ih =>
    obtain _ | ⟨token', tokens'⟩ := tokens'
    · cases kinds
    · obtain ⟨kind, kinds⟩ : token.kind = token'.kind ∧ _ := List.cons.inj kinds
      unfold closingOffset
      rw [kind]
      split <;> simp only [ih kinds]

theorem startQuery_eq {tokens tokens' : List Token}
    (kinds : tokens.map (·.kind) = tokens'.map (·.kind)) :
    startQuery tokens = startQuery tokens' := by
  induction tokens generalizing tokens' with
  | nil => rw [List.map_eq_nil_iff.1 kinds.symm]
  | cons token tokens ih =>
    obtain _ | ⟨token', tokens'⟩ := tokens'
    · cases kinds
    · have all := kinds
      obtain ⟨kind, kinds⟩ : token.kind = token'.kind ∧ _ := List.cons.inj kinds
      unfold startQuery
      rw [kind, closingOffset_eq all 0]
      split <;> simp only [ih kinds, isSetOperation_eq all]

theorem isSetOperation_ended {tokens : List Token} {stop : Token}
    (ends : stop.kind = .endOfInput ∨ stop.kind = Symbol.semicolon) (rest : List Token) {i : Nat}
    (inside : i ≤ tokens.length) : ((tokens ++ stop :: rest)[i]?).any (·.kind.isSetOperation) =
      (tokens[i]?).any (·.kind.isSetOperation) := by
  obtain before | rfl := Nat.lt_or_eq_of_le inside
  · rw [List.getElem?_append_left before]
  · have found : (tokens ++ stop :: rest)[tokens.length]? = some stop := by simp
    rw [found, List.getElem?_eq_none (Nat.le_refl _), Option.any_some, Option.any_none]
    obtain ends | ends := ends <;> rw [ends] <;> rfl

/-- Whether a query begins at tokens that leave no parenthesis open does not depend on what ends the
statement behind them. -/
theorem startQuery_ended {depth : Nat} {tokens : List Token} (opened : openAfter depth tokens = some 0)
    {stop stop' : Token} (ends : stop.kind = .endOfInput ∨ stop.kind = Symbol.semicolon)
    (ends' : stop'.kind = .endOfInput ∨ stop'.kind = Symbol.semicolon) (rest rest' : List Token) :
    startQuery (tokens ++ stop :: rest) = startQuery (tokens ++ stop' :: rest') := by
  induction tokens generalizing depth with
  | nil =>
    have never {stop : Token} (ends : stop.kind = .endOfInput ∨ stop.kind = Symbol.semicolon)
        (rest : List Token) : startQuery (stop :: rest) = false := by
      rw [startQuery]
      obtain ends | ends := ends <;> rw [ends]
    exact (never ends rest).trans (never ends' rest').symm
  | cons token tokens ih =>
    obtain ⟨opens, opened⟩ | ⟨outer, closes, _, opened⟩ | ⟨plain, opened⟩ := openAfter_cases opened
    · obtain ⟨offset, inside, closes⟩ :=
        closingOffset_of_openAfter opened (Nat.zero_le _) (Nat.le_refl 1)
      have operand {stop : Token} (ends : stop.kind = .endOfInput ∨ stop.kind = Symbol.semicolon)
          (rest : List Token) : isOperand (token :: (tokens ++ stop :: rest)) =
            (tokens[offset + 1]?).any (·.kind.isSetOperation) := by
        rw [isOperand, closingOffset_leftParen opens, closes]
        exact isSetOperation_ended ends rest inside
      rw [List.cons_append, List.cons_append, startQuery_leftParen opens, startQuery_leftParen opens,
        ih opened, operand ends, operand ends']
    · simp only [List.cons_append, startQuery, closes]
    · rw [List.cons_append, List.cons_append]
      unfold startQuery
      split <;> simp_all [isPlain]

end Token

end QueryLint
