import QueryLint.Parser.Script
import QueryLint.Proofs.Parser.Placement

/-!
How it is shown that what is read is not lost. A grammar that halts where a column begins at some
token is run beside the one that reads on: a production reads that column exactly when the two
runs differ. What a production retains is stated of such pairs of runs, with what is known of the
tokens before it: if the column was retained so far, or the runs differ, then it is retained by
what the production gives back.
-/

namespace QueryLint

variable {α β : Type}

/-! ### Grammars that halt at a column -/

namespace Grammar

/-- Halts if the operand that begins at the token `place` is a column. -/
def trap (place : Nat) (operand : Parser Expr) : Parser Unit := fun input state =>
  if state.index = place then
    match operand input state with
    | some (.column _, _) => none
    | _ => some ((), state)
  else some ((), state)

/-- One more level of nesting above a grammar, which halts where an expression begins with a column
at the token `place`. -/
def haltAt (place : Nat) (grammar : Grammar) : Grammar :=
  { grammar.next with
    expressionAbove := fun above => do
      trap place grammar.operand
      grammar.readExpression above }

def levelHalting (place : Nat) : Nat → Grammar
  | 0 => exhausted
  | n + 1 => haltAt place (levelHalting place n)

end Grammar

/-! ### Readings that note nothing -/

/-- Nothing was noted between two states. -/
structure ParserState.Quiet (s s' : ParserState) : Prop where
  errors : s'.errors = s.errors
  recovered : s'.recovered = s.recovered

theorem ParserState.Moves.quiet {input : ParserInput} {s s' s'' : ParserState}
    (first : s.Moves input s') (second : s'.Moves input s'') (quiet : s.Quiet s'') :
    s.Quiet s' ∧ s'.Quiet s'' := by
  have same : s'.recovered = s.recovered :=
    (first.skipped.eq_of_length_le (quiet.recovered ▸ second.skipped.length_le)).symm
  have clean := first.clean second quiet.errors
  exact ⟨⟨clean.1, same⟩, clean.2, quiet.recovered.trans same.symm⟩

abbrev ParserInput.offset (input : ParserInput) (place : Nat) : Int :=
  (input.token place).span.start.offset

namespace Parser

/-! ### Two runs side by side -/

/-- What a parser gives back retains the column at `place`, given that the halting parser differs
from it or that the column was read from the token `first` on, before the state, and is `held`. -/
def Retains (input : ParserInput) (place first : Nat) (held : Prop) (s : ParserState)
    (p halting : Parser α) (kept : α → Prop) : Prop :=
  ∀ a s', p input s = some (a, s') → s.Moves input s' ∧
    (s.Quiet s' → (first ≤ place ∧ place < s.index ∧ held) ∨ halting input s ≠ some (a, s') →
      first ≤ place ∧ place < s'.index ∧ kept a)

section Sequences

variable {input : ParserInput} {place first : Nat} {held : Prop} {s : ParserState}
  {p p' : Parser α} {f f' : α → Parser β} {A : α → Prop} {kept : β → Prop}

theorem Retains.pure {b : β} (inside : s.index < input.tokens.size)
    (holds : first ≤ place → place < s.index → held → kept b) :
    Retains input place first held s (pure b) (pure b) kept := by
  rintro _ _ ⟨⟩
  refine ⟨.refl inside, fun _ differs => ?_⟩
  obtain ⟨after, before, was⟩ := differs.resolve_right fun other => other rfl
  exact ⟨after, before, holds after before was⟩

theorem Retains.mono {held' : Prop} {A' : α → Prop}
    (retains : Retains input place first held s p p' A) (stronger : held' → held)
    (weaker : ∀ a, A a → A' a) : Retains input place first held' s p p' A' := by
  intro a s' run
  obtain ⟨moves, keeps⟩ := retains a s' run
  refine ⟨moves, fun quiet differs => ?_⟩
  obtain ⟨after, before, is⟩ := keeps quiet (differs.imp_left fun ⟨after, before, was⟩ =>
    ⟨after, before, stronger was⟩)
  exact ⟨after, before, weaker a is⟩

theorem Retains.seq (part : Retains input place first held s p p' A)
    (rest : ∀ a s₁, p input s = some (a, s₁) → s.Moves input s₁ →
      Retains input place first (A a) s₁ (f a) (f' a) fun b => s.Quiet s₁ → kept b) :
    Retains input place first held s (p >>= f) (p' >>= f') kept := by
  intro b s₂ run
  obtain ⟨a, s₁, run₁, run₂⟩ := bind_eq_some run
  obtain ⟨moves₁, keeps₁⟩ := part a s₁ run₁
  obtain ⟨moves₂, keeps₂⟩ := rest a s₁ run₁ moves₁ b s₂ run₂
  refine ⟨moves₁.trans moves₂, fun quiet differs => ?_⟩
  obtain ⟨quiet₁, quiet₂⟩ := moves₁.quiet moves₂ quiet
  have kept : first ≤ place ∧ place < s₂.index ∧ (s.Quiet s₁ → kept b) := by
    refine keeps₂ quiet₂ ?_
    by_cases same : p' input s = some (a, s₁)
    · refine differs.imp (fun was => keeps₁ quiet₁ (.inl was)) fun other same' => other ?_
      rw [bind_eq same, same']
    · exact .inl (keeps₁ quiet₁ (.inr same))
  exact ⟨kept.1, kept.2.1, kept.2.2 quiet₁⟩

theorem Retains.frame (part : Retains input place s.index False s p p' A)
    (before : first ≤ s.index) :
    Retains input place first held s p p' fun a => held ∨ s.index ≤ place ∧ A a := by
  intro a s' run
  obtain ⟨moves, keeps⟩ := part a s' run
  have forward := moves.forward
  refine ⟨moves, fun quiet differs => ?_⟩
  rcases differs with ⟨after, earlier, was⟩ | differs
  · exact ⟨after, by omega, .inl was⟩
  · obtain ⟨after, later, is⟩ := keeps quiet (.inr differs)
    exact ⟨by omega, later, .inr ⟨after, is⟩⟩

theorem Retains.last (part : Retains input place s.index False s p p' A)
    (before : first ≤ s.index) {kept : α → Prop}
    (holds : ∀ a, first ≤ place → held ∨ s.index ≤ place ∧ A a → kept a) :
    Retains input place first held s p p' kept := by
  intro a s' run
  have framed : Retains input place first held s p p' fun a => held ∨ s.index ≤ place ∧ A a :=
    part.frame before
  obtain ⟨moves, keeps⟩ := framed a s' run
  refine ⟨moves, fun quiet differs => ?_⟩
  obtain ⟨after, earlier, is⟩ := keeps quiet differs
  exact ⟨after, earlier, holds a after is⟩

theorem Retains.bind (part : Retains input place s.index False s p p' A)
    (before : first ≤ s.index)
    (rest : ∀ a s₁, s.index ≤ s₁.index → s₁.index < input.tokens.size →
      Retains input place first (held ∨ s.index ≤ place ∧ A a) s₁ (f a) (f' a) kept) :
    Retains input place first held s (p >>= f) (p' >>= f') kept :=
  (part.frame before).seq fun a s₁ _ moves =>
    (rest a s₁ moves.forward moves.inside).mono id fun _ keeps _ => keeps

theorem Retains.bindQuiet (part : Retains input place s.index False s p p' A)
    (before : first ≤ s.index)
    (rest : ∀ a s₁, s.index ≤ s₁.index → s₁.index < input.tokens.size →
      Retains input place first (held ∨ s.index ≤ place ∧ A a) s₁ (f a) (f' a) fun b =>
        s.Quiet s₁ → kept b) :
    Retains input place first held s (p >>= f) (p' >>= f') kept :=
  (part.frame before).seq fun a s₁ _ moves => rest a s₁ moves.forward moves.inside

theorem Retains.start (part : Retains input place s.index False s p p' A)
    (before : first ≤ s.index)
    (rest : ∀ a s₁, s.index ≤ s₁.index → s₁.index < input.tokens.size →
      Retains input place first (A a) s₁ (f a) (f' a) kept) :
    Retains input place first False s (p >>= f) (p' >>= f') kept :=
  part.bind before fun a s₁ forward₁ inside₁ => (rest a s₁ forward₁ inside₁).mono
    (fun was => (was.resolve_left id).2) fun _ => id

theorem Retains.seqRead {S : α → ParserState → Prop}
    (part : Retains input place first held s p p' A) (known : Gives input s p S)
    (rest : ∀ a s₁, s.index ≤ s₁.index → s₁.index < input.tokens.size →
      Retains input place first (A a) s₁ (f a) (f' a) fun b => S a s₁ → kept b) :
    Retains input place first held s (p >>= f) (p' >>= f') kept :=
  part.seq fun a s₁ run moves =>
    (rest a s₁ moves.forward moves.inside).mono id fun _ keeps quiet =>
      keeps ((known.of_run run).2 quiet.errors)

theorem Retains.startRead {S : α → ParserState → Prop}
    (part : Retains input place s.index False s p p' A)
    (before : first ≤ s.index) (known : Gives input s p S)
    (rest : ∀ a s₁, s.index ≤ s₁.index → s₁.index < input.tokens.size →
      Retains input place first (A a) s₁ (f a) (f' a) fun b => S a s₁ → kept b) :
    Retains input place first False s (p >>= f) (p' >>= f') kept :=
  (part.last before fun _ _ read => (read.resolve_left id).2).seqRead known rest

/-- A parser that reads the same in both runs loses nothing of what is before it. -/
theorem Retains.alike {Q : α → ParserState → Prop} (known : Yields input s p Q) :
    Retains input place first held s p p fun _ => held := by
  intro a s' run
  have moves := (known.of_run run).1
  refine ⟨moves, fun _ differs => ?_⟩
  obtain ⟨after, before, was⟩ := differs.resolve_right fun other => other run
  exact ⟨after, Nat.lt_of_lt_of_le before moves.forward, was⟩

theorem Retains.same {Q : α → ParserState → Prop} (known : Yields input s p Q)
    (rest : ∀ a s₁, s.index ≤ s₁.index → s₁.index < input.tokens.size → Q a s₁ →
      Retains input place first held s₁ (f a) (f' a) kept) :
    Retains input place first held s (p >>= f) (p >>= f') kept :=
  (Retains.alike known).seq fun a s₁ run moves =>
    (rest a s₁ moves.forward moves.inside (known.of_run run).2).mono id fun _ keeps _ => keeps

theorem Retains.discard (part : Retains input place first held s p p' A) :
    Retains input place first held s (discard p) (discard p') fun _ => ∃ a, A a :=
  part.seq fun a _ _ moves => .pure moves.inside fun _ _ was _ => ⟨a, was⟩

theorem Retains.failed {b : β} (noted : Gives input s p fun _ _ => False) :
    Retains input place first held s (p >>= fun _ => Pure.pure b) (p' >>= fun _ => Pure.pure b)
      kept := by
  intro b' s' run
  obtain ⟨moves, impossible⟩ := (Gives.failed (T := fun _ _ => False) noted).of_run run
  exact ⟨moves, fun quiet => (impossible quiet.errors).elim⟩

theorem Retains.ite {condition : Prop} [Decidable condition] {p p' q q' : Parser β}
    (yes : condition → Retains input place first held s p p' kept)
    (no : ¬ condition → Retains input place first held s q q' kept) :
    Retains input place first held s (if condition then p else q) (if condition then p' else q')
      kept := by
  by_cases holds : condition
  · rw [if_pos holds, if_pos holds]
    exact yes holds
  · rw [if_neg holds, if_neg holds]
    exact no holds

end Sequences

/-! ### Single tokens -/

section Tokens

variable {input : ParserInput} {place first : Nat} {held : Prop} {s : ParserState}
  {kept : β → Prop}

theorem Retains.step {q : Parser α} {f f' : α → Parser β} {a : α} {s₁ : ParserState}
    (stepped : q input s = some (a, s₁)) (moves : s.Moves input s₁)
    (rest : Retains input place first held s₁ (f a) (f' a) kept) :
    Retains input place first held s (q >>= f) (q >>= f') kept := by
  refine .same (Q := fun b s' => b = a ∧ s' = s₁) ⟨a, s₁, stepped, moves, rfl, rfl⟩ ?_
  rintro _ _ _ _ ⟨rfl, rfl⟩
  exact rest

theorem Retains.look {q : Parser α} {f f' : α → Parser β} {a : α}
    (looked : q input s = some (a, s))
    (rest : Retains input place first held s (f a) (f' a) kept) :
    Retains input place first held s (q >>= f) (q >>= f') kept := by
  intro b s' run
  rw [bind_eq looked] at run ⊢
  exact rest b s' run

theorem Retains.advance {f f' : Unit → Parser β} (more : s.index + 1 < input.tokens.size)
    (rest : ∀ s₁ : ParserState, s₁.index = s.index + 1 → s₁.index < input.tokens.size →
      Retains input place first held s₁ (f ()) (f' ()) kept) :
    Retains input place first held s (advance >>= f) (advance >>= f') kept :=
  .step (advance_eq more) (.of_next (.refl more)) (rest s.next rfl more)

theorem Retains.accept (formed : input.WellFormed) (inside : s.index < input.tokens.size)
    {kind : TokenKind} [inner : kind.Inner] {f f' : Bool → Parser β}
    (yes : (input.token s.index).kind = kind → ∀ s₁ : ParserState, s₁.index = s.index + 1 →
      s₁.index < input.tokens.size → Retains input place first held s₁ (f true) (f' true) kept)
    (no : (input.token s.index).kind ≠ kind →
      Retains input place first held s (f false) (f' false) kept) :
    Retains input place first held s (accept kind >>= f) (accept kind >>= f') kept := by
  by_cases found : (input.token s.index).kind = kind
  · have more := formed.more inside found inner.ne_endOfInput
    exact .step (accept_eq_true more found) (.of_next (.refl more)) (yes found s.next rfl more)
  · exact .look (accept_eq_false found) (no found)

theorem Retains.expect (formed : input.WellFormed) (inside : s.index < input.tokens.size)
    {kind : TokenKind} [inner : kind.Inner] {f f' : Bool → Parser β}
    (yes : (input.token s.index).kind = kind → ∀ s₁ : ParserState, s₁.index = s.index + 1 →
      s₁.index < input.tokens.size → Retains input place first held s₁ (f true) (f' true) kept)
    (no : ∃ b, f false = Pure.pure b) :
    Retains input place first held s (expect kind >>= f) (expect kind >>= f') kept := by
  by_cases found : (input.token s.index).kind = kind
  · have more := formed.more inside found inner.ne_endOfInput
    have read : Parser.expect kind input s = some (true, s.next) := by
      rw [Parser.expect, bind_eq (accept_eq_true more found)]
      rfl
    exact .step read (.of_next (.refl more)) (yes found s.next rfl more)
  · obtain ⟨b, same⟩ := no
    obtain ⟨error, refused⟩ := expect_eq_false found
    intro b' s' run
    rw [bind_eq refused, same] at run
    cases run
    refine ⟨⟨Nat.le_refl _, inside, List.prefix_append _ _, List.prefix_rfl⟩, fun quiet => ?_⟩
    have impossible := quiet.errors
    simp at impossible

theorem Retains.found (formed : input.WellFormed) (inside : s.index < input.tokens.size)
    {kind : TokenKind} [inner : kind.Inner] {f f' : Unit → Parser β}
    (found : (input.token s.index).kind = kind)
    (rest : ∀ s₁ : ParserState, s₁.index = s.index + 1 → s₁.index < input.tokens.size →
      Retains input place first held s₁ (f ()) (f' ()) kept) :
    Retains input place first held s (Functor.discard (Parser.expect kind) >>= f)
      (Functor.discard (Parser.expect kind) >>= f') kept := by
  have more := formed.more inside found inner.ne_endOfInput
  have read : Functor.discard (Parser.expect kind) input s = some ((), s.next) := by
    change (Parser.expect kind >>= fun _ => Pure.pure ()) input s = _
    rw [Parser.expect, bind_eq (bind_eq (accept_eq_true more found))]
    rfl
  exact .step read (.of_next (.refl more)) (rest s.next rfl more)

theorem Retains.span {start : Position} {f f' : Span → Parser β}
    (rest : ∀ span, (0 < s.index → span = ⟨start, (input.token (s.index - 1)).span.stop⟩) →
      Retains input place first held s (f span) (f' span) kept) :
    Retains input place first held s (spanFrom start >>= f) (spanFrom start >>= f') kept := by
  refine .look rfl (rest _ fun started => ?_)
  rw [if_neg (by omega)]

end Tokens

/-! ### Lists -/

section Lists

variable {input : ParserInput} {place lo : Nat} {A : α → Prop}

/-- A parser retains what it reads itself, from every token of the input after the first `lo`. -/
def RetainsAll (input : ParserInput) (place lo : Nat) (p p' : Parser α) (kept : α → Prop) : Prop :=
  ∀ s : ParserState, lo ≤ s.index → s.index < input.tokens.size →
    Retains input place s.index False s p p' kept

theorem repeated_retains {step step' : Parser (Option α)}
    (steps : RetainsAll input place lo step step' fun found => ∃ a ∈ found, A a) (bound : Nat) :
    RetainsAll input place lo (repeated step bound) (repeated step' bound)
      fun found => ∃ a ∈ found, A a := by
  induction bound with
  | zero => exact fun _ _ _ => nofun
  | succ bound ih =>
    intro s after inside
    refine (steps s after inside).bind (by omega) fun found s₁ forward₁ inside₁ => ?_
    cases found with
    | none => exact .pure inside₁ (by simp)
    | some a =>
      refine (ih s₁ (by omega) inside₁).bind (by omega) fun others s₂ _ inside₂ => .pure inside₂ ?_
      simp only [List.mem_cons, exists_eq_or_imp]
      rintro _ _ ((⟨⟨⟩⟩ | ⟨_, _, ⟨⟩, kept⟩) | ⟨_, others⟩)
      · exact .inl kept
      · exact .inr others

theorem chain_retains {step step' : Parser (α × Bool)}
    (steps : RetainsAll input place lo step step' fun found => A found.1) (bound : Nat) :
    RetainsAll input place lo (chain step bound) (chain step' bound)
      fun found => ∃ a ∈ found, A a := by
  induction bound with
  | zero => exact fun _ _ _ => nofun
  | succ bound ih =>
    intro s after inside
    refine (steps s after inside).bind (by omega) fun (a, more) s₁ forward₁ inside₁ => ?_
    cases more with
    | false => exact .pure inside₁ (by simp)
    | true =>
      refine (ih s₁ (by omega) inside₁).bind (by omega) fun others s₂ _ inside₂ => .pure inside₂ ?_
      simp only [List.mem_cons, exists_eq_or_imp]
      rintro _ _ ((⟨⟨⟩⟩ | ⟨_, kept⟩) | ⟨_, others⟩)
      · exact .inl kept
      · exact .inr others

theorem commaSeparated_retains {element element' : Parser α}
    (elements : RetainsAll input place lo element element' A) :
    RetainsAll input place lo (commaSeparated element) (commaSeparated element')
      fun found => ∃ a ∈ found, A a := by
  intro s after inside
  refine .look rfl (.look rfl (chain_retains (fun t after inside => ?_) _ s after inside))
  refine (elements t after inside).bind (by omega) fun a t₁ _ inside₁ =>
    .look rfl (.ite (fun _ => ?_) fun _ => ?_)
  · exact .pure inside₁ (by simp)
  · refine .same (accept_yields inside₁ _) fun _ t₂ _ inside₂ _ => .pure inside₂ (by simp)

end Lists

end Parser

/-! ### Readers that stop -/

namespace Attempt

open QueryLint.Parser (Yields bind_eq)

def Retains (input : ParserInput) (place first : Nat) (held : Prop) (s : ParserState)
    (p halting : Attempt α) (kept : α → Prop) : Prop :=
  Parser.Retains input place first held s p.run halting.run fun result =>
    ∀ a, result = .ok a → kept a

section Sequences

variable {input : ParserInput} {place first : Nat} {held : Prop} {s : ParserState}
  {p p' : Attempt α} {f f' : α → Attempt β} {A : α → Prop} {kept : β → Prop}

theorem Retains.pure {b : β} (inside : s.index < input.tokens.size)
    (holds : first ≤ place → place < s.index → held → kept b) :
    Retains input place first held s (pure b) (pure b) kept :=
  Parser.Retains.pure inside fun after before was _ ok => by
    cases ok
    exact holds after before was

theorem throw_retains (inside : s.index < input.tokens.size) (error : SyntaxError) :
    Retains input place first held s (throw error) (throw error) kept :=
  Parser.Retains.pure inside fun _ _ _ => nofun

theorem Retains.bind (part : Retains input place s.index False s p p' A)
    (before : first ≤ s.index)
    (rest : ∀ a s₁, s.index ≤ s₁.index → s₁.index < input.tokens.size →
      Retains input place first (held ∨ s.index ≤ place ∧ A a) s₁ (f a) (f' a) kept) :
    Retains input place first held s (p >>= f) (p' >>= f') kept := by
  refine Parser.Retains.bind part before fun result s₁ forward₁ inside₁ => ?_
  cases result with
  | error error => exact throw_retains inside₁ error
  | ok a =>
    refine Parser.Retains.mono (rest a s₁ forward₁ inside₁) ?_ fun _ => id
    exact Or.imp_right (And.imp_right fun kept => kept a rfl)

theorem Retains.start (part : Retains input place s.index False s p p' A)
    (before : first ≤ s.index)
    (rest : ∀ a s₁, s.index ≤ s₁.index → s₁.index < input.tokens.size →
      Retains input place first (A a) s₁ (f a) (f' a) kept) :
    Retains input place first False s (p >>= f) (p' >>= f') kept :=
  part.bind before fun a s₁ forward₁ inside₁ => Parser.Retains.mono (rest a s₁ forward₁ inside₁)
    (fun was => (was.resolve_left id).2) fun _ => id

theorem Retains.same {S : α → ParserState → Prop} (known : Gives input s p S)
    (rest : ∀ a s₁, s.index ≤ s₁.index → s₁.index < input.tokens.size → S a s₁ →
      Retains input place first held s₁ (f a) (f' a) kept) :
    Retains input place first held s (p >>= f) (p >>= f') kept := by
  refine Parser.Retains.same known fun result s₁ forward₁ inside₁ holds => ?_
  cases result with
  | error error => exact throw_retains inside₁ error
  | ok a => exact rest a s₁ forward₁ inside₁ (holds a rfl).2

theorem Retains.look {q : Parser α} {a : α} (looked : q input s = some (a, s))
    (rest : Retains input place first held s (f a) (f' a) kept) :
    Retains input place first held s (liftM q >>= f) (liftM q >>= f') kept := by
  have lifted : ((Except.ok <$> q) : Parser (Except SyntaxError α)) input s =
      some (.ok a, s) := bind_eq looked
  exact Parser.Retains.look lifted rest

theorem Retains.step {q : Parser α} {a : α} {s₁ : ParserState}
    (stepped : q input s = some (a, s₁)) (moves : s.Moves input s₁)
    (rest : Retains input place first held s₁ (f a) (f' a) kept) :
    Retains input place first held s (liftM q >>= f) (liftM q >>= f') kept := by
  have lifted : ((Except.ok <$> q) : Parser (Except SyntaxError α)) input s =
      some (.ok a, s₁) := bind_eq stepped
  exact Parser.Retains.step lifted moves rest

theorem Retains.ite {condition : Prop} [Decidable condition] {p p' q q' : Attempt β}
    (yes : condition → Retains input place first held s p p' kept)
    (no : ¬ condition → Retains input place first held s q q' kept) :
    Retains input place first held s (if condition then p else q) (if condition then p' else q')
      kept := by
  by_cases holds : condition
  · rw [if_pos holds, if_pos holds]
    exact yes holds
  · rw [if_neg holds, if_neg holds]
    exact no holds

end Sequences

section Readers

variable {input : ParserInput} {place first : Nat} {held : Prop} {s : ParserState}
  {p p' : Attempt α} {A : α → Prop} {kept : β → Prop}

theorem Retains.advance {f f' : Unit → Attempt β} (more : s.index + 1 < input.tokens.size)
    (rest : ∀ s₁ : ParserState, s₁.index = s.index + 1 → s₁.index < input.tokens.size →
      Retains input place first held s₁ (f ()) (f' ()) kept) :
    Retains input place first held s (liftM Parser.advance >>= f) (liftM Parser.advance >>= f')
      kept :=
  .step (Parser.advance_eq more) (.of_next (.refl more)) (rest s.next rfl more)

theorem Retains.accept (formed : input.WellFormed) (inside : s.index < input.tokens.size)
    {kind : TokenKind} [inner : kind.Inner] {f f' : Bool → Attempt β}
    (yes : (input.token s.index).kind = kind → ∀ s₁ : ParserState, s₁.index = s.index + 1 →
      s₁.index < input.tokens.size → Retains input place first held s₁ (f true) (f' true) kept)
    (no : (input.token s.index).kind ≠ kind →
      Retains input place first held s (f false) (f' false) kept) :
    Retains input place first held s (liftM (Parser.accept kind) >>= f)
      (liftM (Parser.accept kind) >>= f') kept := by
  by_cases found : (input.token s.index).kind = kind
  · have more := formed.more inside found inner.ne_endOfInput
    exact .step (Parser.accept_eq_true more found) (.of_next (.refl more))
      (yes found s.next rfl more)
  · exact .look (Parser.accept_eq_false found) (no found)

theorem Retains.span {start : Position} {f f' : Span → Attempt β}
    (rest : ∀ span, (0 < s.index → span = ⟨start, (input.token (s.index - 1)).span.stop⟩) →
      Retains input place first held s (f span) (f' span) kept) :
    Retains input place first held s (liftM (Parser.spanFrom start) >>= f)
      (liftM (Parser.spanFrom start) >>= f') kept := by
  refine .look rfl (rest _ fun started => ?_)
  rw [if_neg (by omega)]

theorem within_retains (retains : Retains input place first held s p p' A) (context : String) :
    Retains input place first held s (within context p) (within context p') A := by
  refine Parser.Retains.seq retains fun result s₁ _ moves => ?_
  cases result with
  | ok a => exact Parser.Retains.pure moves.inside fun _ _ kept _ => kept
  | error error => exact Parser.Retains.pure moves.inside fun _ _ _ _ => nofun

theorem complete_retains {p p' : Parser α}
    (retains : Parser.Retains input place first held s p p' A) :
    Retains input place first held s (complete p) (complete p') A := by
  refine .look rfl ?_
  have lifted : Retains input place first held s (liftM p) (liftM p') A :=
    Parser.Retains.seq retains fun a s₁ _ moves => Parser.Retains.pure moves.inside (by
      rintro _ _ kept _ _ ⟨⟩
      exact kept)
  refine Parser.Retains.seq lifted fun result s₁ _ moves => ?_
  cases result with
  | error error => exact Parser.Retains.pure moves.inside fun _ _ _ _ => nofun
  | ok a =>
    have rest : Retains input place first (A a) s₁
        (do verdict (← Parser.state).errors[s.errors.length]? a)
        (do verdict (← Parser.state).errors[s.errors.length]? a) A := by
      refine .look rfl ?_
      cases s₁.errors[s.errors.length]? with
      | some error => exact throw_retains moves.inside error
      | none => exact .pure moves.inside fun _ _ kept => kept
    exact Parser.Retains.mono rest (fun kept => kept a rfl) fun _ kept _ => kept

theorem orNote_retains (retains : Retains input place first held s p p' A) :
    Parser.Retains input place first held s (orNote p) (orNote p') fun result =>
      ∃ a, result = some a ∧ A a := by
  refine Parser.Retains.seq retains fun result s₁ _ moves => ?_
  cases result with
  | ok a => exact .pure moves.inside fun _ _ kept _ => ⟨a, rfl, kept a rfl⟩
  | error error => exact .failed (Parser.addError_gives moves.inside error)

theorem commaSeparatedWithin_retains (formed : input.WellFormed) {lo : Nat}
    (elements : ∀ s : ParserState, lo ≤ s.index → s.index < input.tokens.size →
      Retains input place s.index False s p p' A) (bound : Nat) (s : ParserState)
    (after : lo ≤ s.index) (inside : s.index < input.tokens.size) :
    Retains input place s.index False s (commaSeparatedWithin p bound)
      (commaSeparatedWithin p' bound) fun found => ∃ a ∈ found, A a := by
  induction bound generalizing s with
  | zero => exact nofun
  | succ bound ih =>
    refine (elements s after inside).bind (by omega) fun a s₁ forward₁ inside₁ => ?_
    refine .accept formed inside₁ (fun _ s₂ here₂ inside₂ => ?_) fun _ => .pure inside₁ (by simp)
    refine (ih s₂ (by omega) inside₂).bind (by omega) fun others s₃ _ inside₃ => .pure inside₃ ?_
    simp only [List.mem_cons, exists_eq_or_imp]
    rintro _ _ ((⟨⟨⟩⟩ | ⟨_, kept⟩) | ⟨_, others⟩)
    · exact .inl kept
    · exact .inr others

theorem commaSeparated_retains (formed : input.WellFormed) {lo : Nat}
    (elements : ∀ s : ParserState, lo ≤ s.index → s.index < input.tokens.size →
      Retains input place s.index False s p p' A) (after : lo ≤ s.index)
    (inside : s.index < input.tokens.size) :
    Retains input place s.index False s (commaSeparated p) (commaSeparated p')
      fun found => ∃ a ∈ found, A a :=
  .look rfl (commaSeparatedWithin_retains formed elements _ s after inside)

end Readers

end Attempt

end QueryLint
