import QueryLint.Parser.Script

/-!
How productions are reasoned about. A parser gives an answer from a state when its bounds suffice,
and the answer is described in two parts: where the parser may end in any case, and what it has
read when it noted no error on the way. A sequence is described by its parts, each from the state
in which the part before it ended; loops need a step that takes a token for each further element.
-/

namespace QueryLint

variable {α β : Type}

/-! ### Where reading leads -/

/-- The states that reading can lead to: the cursor does not move back and does not leave the
input, and nothing that was noted is forgotten. -/
structure ParserState.Moves (input : ParserInput) (s s' : ParserState) : Prop where
  forward : s.index ≤ s'.index
  inside : s'.index < input.tokens.size
  noted : s.errors <+: s'.errors
  skipped : s.recovered <+: s'.recovered

namespace ParserState

def next (s : ParserState) : ParserState := { s with index := s.index + 1 }

@[simp] theorem next_index (s : ParserState) : s.next.index = s.index + 1 := rfl

@[simp] theorem next_errors (s : ParserState) : s.next.errors = s.errors := rfl

namespace Moves

variable {input : ParserInput} {s s' s'' : ParserState}

theorem refl (inside : s.index < input.tokens.size) : s.Moves input s :=
  ⟨Nat.le_refl _, inside, List.prefix_rfl, List.prefix_rfl⟩

theorem trans (first : s.Moves input s') (second : s'.Moves input s'') : s.Moves input s'' :=
  ⟨Nat.le_trans first.forward second.forward, second.inside, first.noted.trans second.noted,
    first.skipped.trans second.skipped⟩

theorem of_next (moves : s.next.Moves input s') : s.Moves input s' :=
  ⟨Nat.le_of_succ_le moves.forward, moves.inside, moves.noted, moves.skipped⟩

theorem clean (first : s.Moves input s') (second : s'.Moves input s'')
    (clean : s''.errors = s.errors) : s'.errors = s.errors ∧ s''.errors = s'.errors := by
  have same : s'.errors = s.errors :=
    (first.noted.eq_of_length_le (clean ▸ second.noted.length_le)).symm
  exact ⟨same, clean.trans same.symm⟩

end Moves

end ParserState

/-! ### Inputs -/

theorem ParserInput.token_eq {input : ParserInput} {i : Nat} (inside : i < input.tokens.size) :
    input.token i = input.tokens[i] := by
  rw [token, Array.getElem?_eq_getElem inside, Option.getD_some]

theorem ParserInput.token_of_le {input : ParserInput} {i : Nat} (beyond : input.tokens.size ≤ i) :
    input.token i = input.token (input.tokens.size - 1) := by
  rw [token, token, Array.getElem?_eq_none beyond, Array.back?]
  cases input.tokens[input.tokens.size - 1]? <;> rfl

theorem ParserInput.rest_eq_cons {input : ParserInput} {i : Nat} (inside : i < input.tokens.size) :
    input.rest i = input.token i :: input.rest (i + 1) := by
  have listed : i < input.tokens.toList.length := by rwa [Array.length_toList]
  rw [rest, List.drop_eq_getElem_cons listed, Array.getElem_toList, token_eq inside]
  rfl

/-- An input as a source yields it: its last token, and no other, marks the end of the input, and
the dialect gives that mark no meaning. -/
structure ParserInput.WellFormed (input : ParserInput) : Prop where
  nonempty : 0 < input.tokens.size
  ends : ∀ i, i < input.tokens.size →
    ((input.token i).kind = .endOfInput ↔ i + 1 = input.tokens.size)
  operator : input.dialect.precedence .endOfInput = Precedence.none
  opening : input.dialect.openingForm? .endOfInput = none
  source : input.dialect.sourceForm? .endOfInput = none
  join : input.dialect.join? .endOfInput = none

theorem ParserInput.WellFormed.more {input : ParserInput} (formed : input.WellFormed) {i : Nat}
    {kind : TokenKind} (inside : i < input.tokens.size) (found : (input.token i).kind = kind)
    (proper : kind ≠ .endOfInput) : i + 1 < input.tokens.size := by
  have := mt (formed.ends i inside).2 (found ▸ proper)
  omega

/-- The kinds of the tokens that are not the last one. -/
class TokenKind.Inner (kind : TokenKind) : Prop where
  ne_endOfInput : kind ≠ .endOfInput

instance (symbol : Symbol) : TokenKind.Inner symbol := ⟨nofun⟩
instance (keyword : Keyword) : TokenKind.Inner keyword := ⟨nofun⟩
instance : TokenKind.Inner .identifier := ⟨nofun⟩
instance : TokenKind.Inner .number := ⟨nofun⟩
instance : TokenKind.Inner .string := ⟨nofun⟩
instance : TokenKind.Inner Dialect.BigQuery.forWord := ⟨nofun⟩

namespace Parser

/-! ### Answers -/

/-- The parser answers from a state, and the answer is of the given kind. -/
def Yields (input : ParserInput) (s : ParserState) (p : Parser α)
    (Q : α → ParserState → Prop) : Prop :=
  ∃ a s', p input s = some (a, s') ∧ s.Moves input s' ∧ Q a s'

/-- The parser answers from a state, and the answer is of the given kind unless an error was noted
on the way. -/
def Gives (input : ParserInput) (s : ParserState) (p : Parser α)
    (S : α → ParserState → Prop) : Prop :=
  Yields input s p fun a s' => s'.errors = s.errors → S a s'

section Sequences

variable {input : ParserInput} {s : ParserState} {p : Parser α} {f : α → Parser β}
  {S S' : α → ParserState → Prop} {T : β → ParserState → Prop} {a : α}

theorem bind_run (p : Parser α) (f : α → Parser β) (input : ParserInput) (s : ParserState) :
    (p >>= f) input s = (p input s).bind fun answer => f answer.1 input answer.2 := by
  dsimp only [Bind.bind]
  cases p input s <;> rfl

theorem bind_eq {s' : ParserState} (run : p input s = some (a, s')) :
    (p >>= f) input s = f a input s' := by
  rw [bind_run, run]
  rfl

theorem bind_eq_some {s'' : ParserState} {b : β} (run : (p >>= f) input s = some (b, s'')) :
    ∃ a s', p input s = some (a, s') ∧ f a input s' = some (b, s'') := by
  rw [bind_run] at run
  obtain ⟨⟨a, s'⟩, ran, rest⟩ := Option.bind_eq_some_iff.1 run
  exact ⟨a, s', ran, rest⟩

theorem bind_congr {q : Parser α} (same : p input s = q input s) :
    (p >>= f) input s = (q >>= f) input s := by
  rw [bind_run, bind_run, same]

theorem bind_eq_none (halts : p input s = none) : (p >>= f) input s = none :=
  bind_congr (q := exhausted) halts

instance : LawfulMonad Parser := by
  refine .mk' Parser (fun p => ?_) (fun _ _ => rfl) (fun p f g => ?_)
  · funext input s
    change (p >>= pure) input s = p input s
    rw [bind_run]
    cases p input s <;> rfl
  · funext input s
    rw [bind_run, bind_run, bind_run, Option.bind_assoc]
    exact congrArg _ (funext fun answer => (bind_run (f answer.1) g input answer.2).symm)

theorem Yields.mono {Q Q' : α → ParserState → Prop} (yields : Yields input s p Q)
    (weaker : ∀ a s', s.Moves input s' → Q a s' → Q' a s') : Yields input s p Q' := by
  obtain ⟨a, s', run, moves, holds⟩ := yields
  exact ⟨a, s', run, moves, weaker a s' moves holds⟩

theorem Yields.of_run {Q : α → ParserState → Prop} {a : α} {s' : ParserState}
    (yields : Yields input s p Q) (run : p input s = some (a, s')) : s.Moves input s' ∧ Q a s' := by
  obtain ⟨_, _, run', moves, holds⟩ := yields
  rw [run'] at run
  cases run
  exact ⟨moves, holds⟩

theorem Gives.mono (gives : Gives input s p S)
    (weaker : ∀ a s', s.index ≤ s'.index → S a s' → S' a s') : Gives input s p S' :=
  Yields.mono gives fun a s' moves holds clean => weaker a s' moves.forward (holds clean)

theorem Yields.bind {Q : α → ParserState → Prop} {R : β → ParserState → Prop}
    (first : Yields input s p Q)
    (rest : ∀ a s', s.Moves input s' → Q a s' → Yields input s' (f a) R) :
    Yields input s (p >>= f) R := by
  obtain ⟨a, s', run, moves, holds⟩ := first
  obtain ⟨b, s'', run', moves', holds'⟩ := rest a s' moves holds
  exact ⟨b, s'', by rw [bind_eq run, run'], moves.trans moves', holds'⟩

theorem Gives.traced (gives : Gives input s p S) :
    Gives input s p fun a s' => p input s = some (a, s') ∧ S a s' := by
  obtain ⟨a, s', run, moves, holds⟩ := gives
  exact ⟨a, s', run, moves, fun clean => ⟨run, holds clean⟩⟩

/-- What the first part has read is known where the second part ends, if no error was noted. -/
theorem Gives.bind (first : Gives input s p S)
    (rest : ∀ a s', s.index ≤ s'.index → s'.index < input.tokens.size →
      Gives input s' (f a) fun b s'' => s'.errors = s.errors → S a s' → T b s'') :
    Gives input s (p >>= f) T := by
  obtain ⟨a, s', run, moves, holds⟩ := first
  obtain ⟨b, s'', run', moves', holds'⟩ := rest a s' moves.forward moves.inside
  refine ⟨b, s'', by rw [bind_eq run, run'], moves.trans moves', fun clean => ?_⟩
  obtain ⟨clean, clean'⟩ := moves.clean moves' clean
  exact holds' clean' clean (holds clean)

theorem Yields.quiet (first : Yields input s p fun a s' => s'.errors = s.errors ∧ S a s')
    (rest : ∀ a s', s.index ≤ s'.index → s'.index < input.tokens.size → S a s' →
      Gives input s' (f a) T) : Gives input s (p >>= f) T := by
  refine first.bind fun a s' moves ⟨clean, holds⟩ => ?_
  refine Yields.mono (rest a s' moves.forward moves.inside holds) fun _ _ _ read clean' => ?_
  exact read (clean'.trans clean.symm)

theorem Gives.pure (inside : s.index < input.tokens.size) (holds : S a s) :
    Gives input s (pure a) S :=
  ⟨a, s, rfl, .refl inside, fun _ => holds⟩

theorem Gives.discard (gives : Gives input s p S) :
    Gives input s (discard p) fun _ s' => ∃ a, S a s' := by
  refine Gives.bind gives fun a s' _ inside => ?_
  exact .pure inside fun _ holds => ⟨a, holds⟩

theorem Gives.when {p : Parser Unit} {S : Unit → ParserState → Prop}
    (inside : s.index < input.tokens.size) (gives : Gives input s p S) (condition : Bool) :
    Gives input s (when condition p) fun _ s' => condition = true → S () s' := by
  cases condition with
  | true => exact gives.mono fun _ _ _ holds _ => holds
  | false => exact .pure inside nofun

end Sequences

/-! ### Single tokens -/

section Tokens

variable {input : ParserInput} {s : ParserState} {T : β → ParserState → Prop}

theorem Yields.look {p : Parser α} {f : α → Parser β} {a : α} (looked : p input s = some (a, s))
    (rest : Yields input s (f a) T) : Yields input s (p >>= f) T := by
  obtain ⟨b, s', run, moves, holds⟩ := rest
  exact ⟨b, s', by rw [bind_eq looked, run], moves, holds⟩

theorem Gives.look {p : Parser α} {f : α → Parser β} {a : α} (looked : p input s = some (a, s))
    (rest : Gives input s (f a) T) : Gives input s (p >>= f) T :=
  Yields.look looked rest

theorem advance_eq (more : s.index + 1 < input.tokens.size) :
    advance input s = some ((), s.next) := by
  simp only [advance, ParserInput.following, if_pos more, ParserState.next]

theorem Yields.step {p : Parser α} {f : α → Parser β} {a : α}
    (stepped : p input s = some (a, s.next))
    (rest : Yields input s.next (f a) T) : Yields input s (p >>= f) T := by
  obtain ⟨b, s', run, moves, holds⟩ := rest
  exact ⟨b, s', by rw [bind_eq stepped, run], moves.of_next, holds⟩

theorem Gives.advance {f : Unit → Parser β} (more : s.index + 1 < input.tokens.size)
    (rest : ∀ s' : ParserState, s'.index = s.index + 1 → s'.index < input.tokens.size →
      Gives input s' (f ()) T) : Gives input s (advance >>= f) T :=
  Yields.step (advance_eq more) (rest s.next rfl more)

theorem advance_yields (inside : s.index < input.tokens.size) :
    Yields input s Parser.advance fun _ s' => s'.errors = s.errors := by
  refine ⟨(), _, rfl, ⟨?_, ?_, List.prefix_rfl, List.prefix_rfl⟩, rfl⟩ <;>
    simp only [ParserInput.following] <;> split <;> omega

theorem advanceTwice_yields (inside : s.index < input.tokens.size) :
    Yields input s (do Parser.advance; Parser.advance) fun _ s' => s'.errors = s.errors :=
  (advance_yields inside).bind fun _ _ moves clean =>
    (advance_yields moves.inside).mono fun _ _ _ clean' => clean'.trans clean

theorem advance_gives (inside : s.index < input.tokens.size) :
    Gives input s Parser.advance fun _ _ => True :=
  (advance_yields inside).mono fun _ _ _ _ _ => trivial

theorem advanceTwice_gives (inside : s.index < input.tokens.size) :
    Gives input s (do Parser.advance; Parser.advance) fun _ _ => True :=
  (advanceTwice_yields inside).mono fun _ _ _ _ _ => trivial

theorem check_eq (kind : TokenKind) :
    check kind input s = some ((input.token s.index).kind == kind, s) := rfl

theorem accept_eq (kind : TokenKind) :
    accept kind input s =
      if (input.token s.index).kind == kind then
        some (true, { s with index := input.following s.index })
      else some (false, s) := by
  rw [accept, bind_eq (check_eq kind)]
  cases (input.token s.index).kind == kind <;> rfl

theorem failedSince_eq (mark : Nat) :
    failedSince mark input s = some (decide (mark < s.errors.length), s) := rfl

theorem accept_eq_true {kind : TokenKind} (more : s.index + 1 < input.tokens.size)
    (found : (input.token s.index).kind = kind) :
    accept kind input s = some (true, s.next) := by
  have checked : check kind input s = some (true, s) := by rw [check_eq, beq_iff_eq.2 found]
  rw [accept, bind_eq checked, if_pos rfl, bind_eq (advance_eq more)]
  rfl

theorem accept_eq_false {kind : TokenKind} (absent : (input.token s.index).kind ≠ kind) :
    accept kind input s = some (false, s) := by
  have checked : check kind input s = some (false, s) := by
    rw [check_eq, beq_eq_false_iff_ne.2 absent]
  rw [accept, bind_eq checked]
  rfl

theorem Yields.accept (formed : input.WellFormed) (inside : s.index < input.tokens.size)
    {kind : TokenKind} [inner : kind.Inner] {f : Bool → Parser β}
    (yes : (input.token s.index).kind = kind → s.index + 1 < input.tokens.size →
      Yields input s.next (f true) T)
    (no : (input.token s.index).kind ≠ kind → Yields input s (f false) T) :
    Yields input s (accept kind >>= f) T := by
  by_cases found : (input.token s.index).kind = kind
  · have more := formed.more inside found inner.ne_endOfInput
    exact .step (accept_eq_true more found) (yes found more)
  · exact .look (accept_eq_false found) (no found)

theorem Gives.accept (formed : input.WellFormed) (inside : s.index < input.tokens.size)
    {kind : TokenKind} [inner : kind.Inner] {f : Bool → Parser β}
    (yes : (input.token s.index).kind = kind → ∀ s' : ParserState, s'.index = s.index + 1 →
      s'.index < input.tokens.size → Gives input s' (f true) T)
    (no : (input.token s.index).kind ≠ kind → Gives input s (f false) T) :
    Gives input s (accept kind >>= f) T :=
  Yields.accept formed inside (fun found more => yes found s.next rfl more) no

theorem accept_yields (inside : s.index < input.tokens.size) (kind : TokenKind) :
    Yields input s (accept kind) fun _ s' => s'.errors = s.errors := by
  refine .look (check_eq kind) ?_
  split
  · refine (advance_yields inside).bind fun _ s' moves clean => ?_
    exact ⟨true, s', rfl, .refl moves.inside, clean⟩
  · exact ⟨false, s, rfl, .refl inside, rfl⟩

theorem accept_gives (inside : s.index < input.tokens.size) (kind : TokenKind) :
    Gives input s (accept kind) fun _ _ => True :=
  (accept_yields inside kind).mono fun _ _ _ _ _ => trivial

theorem addError_gives (inside : s.index < input.tokens.size) (error : SyntaxError) :
    Gives input s (addError error) fun _ _ => False := by
  refine ⟨(), _, rfl, ⟨Nat.le_refl _, inside, List.prefix_append _ _, List.prefix_rfl⟩, ?_⟩
  intro clean
  simp at clean

theorem fault_gives (inside : s.index < input.tokens.size) (what : SyntaxFault) :
    Gives input s (fault what) fun _ _ => False :=
  .look rfl (addError_gives inside _)

theorem unexpected_gives (inside : s.index < input.tokens.size) (expected : String) :
    Gives input s (unexpected expected) fun _ _ => False :=
  .look rfl (fault_gives inside _)

theorem Gives.failed {p : Parser α} (noted : Gives input s p fun _ _ => False) {b : β} :
    Gives input s (p >>= fun _ => Pure.pure b) T :=
  noted.bind fun _ _ _ inside => .pure inside fun _ impossible => impossible.elim

theorem expect_gives (formed : input.WellFormed) (inside : s.index < input.tokens.size)
    {kind : TokenKind} [inner : kind.Inner] :
    Gives input s (expect kind) fun found s' =>
      found = true ∧ (input.token s.index).kind = kind ∧ s'.index = s.index + 1 := by
  refine .accept formed inside (fun found s' here inside => ?_) fun _ => ?_
  · exact .pure inside ⟨rfl, found, here⟩
  · exact .failed (unexpected_gives inside _)

theorem expect_eq_false {kind : TokenKind} (absent : (input.token s.index).kind ≠ kind) :
    ∃ error, expect kind input s = some (false, { s with errors := s.errors ++ [error] }) := by
  rw [expect, bind_eq (accept_eq_false absent)]
  exact ⟨_, rfl⟩

theorem Gives.expect (formed : input.WellFormed) (inside : s.index < input.tokens.size)
    {kind : TokenKind} [inner : kind.Inner] {f : Bool → Parser β}
    (yes : (input.token s.index).kind = kind → ∀ s' : ParserState, s'.index = s.index + 1 →
      s'.index < input.tokens.size → Gives input s' (f true) T)
    (no : ∀ s' : ParserState, s.index ≤ s'.index → s'.index < input.tokens.size →
      Gives input s' (f false) fun _ _ => True) : Gives input s (expect kind >>= f) T := by
  by_cases found : (input.token s.index).kind = kind
  · have more := formed.more inside found inner.ne_endOfInput
    have read : Parser.expect kind input s = some (true, s.next) := by
      rw [Parser.expect, bind_eq (accept_eq_true more found)]
      rfl
    exact Yields.step read (yes found s.next rfl more)
  · obtain ⟨error, refused⟩ := expect_eq_false found
    obtain ⟨b, s', run, moves, _⟩ :=
      no { s with errors := s.errors ++ [error] } (Nat.le_refl _) inside
    have noted := moves.noted.length_le
    refine ⟨b, s', by rw [bind_eq refused, run],
      ⟨moves.forward, moves.inside, (List.prefix_append _ _).trans moves.noted, moves.skipped⟩, ?_⟩
    intro clean
    simp only [clean, List.length_append, List.length_singleton] at noted
    omega

theorem expected_gives (formed : input.WellFormed) (inside : s.index < input.tokens.size)
    {kind : TokenKind} [inner : kind.Inner] :
    Gives input s (discard (expect kind)) fun _ s' =>
      (input.token s.index).kind = kind ∧ s'.index = s.index + 1 :=
  (expect_gives formed inside).discard.mono fun _ _ _ ⟨_, _, found⟩ => found

theorem Gives.found (formed : input.WellFormed) (inside : s.index < input.tokens.size)
    {kind : TokenKind} [inner : kind.Inner] {f : Unit → Parser β}
    (found : (input.token s.index).kind = kind)
    (rest : ∀ s' : ParserState, s'.index = s.index + 1 → s'.index < input.tokens.size →
      Gives input s' (f ()) T) :
    Gives input s (Functor.discard (Parser.expect kind) >>= f) T := by
  have more := formed.more inside found inner.ne_endOfInput
  have read : Functor.discard (Parser.expect kind) input s = some ((), s.next) := by
    change (Parser.expect kind >>= fun _ => Pure.pure ()) input s = _
    rw [Parser.expect, bind_eq (bind_eq (accept_eq_true more found))]
    rfl
  exact Yields.step read (rest s.next rfl more)

end Tokens

/-! ### Lists -/

section Lists

variable {input : ParserInput} {lo : Nat}

/-- What is read in a range of tokens is read in every larger range. -/
def Widens (E : Nat → Nat → α → Prop) : Prop :=
  ∀ ⦃i i' j j' : Nat⦄ ⦃a : α⦄, i ≤ i' → j' ≤ j → E i' j' a → E i j a

def Takes (input : ParserInput) (s : ParserState) (step : Parser (Option α))
    (E : Nat → Nat → α → Prop) : Prop :=
  Yields input s step fun found s' =>
    (found.isSome → s.index < s'.index) ∧
      (s'.errors = s.errors → ∀ a ∈ found, E s.index s'.index a)

theorem Takes.none {s : ParserState} {E : Nat → Nat → α → Prop}
    (inside : s.index < input.tokens.size) : Takes input s (Pure.pure none) E :=
  ⟨_, s, rfl, .refl inside, nofun, nofun⟩

theorem Takes.look {p : Parser β} {f : β → Parser (Option α)} {s : ParserState} {b : β}
    {E : Nat → Nat → α → Prop} (looked : p input s = some (b, s)) (rest : Takes input s (f b) E) :
    Takes input s (p >>= f) E :=
  Yields.look looked rest

theorem Takes.accept {s : ParserState} {E : Nat → Nat → α → Prop} (formed : input.WellFormed)
    (inside : s.index < input.tokens.size) {kind : TokenKind} [inner : kind.Inner]
    {f : Bool → Parser (Option α)}
    (yes : (input.token s.index).kind = kind → ∀ s' : ParserState, s'.index = s.index + 1 →
      s'.index < input.tokens.size →
        Gives input s' (f true) fun found s'' => ∀ a ∈ found, E s.index s''.index a)
    (no : (input.token s.index).kind ≠ kind → Takes input s (f false) E) :
    Takes input s (accept kind >>= f) E :=
  Yields.accept formed inside (fun found more => Yields.mono (yes found s.next rfl more)
    fun _ _ moves read => ⟨fun _ => moves.forward, read⟩) no

theorem repeated_gives {E : Nat → Nat → α → Prop} (widens : Widens E) {step : Parser (Option α)}
    (takes : ∀ s : ParserState, lo ≤ s.index → s.index < input.tokens.size →
      Takes input s step E) (bound : Nat) (s : ParserState) (after : lo ≤ s.index)
    (inside : s.index < input.tokens.size) (enough : input.tokens.size - s.index < bound) :
    Gives input s (repeated step bound) fun found s' => ∀ a ∈ found, E s.index s'.index a := by
  induction bound generalizing s with
  | zero => omega
  | succ bound ih =>
    refine Yields.bind (takes s after inside) fun found s' moves ⟨taken, read⟩ => ?_
    have forward := moves.forward
    cases found with
    | none => exact ⟨[], s', rfl, .refl moves.inside, by simp⟩
    | some a =>
      have taken := taken rfl
      obtain ⟨others, s'', run, moves', read'⟩ :=
        ih s' (by omega) moves.inside (by have := moves.inside; omega)
      refine ⟨a :: others, s'', ?_, moves', fun clean => ?_⟩
      · change (repeated step bound >>= fun others => Pure.pure (a :: others)) input s' = _
        rw [bind_eq run]
        rfl
      · obtain ⟨clean, clean'⟩ := moves.clean moves' clean
        intro b member
        rcases List.mem_cons.1 member with rfl | member
        · exact widens (Nat.le_refl _) moves'.forward (read clean _ rfl)
        · exact widens forward (Nat.le_refl _) (read' clean' b member)

def TakesMore (input : ParserInput) (s : ParserState) (step : Parser (α × Bool))
    (E : Nat → Nat → α → Prop) : Prop :=
  Yields input s step fun found s' =>
    (found.2 = true → s.index < s'.index) ∧ (s'.errors = s.errors → E s.index s'.index found.1)

theorem chain_gives {E : Nat → Nat → α → Prop} (widens : Widens E) {step : Parser (α × Bool)}
    (takes : ∀ s : ParserState, lo ≤ s.index → s.index < input.tokens.size →
      TakesMore input s step E) (bound : Nat) (s : ParserState) (after : lo ≤ s.index)
    (inside : s.index < input.tokens.size) (enough : input.tokens.size - s.index < bound) :
    Gives input s (chain step bound) fun found s' =>
      found ≠ [] ∧ ∀ a ∈ found, E s.index s'.index a := by
  induction bound generalizing s with
  | zero => omega
  | succ bound ih =>
    refine Yields.bind (takes s after inside) fun (a, more) s' moves ⟨taken, read⟩ => ?_
    have forward := moves.forward
    cases more with
    | false =>
      refine ⟨[a], s', rfl, .refl moves.inside, fun clean => ⟨nofun, fun b member => ?_⟩⟩
      rw [List.mem_singleton.1 member]
      exact read clean
    | true =>
      have taken := taken rfl
      obtain ⟨others, s'', run, moves', read'⟩ :=
        ih s' (by omega) moves.inside (by have := moves.inside; omega)
      refine ⟨a :: others, s'', ?_, moves', fun clean => ⟨nofun, ?_⟩⟩
      · change (chain step bound >>= fun others => Pure.pure (a :: others)) input s' = _
        rw [bind_eq run]
        rfl
      · obtain ⟨clean, clean'⟩ := moves.clean moves' clean
        intro b member
        rcases List.mem_cons.1 member with rfl | member
        · exact widens (Nat.le_refl _) moves'.forward (read clean)
        · exact widens forward (Nat.le_refl _) ((read' clean').2 b member)

theorem commaSeparated_gives (formed : input.WellFormed) {E : Nat → Nat → α → Prop}
    (widens : Widens E) {element : Parser α}
    (reads : ∀ s : ParserState, lo ≤ s.index → s.index < input.tokens.size →
      Gives input s element fun a s' => E s.index s'.index a)
    {s : ParserState} (after : lo ≤ s.index) (inside : s.index < input.tokens.size) :
    Gives input s (commaSeparated element) fun found s' =>
      found ≠ [] ∧ ∀ a ∈ found, E s.index s'.index a := by
  refine .look rfl (.look rfl ?_)
  refine chain_gives widens (fun s after inside => ?_) _ s after inside (Nat.lt_succ_self _)
  refine Yields.bind (reads s after inside) fun a s' moves read => .look rfl ?_
  split
  · exact ⟨(a, false), s', rfl, .refl moves.inside, nofun, read⟩
  · refine .accept formed moves.inside (fun _ more => ?_) fun _ => ?_
    · exact ⟨(a, true), s'.next, rfl, .refl more, fun _ => Nat.lt_succ_of_le moves.forward,
        fun clean => widens (Nat.le_refl _) (Nat.le_succ _) (read clean)⟩
    · exact ⟨(a, false), s', rfl, .refl moves.inside, nofun, read⟩

end Lists

end Parser

/-! ### Readers that stop -/

namespace Attempt

open QueryLint.Parser (Yields Widens bind_eq)

theorem run_lift_bind (p : Parser α) (f : α → Attempt β) :
    (liftM p >>= f : Attempt β).run = p >>= fun a => (f a).run :=
  bind_assoc p (fun a => pure (Except.ok a : Except SyntaxError α)) (ExceptT.bindCont f)

/-- The reader answers from a state, and where it does not stop it has noted no error and what it
has read is of the given kind. -/
def Gives (input : ParserInput) (s : ParserState) (p : Attempt α)
    (S : α → ParserState → Prop) : Prop :=
  Yields input s p.run fun result s' => ∀ a, result = .ok a → s'.errors = s.errors ∧ S a s'

section Sequences

variable {input : ParserInput} {s : ParserState} {S S' : α → ParserState → Prop}
  {T : β → ParserState → Prop} {p : Attempt α} {f : α → Attempt β}

theorem Gives.mono (gives : Gives input s p S)
    (weaker : ∀ a s', s.index ≤ s'.index → S a s' → S' a s') : Gives input s p S' :=
  Yields.mono gives fun _ s' moves holds a ok =>
    ⟨(holds a ok).1, weaker a s' moves.forward (holds a ok).2⟩

theorem Gives.pure {a : α} (inside : s.index < input.tokens.size) (holds : S a s) :
    Gives input s (pure a) S :=
  ⟨.ok a, s, rfl, .refl inside, fun _ ok => by cases ok; exact ⟨rfl, holds⟩⟩

theorem throw_gives (inside : s.index < input.tokens.size) (error : SyntaxError) :
    Gives input s (throw error : Attempt α) S :=
  ⟨.error error, s, rfl, .refl inside, nofun⟩

theorem Gives.bind (first : Gives input s p S)
    (rest : ∀ a s', s.index ≤ s'.index → s'.index < input.tokens.size → S a s' →
      Gives input s' (f a) T) : Gives input s (p >>= f) T := by
  refine Yields.bind first fun result s' moves holds => ?_
  cases result with
  | error error => exact ⟨.error error, s', rfl, .refl moves.inside, nofun⟩
  | ok a =>
    obtain ⟨clean, holds⟩ := holds a rfl
    refine Yields.mono (rest a s' moves.forward moves.inside holds) fun _ _ _ holds b ok => ?_
    exact ⟨(holds b ok).1.trans clean, (holds b ok).2⟩

theorem Gives.lift {q : Parser α}
    (yields : Yields input s q fun a s' => s'.errors = s.errors ∧ S a s') :
    Gives input s (liftM q : Attempt α) S := by
  refine Yields.bind yields fun a s' moves holds => ?_
  exact ⟨.ok a, s', rfl, .refl moves.inside, fun _ ok => by cases ok; exact holds⟩

theorem Gives.look {q : Parser α} {a : α} (looked : q input s = some (a, s))
    (rest : Gives input s (f a) T) : Gives input s (liftM q >>= f) T := by
  have lifted : ((Except.ok <$> q) : Parser (Except SyntaxError α)) input s =
      some (.ok a, s) := bind_eq looked
  exact Yields.look lifted rest

theorem Gives.step {q : Parser α} {a : α} (stepped : q input s = some (a, s.next))
    (rest : Gives input s.next (f a) T) : Gives input s (liftM q >>= f) T := by
  have lifted : ((Except.ok <$> q) : Parser (Except SyntaxError α)) input s =
      some (.ok a, s.next) := bind_eq stepped
  exact Yields.step lifted rest

end Sequences

section Readers

variable {input : ParserInput} {s : ParserState} {S : α → ParserState → Prop}
  {T : β → ParserState → Prop}

theorem Gives.advance {f : Unit → Attempt β} (more : s.index + 1 < input.tokens.size)
    (rest : ∀ s' : ParserState, s'.index = s.index + 1 → s'.index < input.tokens.size →
      Gives input s' (f ()) T) : Gives input s (liftM Parser.advance >>= f) T :=
  .step (Parser.advance_eq more) (rest s.next rfl more)

theorem Gives.accept (formed : input.WellFormed) (inside : s.index < input.tokens.size)
    {kind : TokenKind} [inner : kind.Inner] {f : Bool → Attempt β}
    (yes : (input.token s.index).kind = kind → ∀ s' : ParserState, s'.index = s.index + 1 →
      s'.index < input.tokens.size → Gives input s' (f true) T)
    (no : (input.token s.index).kind ≠ kind → Gives input s (f false) T) :
    Gives input s (liftM (Parser.accept kind) >>= f) T := by
  by_cases found : (input.token s.index).kind = kind
  · have more := formed.more inside found inner.ne_endOfInput
    exact .step (Parser.accept_eq_true more found) (yes found s.next rfl more)
  · exact .look (Parser.accept_eq_false found) (no found)

theorem unexpected_gives (inside : s.index < input.tokens.size) (expected : String) :
    Gives input s (unexpected expected : Attempt α) S :=
  .look rfl (throw_gives inside _)

theorem expect_gives (formed : input.WellFormed) (inside : s.index < input.tokens.size)
    {kind : TokenKind} [inner : kind.Inner] :
    Gives input s (expect kind) fun _ s' =>
      (input.token s.index).kind = kind ∧ s'.index = s.index + 1 := by
  refine .accept formed inside (fun found s' here inside => ?_) fun _ => ?_
  · exact .pure inside ⟨found, here⟩
  · exact unexpected_gives inside _

theorem within_gives {p : Attempt α} (gives : Gives input s p S) (context : String) :
    Gives input s (within context p) S := by
  refine Yields.bind gives fun result s' moves holds => ?_
  cases result with
  | ok a => exact ⟨.ok a, s', rfl, .refl moves.inside, holds⟩
  | error error => exact ⟨_, s', rfl, .refl moves.inside, nofun⟩

theorem expectWithin_gives (formed : input.WellFormed) (inside : s.index < input.tokens.size)
    {kind : TokenKind} [inner : kind.Inner] {context : String} :
    Gives input s (within context (expect kind)) fun _ s' =>
      (input.token s.index).kind = kind ∧ s'.index = s.index + 1 :=
  within_gives (expect_gives formed inside) context

/-- The end of a parser that is run to its end: the error that it noted first, or its value. -/
def verdict (found : Option SyntaxError) (a : α) : Attempt α :=
  match found with
  | some error => throw error
  | none => return a

theorem complete_gives {p : Parser α} (gives : Parser.Gives input s p S) :
    Gives input s (complete p) S := by
  obtain ⟨a, s', run, moves, holds⟩ := gives
  have lifted : ((Except.ok <$> p) : Parser (Except SyntaxError α)) input s =
      some (.ok a, s') := bind_eq run
  refine .look rfl ?_
  cases noted : s'.errors[s.errors.length]? with
  | some error =>
    refine ⟨.error error, s', ?_, moves, nofun⟩
    refine (bind_eq lifted).trans ?_
    change (verdict s'.errors[s.errors.length]? a).run input s' = _
    rw [noted]
    rfl
  | none =>
    refine ⟨.ok a, s', ?_, moves, fun _ ok => ?_⟩
    · refine (bind_eq lifted).trans ?_
      change (verdict s'.errors[s.errors.length]? a).run input s' = _
      rw [noted]
      rfl
    · cases ok
      have clean := (moves.noted.eq_of_length_le (List.getElem?_eq_none_iff.1 noted)).symm
      exact ⟨clean, holds clean⟩

theorem orNote_gives {p : Attempt α} (gives : Gives input s p S) :
    Parser.Gives input s (orNote p) fun result s' => ∃ a, result = some a ∧ S a s' := by
  refine Yields.bind gives fun result s' moves holds => ?_
  cases result with
  | ok a => exact ⟨_, s', rfl, .refl moves.inside, fun _ => ⟨a, rfl, (holds a rfl).2⟩⟩
  | error error =>
    refine ⟨_, _, rfl, ⟨Nat.le_refl _, moves.inside, List.prefix_append _ _, List.prefix_rfl⟩, ?_⟩
    intro clean
    have noted := moves.noted.length_le
    simp only [← clean, List.length_append, List.length_singleton] at noted
    omega

theorem commaSeparatedWithin_gives (formed : input.WellFormed) {lo : Nat}
    {E : Nat → Nat → α → Prop} (widens : Widens E) {element : Attempt α}
    (reads : ∀ s : ParserState, lo ≤ s.index → s.index < input.tokens.size →
      Gives input s element fun a s' => E s.index s'.index a)
    (bound : Nat) (s : ParserState) (after : lo ≤ s.index) (inside : s.index < input.tokens.size)
    (enough : input.tokens.size - s.index < bound) :
    Gives input s (commaSeparatedWithin element bound) fun found s' =>
      found ≠ [] ∧ ∀ a ∈ found, E s.index s'.index a := by
  induction bound generalizing s with
  | zero => omega
  | succ bound ih =>
    refine (reads s after inside).bind fun a s₁ forward₁ inside₁ read => ?_
    refine .accept formed inside₁ (fun _ s₂ here₂ inside₂ => ?_) fun _ => ?_
    · refine (ih s₂ (by omega) inside₂ (by omega)).bind fun others s₃ forward₃ inside₃ rest => ?_
      refine .pure inside₃ ⟨nofun, fun b member => ?_⟩
      rcases List.mem_cons.1 member with rfl | member
      · exact widens (Nat.le_refl _) (by omega) read
      · exact widens (by omega) (Nat.le_refl _) (rest.2 b member)
    · refine .pure inside₁ ⟨nofun, fun b member => ?_⟩
      rw [List.mem_singleton.1 member]
      exact read

theorem commaSeparated_gives (formed : input.WellFormed) {lo : Nat} {E : Nat → Nat → α → Prop}
    (widens : Widens E) {element : Attempt α}
    (reads : ∀ s : ParserState, lo ≤ s.index → s.index < input.tokens.size →
      Gives input s element fun a s' => E s.index s'.index a)
    (after : lo ≤ s.index) (inside : s.index < input.tokens.size) :
    Gives input s (commaSeparated element) fun found s' =>
      found ≠ [] ∧ ∀ a ∈ found, E s.index s'.index a :=
  .look rfl (commaSeparatedWithin_gives formed widens reads _ s after inside (Nat.lt_succ_self _))

end Readers

end Attempt

/-! ### Operators -/

open QueryLint.Parser in
/-- An operator whose own kind does not say how it is read: a form of the dialect goes on from the
operand, or a second operand follows. -/
def Grammar.otherOperator (grammar : Grammar) (operand : Expr) (precedence : Precedence)
    (kind : TokenKind) : Parser Expr := do
  match (← dialect).continuingForm? kind with
  | some form =>
    advance
    return (← (grammar.continuing operand form).orNote).getD operand
  | none =>
    advance
    let right ← grammar.expressionAbove precedence
    if right.isMissing then return operand
    return .binary (← spanFrom operand.span.start) operand kind right

end QueryLint
