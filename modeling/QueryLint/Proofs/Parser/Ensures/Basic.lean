import QueryLint.Proofs.Parser.Gives

/-!
What every answer of a parser is like, whatever it has noted and wherever it began. Nothing is said of
a parser whose bound is too small. `Ensures` says two things of an answer: all that was noted on the
way satisfies a predicate on errors, provided all that was noted before does, and the value satisfies a
predicate of its own. A reader that stops does so with an error of the same kind.
-/

namespace QueryLint

variable {α β : Type}

structure ParserState.Notes (allowed : SyntaxError → Prop) (s : ParserState) : Prop where
  errors : ∀ error ∈ s.errors, allowed error
  recovered : ∀ error ∈ s.recovered, allowed error

/-- A predicate on errors that holds of all that can be found wrong at a token of the input. -/
structure ParserInput.Admits (input : ParserInput) (allowed : SyntaxError → Prop) : Prop where
  syntactic (place : Nat) (fault : SyntaxFault) :
    allowed (.syntactic (input.token place).span.start fault)
  malformedArray (place : Nat) : allowed (.malformedArray (input.token place).span.start)
  pivotWithoutCall (position : Position) : allowed (.pivotWithoutCall position)
  within (context : String) {error : SyntaxError} : allowed error → allowed (.within context error)

namespace Parser

/-- Every answer of a parser satisfies a predicate, and all that it notes satisfies another one. -/
def Ensures (allowed : SyntaxError → Prop) (input : ParserInput) (p : Parser α) (Q : α → Prop) : Prop :=
  ∀ s a s', p input s = some (a, s') → s.Notes allowed → s'.Notes allowed ∧ Q a

/-- A parser that notes nothing. -/
class Silent (p : Parser α) : Prop where
  kept : ∀ input s a s', p input s = some (a, s') →
    s'.errors = s.errors ∧ s'.recovered = s.recovered

section Sequences

variable {allowed : SyntaxError → Prop} {input : ParserInput} {p q : Parser α} {f : α → Parser β}
  {A B : α → Prop} {Q : β → Prop}

theorem Ensures.pure {b : β} (holds : Q b) : Ensures allowed input (pure b) Q := by
  rintro s _ _ ⟨⟩ noted
  exact ⟨noted, holds⟩

theorem Ensures.exhausted : Ensures allowed input (exhausted : Parser α) A := fun _ _ _ => nofun

theorem Ensures.mono (ensures : Ensures allowed input p A) (weaker : ∀ a, A a → B a) :
    Ensures allowed input p B := by
  intro s a s' run noted
  obtain ⟨noted', holds⟩ := ensures s a s' run noted
  exact ⟨noted', weaker a holds⟩

theorem Ensures.bind (first : Ensures allowed input p A)
    (rest : ∀ a, A a → Ensures allowed input (f a) Q) : Ensures allowed input (p >>= f) Q := by
  intro s b s' run noted
  obtain ⟨a, t, ran, run⟩ := bind_eq_some run
  obtain ⟨noted', holds⟩ := first s a t ran noted
  exact rest a holds t b s' run noted'

theorem Ensures.seq (first : Ensures allowed input p A)
    (rest : ∀ a, Ensures allowed input (f a) Q) : Ensures allowed input (p >>= f) Q :=
  first.bind fun a _ => rest a

theorem Ensures.discard (ensures : Ensures allowed input p A) :
    Ensures allowed input (discard p) fun _ => True :=
  ensures.seq fun _ => .pure trivial

theorem Ensures.ite {condition : Prop} [Decidable condition]
    (yes : condition → Ensures allowed input p A) (no : ¬condition → Ensures allowed input q A) :
    Ensures allowed input (if condition then p else q) A := by
  split
  · exact yes ‹_›
  · exact no ‹_›

theorem Ensures.when {p : Parser Unit} {A : Unit → Prop} (condition : Bool)
    (ensures : Ensures allowed input p A) :
    Ensures allowed input (when condition p) fun _ => True :=
  .ite (fun _ => ensures.mono fun _ _ => trivial) fun _ => .pure trivial

theorem Ensures.of_silent [silent : Silent p] : Ensures allowed input p fun _ => True := by
  intro s a s' run noted
  obtain ⟨errors, recovered⟩ := silent.kept input s a s' run
  exact ⟨⟨errors ▸ noted.errors, recovered ▸ noted.recovered⟩, trivial⟩

theorem Ensures.skip [Silent p] (rest : ∀ a, Ensures allowed input (f a) Q) :
    Ensures allowed input (p >>= f) Q :=
  (Ensures.of_silent (p := p)).seq rest

theorem Ensures.branch {p : Parser Bool} [Silent p] {yes no : Parser β}
    (ensures : Ensures allowed input yes Q) (otherwise : Ensures allowed input no Q) :
    Ensures allowed input (do if ← p then yes else no) Q :=
  .skip fun _ => .ite (fun _ => ensures) fun _ => otherwise

end Sequences

/-! ### Parsers that note nothing -/

namespace Silent

instance pure (a : α) : Silent (Pure.pure a : Parser α) where
  kept := by rintro _ _ _ _ ⟨⟩; exact ⟨rfl, rfl⟩

instance bind {p : Parser α} {f : α → Parser β} [first : Silent p] [rest : ∀ a, Silent (f a)] :
    Silent (p >>= f) where
  kept input s b s' run := by
    obtain ⟨a, t, ran, run⟩ := bind_eq_some run
    obtain ⟨errors, recovered⟩ := first.kept input s a t ran
    obtain ⟨errors', recovered'⟩ := (rest a).kept input t b s' run
    exact ⟨errors'.trans errors, recovered'.trans recovered⟩

instance ite {condition : Prop} [Decidable condition] {p q : Parser α} [Silent p] [Silent q] :
    Silent (if condition then p else q) := by
  split <;> infer_instance

instance exhausted : Silent (Parser.exhausted : Parser α) := ⟨fun _ _ _ _ => nofun⟩

theorem of_look {p : Parser α} {look : ParserInput → ParserState → α}
    (looks : ∀ input s, p input s = some (look input s, s)) : Silent p where
  kept input s a s' run := by
    rw [looks] at run
    cases run
    exact ⟨rfl, rfl⟩

instance input : Silent Parser.input := of_look fun _ _ => rfl
instance state : Silent Parser.state := of_look fun _ _ => rfl
instance current : Silent Parser.current := of_look fun _ _ => rfl
instance lookahead : Silent Parser.lookahead := of_look fun _ _ => rfl
instance remaining : Silent Parser.remaining := of_look fun _ _ => rfl
instance previousEnd : Silent Parser.previousEnd := of_look fun _ _ => rfl
instance position : Silent Parser.position := bind
instance index : Silent Parser.index := bind
instance dialect : Silent Parser.dialect := bind
instance mark : Silent Parser.mark := bind
instance failedSince (mark : Nat) : Silent (Parser.failedSince mark) := bind
instance check (kind : TokenKind) : Silent (Parser.check kind) := bind
instance checkNext (kind : TokenKind) : Silent (Parser.checkNext kind) := bind
instance checkWord (word : String) : Silent (Parser.checkWord word) := bind
instance spanFrom (start : Position) : Silent (Parser.spanFrom start) := bind

instance advance : Silent Parser.advance := ⟨by rintro _ _ _ _ ⟨⟩; exact ⟨rfl, rfl⟩⟩

instance seek (index : Nat) : Silent (Parser.seek index) := ⟨by rintro _ _ _ _ ⟨⟩; exact ⟨rfl, rfl⟩⟩

instance accept (kind : TokenKind) : Silent (Parser.accept kind) := bind

instance discard {p : Parser α} [Silent p] : Silent (Functor.discard p) :=
  bind (p := p) (f := fun _ => Pure.pure ())

end Silent

/-! ### Single tokens -/

section Tokens

variable {allowed : SyntaxError → Prop} {input : ParserInput}

theorem current_ensures :
    Ensures allowed input current fun token => ∃ place, token = input.token place := by
  rintro s _ _ ⟨⟩ noted
  exact ⟨noted, s.index, rfl⟩

theorem lookahead_ensures :
    Ensures allowed input lookahead fun token => ∃ place, token = input.token place := by
  rintro s _ _ ⟨⟩ noted
  exact ⟨noted, s.index + 1, rfl⟩

theorem dialect_ensures : Ensures allowed input dialect (· = input.dialect) := by
  rintro s _ _ ⟨⟩ noted
  exact ⟨noted, rfl⟩

theorem state_ensures : Ensures allowed input state (ParserState.Notes allowed) := by
  rintro s _ _ ⟨⟩ noted
  exact ⟨noted, noted⟩

theorem addError_ensures {error : SyntaxError} (holds : allowed error) :
    Ensures allowed input (addError error) fun _ => True := by
  rintro s _ _ ⟨⟩ noted
  refine ⟨⟨?_, noted.recovered⟩, trivial⟩
  intro other member
  rcases List.mem_append.1 member with before | same
  · exact noted.errors other before
  · exact List.mem_singleton.1 same ▸ holds

variable (admits : input.Admits allowed)

include admits

theorem fault_ensures (what : SyntaxFault) :
    Ensures allowed input (fault what) fun _ => True := by
  have starts : Ensures allowed input position fun position =>
      ∃ place, position = (input.token place).span.start :=
    current_ensures.bind fun _ ⟨place, same⟩ => .pure ⟨place, congrArg (·.span.start) same⟩
  refine starts.bind ?_
  rintro _ ⟨place, rfl⟩
  exact addError_ensures (admits.syntactic place what)

theorem unexpected_ensures (expected : String) :
    Ensures allowed input (unexpected expected) fun _ => True :=
  .skip fun _ => fault_ensures admits _

theorem expect_ensures (kind : TokenKind) :
    Ensures allowed input (expect kind) fun _ => True :=
  .branch (.pure trivial) ((unexpected_ensures admits _).seq fun _ => .pure trivial)

end Tokens

/-! ### Lists -/

section Lists

variable {allowed : SyntaxError → Prop} {input : ParserInput} {A : α → Prop}

theorem repeated_ensures {step : Parser (Option α)}
    (steps : Ensures allowed input step fun found => ∀ a ∈ found, A a) (bound : Nat) :
    Ensures allowed input (repeated step bound) fun found => ∀ a ∈ found, A a := by
  induction bound with
  | zero => exact .exhausted
  | succ bound ih =>
    refine steps.bind fun found holds => ?_
    cases found with
    | none => exact .pure nofun
    | some a =>
      refine ih.bind fun others rest => .pure ?_
      exact List.forall_mem_cons.2 ⟨holds a rfl, rest⟩

theorem chain_ensures {step : Parser (α × Bool)}
    (steps : Ensures allowed input step fun found => A found.1) (bound : Nat) :
    Ensures allowed input (chain step bound) fun found => ∀ a ∈ found, A a := by
  induction bound with
  | zero => exact .exhausted
  | succ bound ih =>
    refine steps.bind fun (a, more) holds => .ite (fun _ => ?_) fun _ => ?_
    · refine ih.bind fun others rest => .pure ?_
      exact List.forall_mem_cons.2 ⟨holds, rest⟩
    · exact .pure (List.forall_mem_singleton.2 holds)

theorem commaSeparated_ensures {element : Parser α} (elements : Ensures allowed input element A) :
    Ensures allowed input (commaSeparated element) fun found => ∀ a ∈ found, A a := by
  refine .skip fun mark => .skip fun _ => chain_ensures ?_ _
  refine elements.bind fun a holds => .branch (.pure holds) ?_
  exact .skip fun _ => .pure holds

end Lists

end Parser

/-! ### Readers that stop -/

namespace Attempt

/-- What a reader gives back, or the error that stopped it, satisfies a predicate. -/
def Outcome (allowed : SyntaxError → Prop) (A : α → Prop) : Except SyntaxError α → Prop
  | .ok a => A a
  | .error error => allowed error

def Ensures (allowed : SyntaxError → Prop) (input : ParserInput) (p : Attempt α) (A : α → Prop) :
    Prop :=
  Parser.Ensures allowed input p.run (Outcome allowed A)

section Sequences

variable {allowed : SyntaxError → Prop} {input : ParserInput} {p q : Attempt α}
  {f : α → Attempt β} {A B : α → Prop} {Q : β → Prop}

theorem Ensures.pure {b : β} (holds : Q b) : Ensures allowed input (pure b) Q :=
  Parser.Ensures.pure holds

theorem throw_ensures {error : SyntaxError} (holds : allowed error) :
    Ensures allowed input (throw error) A :=
  Parser.Ensures.pure holds

theorem Ensures.mono (ensures : Ensures allowed input p A) (weaker : ∀ a, A a → B a) :
    Ensures allowed input p B :=
  Parser.Ensures.mono ensures fun result holds => by
    cases result with
    | ok a => exact weaker a holds
    | error error => exact holds

theorem Ensures.bind (first : Ensures allowed input p A)
    (rest : ∀ a, A a → Ensures allowed input (f a) Q) : Ensures allowed input (p >>= f) Q :=
  Parser.Ensures.bind first fun result holds => by
    cases result with
    | ok a => exact rest a holds
    | error error => exact throw_ensures holds

theorem Ensures.seq (first : Ensures allowed input p A)
    (rest : ∀ a, Ensures allowed input (f a) Q) : Ensures allowed input (p >>= f) Q :=
  first.bind fun a _ => rest a

theorem Ensures.ite {condition : Prop} [Decidable condition]
    (yes : condition → Ensures allowed input p A) (no : ¬condition → Ensures allowed input q A) :
    Ensures allowed input (if condition then p else q) A := by
  split
  · exact yes ‹_›
  · exact no ‹_›

theorem Ensures.lift {p : Parser α} (ensures : Parser.Ensures allowed input p A) :
    Ensures allowed input (liftM p) A :=
  Parser.Ensures.bind ensures fun _ holds => Parser.Ensures.pure holds

theorem Ensures.skip {p : Parser α} [Parser.Silent p]
    (rest : ∀ a, Ensures allowed input (f a) Q) : Ensures allowed input (liftM p >>= f) Q :=
  (Ensures.lift (Parser.Ensures.of_silent (p := p))).seq rest

theorem Ensures.branch {p : Parser Bool} [Parser.Silent p] {yes no : Attempt β}
    (ensures : Ensures allowed input yes Q) (otherwise : Ensures allowed input no Q) :
    Ensures allowed input (do if ← p then yes else no) Q :=
  .skip fun _ => .ite (fun _ => ensures) fun _ => otherwise

theorem complete_ensures {p : Parser α} (ensures : Parser.Ensures allowed input p A) :
    Ensures allowed input (complete p) A := by
  refine .skip fun mark => (Ensures.lift ensures).bind fun a holds => ?_
  refine (Ensures.lift Parser.state_ensures).bind fun state noted => ?_
  split
  · next error found => exact throw_ensures (noted.errors error (List.mem_of_getElem? found))
  · exact .pure holds

theorem orNote_ensures (ensures : Ensures allowed input p A) :
    Parser.Ensures allowed input (orNote p) fun found => ∀ a ∈ found, A a := by
  refine Parser.Ensures.bind ensures fun result holds => ?_
  cases result with
  | ok a => exact .pure fun _ same => Option.some.inj same ▸ holds
  | error error => exact (Parser.addError_ensures holds).seq fun _ => .pure nofun

theorem commaSeparatedWithin_ensures (elements : Ensures allowed input p A) (bound : Nat) :
    Ensures allowed input (commaSeparatedWithin p bound) fun found => ∀ a ∈ found, A a := by
  induction bound with
  | zero => exact Parser.Ensures.exhausted
  | succ bound ih =>
    refine elements.bind fun a holds => .branch ?_ (.pure (List.forall_mem_singleton.2 holds))
    refine ih.bind fun others rest => .pure ?_
    exact List.forall_mem_cons.2 ⟨holds, rest⟩

theorem commaSeparated_ensures (elements : Ensures allowed input p A) :
    Ensures allowed input (commaSeparated p) fun found => ∀ a ∈ found, A a :=
  .skip fun _ => commaSeparatedWithin_ensures elements _

end Sequences

section Tokens

variable {allowed : SyntaxError → Prop} {input : ParserInput} (admits : input.Admits allowed)

include admits

theorem unexpected_ensures {A : α → Prop} (expected : String) :
    Ensures allowed input (unexpected expected) A := by
  refine (Ensures.lift Parser.current_ensures).bind ?_
  rintro _ ⟨place, rfl⟩
  exact throw_ensures (admits.syntactic place _)

theorem expect_ensures (kind : TokenKind) :
    Ensures allowed input (expect kind) fun _ => True :=
  .branch (.pure trivial) (unexpected_ensures admits _)

theorem within_ensures {p : Attempt α} {A : α → Prop} (ensures : Ensures allowed input p A)
    (context : String) : Ensures allowed input (within context p) A := by
  refine Parser.Ensures.bind ensures fun result holds => ?_
  cases result with
  | ok a => exact Parser.Ensures.pure holds
  | error error => exact Parser.Ensures.pure (admits.within context holds)

end Tokens

end Attempt

end QueryLint
