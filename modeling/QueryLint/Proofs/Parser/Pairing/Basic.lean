import Mathlib.Logic.Relation
import QueryLint.Proofs.Parser.Gives

/-!
How reading pairs parentheses. A reading that notes nothing opens and closes as many parentheses as its
production does, one after the other as the tokens stand there, with the exception of tokens that are
taken without a look at them. `Pairs` says of a parser how many parentheses are open where it begins and
where it ends, above those that were open anyway; nothing is said of a reading that notes an error.
-/

namespace QueryLint

open QueryLint.Parser

variable {α β : Type}

/-! ### Tokens that are not looked at -/

/-- The kinds of tokens that are no parentheses. -/
class TokenKind.Unpaired (kind : TokenKind) : Prop where
  ne_leftParen : kind ≠ Symbol.leftParen
  ne_rightParen : kind ≠ Symbol.rightParen

instance (keyword : Keyword) : TokenKind.Unpaired keyword := ⟨nofun, nofun⟩
instance : TokenKind.Unpaired .identifier := ⟨nofun, nofun⟩
instance : TokenKind.Unpaired .string := ⟨nofun, nofun⟩
instance : TokenKind.Unpaired .number := ⟨nofun, nofun⟩
instance : TokenKind.Unpaired Symbol.leftBracket := ⟨nofun, nofun⟩
instance : TokenKind.Unpaired Symbol.rightBracket := ⟨nofun, nofun⟩
instance : TokenKind.Unpaired Symbol.comma := ⟨nofun, nofun⟩
instance : TokenKind.Unpaired Symbol.dot := ⟨nofun, nofun⟩
instance : TokenKind.Unpaired Symbol.star := ⟨nofun, nofun⟩
instance : TokenKind.Unpaired Symbol.arrow := ⟨nofun, nofun⟩
instance : TokenKind.Unpaired Symbol.minus := ⟨nofun, nofun⟩
instance : TokenKind.Unpaired Symbol.semicolon := ⟨nofun, nofun⟩
instance : TokenKind.Unpaired Dialect.BigQuery.forWord := ⟨nofun, nofun⟩

theorem TokenKind.unpaired_of_eq {kind kind' : TokenKind} (same : kind = kind') [kind'.Unpaired] :
    kind.Unpaired :=
  same ▸ inferInstance

theorem Token.unpaired_of_isWord {token : Token} (word : token.isWord = true) :
    token.kind.Unpaired := by
  constructor <;> intro paired <;> simp [Token.isWord, paired, TokenKind.isKeyword] at word

/-- How deep the brackets of a type are nested behind a token. -/
def Token.typeDepth (token : Token) (depth : Int) : Int :=
  match token.kind with
  | .symbol .less => depth + 1
  | .symbol .greater => depth - 1
  | .symbol .shiftRight => depth - 2
  | _ => depth

namespace ParserInput

variable (input : ParserInput)

/-- A type is read from an index on: behind `AS`, or the type of an array or a structure. -/
inductive BeginsType : Nat → Prop
  | converted {i : Nat} (found : (input.token i).kind = Keyword.AS) : BeginsType (input.following i)
  | constructed {i : Nat} {form : OpeningForm}
      (found : input.dialect.openingForm? (input.token i).kind = some form) : BeginsType i

/-- A token belongs to the arguments of a type, which are nested to some depth before it. -/
inductive TypeArgument : Nat → Int → Prop
  | first {i : Nat} (begins : input.BeginsType i)
      (opens : (input.token (input.following i)).kind = Symbol.less) :
      TypeArgument (input.following i) 0
  | next {i : Nat} {depth : Int} (inner : TypeArgument i depth)
      (deep : 0 < (input.token i).typeDepth depth) :
      TypeArgument (input.following i) ((input.token i).typeDepth depth)

/-- The name of a type and its arguments, if it has some, end before an index. -/
inductive EndsType : Nat → Prop
  | named {i : Nat} (found : (input.token i).kind = Keyword.AS)
      (word : (input.token (input.following i)).isWord = true) :
      EndsType (input.following (input.following i))
  | argued {i : Nat} {depth : Int} (inner : input.TypeArgument i depth) : EndsType (input.following i)

inductive TypeParameter : Nat → Prop
  | first {i : Nat} (ends : input.EndsType i) (opens : (input.token i).kind = Symbol.leftParen) :
      TypeParameter (input.following i)
  | next {i : Nat} (inner : TypeParameter i) (open' : (input.token i).kind ≠ Symbol.rightParen) :
      TypeParameter (input.following i)

/-- A token is taken without a look at it: behind a dot, behind `HAVING`, or within a type. -/
inductive Unchecked : Nat → Prop
  | segment {i : Nat} (found : (input.token i).kind = Symbol.dot) : Unchecked (input.following i)
  | extreme {i : Nat} (found : (input.token i).kind = Keyword.HAVING) : Unchecked (input.following i)
  | argument {i : Nat} {depth : Int} (inner : input.TypeArgument i depth) : Unchecked i
  | parameter {i : Nat} (inner : input.TypeParameter i)
      (open' : (input.token i).kind ≠ Symbol.rightParen) : Unchecked i

/-- One token further, with the number of parentheses that are open before and behind it. -/
inductive Step : Nat × Nat → Nat × Nat → Prop
  | passes {i depth : Nat} (unpaired : (input.token i).kind.Unpaired) :
      Step (i, depth) (input.following i, depth)
  | opens {i depth : Nat} (found : (input.token i).kind = Symbol.leftParen) :
      Step (i, depth) (input.following i, depth + 1)
  | closes {i depth : Nat} (found : (input.token i).kind = Symbol.rightParen) :
      Step (i, depth + 1) (input.following i, depth)
  | skips {i depth : Nat} (unchecked : input.Unchecked i) :
      Step (i, depth) (input.following i, depth)

/-- Token by token from an index to another one, with the number of parentheses open at each. -/
def Path (i depth j depth' : Nat) : Prop :=
  Relation.ReflTransGen input.Step (i, depth) (j, depth')

variable {input}

theorem token_following (i : Nat) : input.token (input.following i) = input.token (i + 1) := by
  unfold following
  split
  · rfl
  next last =>
    rw [token_of_le (Nat.not_lt.1 last)]
    by_cases inside : i < input.tokens.size
    · rw [show input.tokens.size - 1 = i by omega]
    · rw [token_of_le (Nat.not_lt.1 inside)]

namespace Path

variable {i j k depth depth' depth'' : Nat}

theorem refl : input.Path i depth i depth := Relation.ReflTransGen.refl

theorem trans (first : input.Path i depth j depth') (second : input.Path j depth' k depth'') :
    input.Path i depth k depth'' :=
  Relation.ReflTransGen.trans first second

theorem step (step : input.Step (i, depth) (j, depth')) : input.Path i depth j depth' :=
  Relation.ReflTransGen.single step

end Path

end ParserInput

/-! ### Readings -/

structure ParserState.Clean (s : ParserState) : Prop where
  errors : s.errors = []
  recovered : s.recovered = []

namespace Parser

/-- A reading that ends in a clean state began in one, and if its result is kept, it took the cursor to
where it ends with as many parentheses opened and closed as the production opens and closes: `before` of
its own are open where it begins, and `after` where it ends. -/
def PairsIf (kept : α → Prop) (input : ParserInput) (s : ParserState) (before : Nat) (p : Parser α)
    (after : Nat) : Prop :=
  ∀ a s', p input s = some (a, s') → s'.Clean → s.Clean ∧
    (kept a → ∀ depth, input.Path s.index (depth + before) s'.index (depth + after))

abbrev Pairs (input : ParserInput) (s : ParserState) (before : Nat) (p : Parser α) (after : Nat) :
    Prop :=
  PairsIf (fun _ => True) input s before p after

section Sequences

variable {kept : α → Prop} {keep : β → Prop} {input : ParserInput} {s : ParserState}
  {before between after : Nat} {p q : Parser α} {f : α → Parser β}

theorem PairsIf.pure {a : α} : PairsIf kept input s before (pure a) before := by
  rintro _ _ ⟨⟩ clean
  exact ⟨clean, fun _ _ => .refl⟩

theorem PairsIf.exhausted : PairsIf kept input s before (exhausted : Parser α) after :=
  fun _ _ => nofun

theorem PairsIf.dropped {a : α} (drops : ¬kept a) :
    PairsIf kept input s before (Pure.pure a) after := by
  rintro _ _ ⟨⟩ clean
  exact ⟨clean, fun keeps => absurd keeps drops⟩

theorem PairsIf.noted {a : α} (noted : ¬s.Clean) : PairsIf kept input s before (Pure.pure a) after := by
  rintro _ _ ⟨⟩ clean
  exact absurd clean noted

theorem PairsIf.never (noted : ∀ a s', p input s = some (a, s') → ¬s'.Clean) :
    PairsIf kept input s before p after :=
  fun a s' run clean => absurd clean (noted a s' run)

theorem Pairs.conditional (pairs : Pairs input s before p after) : PairsIf kept input s before p after :=
  fun a s' run clean => ⟨(pairs a s' run clean).1, fun _ => (pairs a s' run clean).2 trivial⟩

/-- A production that leaves as many parentheses open as it finds does so among more of them. -/
theorem PairsIf.among (pairs : PairsIf kept input s 0 p 0) : PairsIf kept input s before p before :=
  fun a s' run clean => ⟨(pairs a s' run clean).1, fun keeps depth =>
    (pairs a s' run clean).2 keeps (depth + before)⟩

theorem PairsIf.bindWith {known : α → ParserState → Prop} (first : Pairs input s before p between)
    (knows : ∀ a s', p input s = some (a, s') → s'.Clean → known a s')
    (rest : ∀ a s', (s'.Clean → known a s') → PairsIf keep input s' between (f a) after) :
    PairsIf keep input s before (p >>= f) after := by
  intro b u run clean
  obtain ⟨a, t, ran, run⟩ := bind_eq_some run
  obtain ⟨cleanly, path⟩ := rest a t (knows a t ran) b u run clean
  obtain ⟨cleanly', path'⟩ := first a t ran cleanly
  exact ⟨cleanly', fun keeps depth => (path' trivial depth).trans (path keeps depth)⟩

theorem PairsIf.bindKept (first : PairsIf kept input s before p between)
    (rest : ∀ a s', kept a → PairsIf keep input s' between (f a) after)
    (others : ∀ a s' b u, ¬kept a → f a input s' = some (b, u) → ¬u.Clean) :
    PairsIf keep input s before (p >>= f) after := by
  intro b u run clean
  obtain ⟨a, t, ran, run⟩ := bind_eq_some run
  have keeps : kept a := Classical.byContradiction fun drops => others a t b u drops run clean
  obtain ⟨cleanly, path⟩ := rest a t keeps b u run clean
  obtain ⟨cleanly', path'⟩ := first a t ran cleanly
  exact ⟨cleanly', fun keeps' depth => (path' keeps depth).trans (path keeps' depth)⟩

theorem PairsIf.bind (first : Pairs input s before p between)
    (rest : ∀ a s', PairsIf keep input s' between (f a) after) :
    PairsIf keep input s before (p >>= f) after :=
  .bindWith first (fun _ _ _ _ => trivial) fun a s' _ => rest a s'

theorem PairsIf.seq (first : Pairs input s 0 p 0)
    (rest : ∀ a s', PairsIf keep input s' before (f a) after) :
    PairsIf keep input s before (p >>= f) after :=
  PairsIf.bind first.among rest

theorem PairsIf.look {a : α} (looked : p input s = some (a, s))
    (rest : PairsIf keep input s before (f a) after) :
    PairsIf keep input s before (p >>= f) after := by
  intro b u run
  rw [bind_eq looked] at run
  exact rest b u run

theorem PairsIf.ite {condition : Prop} [Decidable condition]
    (yes : condition → PairsIf kept input s before p after)
    (no : ¬condition → PairsIf kept input s before q after) :
    PairsIf kept input s before (if condition then p else q) after := by
  split
  · exact yes ‹_›
  · exact no ‹_›

theorem Pairs.when {p : Parser Unit} (condition : Bool)
    (pairs : condition = true → Pairs input s before p before) :
    Pairs input s before (when condition p) before :=
  PairsIf.ite pairs fun _ => PairsIf.pure

theorem Pairs.discard (pairs : Pairs input s before p after) :
    Pairs input s before (discard p) after :=
  PairsIf.bind pairs fun _ _ => PairsIf.pure

end Sequences

/-! ### Single tokens -/

section Tokens

variable {keep : β → Prop} {input : ParserInput} {s : ParserState} {before between after : Nat}

theorem PairsIf.step {f : Unit → Parser β}
    (step : s.Clean → ∀ depth,
      input.Step (s.index, depth + before) (input.following s.index, depth + between))
    (rest : PairsIf keep input { s with index := input.following s.index } between (f ()) after) :
    PairsIf keep input s before (Parser.advance >>= f) after := by
  intro b u run clean
  obtain ⟨cleanly, path⟩ := rest b u run clean
  have cleanly : s.Clean := ⟨cleanly.errors, cleanly.recovered⟩
  exact ⟨cleanly, fun keeps depth =>
    (ParserInput.Path.step (step cleanly depth)).trans (path keeps depth)⟩

theorem PairsIf.pass {f : Unit → Parser β}
    (step : s.Clean → ∀ depth, input.Step (s.index, depth) (input.following s.index, depth))
    (rest : PairsIf keep input { s with index := input.following s.index } before (f ()) after) :
    PairsIf keep input s before (Parser.advance >>= f) after :=
  .step (fun clean depth => step clean (depth + before)) rest

theorem PairsIf.advance {f : Unit → Parser β} (unpaired : (input.token s.index).kind.Unpaired)
    (rest : ∀ s' : ParserState, s'.index = input.following s.index →
      PairsIf keep input s' before (f ()) after) :
    PairsIf keep input s before (Parser.advance >>= f) after :=
  .pass (fun _ _ => .passes unpaired) (rest _ rfl)

theorem PairsIf.advanceOpen {f : Unit → Parser β}
    (found : (input.token s.index).kind = Symbol.leftParen)
    (rest : ∀ s', PairsIf keep input s' (before + 1) (f ()) after) :
    PairsIf keep input s before (Parser.advance >>= f) after :=
  .step (fun _ _ => .opens found) (rest _)

theorem PairsIf.advanceTwice {f : Unit → Parser β} (unpaired : (input.token s.index).kind.Unpaired)
    (unpaired' : (input.token (s.index + 1)).kind.Unpaired)
    (rest : ∀ s', PairsIf keep input s' before (f ()) after) :
    PairsIf keep input s before (Parser.advance >>= fun _ => Parser.advance >>= f) after := by
  refine .advance unpaired fun s' here => .advance ?_ fun s' _ => rest s'
  rwa [here, ParserInput.token_following]

theorem PairsIf.accept {kind : TokenKind} {f : Bool → Parser β}
    (step : (input.token s.index).kind = kind → ∀ depth,
      input.Step (s.index, depth + before) (input.following s.index, depth + between))
    (yes : (input.token s.index).kind = kind →
      PairsIf keep input { s with index := input.following s.index } between (f true) after)
    (no : (input.token s.index).kind ≠ kind → PairsIf keep input s before (f false) after) :
    PairsIf keep input s before (accept kind >>= f) after := by
  have accepted := @accept_eq input s kind
  by_cases found : (input.token s.index).kind = kind
  · rw [if_pos (beq_iff_eq.2 found)] at accepted
    intro b u run
    rw [bind_eq accepted] at run
    exact PairsIf.step (f := fun _ => f true) (fun _ => step found) (yes found) b u run
  · exact .look (accept_eq_false found) (no found)

theorem PairsIf.acceptPlain {kind : TokenKind} [unpaired : kind.Unpaired] {f : Bool → Parser β}
    (yes : (input.token s.index).kind = kind → ∀ s' : ParserState,
      s'.index = input.following s.index → PairsIf keep input s' before (f true) after)
    (no : (input.token s.index).kind ≠ kind → PairsIf keep input s before (f false) after) :
    PairsIf keep input s before (Parser.accept kind >>= f) after :=
  .accept (fun found _ => .passes (found ▸ unpaired)) (fun found => yes found _ rfl) no

theorem PairsIf.acceptOpen {f : Bool → Parser β}
    (yes : ∀ s', PairsIf keep input s' (before + 1) (f true) after)
    (no : PairsIf keep input s before (f false) after) :
    PairsIf keep input s before (Parser.accept Symbol.leftParen >>= f) after :=
  .accept (fun found _ => .opens found) (fun _ => yes _) fun _ => no

theorem PairsIf.missed {expected : String} {f : Unit → Parser β}
    (rest : ∀ s' : ParserState, ¬s'.Clean → PairsIf keep input s' before (f ()) after)
    {between after' : Nat} :
    PairsIf keep input s between (unexpected expected >>= f) after' := by
  intro b u run clean
  obtain ⟨_, t, noted, run⟩ := bind_eq_some run
  have failed : ¬t.Clean := by
    cases noted
    exact fun clean => absurd clean.errors (by simp)
  exact absurd (rest t failed b u run clean).1 failed

theorem PairsIf.failed {expected : String} {b : β} :
    PairsIf keep input s before (unexpected expected >>= fun _ => Pure.pure b) after :=
  .missed fun s' _ => (PairsIf.pure : PairsIf keep input s' 0 (Pure.pure b) 0)

theorem PairsIf.expect {kind : TokenKind} {f : Bool → Parser β}
    (step : (input.token s.index).kind = kind → ∀ depth,
      input.Step (s.index, depth + before) (input.following s.index, depth + between))
    (yes : ∀ s' : ParserState, PairsIf keep input s' between (f true) after)
    (no : ∀ s' : ParserState, PairsIf keep input s' 0 (f false) 0) :
    PairsIf keep input s before (expect kind >>= f) after := by
  rw [Parser.expect, bind_assoc]
  refine .accept step (fun _ => yes _) fun _ => ?_
  change PairsIf keep input s before ((unexpected kind.text >>= fun _ => Pure.pure false) >>= f) after
  rw [bind_assoc]
  exact .missed fun s' _ => no s'

theorem PairsIf.expected {kind : TokenKind} {f : Unit → Parser β}
    (step : (input.token s.index).kind = kind → ∀ depth,
      input.Step (s.index, depth + before) (input.following s.index, depth + between))
    (rest : ∀ s' : ParserState, (s'.Clean → (input.token s.index).kind = kind ∧
      s'.index = input.following s.index) → PairsIf keep input s' between (f ()) after) :
    PairsIf keep input s before (discard (Parser.expect kind) >>= f) after := by
  change PairsIf keep input s before ((Parser.expect kind >>= fun _ => Pure.pure ()) >>= f) after
  rw [bind_assoc, Parser.expect, bind_assoc]
  refine .accept step (fun found => rest _ fun _ => ⟨found, rfl⟩) fun _ => ?_
  change PairsIf keep input s before ((unexpected kind.text >>= fun _ => Pure.pure false) >>= _) after
  rw [bind_assoc]
  exact .missed fun s' failed => rest s' fun clean => absurd clean failed

theorem PairsIf.expectedPlain {kind : TokenKind} [unpaired : kind.Unpaired] {f : Unit → Parser β}
    (rest : ∀ s', PairsIf keep input s' before (f ()) after) :
    PairsIf keep input s before (discard (Parser.expect kind) >>= f) after :=
  .expected (fun found _ => .passes (found ▸ unpaired)) fun s' _ => rest s'

theorem PairsIf.expectedOpen {f : Unit → Parser β}
    (rest : ∀ s', PairsIf keep input s' (before + 1) (f ()) after) :
    PairsIf keep input s before (discard (Parser.expect Symbol.leftParen) >>= f) after :=
  .expected (fun found _ => .opens found) fun s' _ => rest s'

theorem PairsIf.expectedClose {f : Unit → Parser β}
    (rest : ∀ s', PairsIf keep input s' before (f ()) after) :
    PairsIf keep input s (before + 1) (discard (Parser.expect Symbol.rightParen) >>= f) after :=
  .expected (fun found _ => .closes found) fun s' _ => rest s'

theorem PairsIf.check {kind : TokenKind} {f : Bool → Parser β}
    (yes : (input.token s.index).kind = kind → PairsIf keep input s before (f true) after)
    (no : (input.token s.index).kind ≠ kind → PairsIf keep input s before (f false) after) :
    PairsIf keep input s before (check kind >>= f) after := by
  refine .look (check_eq kind) ?_
  cases found : (input.token s.index).kind == kind with
  | true => exact yes (beq_iff_eq.1 found)
  | false => exact no (beq_eq_false_iff_ne.1 found)

theorem PairsIf.checkWord {word : String} {f : Bool → Parser β}
    (yes : (input.token s.index).kind = .identifier → PairsIf keep input s before (f true) after)
    (no : PairsIf keep input s before (f false) after) :
    PairsIf keep input s before (checkWord word >>= f) after := by
  refine .look (a := (input.token s.index).kind == .identifier && (input.token s.index).spells word)
    rfl ?_
  cases found : (input.token s.index).kind == .identifier && (input.token s.index).spells word with
  | true => exact yes (beq_iff_eq.1 (Bool.and_eq_true_iff.1 found).1)
  | false => exact no

end Tokens

/-! ### Parsers without parentheses -/

/-- A parser that takes no parenthesis. -/
class Flat (p : Parser α) : Prop where
  pairs : ∀ input s, Pairs input s 0 p 0

section Flatness

variable {kept : α → Prop} {keep : β → Prop} {input : ParserInput} {s : ParserState}
  {before after : Nat} {p : Parser α} {f : α → Parser β}

theorem PairsIf.flat [flat : Flat p] : PairsIf kept input s before p before :=
  Pairs.conditional (PairsIf.among (flat.pairs input s))

theorem PairsIf.skip [Flat p] (rest : ∀ a s', PairsIf keep input s' before (f a) after) :
    PairsIf keep input s before (p >>= f) after :=
  .bind .flat rest

end Flatness

namespace Flat

instance pure (a : α) : Flat (Pure.pure a : Parser α) := ⟨fun _ _ => PairsIf.pure⟩

instance bind {p : Parser α} {f : α → Parser β} [first : Flat p] [rest : ∀ a, Flat (f a)] :
    Flat (p >>= f) := ⟨fun input s => .bind (first.pairs input s) fun a s' => (rest a).pairs input s'⟩

instance ite {condition : Prop} [Decidable condition] {p q : Parser α} [Flat p] [Flat q] :
    Flat (if condition then p else q) := by
  split <;> infer_instance


theorem of_look {p : Parser α} {look : ParserInput → ParserState → α}
    (looks : ∀ input s, p input s = some (look input s, s)) : Flat p where
  pairs input s a s' run clean := by
    rw [looks] at run
    cases run
    exact ⟨clean, fun _ _ => .refl⟩

instance input : Flat Parser.input := of_look fun _ _ => rfl
instance state : Flat Parser.state := of_look fun _ _ => rfl
instance current : Flat Parser.current := of_look fun _ _ => rfl
instance lookahead : Flat Parser.lookahead := of_look fun _ _ => rfl
instance remaining : Flat Parser.remaining := of_look fun _ _ => rfl
instance previousEnd : Flat Parser.previousEnd := of_look fun _ _ => rfl
instance position : Flat Parser.position := bind
instance index : Flat Parser.index := bind
instance dialect : Flat Parser.dialect := bind
instance mark : Flat Parser.mark := bind
instance failedSince (mark : Nat) : Flat (Parser.failedSince mark) := bind
instance check (kind : TokenKind) : Flat (Parser.check kind) := bind
instance spanFrom (start : Position) : Flat (Parser.spanFrom start) := bind

instance accept (kind : TokenKind) [kind.Unpaired] : Flat (Parser.accept kind) :=
  ⟨fun _ _ => PairsIf.check
    (fun found => .advance (TokenKind.unpaired_of_eq found) fun _ _ => PairsIf.pure)
    fun _ => PairsIf.pure⟩

instance addError (error : SyntaxError) : Flat (Parser.addError error) where
  pairs input s _ s' := by
    rintro ⟨⟩ clean
    exact absurd clean.errors (by simp)

instance fault (what : SyntaxFault) : Flat (Parser.fault what) := bind

instance unexpected (expected : String) : Flat (Parser.unexpected expected) := bind

instance expect (kind : TokenKind) [kind.Unpaired] : Flat (Parser.expect kind) := bind

instance discard {p : Parser α} [Flat p] : Flat (Functor.discard p) :=
  bind (p := p) (f := fun _ => Pure.pure ())

instance when (condition : Bool) {p : Parser Unit} [Flat p] : Flat (Parser.when condition p) := ite

end Flat

/-! ### Lists -/

section Lists

variable {input : ParserInput} {s : ParserState}

theorem repeated_pairs {step : Parser (Option α)} (steps : ∀ s, Pairs input s 0 step 0)
    (bound : Nat) : Pairs input s 0 (repeated step bound) 0 := by
  induction bound generalizing s with
  | zero => exact .exhausted
  | succ bound ih =>
    refine .bind (steps s) fun found s' => ?_
    cases found with
    | none => exact .pure
    | some a => exact .bind ih fun _ _ => .pure

theorem chain_pairs {step : Parser (α × Bool)} (steps : ∀ s, Pairs input s 0 step 0)
    (bound : Nat) : Pairs input s 0 (chain step bound) 0 := by
  induction bound generalizing s with
  | zero => exact .exhausted
  | succ bound ih =>
    refine .bind (steps s) fun found s' => .ite (fun _ => ?_) fun _ => .pure
    exact .bind ih fun _ _ => .pure

theorem commaSeparated_pairs {element : Parser α} (elements : ∀ s, Pairs input s 0 element 0) :
    Pairs input s 0 (commaSeparated element) 0 := by
  refine .skip fun mark s => .skip fun _ s => chain_pairs (fun s => ?_) _
  exact .bind (elements s) fun _ _ => .flat

end Lists

end Parser

/-! ### Answers -/

namespace Parser

/-- Every answer of a parser that ends in a clean state satisfies a predicate. -/
def Shows (input : ParserInput) (p : Parser α) (Q : α → Prop) : Prop :=
  ∀ s a s', p input s = some (a, s') → s'.Clean → Q a

section Answers

variable {input : ParserInput} {p q : Parser α} {f : α → Parser β} {A : α → Prop} {Q : β → Prop}

theorem Shows.pure {b : β} (holds : Q b) : Shows input (pure b) Q := by
  rintro s _ _ ⟨⟩ _
  exact holds

theorem Shows.seq (rest : ∀ a, Shows input (f a) Q) : Shows input (p >>= f) Q := by
  intro s b s' run clean
  obtain ⟨a, t, _, run⟩ := bind_eq_some run
  exact rest a t b s' run clean

theorem Shows.bind (before after : Nat) (first : Shows input p A)
    (grows : ∀ a s, PairsIf (fun _ => False) input s before (f a) after)
    (rest : ∀ a, A a → Shows input (f a) Q) : Shows input (p >>= f) Q := by
  intro s b s' run clean
  obtain ⟨a, t, ran, run⟩ := bind_eq_some run
  exact rest a (first s a t ran (grows a t b s' run clean).1) t b s' run clean

theorem Shows.ite {condition : Prop} [Decidable condition] (yes : condition → Shows input p A)
    (no : ¬condition → Shows input q A) : Shows input (if condition then p else q) A := by
  split
  · exact yes ‹_›
  · exact no ‹_›

theorem Shows.exhausted : Shows input (exhausted : Parser α) A := fun _ _ _ => nofun

theorem Shows.noted {p : Parser Unit} (notes : ∀ s s', p input s = some ((), s') → ¬s'.Clean) {b : β} :
    Shows input (p >>= fun _ => Pure.pure b) Q := by
  intro s a s' run clean
  obtain ⟨_, t, noted, ⟨⟩⟩ := bind_eq_some run
  exact absurd clean (notes s _ noted)

theorem Shows.fault {what : SyntaxFault} {b : β} :
    Shows input (fault what >>= fun _ => Pure.pure b) Q := by
  refine .noted fun s s' run clean => ?_
  cases run
  exact absurd clean.errors (by simp)

theorem Shows.failed {expected : String} {b : β} :
    Shows input (unexpected expected >>= fun _ => Pure.pure b) Q := by
  refine .noted fun s s' run clean => ?_
  cases run
  exact absurd clean.errors (by simp)

end Answers

end Parser

/-! ### Readers that stop -/

namespace Attempt

open QueryLint.Parser (PairsIf Flat bind_eq_some)

abbrev Pairs (input : ParserInput) (s : ParserState) (before : Nat) (p : Attempt α) (after : Nat) :
    Prop :=
  PairsIf (fun result => ∃ a, result = .ok a) input s before p.run after

section Sequences

variable {input : ParserInput} {s : ParserState} {before between after : Nat} {p q : Attempt α}
  {f : α → Attempt β}

theorem Pairs.pure {a : α} : Pairs input s before (pure a) before := PairsIf.pure

theorem throw_pairs {error : SyntaxError} : Pairs input s before (throw error : Attempt α) after := by
  rintro _ _ ⟨⟩ clean
  exact ⟨clean, nofun⟩

theorem Pairs.bind (first : Pairs input s before p between)
    (rest : ∀ a s', Pairs input s' between (f a) after) :
    Pairs input s before (p >>= f) after := by
  intro result u run clean
  obtain ⟨found, t, ran, run⟩ := bind_eq_some run
  cases found with
  | error error =>
    cases run
    exact ⟨(first _ _ ran clean).1, nofun⟩
  | ok a =>
    obtain ⟨cleanly, path⟩ := rest a t result u run clean
    obtain ⟨cleanly', path'⟩ := first _ t ran cleanly
    exact ⟨cleanly', fun keeps depth => (path' ⟨a, rfl⟩ depth).trans (path keeps depth)⟩

theorem Pairs.seq (first : Pairs input s 0 p 0) (rest : ∀ a s', Pairs input s' before (f a) after) :
    Pairs input s before (p >>= f) after :=
  Pairs.bind (PairsIf.among first) rest

/-- What a reader does with the answer of a parser is what the parser does that it is. -/
theorem Pairs.lifted {q : Parser α}
    (pairs : PairsIf (fun result => ∃ b, result = .ok b) input s before (q >>= fun a => (f a).run)
      after) : Pairs input s before (liftM q >>= f) after := by
  rwa [Pairs, run_lift_bind]

theorem Pairs.lift {q : Parser α} (pairs : Parser.Pairs input s before q after) :
    Pairs input s before (liftM q) after :=
  PairsIf.bind pairs fun _ _ => PairsIf.pure

theorem Pairs.skip {q : Parser α} [Flat q] (rest : ∀ a s', Pairs input s' before (f a) after) :
    Pairs input s before (liftM q >>= f) after :=
  .bind (.lift .flat) rest

theorem Pairs.look {q : Parser α} {a : α} (looked : q input s = some (a, s))
    (rest : Pairs input s before (f a) after) : Pairs input s before (liftM q >>= f) after :=
  .lifted (.look looked rest)

theorem Pairs.ite {condition : Prop} [Decidable condition]
    (yes : condition → Pairs input s before p after) (no : ¬condition → Pairs input s before q after) :
    Pairs input s before (if condition then p else q) after := by
  split
  · exact yes ‹_›
  · exact no ‹_›

theorem Pairs.advance {f : Unit → Attempt β} (unpaired : (input.token s.index).kind.Unpaired)
    (rest : ∀ s' : ParserState, s'.index = input.following s.index →
      Pairs input s' before (f ()) after) :
    Pairs input s before (liftM Parser.advance >>= f) after :=
  .lifted (.advance unpaired rest)

theorem Pairs.advanceOpen {f : Unit → Attempt β}
    (found : (input.token s.index).kind = Symbol.leftParen)
    (rest : ∀ s', Pairs input s' (before + 1) (f ()) after) :
    Pairs input s before (liftM Parser.advance >>= f) after :=
  .lifted (.advanceOpen found rest)

theorem Pairs.acceptOpen {f : Bool → Attempt β}
    (yes : ∀ s', Pairs input s' (before + 1) (f true) after)
    (no : Pairs input s before (f false) after) :
    Pairs input s before (liftM (Parser.accept Symbol.leftParen) >>= f) after :=
  .lifted (.acceptOpen yes no)

theorem within_pairs (pairs : Pairs input s before p after) (context : String) :
    Pairs input s before (within context p) after := by
  intro result u run clean
  obtain ⟨found, t, ran, run⟩ := bind_eq_some run
  cases found with
  | error error =>
    cases run
    exact ⟨(pairs _ _ ran clean).1, nofun⟩
  | ok a =>
    cases run
    exact ⟨(pairs _ _ ran clean).1, fun _ => (pairs _ _ ran clean).2 ⟨a, rfl⟩⟩

theorem complete_pairs {q : Parser α} (pairs : Parser.Pairs input s before q after) :
    Pairs input s before (complete q) after := by
  refine .look rfl (.bind (.lift pairs) fun a t => .look rfl ?_)
  split
  · exact throw_pairs
  · exact .pure

theorem orNote_pairs (pairs : Pairs input s before p after) :
    Parser.Pairs input s before (orNote p) after := by
  intro found u run clean
  obtain ⟨result, t, ran, run⟩ := bind_eq_some run
  cases result with
  | error error =>
    cases run
    exact absurd clean.errors (by simp)
  | ok a =>
    cases run
    exact ⟨(pairs _ _ ran clean).1, fun _ => (pairs _ _ ran clean).2 ⟨a, rfl⟩⟩

theorem orNote_isSome {found : Option α} {s' : ParserState}
    (run : orNote p input s = some (found, s')) (clean : s'.Clean) : found.isSome = true := by
  obtain ⟨result, t, ran, run⟩ := bind_eq_some run
  cases result with
  | error error =>
    cases run
    exact absurd clean.errors (by simp)
  | ok a =>
    cases run
    rfl

end Sequences

section Tokens

variable {input : ParserInput} {s : ParserState} {before between after : Nat} {f : Unit → Attempt β}

theorem unexpected_pairs (expected : String) :
    Pairs input s before (unexpected expected : Attempt α) after :=
  .look rfl throw_pairs

theorem expect_pairs {kind : TokenKind}
    (step : (input.token s.index).kind = kind → ∀ depth,
      input.Step (s.index, depth + before) (input.following s.index, depth + after)) :
    Pairs input s before (expect kind) after :=
  .lifted (.accept step (fun _ => PairsIf.pure) fun _ => unexpected_pairs kind.text)

theorem expect_flat {kind : TokenKind} [unpaired : kind.Unpaired] :
    Pairs input s before (expect kind) before :=
  expect_pairs fun found _ => .passes (found ▸ unpaired)

theorem expect_open : Pairs input s before (expect Symbol.leftParen) (before + 1) :=
  expect_pairs fun found _ => .opens found

theorem expect_close : Pairs input s (before + 1) (expect Symbol.rightParen) before :=
  expect_pairs fun found _ => .closes found

theorem identifier_pairs : Pairs input s 0 identifier 0 := by
  refine .look rfl (.ite (fun word => ?_) fun _ => unexpected_pairs _)
  exact .lifted (.advance (Token.unpaired_of_isWord word) fun _ _ => PairsIf.pure)

end Tokens

section Lists

variable {input : ParserInput} {s : ParserState} {element : Attempt α}

theorem commaSeparatedWithin_pairs (elements : ∀ s, Pairs input s 0 element 0) (bound : Nat) :
    Pairs input s 0 (commaSeparatedWithin element bound) 0 := by
  induction bound generalizing s with
  | zero => exact PairsIf.exhausted
  | succ bound ih =>
    refine .bind (elements s) fun a s => .skip fun more s => .ite (fun _ => ?_) fun _ => .pure
    exact .bind ih fun _ _ => .pure

theorem commaSeparated_pairs (elements : ∀ s, Pairs input s 0 element 0) :
    Pairs input s 0 (commaSeparated element) 0 :=
  .skip fun _ _ => commaSeparatedWithin_pairs elements _

end Lists

section Answers

open QueryLint.Parser (Shows)

abbrev Shows (input : ParserInput) (p : Attempt α) (A : α → Prop) : Prop :=
  Parser.Shows input p.run fun result => ∀ a, result = .ok a → A a

variable {input : ParserInput} {p q : Attempt α} {f : α → Attempt β} {A : α → Prop} {Q : β → Prop}

theorem Shows.pure {b : β} (holds : Q b) : Shows input (pure b) Q :=
  Parser.Shows.pure fun _ same => Except.ok.inj same ▸ holds

theorem Shows.seq (rest : ∀ a, Shows input (f a) Q) : Shows input (p >>= f) Q := by
  refine Parser.Shows.seq fun result => ?_
  cases result with
  | error error => exact Parser.Shows.pure nofun
  | ok a => exact rest a

theorem Shows.throw {error : SyntaxError} : Shows input (throw error : Attempt α) A :=
  Parser.Shows.pure nofun

theorem orNote_shows (shows : Shows input p A) :
    Parser.Shows input (orNote p) fun found => ∃ a, found = some a ∧ A a := by
  intro s found s' run clean
  obtain ⟨result, t, ran, run⟩ := bind_eq_some run
  cases result with
  | error error =>
    cases run
    exact absurd clean.errors (by simp)
  | ok a =>
    cases run
    exact ⟨a, rfl, shows s _ _ ran clean a rfl⟩

end Answers

end Attempt

end QueryLint
