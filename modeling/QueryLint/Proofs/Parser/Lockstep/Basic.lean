import QueryLint.Proofs.Syntax.Relocated
import QueryLint.Proofs.Parser.Gives
import QueryLint.Proofs.Parser.Nesting

/-!
Two inputs read side by side. An excerpt is an input whose tokens stand, up to their places, in another
input, from some token on. The other input either ends with it or goes on with a semicolon where the
excerpt ends. As long as both readings are at the same token of the excerpt, they note the same and
give back the same, up to places; where the second input goes on, this is said of readings of the first
one that note nothing.

What a production may look at depends on how many tokens of the excerpt are known to be ahead of it,
and where its spans end on whether a token has been read. Both are known of a state in stages: a
production `Agrees` from a stage on, and it `Needs` a token if it notes an error where there is none.
-/

namespace QueryLint

open QueryLint.Parser

/-! ### Excerpts -/

/-- The kinds of tokens that neither end an input nor a statement. -/
class TokenKind.Medial (kind : TokenKind) : Prop where
  ne_endOfInput : kind ≠ .endOfInput
  ne_semicolon : kind ≠ Symbol.semicolon

instance (keyword : Keyword) : TokenKind.Medial keyword := ⟨nofun, nofun⟩
instance : TokenKind.Medial .identifier := ⟨nofun, nofun⟩
instance : TokenKind.Medial .string := ⟨nofun, nofun⟩
instance : TokenKind.Medial .number := ⟨nofun, nofun⟩
instance : TokenKind.Medial Symbol.leftParen := ⟨nofun, nofun⟩
instance : TokenKind.Medial Symbol.rightParen := ⟨nofun, nofun⟩
instance : TokenKind.Medial Symbol.leftBracket := ⟨nofun, nofun⟩
instance : TokenKind.Medial Symbol.rightBracket := ⟨nofun, nofun⟩
instance : TokenKind.Medial Symbol.comma := ⟨nofun, nofun⟩
instance : TokenKind.Medial Symbol.dot := ⟨nofun, nofun⟩
instance : TokenKind.Medial Symbol.star := ⟨nofun, nofun⟩
instance : TokenKind.Medial Symbol.arrow := ⟨nofun, nofun⟩
instance : TokenKind.Medial Symbol.less := ⟨nofun, nofun⟩
instance : TokenKind.Medial Symbol.minus := ⟨nofun, nofun⟩
instance : TokenKind.Medial Dialect.BigQuery.forWord := ⟨nofun, nofun⟩

/-- Tokens that end an input or a statement. -/
structure Token.Final (token : Token) : Prop where
  kind : token.kind = .endOfInput ∨ token.kind = Symbol.semicolon
  literal : token.literal = [] ∨ token.literal = [0x3B]

namespace Token.Final

variable {token : Token} (final : token.Final)

include final

theorem isWord : token.isWord = false := by
  obtain ends | ends := final.kind <;> simp [Token.isWord, ends, TokenKind.isKeyword]

theorem kind_beq (kind : TokenKind) [medial : kind.Medial] : (token.kind == kind) = false := by
  rw [beq_eq_false_iff_ne]
  obtain ends | ends := final.kind <;> rw [ends]
  · exact medial.ne_endOfInput.symm
  · exact medial.ne_semicolon.symm

theorem spells {word : String} (unlike : Text.sameIgnoringCase "" word = false)
    (unlike' : Text.sameIgnoringCase ";" word = false) : token.spells word = false := by
  obtain empty | semicolon := final.literal
  · rwa [Token.spells, Token.text, empty]
  · rwa [Token.spells, Token.text, semicolon]

end Token.Final

/-- An input that stands in another one. -/
structure Excerpt where
  first : ParserInput
  second : ParserInput
  /-- How many tokens of the second input stand before the excerpt. -/
  shift : Nat
  /-- The index of the token that ends the first input. -/
  last : Nat
  /-- Two values are alike if these maps of positions make them equal. -/
  place : Position → Position
  place' : Position → Position
  /-- The second input goes on with a semicolon where the first one ends. -/
  cut : Prop
  /-- Readings that note errors are compared as well. -/
  lax : Prop
  dialect : first.dialect = .bigQuery
  dialect' : second.dialect = .bigQuery
  unset : place {} = place' {}
  twin : place' = place ∨ place' = id
  size : first.tokens.size = last + 1
  nonempty : lax ∨ 0 < last
  room : shift + last < second.tokens.size
  whole : ¬cut → second.tokens.size = shift + last + 1
  tokens : ∀ i ≤ last, (cut → i < last) →
    relocate place (first.token i) = relocate place' (second.token (shift + i))
  ends : ∀ i ≤ last, (first.token i).kind = .endOfInput ↔ i = last
  seam : cut → (first.token last).Final ∧ (second.token (shift + last)).Final
  dotless : cut → ∀ i, i + 1 = last → (first.token i).kind ≠ Symbol.dot
  queries : ∀ i ≤ last, second.startsQuery (shift + i) = first.startsQuery i
  strict : lax → shift = 0 ∧ ¬cut
  closings : lax → ∀ i, second.closing? i = first.closing? i
  touches : ∀ i j, i < j → j < last →
    (first.token i).kind = Symbol.minus ∨ (first.token j).kind = Symbol.minus →
    ((first.token j).span.start.offset = (first.token i).span.stop.offset ↔
      (second.token (shift + j)).span.start.offset = (second.token (shift + i)).span.stop.offset)

namespace Excerpt

variable (x : Excerpt) {α : Type} [Located α]

@[simp] abbrev Alike (a b : α) : Prop := relocate x.place a = relocate x.place' b

theorem exists_alike (a : α) : ∃ b, x.Alike a b := by
  obtain same | same := x.twin
  · exact ⟨a, by rw [Alike, same]⟩
  · exact ⟨relocate x.place a, by rw [Alike, same, relocate_id]⟩

variable {x}

theorem eq_of_alike [Placeless α] {a b : α} (alike : x.Alike a b) : a = b := by
  rwa [Alike, Placeless.relocate_eq, Placeless.relocate_eq] at alike

theorem token_eq_of_alike {token token' : Token} (alike : x.Alike token token') :
    token' = { token with span := token'.span } ∧
      token.span.relocate x.place = token'.span.relocate x.place' := by
  obtain ⟨kind, literal, span, quoted⟩ := token
  obtain ⟨kind', literal', span', quoted'⟩ := token'
  obtain ⟨rfl, rfl, spans, rfl⟩ := Token.mk.inj alike
  exact ⟨rfl, spans⟩

theorem length_eq_of_alike {as bs : List α} (alike : x.Alike as bs) : bs.length = as.length := by
  have lengths := congrArg List.length alike
  simpa [relocate] using lengths.symm

theorem isEmpty_eq_of_alike {as bs : List α} (alike : x.Alike as bs) : bs.isEmpty = as.isEmpty := by
  have lengths := length_eq_of_alike alike
  cases as <;> cases bs <;> simp_all

theorem getElem?_alike {as bs : List α} (alike : x.Alike as bs) (i : Nat) : x.Alike as[i]? bs[i]? := by
  have found := congrArg (·[i]?) alike
  simp only [relocate, List.getElem?_map] at found
  exact found

theorem alike_append {as as' bs bs' : List α} (alike : x.Alike as bs) (alike' : x.Alike as' bs') :
    x.Alike (as ++ as') (bs ++ bs') := by
  rw [Alike, relocate_append, relocate_append, alike, alike']

theorem take_alike {as bs : List α} (alike : x.Alike as bs) (n : Nat) :
    x.Alike (as.take n) (bs.take n) := by
  have taken := congrArg (List.take n) alike
  simp only [relocate, ← List.map_take] at taken
  exact taken

theorem drop_alike {as bs : List α} (alike : x.Alike as bs) (n : Nat) :
    x.Alike (as.drop n) (bs.drop n) := by
  have dropped := congrArg (List.drop n) alike
  simp only [relocate, ← List.map_drop] at dropped
  exact dropped

theorem token_alike {i : Nat} (inside : x.cut → i < x.last) :
    x.Alike (x.first.token i) (x.second.token (x.shift + i)) := by
  have size := x.size
  by_cases within : i ≤ x.last
  · exact x.tokens i within inside
  · have whole := x.whole fun cut => within (Nat.le_of_lt (inside cut))
    rw [ParserInput.token_of_le (by omega), ParserInput.token_of_le (i := x.shift + i) (by omega),
      size, whole]
    exact x.tokens x.last (Nat.le_refl _) fun cut => absurd (Nat.le_of_lt (inside cut)) within

theorem startsQuery_eq {i : Nat} (inside : x.cut → i ≤ x.last) :
    x.second.startsQuery (x.shift + i) = x.first.startsQuery i := by
  by_cases within : i ≤ x.last
  · exact x.queries i within
  · have size := x.size
    have whole := x.whole fun cut => within (inside cut)
    have beyond : x.first.rest i = [] := List.drop_eq_nil_of_le (by rw [Array.length_toList]; omega)
    have beyond' : x.second.rest (x.shift + i) = [] :=
      List.drop_eq_nil_of_le (by rw [Array.length_toList]; omega)
    rw [ParserInput.startsQuery, ParserInput.startsQuery, beyond, beyond']

theorem final_first {i : Nat} (last : i = x.last) (cut : x.cut) : (x.first.token i).Final :=
  last ▸ (x.seam cut).1

theorem final_second {i : Nat} (last : i = x.last) (cut : x.cut) :
    (x.second.token (x.shift + i)).Final :=
  last ▸ (x.seam cut).2

/-! ### States -/

variable (x)

/-- A state that is compared: readings of an excerpt that is cut count only if they note nothing. -/
def Counts (s : ParserState) : Prop := x.lax ∨ (s.errors = [] ∧ s.recovered = [])

/-- Both readings are at the same token of the excerpt and have noted the same. -/
structure Level (s s' : ParserState) : Prop where
  index : s'.index = x.shift + s.index
  within : s.index ≤ x.last
  errors : x.Alike s.errors s'.errors
  recovered : x.Alike s.recovered s'.recovered

/-- The token before the current one belongs to the excerpt. -/
def Started (s : ParserState) : Prop := x.lax ∨ 0 < s.index

structure Together (s s' : ParserState) : Prop extends x.Level s s' where
  started : x.Started s

def Ahead (ahead : Nat) (s : ParserState) : Prop := x.cut → s.index + ahead ≤ x.last

variable {x} {s s' : ParserState}

theorem counts_strict (strict : ¬x.lax) (counts : x.Counts s) : s.errors = [] ∧ s.recovered = [] :=
  counts.resolve_left strict

theorem Ahead.of_le {k k' : Nat} (ahead : x.Ahead k s) (fewer : k' ≤ k) : x.Ahead k' s :=
  fun cut => Nat.le_trans (Nat.add_le_add_left fewer _) (ahead cut)

theorem Level.ahead (level : x.Level s s') : x.Ahead 0 s := fun _ => level.within

theorem Level.token (level : x.Level s s') {k : Nat} (ahead : x.Ahead (k + 1) s) :
    x.Alike (x.first.token (s.index + k)) (x.second.token (s'.index + k)) := by
  rw [level.index, Nat.add_assoc]
  exact token_alike ahead

theorem Level.here (level : x.Level s s') (ahead : x.Ahead 1 s) :
    x.Alike (x.first.token s.index) (x.second.token s'.index) :=
  level.token (k := 0) ahead

theorem Level.final (level : x.Level s s') {k : Nat} (last : s.index + k = x.last) (cut : x.cut) :
    (x.first.token (s.index + k)).Final ∧ (x.second.token (s'.index + k)).Final := by
  rw [level.index, Nat.add_assoc]
  exact ⟨final_first last cut, final_second last cut⟩

theorem Level.token_cases (level : x.Level s s') {k : Nat} (ahead : x.Ahead k s) :
    x.Ahead (k + 1) s ∨
      x.cut ∧ (x.first.token (s.index + k)).Final ∧ (x.second.token (s'.index + k)).Final := by
  by_cases last : x.cut ∧ s.index + k = x.last
  · exact .inr ⟨last.1, level.final last.2 last.1⟩
  · refine .inl fun cut => ?_
    have within := ahead cut
    have before : s.index + k ≠ x.last := fun same => last ⟨cut, same⟩
    omega

theorem Level.kind_beq (level : x.Level s s') {k : Nat} (ahead : x.Ahead k s) (kind : TokenKind)
    [kind.Medial] : ((x.second.token (s'.index + k)).kind == kind) =
      ((x.first.token (s.index + k)).kind == kind) := by
  obtain ahead | ⟨cut, final, final'⟩ := level.token_cases ahead
  · rw [(token_eq_of_alike (level.token ahead)).1]
  · rw [final.kind_beq, final'.kind_beq]

theorem Level.more (level : x.Level s s') {kind : TokenKind} [medial : kind.Medial]
    (found : (x.first.token s.index).kind = kind) : s.index < x.last := by
  refine Nat.lt_of_le_of_ne level.within fun last => ?_
  rw [(x.ends s.index level.within).2 last] at found
  exact medial.ne_endOfInput found.symm

theorem Level.failed (level : x.Level s s') (mark : Nat) :
    decide (mark < s'.errors.length) = decide (mark < s.errors.length) := by
  rw [length_eq_of_alike level.errors]

theorem Level.advance (level : x.Level s s') (before : x.cut → s.index < x.last) :
    x.Together { s with index := x.first.following s.index }
      { s' with index := x.second.following s'.index } := by
  have size := x.size
  have room := x.room
  have index := level.index
  have within := level.within
  by_cases inside : s.index < x.last
  · have next : x.first.following s.index = s.index + 1 := if_pos (by omega)
    have next' : x.second.following s'.index = s'.index + 1 := if_pos (by omega)
    refine ⟨⟨?_, ?_, level.errors, level.recovered⟩, .inr ?_⟩ <;> simp only [next, next'] <;> omega
  · have whole := x.whole fun cut => inside (before cut)
    have stays : x.first.following s.index = s.index := if_neg (by omega)
    have stays' : x.second.following s'.index = s'.index := if_neg (by omega)
    refine ⟨⟨?_, ?_, level.errors, level.recovered⟩, x.nonempty.imp_right fun _ => ?_⟩ <;>
      simp only [stays, stays'] <;> omega

end Excerpt

/-! ### Productions that agree -/

namespace Parser

section Relations

variable {α : Type} [Located α] (x : Excerpt)

/-- A parser of the first input and one of the second input that read the same from every state of a
stage: whether the token before it was read, and how many tokens are known to be ahead of it. It is
said of the results that are kept. -/
structure AgreesIf (kept : α → Prop) (started : Bool) (ahead : Nat) (p q : Parser α) : Prop where
  grows : ∀ s a t, p x.first s = some (a, t) → x.Counts t → x.Counts s
  agree : ∀ s s', x.Level s s' → (started = true → x.Started s) → x.Ahead ahead s →
    ∀ a t b u, p x.first s = some (a, t) → q x.second s' = some (b, u) → x.Counts t → kept a →
      x.Together t u ∧ x.Alike a b

abbrev Agrees (started : Bool) (ahead : Nat) (p q : Parser α) : Prop :=
  AgreesIf x (fun _ => True) started ahead p q

/-- Parsers that read the same, from the first token on. Where the excerpt is cut before it, the
first one notes an error. -/
structure Needs (p q : Parser α) : Prop where
  ahead : Agrees x false 1 p q
  demands : x.cut → ∀ s a t, s.index = x.last → p x.first s = some (a, t) → ¬x.Counts t

end Relations

variable {α β : Type} [Located α] [Located β] {x : Excerpt} {kept : α → Prop} {keep : β → Prop}
  {started : Bool} {ahead : Nat}

section Sequences

variable {p q : Parser α} {f g : α → Parser β}

/-- Where no token is known to be ahead, a result has to be ruled out where the excerpt is cut. -/
theorem AgreesIf.of_ahead (inside : AgreesIf x kept started 1 p q)
    (demands : x.cut → ∀ s a t, s.index = x.last → p x.first s = some (a, t) → x.Counts t → ¬kept a) :
    AgreesIf x kept started ahead p q where
  grows := inside.grows
  agree s s' level was _ a t b u run run' counts keeps := by
    refine inside.agree s s' level was (fun cut => ?_) a t b u run run' counts keeps
    refine Nat.lt_of_le_of_ne level.within fun last => ?_
    exact demands cut s a t last run counts keeps

theorem AgreesIf.weaken {started' : Bool} {ahead' : Nat} (agrees : AgreesIf x kept started' ahead' p q)
    (read : started' = true → started = true) (fewer : ahead' ≤ ahead) :
    AgreesIf x kept started ahead p q where
  grows := agrees.grows
  agree s s' level was ahead := agrees.agree s s' level (fun is => was (read is)) (ahead.of_le fewer)

theorem AgreesIf.within {ahead' : Nat} (agrees : AgreesIf x kept false ahead' p q)
    (fewer : ahead' ≤ ahead) :
    AgreesIf x kept started ahead p q :=
  agrees.weaken nofun fewer

theorem AgreesIf.any (agrees : AgreesIf x kept true 0 p q) : AgreesIf x kept true ahead p q :=
  agrees.weaken id (Nat.zero_le _)

theorem AgreesIf.of_final (inside : AgreesIf x kept true 1 p q) {a b : α} (alike : x.Alike a b)
    (ended : ∀ s, (x.first.token s.index).Final → p x.first s = some (a, s))
    (ended' : ∀ s, (x.second.token s.index).Final → q x.second s = some (b, s)) :
    AgreesIf x kept true 0 p q where
  grows := inside.grows
  agree s s' level was _ c t d u run run' counts keeps := by
    obtain ahead | ⟨_, final, final'⟩ := level.token_cases level.ahead
    · exact inside.agree s s' level was ahead c t d u run run' counts keeps
    · cases (ended s final).symm.trans run
      cases (ended' s' final').symm.trans run'
      exact ⟨⟨level, was rfl⟩, alike⟩

theorem Needs.agrees (needs : Needs x p q) : Agrees x started ahead p q :=
  .of_ahead (needs.ahead.within (Nat.le_refl _)) fun cut s a t last run counts _ =>
    needs.demands cut s a t last run counts

theorem grows_of_alike {f g : α → Parser β}
    (rest : ∀ a b, x.Alike a b → AgreesIf x keep started ahead (f a) (g b)) (a : α)
    (s : ParserState) (b : β)
    (t : ParserState) (run : f a x.first s = some (b, t)) (counts : x.Counts t) : x.Counts s := by
  obtain ⟨a', alike⟩ := x.exists_alike a
  exact (rest a a' alike).grows s b t run counts

/-- A sequence whose result is not kept unless that of its first part is. -/
theorem AgreesIf.bindIf (first : AgreesIf x kept started ahead p q)
    (rest : ∀ a b, x.Alike a b → AgreesIf x keep true 0 (f a) (g b))
    (keeps : ∀ a s b t, f a x.first s = some (b, t) → x.Counts t → keep b → kept a) :
    AgreesIf x keep started ahead (p >>= f) (q >>= g) where
  grows s c v run counts := by
    obtain ⟨a, t, ran, run⟩ := bind_eq_some run
    exact first.grows s a t ran (grows_of_alike rest a t c v run counts)
  agree s s' level was ahead c v d w run run' counts keep := by
    obtain ⟨a, t, ran, run⟩ := bind_eq_some run
    obtain ⟨b, u, ran', run'⟩ := bind_eq_some run'
    obtain ⟨together, alike⟩ := first.agree s s' level was ahead a t b u ran ran'
      (grows_of_alike rest a t c v run counts) (keeps a t c v run counts keep)
    exact (rest a b alike).agree t u together.toLevel (fun _ => together.started)
      together.toLevel.ahead c v d w run run' counts keep

theorem AgreesIf.bind (first : Agrees x started ahead p q)
    (rest : ∀ a b, x.Alike a b → AgreesIf x keep true 0 (f a) (g b)) :
    AgreesIf x keep started ahead (p >>= f) (q >>= g) :=
  first.bindIf rest fun _ _ _ _ _ _ _ => trivial

theorem Needs.bind (first : Needs x p q)
    (rest : ∀ a b, x.Alike a b → Agrees x true 0 (f a) (g b)) : Needs x (p >>= f) (q >>= g) where
  ahead := first.ahead.bind rest
  demands cut s c v last run counts := by
    obtain ⟨a, t, ran, run⟩ := bind_eq_some run
    exact first.demands cut s a t last ran (grows_of_alike rest a t c v run counts)

theorem AgreesIf.plain [Placeless α] (first : Agrees x started ahead p q)
    (rest : ∀ a, AgreesIf x keep true 0 (f a) (g a)) :
    AgreesIf x keep started ahead (p >>= f) (q >>= g) :=
  first.bind fun a b alike => by
    obtain rfl := Excerpt.eq_of_alike alike
    exact rest a

theorem Needs.plain [Placeless α] (first : Needs x p q)
    (rest : ∀ a, Agrees x true 0 (f a) (g a)) : Needs x (p >>= f) (q >>= g) :=
  first.bind fun a b alike => by
    obtain rfl := Excerpt.eq_of_alike alike
    exact rest a

theorem AgreesIf.pure {a b : α} (alike : x.Alike a b) :
    AgreesIf x kept true ahead (pure a) (Pure.pure b) where
  grows s _ _ := by
    rintro ⟨⟩
    exact id
  agree s s' level was _ _ _ _ _ := by
    rintro ⟨⟩ ⟨⟩ _ _
    exact ⟨⟨level, was rfl⟩, alike⟩

theorem AgreesIf.ite {c : Prop} [Decidable c] {p' q' : Parser α}
    (yes : AgreesIf x kept started ahead p q)
    (no : AgreesIf x kept started ahead p' q') :
    AgreesIf x kept started ahead (if c then p else p') (if c then q else q') := by
  split
  · exact yes
  · exact no

theorem Agrees.when {p q : Parser Unit} (agrees : Agrees x true ahead p q) (condition : Bool) :
    Agrees x true ahead (when condition p) (when condition q) :=
  .ite agrees (.pure rfl)

theorem Agrees.discard (agrees : Agrees x started ahead p q) :
    Agrees x started ahead (discard p : Parser Unit) (discard q) :=
  agrees.bind fun _ _ _ => .pure rfl

theorem Needs.discard (needs : Needs x p q) : Needs x (discard p : Parser Unit) (discard q) :=
  needs.bind fun _ _ _ => .pure rfl

/-- A parser of the first input that notes an error whatever it reads. -/
def Noisy (x : Excerpt) (p : Parser α) : Prop := ∀ s a t, p x.first s = some (a, t) → ¬x.Counts t

end Sequences

/-! ### Looking -/

section Looking

variable {f g : α → Parser β}

theorem AgreesIf.look {p q : Parser α} (see see' : ParserState → α)
    (looks : ∀ s, p x.first s = some (see s, s)) (looks' : ∀ s, q x.second s = some (see' s, s))
    (alike : ∀ s s', x.Level s s' → x.Ahead ahead s → x.Alike (see s) (see' s'))
    (rest : ∀ a b, x.Alike a b → AgreesIf x keep started ahead (f a) (g b)) :
    AgreesIf x keep started ahead (p >>= f) (q >>= g) where
  grows s b t run := by
    rw [bind_eq (looks s)] at run
    exact grows_of_alike rest (see s) s b t run
  agree s s' level was ahead b t c u run run' := by
    rw [bind_eq (looks s)] at run
    rw [bind_eq (looks' s')] at run'
    exact (rest _ _ (alike s s' level ahead)).agree s s' level was ahead b t c u run run'

theorem Needs.look {p q : Parser α} (see see' : ParserState → α)
    (looks : ∀ s, p x.first s = some (see s, s)) (looks' : ∀ s, q x.second s = some (see' s, s))
    (alike : ∀ s s', x.Level s s' → x.Ahead 1 s → x.Alike (see s) (see' s'))
    (rest : ∀ a b, x.Alike a b → Needs x (f a) (g b)) : Needs x (p >>= f) (q >>= g) where
  ahead := .look see see' looks looks' alike fun a b alike => (rest a b alike).ahead
  demands cut s b t last run := by
    rw [bind_eq (looks s)] at run
    obtain ⟨a, alike⟩ := x.exists_alike (see s)
    exact (rest _ _ alike).demands cut s b t last run

end Looking

section Glancing

variable {f g : α → Parser β}

omit [Located α] in
theorem AgreesIf.glance {p q : Parser α} (see see' : ParserState → α)
    (looks : ∀ s, p x.first s = some (see s, s)) (looks' : ∀ s, q x.second s = some (see' s, s))
    (rest : ∀ a b, AgreesIf x keep started ahead (f a) (g b)) :
    AgreesIf x keep started ahead (p >>= f) (q >>= g) where
  grows s b t run := by
    rw [bind_eq (looks s)] at run
    exact (rest _ (see s)).grows s b t run
  agree s s' level was ahead b t c u run run' := by
    rw [bind_eq (looks s)] at run
    rw [bind_eq (looks' s')] at run'
    exact (rest _ _).agree s s' level was ahead b t c u run run'

end Glancing

section Sights

theorem AgreesIf.position {f g : Position → Parser β}
    (rest : ∀ start start', x.place start = x.place' start' →
      AgreesIf x keep started (ahead + 1) (f start) (g start')) :
    AgreesIf x keep started (ahead + 1) (position >>= f) (Parser.position >>= g) := by
  refine .look (fun s => (x.first.token s.index).span.start)
    (fun s => (x.second.token s.index).span.start) (fun _ => rfl) (fun _ => rfl)
    (fun s s' level ahead => ?_) rest
  exact congrArg Span.start (Excerpt.token_eq_of_alike (level.here (ahead.of_le (by omega)))).2

theorem Needs.position {f g : Position → Parser β}
    (rest : ∀ start start', x.place start = x.place' start' → Needs x (f start) (g start')) :
    Needs x (position >>= f) (Parser.position >>= g) := by
  refine .look (fun s => (x.first.token s.index).span.start)
    (fun s => (x.second.token s.index).span.start) (fun _ => rfl) (fun _ => rfl)
    (fun s s' level ahead => ?_) rest
  exact congrArg Span.start (Excerpt.token_eq_of_alike (level.here ahead)).2

theorem AgreesIf.mark {f g : Nat → Parser β}
    (rest : ∀ mark, AgreesIf x keep started ahead (f mark) (g mark)) :
    AgreesIf x keep started ahead (mark >>= f) (Parser.mark >>= g) := by
  refine .look (fun s => s.errors.length) (fun s => s.errors.length) (fun _ => rfl) (fun _ => rfl)
    (fun s s' level _ => (Excerpt.length_eq_of_alike level.errors).symm) fun a b alike => ?_
  obtain rfl := Excerpt.eq_of_alike alike
  exact rest a

theorem Needs.mark {f g : Nat → Parser β} (rest : ∀ mark, Needs x (f mark) (g mark)) :
    Needs x (mark >>= f) (Parser.mark >>= g) := by
  refine .look (fun s => s.errors.length) (fun s => s.errors.length) (fun _ => rfl) (fun _ => rfl)
    (fun s s' level _ => (Excerpt.length_eq_of_alike level.errors).symm) fun a b alike => ?_
  obtain rfl := Excerpt.eq_of_alike alike
  exact rest a

theorem failedSince_agrees (mark : Nat) :
    Agrees x true ahead (failedSince mark) (failedSince mark) where
  grows s _ _ := by
    rintro ⟨⟩
    exact id
  agree s s' level was _ _ _ _ _ := by
    rintro ⟨⟩ ⟨⟩ _ _
    exact ⟨⟨level, was rfl⟩, (level.failed mark).symm⟩

/-- The state of failure decides: where it is not compared, the parser after it must not count. -/
theorem Agrees.ifFailed {p p' q q' : Parser β} (mark : Nat) (failed : x.lax → Agrees x true ahead p p')
    (noisy : ¬x.lax → ∀ s b t, mark < s.errors.length → p x.first s = some (b, t) → ¬x.Counts t)
    (fine : Agrees x true ahead q q') :
    Agrees x true ahead (do if ← failedSince mark then p else q)
      (do if ← failedSince mark then p' else q') := by
  have looked (input : ParserInput) (s : ParserState) :
      failedSince mark input s = some (decide (mark < s.errors.length), s) := rfl
  refine ⟨fun s b t run counts => ?_, fun s s' level was within b t c u run run' counts _ => ?_⟩
  · rw [bind_eq (looked _ s)] at run
    split at run
    next fails =>
      refine .inl (Classical.byContradiction fun strict => ?_)
      exact noisy strict s b t (of_decide_eq_true fails) run counts
    · exact fine.grows s b t run counts
  · rw [bind_eq (looked _ s)] at run
    rw [bind_eq (looked _ s'), level.failed mark] at run'
    split at run
    next fails =>
      rw [if_pos fails] at run'
      by_cases lax : x.lax
      · exact (failed lax).agree s s' level was within b t c u run run' counts trivial
      · exact absurd counts (noisy lax s b t (of_decide_eq_true fails) run)
    next fails =>
      rw [if_neg fails] at run'
      exact fine.agree s s' level was within b t c u run run' counts trivial

theorem AgreesIf.index {f g : Nat → Parser β}
    (rest : ∀ i j, (x.lax → j = i) → AgreesIf x keep started ahead (f i) (g j)) :
    AgreesIf x keep started ahead (Parser.index >>= f) (Parser.index >>= g) where
  grows s := (rest s.index s.index fun _ => rfl).grows s
  agree s s' level := (rest s.index s'.index fun lax => by
    rw [level.index, (x.strict lax).1, Nat.zero_add]).agree s s' level

theorem AgreesIf.remaining {f g : Nat → Parser β}
    (rest : ∀ bound bound', AgreesIf x keep started ahead (f bound) (g bound')) :
    AgreesIf x keep started ahead (remaining >>= f) (Parser.remaining >>= g) :=
  .glance (fun s => x.first.tokens.size - s.index) (fun s => x.second.tokens.size - s.index)
    (fun _ => rfl) (fun _ => rfl) rest

theorem dialect_eq {input : ParserInput} {d : Dialect} (is : input.dialect = d) {s : ParserState} :
    dialect input s = some (d, s) :=
  congrArg (fun d => some (d, s)) is

theorem AgreesIf.dialect {f g : Dialect → Parser β}
    (rest : AgreesIf x keep started ahead (f .bigQuery) (g .bigQuery)) :
    AgreesIf x keep started ahead (dialect >>= f) (Parser.dialect >>= g) where
  grows s b t run := by
    rw [bind_eq (dialect_eq x.dialect)] at run
    exact rest.grows s b t run
  agree s s' level was ahead b t c u run run' := by
    rw [bind_eq (dialect_eq x.dialect)] at run
    rw [bind_eq (dialect_eq x.dialect')] at run'
    exact rest.agree s s' level was ahead b t c u run run'

theorem previousEnd_agrees : Agrees x true ahead previousEnd previousEnd where
  grows s _ _ := by
    rintro ⟨⟩
    exact id
  agree s s' level was _ _ _ _ _ := by
    rintro ⟨⟩ ⟨⟩ _ _
    have started := was rfl
    refine ⟨⟨level, started⟩, ?_⟩
    have index := level.index
    have within := level.within
    by_cases first : s.index = 0
    · have lax : x.lax := started.resolve_right (by omega)
      obtain ⟨unmoved, whole⟩ := x.strict lax
      have same : s'.index = s.index := by omega
      have alike := level.here fun cut => absurd cut whole
      rw [first, same, first] at alike
      rw [if_pos first, if_pos (same.trans first)]
      exact congrArg Span.start (Excerpt.token_eq_of_alike alike).2
    · have alike := x.token_alike (i := s.index - 1) fun _ => by omega
      rw [if_neg first, if_neg (by omega), show s'.index - 1 = x.shift + (s.index - 1) by omega]
      exact congrArg Span.stop (Excerpt.token_eq_of_alike alike).2

theorem spanFrom_agrees {start start' : Position} (alike : x.place start = x.place' start') :
    Agrees x true ahead (spanFrom start) (spanFrom start') :=
  previousEnd_agrees.bind fun stop stop' (same : x.place stop = x.place' stop') => .pure (by
    change Span.mk (x.place start) (x.place stop) = Span.mk (x.place' start') (x.place' stop')
    rw [alike, same])

theorem AgreesIf.spanned {start start' : Position} (same : x.place start = x.place' start')
    {f g : Span → β} (alike : ∀ span span', span.relocate x.place = span'.relocate x.place' →
      x.Alike (f span) (g span')) :
    AgreesIf x keep true ahead (do return f (← spanFrom start)) (do return g (← spanFrom start')) :=
  (spanFrom_agrees same).bind fun span span' spans => .pure (alike span span' spans)

end Sights

/-! ### Tokens -/

section Tokens

variable {f g : Token → Parser β}

theorem AgreesIf.token
    (rest : ∀ token span, token.span.relocate x.place = span.relocate x.place' →
      AgreesIf x keep started 1 (f token) (g { token with span }))
    (ended : x.cut → ∀ token token' : Token, token.Final → token'.Final →
      AgreesIf x keep started 0 (f token) (g token')) :
    AgreesIf x keep started 0 (current >>= f) (current >>= g) where
  grows s b t run := by
    obtain ⟨token', alike⟩ := x.exists_alike (x.first.token s.index)
    obtain ⟨same, spans⟩ := Excerpt.token_eq_of_alike alike
    exact (rest _ _ spans).grows s b t run
  agree s s' level was _ b t c u run run' := by
    obtain ahead | ⟨cut, final, final'⟩ := level.token_cases level.ahead
    · obtain ⟨same, spans⟩ := Excerpt.token_eq_of_alike (level.token ahead)
      refine (rest _ _ spans).agree s s' level was ahead b t c u run ?_
      exact same ▸ run'
    · exact (ended cut _ _ final final').agree s s' level was level.ahead b t c u run run'

theorem AgreesIf.here
    (rest : ∀ token span, token.span.relocate x.place = span.relocate x.place' →
      AgreesIf x keep started (ahead + 1) (f token) (g { token with span })) :
    AgreesIf x keep started (ahead + 1) (current >>= f) (current >>= g) := by
  refine .look (fun s => x.first.token s.index) (fun s => x.second.token s.index) (fun _ => rfl)
    (fun _ => rfl) (fun s s' level ahead => level.here (ahead.of_le (by omega)))
    fun token token' alike => ?_
  obtain ⟨same, spans⟩ := Excerpt.token_eq_of_alike alike
  rw [same]
  exact rest _ _ spans

theorem Needs.token
    (rest : ∀ token span, token.span.relocate x.place = span.relocate x.place' →
      Agrees x false 1 (f token) (g { token with span }))
    (ended : x.cut → ∀ token : Token, token.Final → Noisy x (f token)) :
    Needs x (current >>= f) (current >>= g) where
  ahead := .here rest
  demands cut s b t last run counts :=
    ended cut _ (Excerpt.final_first last cut) s b t run counts

theorem AgreesIf.lookahead
    (rest : ∀ token span, token.span.relocate x.place = span.relocate x.place' →
      AgreesIf x keep started 2 (f token) (g { token with span }))
    (ended : x.cut → ∀ token token' : Token, token.Final → token'.Final →
      AgreesIf x keep started 1 (f token) (g token')) :
    AgreesIf x keep started 1 (lookahead >>= f) (Parser.lookahead >>= g) where
  grows s b t run := by
    obtain ⟨token', alike⟩ := x.exists_alike (x.first.token (s.index + 1))
    obtain ⟨same, spans⟩ := Excerpt.token_eq_of_alike alike
    exact (rest _ _ spans).grows s b t run
  agree s s' level was ahead b t c u run run' := by
    obtain further | ⟨cut, final, final'⟩ := level.token_cases ahead
    · obtain ⟨same, spans⟩ := Excerpt.token_eq_of_alike (level.token further)
      refine (rest _ _ spans).agree s s' level was further b t c u run ?_
      rw [← same]
      exact run'
    · exact (ended cut _ _ final final').agree s s' level was ahead b t c u run run'

theorem AgreesIf.lookaheadAny
    (rest : ∀ token token', AgreesIf x keep started ahead (f token) (g token')) :
    AgreesIf x keep started ahead (Parser.lookahead >>= f) (Parser.lookahead >>= g) :=
  .glance (fun s => x.first.token (s.index + 1)) (fun s => x.second.token (s.index + 1))
    (fun _ => rfl) (fun _ => rfl) rest

end Tokens

section Kinds

variable {f g : Bool → Parser β} (kind : TokenKind) [kind.Medial]

theorem AgreesIf.check (yes : AgreesIf x keep started 1 (f true) (g true))
    (no : AgreesIf x keep started 0 (f false) (g false)) :
    AgreesIf x keep started 0 (check kind >>= f) (Parser.check kind >>= g) where
  grows s b t run := by
    rw [bind_eq (check_eq kind)] at run
    cases found : (x.first.token s.index).kind == kind with
    | true => exact yes.grows s b t (found ▸ run)
    | false => exact no.grows s b t (found ▸ run)
  agree s s' level was ahead b t c u run run' := by
    rw [bind_eq (check_eq kind)] at run
    rw [bind_eq (check_eq kind), show ((x.second.token s'.index).kind == kind) = _ from
      level.kind_beq (k := 0) ahead kind] at run'
    cases found : (x.first.token s.index).kind == kind with
    | true =>
      have more := level.more (beq_iff_eq.1 found)
      exact yes.agree s s' level was (fun _ => more) b t c u (found ▸ run) (found ▸ run')
    | false => exact no.agree s s' level was ahead b t c u (found ▸ run) (found ▸ run')

theorem Needs.check (yes : Agrees x false 1 (f true) (g true)) (no : Needs x (f false) (g false)) :
    Needs x (Parser.check kind >>= f) (Parser.check kind >>= g) where
  ahead := AgreesIf.within (.check kind yes no.agrees) (Nat.zero_le _)
  demands cut s b t last run := by
    rw [bind_eq (check_eq kind), (Excerpt.final_first last cut).kind_beq] at run
    exact no.demands cut s b t last run

theorem AgreesIf.checkNext (yes : AgreesIf x keep started 2 (f true) (g true))
    (no : AgreesIf x keep started 1 (f false) (g false)) :
    AgreesIf x keep started 1 (checkNext kind >>= f) (Parser.checkNext kind >>= g) := by
  refine AgreesIf.lookahead (f := fun token => f (token.kind == kind))
    (g := fun token => g (token.kind == kind)) (fun token span _ => ?_)
    fun _ token token' final final' => ?_
  · change AgreesIf x keep started 2 (f (token.kind == kind)) (g (token.kind == kind))
    cases token.kind == kind with
    | true => exact yes
    | false => exact no.weaken id (by omega)
  · rw [final.kind_beq, final'.kind_beq]
    exact no

omit [kind.Medial] in
theorem AgreesIf.checkNextAny
    (rest : ∀ found found', AgreesIf x keep started ahead (f found) (g found')) :
    AgreesIf x keep started ahead (Parser.checkNext kind >>= f) (Parser.checkNext kind >>= g) :=
  .glance (fun s => (x.first.token (s.index + 1)).kind == kind)
    (fun s => (x.second.token (s.index + 1)).kind == kind) (fun _ => rfl) (fun _ => rfl) rest

theorem AgreesIf.checkWord (word : String) (yes : AgreesIf x keep started 1 (f true) (g true))
    (no : AgreesIf x keep started 0 (f false) (g false)) :
    AgreesIf x keep started 0 (checkWord word >>= f) (Parser.checkWord word >>= g) := by
  refine AgreesIf.token (f := fun token => f (token.kind == .identifier && token.spells word))
    (g := fun token => g (token.kind == .identifier && token.spells word)) (fun token span _ => ?_)
    fun _ token token' final final' => ?_
  · change AgreesIf x keep started 1 (f (token.kind == .identifier && token.spells word))
      (g (token.kind == .identifier && token.spells word))
    cases token.kind == .identifier && token.spells word with
    | true => exact yes
    | false => exact no.weaken id (by omega)
  · rw [final.kind_beq, final'.kind_beq]
    exact no

theorem check_agrees : Agrees x true 0 (Parser.check kind) (Parser.check kind) :=
  AgreesIf.check (f := Pure.pure) (g := Pure.pure) kind (.pure rfl) (.pure rfl)

end Kinds

/-! ### Moving -/

theorem AgreesIf.advance {f g : Unit → Parser β} (rest : AgreesIf x keep true ahead (f ()) (g ())) :
    AgreesIf x keep started (ahead + 1) (advance >>= f) (Parser.advance >>= g) where
  grows s b t run counts := rest.grows { s with index := x.first.following s.index } b t run counts
  agree s s' level _ ahead b t c u run run' := by
    have together := level.advance fun cut => Nat.lt_of_lt_of_le (by omega) (ahead cut)
    refine rest.agree _ _ together.toLevel (fun _ => together.started) (fun cut => ?_) b t c u run run'
    have size := x.size
    have ahead := ahead cut
    simp only [ParserInput.following, if_pos (show s.index + 1 < x.first.tokens.size by omega)]
    omega

theorem Needs.advance {f g : Unit → Parser β} (rest : Needs x (f ()) (g ())) :
    Needs x (Parser.advance >>= f) (Parser.advance >>= g) where
  ahead := .advance rest.agrees
  demands cut s b t last run := by
    refine rest.demands cut _ b t ?_ run
    have size := x.size
    simp only [ParserInput.following, if_neg (show ¬s.index + 1 < x.first.tokens.size by omega)]
    exact last

theorem advance_agrees : Agrees x started (ahead + 1) Parser.advance Parser.advance :=
  AgreesIf.advance (f := Pure.pure) (g := Pure.pure) (.pure rfl)

section Accepted

variable {f g : Bool → Parser β} (kind : TokenKind) [kind.Medial]

theorem AgreesIf.acceptBefore
    (behind : ∀ i < x.last, (x.first.token i).kind = kind → x.cut → i + 1 + ahead ≤ x.last)
    (yes : AgreesIf x keep true ahead (f true) (g true))
    (no : AgreesIf x keep started 0 (f false) (g false)) :
    AgreesIf x keep started 0 (accept kind >>= f) (Parser.accept kind >>= g) where
  grows s b t run counts := by
    have accepted := @accept_eq x.first s kind
    split at accepted <;> rw [bind_eq accepted] at run
    · exact yes.grows { s with index := x.first.following s.index } b t run counts
    · exact no.grows s b t run counts
  agree s s' level was here b t c u run run' := by
    have accepted := @accept_eq x.first s kind
    have accepted' := @accept_eq x.second s' kind
    rw [show ((x.second.token s'.index).kind == kind) = _ from
      level.kind_beq (k := 0) here kind, Nat.add_zero] at accepted'
    split at accepted
    next found =>
      rw [if_pos found] at accepted'
      rw [bind_eq accepted] at run
      rw [bind_eq accepted'] at run'
      have more := level.more (beq_iff_eq.1 found)
      have together := level.advance fun _ => more
      refine yes.agree _ _ together.toLevel (fun _ => together.started) (fun cut => ?_) b t c u run run'
      have size := x.size
      have next : x.first.following s.index = s.index + 1 := if_pos (by omega)
      simp only [next]
      exact behind s.index more (beq_iff_eq.1 found) cut
    next absent =>
      rw [if_neg absent] at accepted'
      rw [bind_eq accepted] at run
      rw [bind_eq accepted'] at run'
      exact no.agree s s' level was here b t c u run run'

theorem AgreesIf.accept (yes : AgreesIf x keep true 0 (f true) (g true))
    (no : AgreesIf x keep started 0 (f false) (g false)) :
    AgreesIf x keep started 0 (accept kind >>= f) (Parser.accept kind >>= g) :=
  .acceptBefore kind (fun _ before _ _ => before) yes no

theorem Needs.accept (yes : Agrees x true 0 (f true) (g true)) (no : Needs x (f false) (g false)) :
    Needs x (Parser.accept kind >>= f) (Parser.accept kind >>= g) where
  ahead := AgreesIf.within (.accept kind yes no.agrees) (Nat.zero_le _)
  demands cut s b t last run := by
    have accepted := @accept_eq x.first s kind
    rw [(Excerpt.final_first last cut).kind_beq] at accepted
    rw [bind_eq accepted] at run
    exact no.demands cut s b t last run

theorem accept_agrees : Agrees x true 0 (Parser.accept kind) (Parser.accept kind) :=
  .check kind (.advance (.pure rfl)) (.pure rfl)

theorem AgreesIf.acceptDot (yes : AgreesIf x keep true 1 (f true) (g true))
    (no : AgreesIf x keep started 0 (f false) (g false)) :
    AgreesIf x keep started 0 (Parser.accept Symbol.dot >>= f) (Parser.accept Symbol.dot >>= g) := by
  refine .acceptBefore _ (fun i before found cut => ?_) yes no
  have other : i + 1 ≠ x.last := fun last => x.dotless cut i last found
  omega

end Accepted

/-! ### Errors -/

section Errors

/-- What notes an error of its own is compared only where errors are. -/
theorem Agrees.note {p q : Parser Unit} (note note' : ParserState → SyntaxError)
    (notes : ∀ s, p x.first s = some ((), { s with errors := s.errors ++ [note s] }))
    (notes' : ∀ s, q x.second s = some ((), { s with errors := s.errors ++ [note' s] }))
    (alike : x.lax → ∀ s s', x.Level s s' → x.Alike (note s) (note' s')) :
    Agrees x started ahead p q where
  grows s _ t run := by
    rw [notes] at run
    cases run
    exact Or.imp_right fun clean => absurd clean.1 (by simp)
  agree s s' level _ _ _ t _ u run run' counts := by
    rw [notes] at run
    rw [notes'] at run'
    intro _
    cases run
    cases run'
    have lax : x.lax := counts.resolve_right fun clean => absurd clean.1 (by simp)
    have errors : x.Alike (s.errors ++ [note s]) (s'.errors ++ [note' s']) :=
      Excerpt.alike_append level.errors (by rw [Excerpt.Alike, relocate_cons, alike lax s s' level]; rfl)
    exact ⟨⟨⟨level.index, level.within, errors, level.recovered⟩, .inl lax⟩, rfl⟩

omit [Located β] in
theorem Noisy.note {p : Parser Unit} (strict : ¬x.lax) (note : ParserState → SyntaxError)
    (notes : ∀ s, p x.first s = some ((), { s with errors := s.errors ++ [note s] })) {b : β} :
    Noisy x (p >>= fun _ => pure b) := by
  intro s c t run counts
  rw [bind_eq (notes s)] at run
  cases run
  exact absurd (Excerpt.counts_strict strict counts).1 (by simp)

theorem Needs.of_noisy {p q : Parser β} (agrees : Agrees x false 1 p q)
    (noisy : ¬x.lax → Noisy x p) : Needs x p q where
  ahead := agrees
  demands cut s b t _ run := noisy (fun lax => (x.strict lax).2 cut) s b t run

theorem addError_agrees {error error' : SyntaxError} (alike : x.lax → x.Alike error error') :
    Agrees x started ahead (addError error) (addError error') :=
  .note (fun _ => error) (fun _ => error') (fun _ => rfl) (fun _ => rfl) fun lax _ _ _ => alike lax

theorem fault_agrees {what what' : SyntaxFault} (alike : x.lax → x.Alike what what') :
    Agrees x started ahead (fault what) (fault what') := by
  refine .note (fun s => .syntactic (x.first.token s.index).span.start what)
    (fun s => .syntactic (x.second.token s.index).span.start what') (fun _ => rfl) (fun _ => rfl)
    fun lax s s' level => ?_
  have token := level.here fun cut => absurd cut (x.strict lax).2
  have start : x.place (x.first.token s.index).span.start = x.place' _ :=
    congrArg Span.start (Excerpt.token_eq_of_alike token).2
  change SyntaxError.syntactic (x.place _) (relocate x.place what) =
    SyntaxError.syntactic (x.place' _) (relocate x.place' what')
  rw [start, alike lax]

omit [Located β] in
theorem fault_noisy (strict : ¬x.lax) (what : SyntaxFault) (b : β) :
    Noisy x (do fault what; return b) :=
  .note strict (fun s => .syntactic (x.first.token s.index).span.start what) fun _ => rfl

theorem unexpected_agrees (expected : String) :
    Agrees x started ahead (unexpected expected) (unexpected expected) := by
  refine .note
    (fun s => .syntactic (x.first.token s.index).span.start
      (.unexpected (x.first.token s.index) expected))
    (fun s => .syntactic (x.second.token s.index).span.start
      (.unexpected (x.second.token s.index) expected)) (fun _ => rfl) (fun _ => rfl)
    fun lax s s' level => ?_
  have token := level.here fun cut => absurd cut (x.strict lax).2
  have start : x.place (x.first.token s.index).span.start = x.place' _ :=
    congrArg Span.start (Excerpt.token_eq_of_alike token).2
  change SyntaxError.syntactic (x.place _) (.unexpected (relocate x.place _) expected) =
    SyntaxError.syntactic (x.place' _) (.unexpected (relocate x.place' _) expected)
  rw [start, token]

omit [Located β] in
theorem unexpected_noisy (strict : ¬x.lax) (expected : String) (b : β) :
    Noisy x (do unexpected expected; return b) :=
  .note strict (fun s => .syntactic (x.first.token s.index).span.start
    (.unexpected (x.first.token s.index) expected)) fun _ => rfl

theorem failed_needs (expected : String) {a b : β} (alike : x.Alike a b) :
    Needs x (do unexpected expected; return a) (do unexpected expected; return b) :=
  .of_noisy ((unexpected_agrees expected).plain fun _ => .pure alike)
    fun strict => unexpected_noisy strict expected a

theorem expect_needs (kind : TokenKind) [kind.Medial] : Needs x (expect kind) (expect kind) :=
  .accept kind (.pure rfl) (failed_needs _ rfl)

theorem expect_agrees (kind : TokenKind) [kind.Medial] :
    Agrees x started ahead (expect kind) (expect kind) :=
  (expect_needs kind).agrees

end Errors

/-! ### Whether a query begins -/

section Queries

variable {f g : ParserInput → Nat → Parser β}

theorem AgreesIf.startsQuery
    (rest : ∀ i k i' k', i.startsQuery k = i'.startsQuery k' →
      AgreesIf x keep started ahead (f i k) (g i' k')) :
    AgreesIf x keep started ahead (do f (← Parser.input) (← Parser.index))
      (do g (← Parser.input) (← Parser.index)) where
  grows s b t run counts := (rest x.first s.index x.first s.index rfl).grows s b t run counts
  agree s s' level := by
    refine (rest x.first s.index x.second s'.index ?_).agree s s' level
    rw [level.index, x.queries _ level.within]

theorem AgreesIf.startsQueryNext
    (rest : ∀ i k i' k', i.startsQuery (k + 1) = i'.startsQuery (k' + 1) →
      AgreesIf x keep started (ahead + 1) (f i k) (g i' k')) :
    AgreesIf x keep started (ahead + 1) (do f (← Parser.input) (← Parser.index))
      (do g (← Parser.input) (← Parser.index)) where
  grows s b t run counts := (rest x.first s.index x.first s.index rfl).grows s b t run counts
  agree s s' level was ahead := by
    refine (rest x.first s.index x.second s'.index ?_).agree s s' level was ahead
    rw [level.index, Nat.add_assoc]
    exact (Excerpt.startsQuery_eq fun cut => (ahead.of_le (by omega)) cut).symm

end Queries

/-! ### Loops -/

section Loops

theorem exhausted_agrees {q : Parser α} : AgreesIf x kept started ahead Parser.exhausted q :=
  ⟨nofun, nofun⟩

theorem AgreesIf.exhausted {p q : Parser α} (agrees : AgreesIf x kept started ahead p q) :
    AgreesIf x kept started ahead p Parser.exhausted :=
  ⟨agrees.grows, nofun⟩

theorem exhausted_needs {q : Parser α} : Needs x Parser.exhausted q := ⟨exhausted_agrees, nofun⟩

theorem Needs.exhausted {p q : Parser α} (needs : Needs x p q) : Needs x p Parser.exhausted :=
  ⟨needs.ahead.exhausted, needs.demands⟩

theorem repeated_agrees {p q : Parser (Option α)} (step : Agrees x true 0 p q) (bound bound' : Nat) :
    Agrees x true 0 (repeated p bound) (repeated q bound') := by
  induction bound generalizing bound' with
  | zero => exact exhausted_agrees
  | succ bound ih =>
    have steps (bound' : Nat) :
        Agrees x true 0 (repeated p (bound + 1)) (repeated q (bound' + 1)) := by
      refine step.bind fun found found' alike => ?_
      cases found with
      | none =>
        cases found' with
        | none => exact .pure rfl
        | some => cases alike
      | some a =>
        cases found' with
        | none => cases alike
        | some b =>
          injection alike with alike
          refine (ih bound').bind fun others others' same => .pure ?_
          rw [Excerpt.Alike, relocate_cons, relocate_cons, alike, same]
    cases bound' with
    | zero => exact (steps 0).exhausted
    | succ bound' => exact steps bound'

theorem chain_agrees {p q : Parser (α × Bool)} (step : Agrees x true 0 p q) (bound bound' : Nat) :
    Agrees x true 0 (chain p bound) (chain q bound') := by
  induction bound generalizing bound' with
  | zero => exact exhausted_agrees
  | succ bound ih =>
    have steps (bound' : Nat) : Agrees x true 0 (chain p (bound + 1)) (chain q (bound' + 1)) := by
      refine step.bind fun (a, more) (b, more') alike => ?_
      obtain ⟨same, rfl⟩ : x.Alike a b ∧ more = more' := Prod.mk.inj alike
      cases more with
      | false => exact .pure (by rw [Excerpt.Alike, relocate_cons, relocate_cons, same]; rfl)
      | true =>
        refine (ih bound').bind fun others others' alike => .pure ?_
        rw [Excerpt.Alike, relocate_cons, relocate_cons, same, alike]
    cases bound' with
    | zero => exact (steps 0).exhausted
    | succ bound' => exact steps bound'

theorem commaSeparated_agrees {p q : Parser α} (element : Agrees x true 0 p q) :
    Agrees x true 0 (commaSeparated p) (commaSeparated q) := by
  refine .mark fun mark => .remaining fun bound bound' => chain_agrees ?_ _ _
  refine element.bind fun a b alike => (failedSince_agrees mark).plain fun _ => .ite ?_ ?_
  · exact .pure (by rw [Excerpt.Alike, relocate_pair, relocate_pair, alike]; rfl)
  · exact (accept_agrees _).plain fun _ => .pure (by
      rw [Excerpt.Alike, relocate_pair, relocate_pair, alike]; rfl)

end Loops

end Parser

end QueryLint
