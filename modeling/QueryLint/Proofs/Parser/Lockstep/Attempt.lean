import QueryLint.Proofs.Parser.Lockstep.Basic

/-!
Readers that stop at the first error, read side by side. Where errors are not compared, nothing is said
of a reader that stops: whoever called it notes the error.
-/

namespace QueryLint

open QueryLint.Parser (AgreesIf bind_eq bind_eq_none)

variable {α β : Type} [Located α] [Located β] {x : Excerpt} {started : Bool} {ahead : Nat}

/-- A result that is compared: an error counts only where errors do. -/
def Excerpt.Stands (x : Excerpt) (result : Except SyntaxError α) : Prop :=
  x.lax ∨ ∃ a, result = .ok a

namespace Attempt

variable (x) in
/-- Readers that read the same, and stop with the same error where errors are compared. -/
abbrev Agrees (started : Bool) (ahead : Nat) (p q : Attempt α) : Prop :=
  AgreesIf x x.Stands started ahead p.run q.run

section Sequences

variable {p q : Attempt α} {f g : α → Attempt β}

theorem Agrees.bind (first : Agrees x started ahead p q)
    (rest : ∀ a b, x.Alike a b → Agrees x true 0 (f a) (g b)) :
    Agrees x started ahead (p >>= f) (q >>= g) := by
  refine AgreesIf.bindIf first (fun result result' alike => ?_) fun result s answer t run _ stands => ?_
  · cases result with
    | ok a =>
      cases result' with
      | ok b =>
        injection alike with alike
        exact rest a b alike
      | error => cases alike
    | error error =>
      cases result' with
      | ok => cases alike
      | error error' =>
        injection alike with alike
        exact .pure (congrArg Except.error alike)
  · cases result with
    | ok a => exact .inr ⟨a, rfl⟩
    | error error =>
      cases run
      exact .inl (stands.resolve_right nofun)

theorem Agrees.plain [Placeless α] (first : Agrees x started ahead p q)
    (rest : ∀ a, Agrees x true 0 (f a) (g a)) : Agrees x started ahead (p >>= f) (q >>= g) :=
  Agrees.bind first fun a b alike => by
    obtain rfl := Excerpt.eq_of_alike alike
    exact rest a

theorem Agrees.pure {a b : α} (alike : x.Alike a b) :
    Agrees x true ahead (pure a) (Pure.pure b) :=
  AgreesIf.pure (congrArg Except.ok alike)

theorem Agrees.ite {c : Prop} [Decidable c] {p' q' : Attempt α} (yes : Agrees x started ahead p q)
    (no : Agrees x started ahead p' q') :
    Agrees x started ahead (if c then p else p') (if c then q else q') := by
  split
  · exact yes
  · exact no

theorem throw_agrees {error error' : SyntaxError} (alike : x.lax → x.Alike error error') :
    Agrees x started ahead (throw error : Attempt α) (throw error') where
  grows s _ _ := by
    rintro ⟨⟩
    exact id
  agree s s' level _ _ _ _ _ _ := by
    rintro ⟨⟩ ⟨⟩ _ stands
    have lax : x.lax := stands.resolve_right nofun
    exact ⟨⟨level, .inl lax⟩, congrArg Except.error (alike lax)⟩

omit [Located α] in
theorem Agrees.lift {p q : Parser α}
    (agrees : AgreesIf x x.Stands started ahead (p >>= fun a => (f a).run) (q >>= fun a => (g a).run)) :
    Agrees x started ahead (liftM p >>= f) (liftM q >>= g) := by
  rw [Agrees, run_lift_bind, run_lift_bind]
  exact agrees

end Sequences

section Readers

variable {p q : Attempt α}

theorem Agrees.spanned {start start' : Position} (same : x.place start = x.place' start')
    {f g : Span → β} (alike : ∀ span span', span.relocate x.place = span'.relocate x.place' →
      x.Alike (f span) (g span')) :
    Agrees x true ahead (do return f (← Parser.spanFrom start))
      (do return g (← Parser.spanFrom start')) :=
  .lift ((Parser.spanFrom_agrees same).bind fun span span' spans =>
    Agrees.pure (alike span span' spans))

theorem unexpected_agrees (expected : String) :
    Agrees x started ahead (unexpected expected : Attempt α) (unexpected expected) where
  grows s _ _ := by
    rintro ⟨⟩
    exact id
  agree s s' level _ _ _ _ _ _ := by
    rintro ⟨⟩ ⟨⟩ _ stands
    have lax : x.lax := stands.resolve_right nofun
    refine ⟨⟨level, .inl lax⟩, congrArg Except.error ?_⟩
    have token := level.here fun cut => absurd cut (x.strict lax).2
    have start : x.place (x.first.token s.index).span.start = x.place' _ :=
      congrArg Span.start (Excerpt.token_eq_of_alike token).2
    change SyntaxError.syntactic (x.place _) (.unexpected (relocate x.place _) expected) =
      SyntaxError.syntactic (x.place' _) (.unexpected (relocate x.place' _) expected)
    rw [start, token]

theorem expect_agrees (kind : TokenKind) [kind.Medial] :
    Agrees x started 0 (expect kind) (expect kind) :=
  .lift (.accept kind (Agrees.pure rfl) (unexpected_agrees _))

theorem within_agrees (agrees : Agrees x started ahead p q) (context : String) :
    Agrees x started ahead (within context p) (within context q) := by
  refine AgreesIf.bindIf agrees (fun result result' alike => ?_) fun result s answer t run _ stands => ?_
  · cases result with
    | ok a =>
      cases result' with
      | ok b => exact .pure alike
      | error => cases alike
    | error error =>
      cases result' with
      | ok => cases alike
      | error error' =>
        injection alike with alike
        exact .pure (congrArg (fun error => Except.error (SyntaxError.within context error)) alike)
  · cases result with
    | ok a => exact .inr ⟨a, rfl⟩
    | error error =>
      cases run
      exact .inl (stands.resolve_right nofun)

theorem expectWithin_agrees (context : String) (kind : TokenKind) [kind.Medial] :
    Agrees x started 0 (within context (expect kind)) (within context (expect kind)) :=
  within_agrees (expect_agrees kind) context

theorem orNote_agrees (agrees : Agrees x started ahead p q) :
    Parser.Agrees x started ahead p.orNote q.orNote := by
  refine AgreesIf.bindIf agrees (fun result result' alike => ?_) fun result s answer t run counts _ => ?_
  · cases result with
    | ok a =>
      cases result' with
      | ok b =>
        injection alike with alike
        exact .pure (congrArg some alike)
      | error => cases alike
    | error error =>
      cases result' with
      | ok => cases alike
      | error error' =>
        injection alike with alike
        exact (Parser.addError_agrees fun _ => alike).plain fun _ => .pure rfl
  · cases result with
    | ok a => exact .inr ⟨a, rfl⟩
    | error error =>
      cases run
      exact .inl (counts.resolve_right fun clean => absurd clean.1 (by simp))

def unlessNoted (mark : Nat) (a : α) (s : ParserState) : Except SyntaxError α :=
  match s.errors[mark]? with
  | some error => .error error
  | none => .ok a

theorem unlessNoted_alike {mark : Nat} {a b : α} (alike : x.Alike a b) {s s' : ParserState}
    (level : x.Level s s') : x.Alike (unlessNoted mark a s) (unlessNoted mark b s') := by
  have noted := Excerpt.getElem?_alike level.errors mark
  unfold unlessNoted
  cases found : s.errors[mark]? with
  | none =>
    cases found' : s'.errors[mark]? with
    | none => exact congrArg Except.ok alike
    | some =>
      rw [found, found'] at noted
      cases noted
  | some error =>
    cases found' : s'.errors[mark]? with
    | none =>
      rw [found, found'] at noted
      cases noted
    | some error' =>
      rw [found, found'] at noted
      injection noted with noted
      exact congrArg Except.error noted

theorem complete_agrees {p q : Parser α} (agrees : Parser.Agrees x started ahead p q) :
    Agrees x started ahead (complete p) (complete q) := by
  refine .lift (.mark fun mark => ?_)
  refine Agrees.lift (agrees.bind fun a b alike => ?_)
  let rest (mark : Nat) (a : α) : Attempt α := do
    match (← Parser.state).errors[mark]? with
    | some error => throw error
    | none => return a
  have checked (a : α) : (rest mark a).run = fun _ s => some (unlessNoted mark a s, s) := by
    funext input s
    change ((match s.errors[mark]? with
      | some error => throw error
      | none => pure a : Attempt α)).run input s = _
    unfold unlessNoted
    cases s.errors[mark]? <;> rfl
  change AgreesIf x x.Stands true 0 (rest mark a).run (rest mark b).run
  rw [checked, checked]
  refine ⟨fun s _ _ => ?_, fun s s' level was _ _ _ _ _ => ?_⟩
  · rintro ⟨⟩
    exact id
  · rintro ⟨⟩ ⟨⟩ _ _
    exact ⟨⟨level, was rfl⟩, unlessNoted_alike alike level⟩

theorem commaSeparatedWithin_agrees (element : Agrees x true 0 p q) (bound bound' : Nat) :
    Agrees x true 0 (commaSeparatedWithin p bound) (commaSeparatedWithin q bound') := by
  induction bound generalizing bound' with
  | zero => exact Parser.exhausted_agrees
  | succ bound ih =>
    have steps (bound' : Nat) : Agrees x true 0 (commaSeparatedWithin p (bound + 1))
        (commaSeparatedWithin q (bound' + 1)) := by
      refine Agrees.bind element fun a b alike => Agrees.lift (.accept _ ?_ ?_)
      · refine Agrees.bind (ih bound') fun others others' same => Agrees.pure ?_
        rw [Excerpt.Alike, relocate_cons, relocate_cons, alike, same]
      · exact Agrees.pure (by rw [Excerpt.Alike, relocate_cons, relocate_cons, alike]; rfl)
    cases bound' with
    | zero => exact AgreesIf.exhausted (steps 0)
    | succ bound' => exact steps bound'

theorem commaSeparated_agrees (element : Agrees x true 0 p q) :
    Agrees x true 0 (commaSeparated p) (commaSeparated q) :=
  Agrees.lift (.remaining fun _ _ => commaSeparatedWithin_agrees element _ _)

end Readers

end Attempt

end QueryLint
