import QueryLint.Proofs.Parser.Lockstep.Attempt

/-!
Names and types are read side by side.
-/

namespace QueryLint

open QueryLint.Parser

variable {x : Excerpt} {started : Bool} {ahead : Nat}

theorem Excerpt.unset_span (x : Excerpt) :
    Span.relocate x.place {} = Span.relocate x.place' {} :=
  congrArg (fun position => Span.mk position position) x.unset

/-! ### Paths -/

namespace PathSegment

theorem relocate_ofToken (place : Position → Position) (token : Token) :
    relocate place (ofToken token) = ofToken (relocate place token) := by
  unfold ofToken
  change relocate place (if token.quoted && token.text.toList.contains '.' then _ else _) =
    if token.quoted && token.text.toList.contains '.' then _ else _
  split
  · simp only [relocate, List.map_map]
    rfl
  · rfl

theorem ofToken_alike {token : Token} {span : Span}
    (spans : token.span.relocate x.place = span.relocate x.place') :
    x.Alike (ofToken token) (ofToken { token with span }) := by
  have alike : x.Alike token { token with span } :=
    congrArg (fun span => { token with span }) spans
  rw [Excerpt.Alike, relocate_ofToken, relocate_ofToken, alike]

variable {path path' : List PathSegment}

theorem names_relocate (place : Position → Position) (path : List PathSegment) :
    (relocate place path).map (·.name) = path.map (·.name) := List.map_map

theorem names_eq (alike : x.Alike path path') : path.map (·.name) = path'.map (·.name) := by
  rw [← names_relocate x.place path, alike, names_relocate]

theorem join_eq (alike : x.Alike path path') : join path = join path' := by
  rw [join, join, names_eq alike]

theorem columnRef_alike (alike : x.Alike path path') {span span' : Span}
    (spans : span.relocate x.place = span'.relocate x.place') :
    x.Alike (columnRef path span) (columnRef path' span') := by
  have moved (place : Position → Position) (path : List PathSegment) (span : Span) :
      relocate place (columnRef path span) = columnRef path (span.relocate place) := by
    unfold columnRef
    split <;> rfl
  rw [Excerpt.Alike, moved, moved, spans, columnRef, columnRef, names_eq alike]

theorem splitSafe_relocate (place : Position → Position) (path : List PathSegment) :
    splitSafe (relocate place path) = ((splitSafe path).1, relocate place (splitSafe path).2) := by
  match path with
  | [] => rfl
  | [_] => rfl
  | first :: second :: rest =>
    have name : (relocate place first).name = first.name := rfl
    simp only [relocate_cons, splitSafe, name]
    split <;> rfl

theorem splitSafe_alike (alike : x.Alike path path') :
    (splitSafe path).1 = (splitSafe path').1 ∧ x.Alike (splitSafe path).2 (splitSafe path').2 := by
  have same := congrArg splitSafe alike
  rw [splitSafe_relocate, splitSafe_relocate] at same
  exact Prod.mk.inj same

theorem tableName_eq (alike : x.Alike path path') : tableName path = tableName path' := by
  rw [tableName, tableName, names_eq alike]

end PathSegment

namespace Parser

theorem pathWithin_agrees (bound bound' : Nat) :
    Agrees x started 1 (pathWithin bound) (pathWithin bound') := by
  induction bound generalizing started bound' with
  | zero => exact exhausted_agrees
  | succ bound ih =>
    have steps (bound' : Nat) :
        Agrees x started 1 (pathWithin (bound + 1)) (pathWithin (bound' + 1)) := by
      unfold pathWithin
      refine .here fun token span spans => .advance (.check _ ?_ ?_)
      · refine .lookahead (fun next span' _ => .ite ?_ (.pure (PathSegment.ofToken_alike spans)))
          fun _ next next' final final' => ?_
        · refine .advance (ih bound' |>.bind fun path path' alike => .pure ?_)
          exact Excerpt.alike_append (PathSegment.ofToken_alike spans) alike
        · simp only [final.isWord, final'.isWord, Bool.and_false]
          exact .pure (PathSegment.ofToken_alike spans)
      · exact .lookaheadAny fun _ _ => .pure (PathSegment.ofToken_alike spans)
    cases bound' with
    | zero => exact (steps 0).exhausted
    | succ bound' => exact steps bound'

theorem path_agrees : Agrees x started 1 path path :=
  .remaining fun _ _ => pathWithin_agrees _ _

end Parser

namespace Attempt

theorem identifier_agrees : Agrees x true 0 identifier identifier := by
  refine .lift (.token (fun token span _ => ?_) fun _ token token' final final' => ?_)
  · exact Agrees.ite (.lift (.advance (Agrees.pure rfl))) (unexpected_agrees _)
  · simp only [final.isWord, final'.isWord]
    exact unexpected_agrees _

theorem columnRef_agrees : Agrees x true 0 columnRef columnRef := by
  refine .lift (.token (fun token span spans => ?_) fun _ token token' final final' => ?_)
  · refine Agrees.ite (.lift (path_agrees.bind fun path path' alike => ?_)) (unexpected_agrees _)
    refine Agrees.spanned (congrArg Span.start spans) fun span span' spans => ?_
    exact PathSegment.columnRef_alike alike spans
  · simp only [final.isWord, final'.isWord]
    exact unexpected_agrees _

theorem identifier_final {input : ParserInput} {s : ParserState}
    (final : (input.token s.index).Final) :
    ∃ error, identifier.run input s = some (.error error, s) := by
  have absent : (input.token s.index).isWord = false := final.isWord
  refine ⟨.syntactic (input.token s.index).span.start
    (.unexpected (input.token s.index) TokenKind.identifier.text), ?_⟩
  change (if (input.token s.index).isWord then _ else _ : Attempt String).run input s = _
  rw [absent]
  rfl

end Attempt

namespace Parser

theorem aliasName_agrees : Agrees x true 0 aliasName aliasName := by
  have unnamed : x.Alike (("", {}) : String × Span) ("", {}) := congrArg (Prod.mk "") x.unset_span
  refine .accept _ (.of_ahead (.here fun token span spans => ?_) ?_)
    (.token (fun token span spans => .ite ?_ (.pure unnamed)) ?_)
  · refine .any ((Attempt.orNote_agrees Attempt.identifier_agrees).plain fun name => ?_)
    cases name with
    | some name => exact .pure (congrArg (Prod.mk name) spans)
    | none => exact .pure unnamed
  · intro cut s _ t last run counts
    obtain ⟨token, _, ⟨⟩, run⟩ := bind_eq_some run
    obtain ⟨error, stops⟩ := Attempt.identifier_final (Excerpt.final_first last cut)
    have noted : Attempt.identifier.orNote x.first s =
        some (none, { s with errors := s.errors ++ [error] }) :=
      bind_eq stops
    rw [bind_eq noted] at run
    cases run
    exact absurd (Excerpt.counts_strict (fun lax => (x.strict lax).2 cut) counts).1 (by simp)
  · exact .advance (.pure (congrArg (Prod.mk token.text) spans))
  · intro _ token token' final final'
    rw [final.kind_beq, final'.kind_beq]
    exact .pure unnamed

/-! ### Types -/

theorem typeArguments_agrees (bound bound' : Nat) (depth : Int) (afterWord : Bool) :
    Agrees x true 0 (typeArguments bound depth afterWord) (typeArguments bound' depth afterWord) := by
  induction bound generalizing bound' depth afterWord with
  | zero => exact exhausted_agrees
  | succ bound ih =>
    have steps (bound' : Nat) : Agrees x true 0 (typeArguments (bound + 1) depth afterWord)
        (typeArguments (bound' + 1) depth afterWord) := by
      refine .of_ahead (.here fun token span _ => .ite ?_ (.advance (.ite ?_ ?_))) ?_
      · exact (unexpected_agrees _).plain fun _ => .pure rfl
      · exact (ih bound' _ _).plain fun _ => .pure rfl
      · exact (Agrees.when (fault_agrees fun _ => rfl) _).plain fun _ => .pure rfl
      · intro cut s text t last run counts _
        obtain ⟨token, _, ⟨⟩, run⟩ := bind_eq_some run
        rw [if_pos ((x.ends s.index (Nat.le_of_eq last)).2 last)] at run
        exact unexpected_noisy (fun lax => (x.strict lax).2 cut) _ _ s text t run counts
    cases bound' with
    | zero => exact (steps 0).exhausted
    | succ bound' => exact steps bound'

/-- The parameters of a type with the parenthesis that has to follow them. Where the excerpt is cut
before it the first reading notes an error, and the second one may go on. -/
theorem typeParameters_agrees (bound bound' : Nat) (f : String → String) :
    Agrees x true 0
      (do
        let parameters ← typeParameters bound
        discard <| expect Symbol.rightParen
        return f parameters)
      (do
        let parameters ← typeParameters bound'
        discard <| expect Symbol.rightParen
        return f parameters) := by
  have closed (parameters : String) (f : String → String) :
      Needs x (do discard <| expect Symbol.rightParen; return f parameters)
        (do discard <| expect Symbol.rightParen; return f parameters) :=
    (expect_needs _).discard.plain fun _ => .pure rfl
  induction bound generalizing bound' f with
  | zero => exact exhausted_agrees
  | succ bound ih =>
    have steps (bound' : Nat) : Agrees x true 0
        (do
          let parameters ← typeParameters (bound + 1)
          discard <| expect Symbol.rightParen
          return f parameters)
        (do
          let parameters ← typeParameters (bound' + 1)
          discard <| expect Symbol.rightParen
          return f parameters) := by
      simp only [typeParameters, bind_assoc]
      refine .of_ahead (.here fun token span _ => ?_) ?_
      · simp only
        split
        · exact (closed "" f).agrees
        · simp only [bind_assoc]
          exact .advance (ih bound' fun parameters =>
            f ((if token.kind = .symbol .comma then ", " else token.text) ++ parameters))
      · intro cut s text t last run counts _
        obtain ⟨token, _, ⟨⟩, run⟩ := bind_eq_some run
        have ends := (x.ends s.index (Nat.le_of_eq last)).2 last
        rw [if_pos (by rw [ends]; rfl)] at run
        exact (closed "" f).demands cut s text t last run counts
    cases bound' with
    | zero => exact (steps 0).exhausted
    | succ bound' => exact steps bound'

theorem typeName_needs : Needs x typeName typeName := by
  refine .token (fun token span _ => .ite ?_ (.advance ?_)) fun cut token final => ?_
  · exact (unexpected_agrees _).plain fun _ => .pure rfl
  · refine .remaining fun bound bound' => ?_
    have parameters (arguments : String) (bound bound' : Nat) : Agrees x true 0
        (do
          if ← accept Symbol.leftParen then
            let parameters ← typeParameters bound
            discard <| expect Symbol.rightParen
            return Text.upper token.text ++ arguments ++ "(" ++ parameters ++ ")"
          else return Text.upper token.text ++ arguments)
        (do
          if ← accept Symbol.leftParen then
            let parameters ← typeParameters bound'
            discard <| expect Symbol.rightParen
            return Text.upper token.text ++ arguments ++ "(" ++ parameters ++ ")"
          else return Text.upper token.text ++ arguments) :=
      .accept _ (typeParameters_agrees _ _ _) (.pure rfl)
    refine .check _ (.any ?_) (parameters "" _ _)
    exact (typeArguments_agrees _ _ _ _).plain fun arguments => parameters arguments _ _
  · simp only [final.isWord]
    exact unexpected_noisy (fun lax => (x.strict lax).2 cut) _ _

end Parser

end QueryLint
