import Mathlib.Data.List.Basic
import QueryLint.Proofs.Parser.Ensures.Statements
import QueryLint.Proofs.Parser.Lockstep.Sources
import QueryLint.Proofs.Parser.Spans
import QueryLint.Proofs.Parser.Terms
import QueryLint.Proofs.Usage.SourcePath

/-!
The names of tables and the paths that are written in the source. A path is read in two rounds: the
words with dots between them, then dashes after the first word, then possibly a dot and further words.
Where a path is regular, the two rounds read what one round from left to right would, and the name that
a table has is the path as written.
-/

namespace QueryLint

open QueryLint.Parser

/-! ### Splitting at dots -/

namespace Text

theorem splitList_append (separator : Char) (front back : List Char) :
    splitList separator (front ++ separator :: back) =
      splitList separator front ++ splitList separator back := by
  induction front with
  | nil => exact if_pos rfl
  | cons c rest ih =>
    rw [List.cons_append, splitList, ih, splitList]
    split
    · rfl
    · obtain ⟨piece, pieces, split⟩ := List.exists_cons_of_ne_nil (splitList_ne_nil separator rest)
      rw [split]
      rfl

theorem splitOn_append (front back : String) :
    splitOn '.' (front ++ "." ++ back) = splitOn '.' front ++ splitOn '.' back := by
  have spelled : (front ++ "." ++ back).toList = front.toList ++ '.' :: back.toList := by
    simp [String.toList_append]
  rw [splitOn, spelled, splitList_append, List.map_append]
  rfl

theorem splitOn_intercalate {names : List String} (some : names ≠ []) :
    splitOn '.' (".".intercalate names) = names.flatMap (splitOn '.') := by
  induction names with
  | nil => exact absurd rfl some
  | cons name rest ih =>
    cases rest with
    | nil => simp
    | cons next rest =>
      rw [String.intercalate_cons_cons, splitOn_append, ih (List.cons_ne_nil _ _)]
      rfl

theorem intercalate_splitList (cs : List Char) :
    ".".intercalate ((splitList '.' cs).map String.ofList) = String.ofList cs := by
  induction cs with
  | nil => rfl
  | cons c rest ih =>
    obtain ⟨piece, pieces, split⟩ := List.exists_cons_of_ne_nil (splitList_ne_nil '.' rest)
    rw [splitList, split]
    rw [split, List.map_cons] at ih
    by_cases dot : c = '.'
    · rw [if_pos dot, List.map_cons, List.map_cons, String.intercalate_cons_cons, ih, dot,
        String.ofList_nil, String.empty_append]
      exact String.ofList_append.symm
    · rw [if_neg dot, List.map_cons]
      have first : String.ofList (c :: piece) = String.ofList [c] ++ String.ofList piece :=
        @String.ofList_append [c] piece
      rw [first, String.intercalate_cons_append, ih]
      exact String.ofList_append.symm

theorem intercalate_splitOn (text : String) : ".".intercalate (splitOn '.' text) = text := by
  rw [splitOn, intercalate_splitList, String.ofList_toList]

theorem splitOn_empty : splitOn '.' "" = [""] := by decide

end Text

/-! ### The path that is written -/

namespace WrittenPath

/-- What dashes add to the name that ends with a token, and the tokens behind: a dash belongs to the
name if it touches the name and the word or number after it. -/
def dashes (previous : Token) : List Token → String × List Token
  | dash :: next :: rest =>
    if dash.kind == Symbol.minus && dash.span.start.offset == previous.span.stop.offset &&
        next.span.start.offset == dash.span.stop.offset &&
        (next.kind == .identifier || next.kind == .number) then
      let (more, behind) := dashes next rest
      ("-" ++ next.text ++ more, behind)
    else ("", dash :: next :: rest)
  | tokens => ("", tokens)

def words : List Token → List String × List Token
  | dot :: word :: rest =>
    if dot.kind == Symbol.dot && word.isWord then
      let (more, behind) := words rest
      (word.text :: more, behind)
    else ([], dot :: word :: rest)
  | tokens => ([], tokens)

/-- The words of the path that begins with a token, dashes glued to the first one, and the tokens
behind the path. -/
def ofWord (first : Token) (rest : List Token) : List String × List Token :=
  let (dashes, rest) := dashes first rest
  let (more, behind) := words rest
  ((first.text ++ dashes) :: more, behind)

/-- A path that is not followed by a dot, has dashes only after a word without dots, and has no empty
part. -/
structure Regular (first : Token) (rest : List Token) : Prop where
  ended : ∀ token ∈ (ofWord first rest).2.head?, token.kind ≠ Symbol.dot
  dashes : '.' ∈ first.text.toList → (dashes first rest).1 = ""
  parts : ∀ part ∈ Text.splitOn '.' (".".intercalate (ofWord first rest).1), part ≠ ""

instance (first : Token) (rest : List Token) : Decidable (Regular first rest) :=
  decidable_of_iff
    ((∀ token ∈ (ofWord first rest).2.head?, token.kind ≠ Symbol.dot) ∧
      ('.' ∈ first.text.toList → (WrittenPath.dashes first rest).1 = "") ∧
      ∀ part ∈ Text.splitOn '.' (".".intercalate (ofWord first rest).1), part ≠ "")
    ⟨fun ⟨ended, dashes, parts⟩ => ⟨ended, dashes, parts⟩,
      fun ⟨ended, dashes, parts⟩ => ⟨ended, dashes, parts⟩⟩

theorem Regular.ofToken {first : Token} {rest : List Token} (regular : Regular first rest)
    (some : (WrittenPath.dashes first rest).1 ≠ "") :
    PathSegment.ofToken first = [⟨first.text, first.quoted, first.span⟩] := by
  have undotted : first.text.toList.contains '.' = false := by
    rw [Bool.eq_false_iff, ne_eq, List.contains_iff_mem]
    exact mt regular.dashes some
  rw [PathSegment.ofToken, undotted, Bool.and_false, if_neg Bool.false_ne_true]

variable {previous : Token} {tokens : List Token}

theorem dashes_snd (nothing : (dashes previous tokens).1 = "") :
    (dashes previous tokens).2 = tokens := by
  unfold dashes at nothing ⊢
  split at nothing
  · split at nothing
    · rw [String.append_eq_empty_iff, String.append_eq_empty_iff] at nothing
      exact absurd nothing.1.1 (by decide)
    · next dash next rest apart => exact congrArg Prod.snd (if_neg apart)
  · rfl

section Rest

variable {input : ParserInput} (formed : input.WellFormed) {s t : ParserState}

include formed

theorem words_rest {i : Nat} (inside : i < input.tokens.size) :
    words (input.rest i) =
      if (input.token i).kind == Symbol.dot && (input.token (i + 1)).isWord then
        ((input.token (i + 1)).text :: (words (input.rest (i + 2))).1,
          (words (input.rest (i + 2))).2)
      else ([], input.rest i) := by
  rw [ParserInput.rest_eq_cons inside]
  by_cases more : i + 1 < input.tokens.size
  · rw [ParserInput.rest_eq_cons more]
    rfl
  · have last := (formed.ends i inside).2 (by omega)
    have behind : input.rest (i + 1) = [] :=
      List.drop_eq_nil_of_le (by rw [Array.length_toList]; omega)
    rw [behind, last]
    rfl

theorem dashes_rest {segment : PathSegment} {previous : Token}
    (stop : segment.span.stop = previous.span.stop) (inside : s.index < input.tokens.size) :
    dashes previous (input.rest s.index) =
      if Grammar.continuesSegment input s segment then
        ("-" ++ (input.token (s.index + 1)).text ++
            (dashes (input.token (s.index + 1)) (input.rest (s.index + 2))).1,
          (dashes (input.token (s.index + 1)) (input.rest (s.index + 2))).2)
      else ("", input.rest s.index) := by
  rw [ParserInput.rest_eq_cons inside, Grammar.continuesSegment, stop]
  by_cases more : s.index + 1 < input.tokens.size
  · rw [ParserInput.rest_eq_cons more]
    rfl
  · have last := (formed.ends s.index inside).2 (by omega)
    have behind : input.rest (s.index + 1) = [] :=
      List.drop_eq_nil_of_le (by rw [Array.length_toList]; omega)
    rw [behind, last]
    rfl

end Rest

end WrittenPath

/-! ### The first round -/

open WrittenPath

/-- A path was read between two states: a word and all words that follow after dots. -/
structure PathRead (input : ParserInput) (s t : ParserState) (path : List PathSegment) : Prop where
  inside : t.index < input.tokens.size
  behind : input.rest t.index = (words (input.rest (s.index + 1))).2
  joined : PathSegment.join path =
    ".".intercalate ((input.token s.index).text :: (words (input.rest (s.index + 1))).1)
  starts : ∃ others, path = PathSegment.ofToken (input.token s.index) ++ others
  /-- A path of one word. -/
  alone : t.index = s.index + 1 → path = PathSegment.ofToken (input.token s.index)
  /-- A path of several words. -/
  dotted : t.index ≠ s.index + 1 →
    s.index + 1 < t.index ∧ (input.token (s.index + 1)).kind = Symbol.dot

theorem PathRead.forward {input : ParserInput} {s t : ParserState} {path : List PathSegment}
    (read : PathRead input s t path) : s.index + 1 ≤ t.index := by
  by_cases alone : t.index = s.index + 1
  · exact Nat.le_of_eq alone.symm
  · exact Nat.le_of_lt (read.dotted alone).1

theorem PathRead.ne_nil {input : ParserInput} {s t : ParserState} {path : List PathSegment}
    (read : PathRead input s t path) : path ≠ [] := by
  obtain ⟨others, rfl⟩ := read.starts
  exact List.append_ne_nil_of_left_ne_nil (PathSegment.ofToken_ne_nil _) _

theorem PathSegment.join_ofToken (token : Token) : join (ofToken token) = token.text := by
  unfold ofToken
  split
  · rw [join, List.map_map]
    exact (congrArg _ (List.map_id _)).trans (Text.intercalate_splitOn _)
  · exact String.intercalate_singleton

theorem PathSegment.join_append {front back : List PathSegment} (some : front ≠ [])
    (more : back ≠ []) : join (front ++ back) = join front ++ "." ++ join back := by
  rw [join, List.map_append, String.intercalate_append_of_ne_nil]
  · rfl
  · exact mt List.map_eq_nil_iff.1 some
  · exact mt List.map_eq_nil_iff.1 more

section Reading

variable {input : ParserInput} (formed : input.WellFormed) {s t : ParserState}
  {path : List PathSegment}

include formed

theorem pathWithin_read {bound : Nat} (inside : s.index < input.tokens.size)
    (word : (input.token s.index).isWord = true)
    (run : pathWithin bound input s = some (path, t)) : PathRead input s t path := by
  induction bound generalizing s path with
  | zero => cases run
  | succ bound ih =>
    have more := isWord_more formed inside word
    obtain ⟨token, _, ⟨⟩, run⟩ := bind_eq_some run
    obtain ⟨_, s₁, moved, run⟩ := bind_eq_some run
    rw [advance_eq more] at moved
    cases moved
    obtain ⟨dotted, _, ⟨⟩, run⟩ := bind_eq_some run
    obtain ⟨next, _, ⟨⟩, run⟩ := bind_eq_some run
    have step := words_rest formed more
    rw [ParserState.next_index] at run
    split at run
    · next goes =>
      obtain ⟨dot, word'⟩ := Bool.and_eq_true_iff.1 goes
      have more' := formed.more more (beq_iff_eq.1 dot) TokenKind.Inner.ne_endOfInput
      obtain ⟨_, s₂, moved, run⟩ := bind_eq_some run
      rw [advance_eq more'] at moved
      cases moved
      obtain ⟨others, t, ran, run⟩ := bind_eq_some run
      cases run
      have later := ih more' word' ran
      have forward := later.forward
      rw [if_pos goes] at step
      refine ⟨later.inside, ?_, ?_, ⟨others, rfl⟩, fun alone => ?_, fun _ => ⟨?_, beq_iff_eq.1 dot⟩⟩
      · rw [step]
        exact later.behind
      · rw [PathSegment.join_append (PathSegment.ofToken_ne_nil _) later.ne_nil,
          PathSegment.join_ofToken, later.joined, step]
        exact String.intercalate_cons_cons.symm
      · exact absurd (alone ▸ forward) (by simp only [ParserState.next_index]; omega)
      · exact Nat.lt_of_lt_of_le (by simp only [ParserState.next_index]; omega) forward
    · next stays =>
      cases run
      rw [if_neg stays] at step
      refine ⟨more, ?_, ?_, ⟨[], (List.append_nil _).symm⟩, fun _ => rfl, fun other => absurd rfl other⟩
      · rw [step]
        rfl
      · rw [step, PathSegment.join_ofToken]
        exact String.intercalate_singleton.symm

/-! ### The second round -/

theorem dashed_read {bound : Nat} {segment result : PathSegment} (previous : Token)
    (stop : segment.span.stop = previous.span.stop) (inside : s.index < input.tokens.size)
    (run : Grammar.dashed bound segment input s = some (result, t)) :
    t.index < input.tokens.size ∧
      result.name = segment.name ++ (dashes previous (input.rest s.index)).1 ∧
      input.rest t.index = (dashes previous (input.rest s.index)).2 := by
  induction bound generalizing segment previous s with
  | zero => cases run
  | succ bound ih =>
    rw [dashes_rest formed stop inside]
    obtain ⟨apart, rfl, rfl⟩ | ⟨touches, run⟩ := Grammar.dashed_cases run
    · rw [if_neg (by rw [apart]; exact Bool.false_ne_true)]
      exact ⟨inside, String.append_empty.symm, rfl⟩
    · have glued := touches
      simp only [Grammar.continuesSegment, Bool.and_eq_true, Bool.or_eq_true, beq_iff_eq] at glued
      have more := formed.more inside glued.1.1.1 TokenKind.Inner.ne_endOfInput
      have more' : s.index + 1 + 1 < input.tokens.size := by
        rcases glued.2 with word | number
        · exact formed.more more word TokenKind.Inner.ne_endOfInput
        · exact formed.more more number TokenKind.Inner.ne_endOfInput
      simp only [ParserInput.following, if_pos more, if_pos more'] at run
      obtain ⟨inside', name, behind⟩ := ih (input.token (s.index + 1)) rfl more' run
      rw [if_pos touches]
      refine ⟨inside', ?_, behind⟩
      rw [name, Grammar.extendSegment]
      simp only [String.append_assoc]

omit formed in
theorem tablePathFrom_eq {first : PathSegment} {others : List PathSegment}
    (absent : (input.token s.index).kind ≠ Symbol.dot)
    (run : Grammar.tablePathFrom first others input s = some (path, t)) : path = first :: others := by
  obtain ⟨_, _, accepted, run⟩ := bind_eq_some run
  rw [accept_eq_false absent] at accepted
  cases accepted
  cases run
  rfl

theorem tablePathFrom_words {first : PathSegment} {others : List PathSegment}
    (inside : s.index < input.tokens.size) (dot : (input.token s.index).kind = Symbol.dot)
    (ended : ∀ token ∈ (words (input.rest s.index)).2.head?, token.kind ≠ Symbol.dot)
    (run : Grammar.tablePathFrom first others input s = some (path, t)) :
    ∃ more, path = first :: more ∧ more ≠ [] ∧ (words (input.rest s.index)).1 ≠ [] ∧
      PathSegment.join more = ".".intercalate (words (input.rest s.index)).1 := by
  have more := formed.more inside dot TokenKind.Inner.ne_endOfInput
  have step := words_rest formed inside
  split at step
  · next goes =>
    obtain ⟨_, _, accepted, run⟩ := bind_eq_some run
    rw [accept_eq_true more dot] at accepted
    cases accepted
    obtain ⟨rest, _, ran, run⟩ := bind_eq_some run
    cases run
    obtain ⟨_, _, ⟨⟩, ran⟩ := bind_eq_some ran
    have round := pathWithin_read formed more (Bool.and_eq_true_iff.1 goes).2 ran
    refine ⟨rest, rfl, round.ne_nil, ?_, ?_⟩
    · rw [step]
      exact List.cons_ne_nil _ _
    · rw [step]
      exact round.joined
  · rw [step, ParserInput.rest_eq_cons inside] at ended
    exact absurd dot (ended _ rfl)

omit formed in
theorem continuesSegment_eq_false {source : Text.Bytes} (laid : input.Laid source)
    {segment : PathSegment} (stop : segment.span.stop = (input.token s.index).span.stop)
    (later : s.index + 1 < t.index) (inside : t.index < input.tokens.size) :
    Grammar.continuesSegment input t segment = false := by
  have room := laid.nonempty (s.index + 1) (Nat.lt_of_le_of_lt later inside)
  have first := laid.ordered s.index (s.index + 1) (Nat.lt_succ_self _) (Nat.lt_trans later inside)
  have second := laid.ordered (s.index + 1) t.index later inside
  refine Bool.eq_false_iff.2 fun touches => ?_
  simp only [Grammar.continuesSegment, Bool.and_eq_true, beq_iff_eq, stop] at touches
  have touch := touches.1.1.2
  omega

section Rounds

variable {u : ParserState} {first : PathSegment} {others : List PathSegment}
  (round : PathRead input s t (first :: others))
  (regular : Regular (input.token s.index) (input.rest (s.index + 1)))
  (run : Grammar.withDashes (first :: others) input t = some (path, u))

include round regular run

theorem withDashes_several {source : Text.Bytes} (laid : input.Laid source)
    (several : t.index ≠ s.index + 1) : PathSegment.join path =
      ".".intercalate (ofWord (input.token s.index) (input.rest (s.index + 1))).1 := by
  obtain ⟨later, dot⟩ := round.dotted several
  have stop : first.span.stop = (input.token s.index).span.stop := by
    obtain ⟨_, same⟩ := round.starts
    rw [PathSegment.span_of_ofToken_append same.symm]
  have none : dashes (input.token s.index) (input.rest (s.index + 1)) =
      ("", input.rest (s.index + 1)) := by
    have step := dashes_rest formed (s := s.next) stop (Nat.lt_trans later round.inside)
    have apart : Grammar.continuesSegment input s.next first ≠ true := by
      simp [Grammar.continuesSegment, dot]
    rwa [if_neg apart] at step
  have ended := regular.ended
  rw [ofWord, none] at ended
  dsimp only at ended
  rw [← round.behind, ParserInput.rest_eq_cons round.inside] at ended
  obtain ⟨_, _, ⟨⟩, run⟩ := bind_eq_some run
  obtain ⟨extended, _, dashed, rest⟩ := bind_eq_some run
  have apart := continuesSegment_eq_false laid stop later round.inside
  obtain ⟨_, rfl, rfl⟩ | ⟨touches, _⟩ := Grammar.dashed_cases dashed
  · rw [tablePathFrom_eq (ended _ rfl) rest, round.joined, ofWord, none]
    dsimp only
    rw [String.append_empty]
  · rw [apart] at touches
    cases touches

theorem withDashes_alone (alone : t.index = s.index + 1) : PathSegment.join path =
      ".".intercalate (ofWord (input.token s.index) (input.rest (s.index + 1))).1 := by
  have whole := round.alone alone
  have name : PathSegment.join (first :: others) = (input.token s.index).text := by
    rw [whole, PathSegment.join_ofToken]
  have stop : first.span.stop = (input.token s.index).span.stop := by
    obtain ⟨_, same⟩ := round.starts
    rw [PathSegment.span_of_ofToken_append same.symm]
  obtain ⟨_, _, ⟨⟩, run⟩ := bind_eq_some run
  obtain ⟨extended, s₂, dashed, rest⟩ := bind_eq_some run
  obtain ⟨inside, extended_name, behind⟩ := dashed_read formed _ stop round.inside dashed
  rw [alone] at extended_name behind
  have ended := regular.ended
  rw [ofWord]
  rw [ofWord] at ended
  dsimp only at ended ⊢
  rw [← behind] at ended ⊢
  have single (some : (dashes (input.token s.index) (input.rest (s.index + 1))).1 ≠ "") :
      first.name = (input.token s.index).text ∧ others = [] := by
    rw [regular.ofToken some] at whole
    obtain ⟨rfl, rfl⟩ := List.cons.inj whole
    exact ⟨rfl, rfl⟩
  by_cases dot : (input.token s₂.index).kind = Symbol.dot
  · obtain ⟨more, rfl, further, some, joined⟩ := tablePathFrom_words formed inside dot ended rest
    have dashed : (dashes (input.token s.index) (input.rest (s.index + 1))).1 ≠ "" := by
      -- Without a dash the dot would not be followed by a word, and the path would end before it.
      intro nothing
      rw [dashes_snd nothing] at behind
      rw [behind, ← round.behind, alone, ← behind, ParserInput.rest_eq_cons inside] at ended
      exact ended _ rfl dot
    change PathSegment.join ([extended] ++ more) = _
    rw [PathSegment.join_append (List.cons_ne_nil _ _) further, joined,
      String.intercalate_cons_of_ne_nil some, PathSegment.join, List.map_singleton,
      String.intercalate_singleton, extended_name, (single dashed).1]
  · have stays := words_rest formed inside
    rw [if_neg (by simp [dot])] at stays
    rw [tablePathFrom_eq dot rest, stays]
    dsimp only
    rw [String.intercalate_singleton]
    by_cases nothing : (dashes (input.token s.index) (input.rest (s.index + 1))).1 = ""
    · rw [nothing, String.append_empty] at extended_name
      rw [nothing, String.append_empty, ← name, PathSegment.join, PathSegment.join, List.map_cons,
        List.map_cons, extended_name]
    · obtain ⟨same, rfl⟩ := single nothing
      rw [PathSegment.join, List.map_singleton, String.intercalate_singleton, extended_name, same]

end Rounds

/-- A regular path is read as it is written. -/
theorem tablePath_join {source : Text.Bytes} (laid : input.Laid source)
    (inside : s.index < input.tokens.size) (word : (input.token s.index).isWord = true)
    (regular : Regular (input.token s.index) (input.rest (s.index + 1)))
    (run : Grammar.tablePath input s = some (path, t)) : PathSegment.join path =
      ".".intercalate (ofWord (input.token s.index) (input.rest (s.index + 1))).1 := by
  obtain ⟨found, s₁, ran, rest⟩ := bind_eq_some run
  obtain ⟨_, _, ⟨⟩, ran⟩ := bind_eq_some ran
  have round := pathWithin_read formed inside word ran
  obtain ⟨first, others, rfl⟩ := List.exists_cons_of_ne_nil round.ne_nil
  by_cases alone : s₁.index = s.index + 1
  · exact withDashes_alone formed round regular rest alone
  · exact withDashes_several formed round regular rest laid alone

end Reading

/-! ### Names -/

/-- The name of a table without empty segments is its path. -/
theorem PathSegment.path_tableName {path : List PathSegment} (some : path ≠ [])
    (named : ∀ segment ∈ path, segment.name ≠ "") : (tableName path).path = join path := by
  have each : ∀ name ∈ path.map (·.name), name ≠ "" := List.forall_mem_map.2 named
  have listed := (List.reverse_reverse (path.map (·.name))).symm
  rw [tableName, join]
  cases split : (path.map (·.name)).reverse with
  | nil => exact absurd (List.map_eq_nil_iff.1 (List.reverse_eq_nil_iff.1 split)) some
  | cons name rest =>
    rw [split] at listed
    rw [listed] at each ⊢
    cases rest with
    | nil =>
      rw [List.reverse_singleton, String.intercalate_singleton]
      exact String.empty_append
    | cons dataset project =>
      rw [List.reverse_cons, List.reverse_cons, List.append_assoc, List.singleton_append] at each ⊢
      have filled : dataset.isEmpty = false := by
        rw [Bool.eq_false_iff, ne_eq, String.isEmpty_iff]
        exact each _ (by simp)
      have short : ".".intercalate [dataset, name] = dataset ++ "." ++ name := by
        rw [String.intercalate_cons_cons, String.intercalate_singleton]
      rw [TableName.path]
      dsimp only
      rw [filled]
      cases front : project.reverse with
      | nil =>
        rw [List.nil_append, short]
        exact congrArg (· ++ name) String.empty_append
      | cons first others =>
        rw [front] at each
        have outer : (".".intercalate (first :: others)).isEmpty = false :=
          intercalate_ne_empty (by
            rw [Bool.eq_false_iff, ne_eq, String.isEmpty_iff]
            exact each _ (by simp)) others
        rw [outer, String.intercalate_append_of_ne_nil (List.cons_ne_nil _ _) (List.cons_ne_nil _ _),
          short]
        simp only [Bool.false_eq_true, if_false, String.append_assoc]

/-- The name of a table is the path that is written where the table begins, if that path is
regular. -/
def TableName.Written (tokens : List Token) (table : TableName) : Prop :=
  ∃ before first rest, tokens = before ++ first :: rest ∧ first.isWord = true ∧
    table.span.start = first.span.start ∧
      (Regular first rest → table.path = ".".intercalate (ofWord first rest).1)

theorem ParserInput.WellFormed.inside_of_isWord {input : ParserInput} (formed : input.WellFormed)
    {i : Nat} (word : (input.token i).isWord = true) : i < input.tokens.size := by
  by_contra beyond
  have last := (formed.ends (input.tokens.size - 1) (by have := formed.nonempty; omega)).2
    (by have := formed.nonempty; omega)
  rw [ParserInput.token_of_le (Nat.not_lt.1 beyond)] at word
  simp [Token.isWord, last, TokenKind.isKeyword] at word

theorem ParserInput.names_written {input : ParserInput} {source : Text.Bytes}
    (formed : input.WellFormed) (laid : input.Laid source) :
    input.Names (TableName.Written input.tokens.toList) where
  read {s s' path} stop aliasName aliasSpan word run := by
    have inside := formed.inside_of_isWord word
    refine ⟨input.tokens.toList.take s.index, input.token s.index, input.rest (s.index + 1), ?_, word,
      rfl, fun regular => ?_⟩
    · rw [← ParserInput.rest_eq_cons inside]
      exact (List.take_append_drop _ _).symm
    · have joined := tablePath_join formed laid inside word regular run
      have parts := regular.parts
      rw [← joined] at parts ⊢
      have some : path ≠ [] := by
        rintro rfl
        exact parts "" (by decide) rfl
      refine PathSegment.path_tableName some fun segment member empty => ?_
      rw [PathSegment.join, Text.splitOn_intercalate (mt List.map_eq_nil_iff.1 some)] at parts
      refine parts "" (List.mem_flatMap.2 ⟨segment.name, List.mem_map_of_mem member, ?_⟩) rfl
      rw [empty, Text.splitOn_empty]
      exact List.mem_singleton_self _

namespace Query

/-- Every table of an accepted statement has the name that is written where it begins, if the path
there is regular. -/
theorem tableName_written {source : Text.Bytes} {query : Query} {recovered : Option SyntaxError}
    {table : TableName}
    (accepted : Query.parse Dialect.bigQuery source = .accepted query recovered)
    (visited : Node.table (.table table) ∈ (Node.query query).descendants) :
    table.Written (TokenStream.ofSource Dialect.bigQuery.lexicon source).tokens := by
  have anything : ParserInput.Admits (start Dialect.bigQuery source).1 fun _ => True := by
    constructor <;> intros <;> trivial
  have names := ParserInput.names_written
    (start_wellFormed Dialect.bigQuery_proper Dialect.bigQuery_bounded source)
    (start_laid Dialect.bigQuery_proper source)
  have ensured := Query.parse_flawless Dialect.bigQuery_placesClauses anything
    (fun _ _ => trivial) names
  rw [accepted] at ensured
  exact ensured.1.names (List.mem_singleton_self _) visited

/-- The statement of a source, if it is accepted and nothing in it was skipped, has a table of a
name. -/
def namesTable (source : Text.Bytes) (path : String) : Bool :=
  match parse Dialect.bigQuery source with
  | .accepted query none => (Node.query query).descendants.any fun
    | .table (.table table) => table.path == path
    | _ => false
  | _ => false

theorem exists_of_namesTable {source : Text.Bytes} {path : String}
    (names : namesTable source path = true) :
    ∃ query table, parse Dialect.bigQuery source = .accepted query none ∧
      Node.table (.table table) ∈ (Node.query query).descendants ∧ table.path = path := by
  unfold namesTable at names
  split at names
  next query accepted =>
    obtain ⟨node, visited, named⟩ := List.any_eq_true.1 names
    split at named
    next table => exact ⟨query, table, accepted, visited, beq_iff_eq.1 named⟩
    next => cases named
  next => cases names

/-- A project with dashes, which are part of its name: the fourth token begins a regular path. -/
theorem tableName_written_dashes :
    let source := Text.encode "SELECT 1 FROM my-project.sales.orders"
    let tokens := (TokenStream.ofSource Dialect.bigQuery.lexicon source).tokens
    (∃ query table, parse Dialect.bigQuery source = .accepted query none ∧
      Node.table (.table table) ∈ (Node.query query).descendants ∧
      table.path = "my-project.sales.orders" ∧ table.Written tokens) ∧
    Regular (tokens.getD 3 default) (tokens.drop 4) ∧
    (ofWord (tokens.getD 3 default) (tokens.drop 4)).1 = ["my-project", "sales", "orders"] := by
  intro source tokens
  have names : namesTable source "my-project.sales.orders" = true := by decide +kernel
  obtain ⟨query, table, accepted, visited, named⟩ := exists_of_namesTable names
  refine ⟨⟨query, table, accepted, visited, named, tableName_written accepted visited⟩, ?_⟩
  decide +kernel

/-- Three statements whose paths are not regular, with a dash after a word with dots, with a
parenthesis after a dot, and with an empty part: the name is not the path that is written. -/
example :
    namesTable (Text.encode "SELECT 1 FROM `a.b`-c.d") "a-c.d" = true ∧
      namesTable (Text.encode "SELECT 1 FROM a.b.)") "a.)" = true ∧
      namesTable (Text.encode "SELECT 1 FROM `a..b`") "a.b" = true := by
  decide +kernel

end Query

end QueryLint
