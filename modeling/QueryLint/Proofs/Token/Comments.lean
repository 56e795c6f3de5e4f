import Mathlib.Data.List.Infix
import Mathlib.Data.List.TakeWhile
import QueryLint.Proofs.Token.Faults
import QueryLint.Proofs.Token.Seam

/-!
Where comments end. A line comment goes on to the next line feed and a block comment through the first
delimiter that closes it, whatever stands in between; where neither comes, they go on to the end of the
source. For both the source ends at the next zero byte: what follows it is read as if the comment were
over, and a block comment that is closed only behind it is reported as not closed.
-/

namespace QueryLint

open Text (Bytes)

namespace Lexing

/-! ### The text of a comment -/

/-- What the reader of a comment sees of the bytes: a zero byte counts as their end. -/
def seen (bytes : Bytes) : Bytes := bytes.takeWhile (· != 0)

def closing : Bytes := [0x2A, 0x2F]

/-- What a comment at the start of the bytes takes of them. -/
inductive Extends (bytes : Bytes) : CommentKind → Bytes → Prop
  | line {text : Bytes} (opens : [0x2D, 0x2D] <+: text ∨ [0x23] <+: text) (single : 0x0A ∉ text)
      (ends : text = bytes ∨ text ++ [0x0A] <+: bytes) : Extends bytes .line text
  | closed {body : Bytes} (first : ¬closing <:+: body ++ [0x2A])
      (within : [0x2F, 0x2A] ++ body ++ closing <+: bytes) :
      Extends bytes .block ([0x2F, 0x2A] ++ body ++ closing)
  | unclosed (opens : [0x2F, 0x2A] <+: bytes) (never : ¬closing <:+: bytes.drop 2) :
      Extends bytes .block bytes

theorem seen_eq_self {bytes : Bytes} (text : 0 ∉ bytes) : seen bytes = bytes := by
  apply List.takeWhile_eq_self_iff.2
  intro b member
  simp only [bne_iff_ne, ne_eq]
  exact fun zero => text (zero ▸ member)

theorem seen_cons {b : UInt8} (text : b ≠ 0) (rest : Bytes) : seen (b :: rest) = b :: seen rest := by
  unfold seen
  rw [List.takeWhile_cons_of_pos (by simpa using text)]

theorem seen_zero (rest : Bytes) : seen (0 :: rest) = [] := rfl

theorem seen_isPrefix (bytes : Bytes) : seen bytes <+: bytes := List.takeWhile_prefix _

theorem closing_isPrefix_cons {b : UInt8} {rest : Bytes} :
    closing <+: b :: rest ↔ b = 0x2A ∧ rest.head? = some 0x2F := by
  unfold closing
  rw [List.cons_prefix_cons]
  cases rest with
  | nil => simp
  | cons c rest => simp [List.cons_prefix_cons, eq_comm]

/-- A comment that has been opened ends behind the first closing delimiter, or else it takes all that
is seen. -/
theorem readComment_spec (bytes : Bytes) :
    ((readComment bytes).closed = true ∧ ∃ body,
      bytes.take (readComment bytes).width = body ++ closing ∧ body ++ closing <+: seen bytes ∧
        ¬closing <:+: body ++ [0x2A]) ∨
    ((readComment bytes).closed = false ∧ bytes.take (readComment bytes).width = seen bytes ∧
      ¬closing <:+: seen bytes) := by
  fun_induction readComment bytes with
  | case1 => exact .inr ⟨rfl, rfl, by decide⟩
  | case2 rest => exact .inr ⟨rfl, rfl, by simp [seen_zero, closing]⟩
  | case3 b rest text ends =>
    simp only [Bool.and_eq_true, decide_eq_true_eq] at ends
    obtain ⟨rfl, second⟩ := ends
    cases rest with
    | nil => cases second
    | cons c rest =>
      obtain rfl : c = 0x2F := Option.some.inj second
      refine .inl ⟨rfl, [], rfl, ?_, by decide⟩
      rw [seen_cons text, seen_cons (by decide)]
      exact List.prefix_append [0x2A, 0x2F] (seen rest)
  | case4 b rest text goesOn ih =>
    have taken : (b :: rest).take (1 + (readComment rest).width) =
        b :: rest.take (readComment rest).width := by
      rw [Nat.add_comm, List.take_succ_cons]
    have apart {others : Bytes} (head : others.head? = some 0x2F → rest.head? = some 0x2F) :
        ¬closing <+: b :: others := by
      intro found
      obtain ⟨star, slash⟩ := closing_isPrefix_cons.1 found
      apply goesOn
      simp [star, head slash]
    rcases ih with ⟨closed, body, read, within, first⟩ | ⟨opened, read, never⟩
    · refine .inl ⟨closed, b :: body, ?_, ?_, ?_⟩
      · exact taken.trans (congrArg (b :: ·) read)
      · rw [seen_cons text, List.cons_append]
        exact (List.cons_prefix_cons).2 ⟨rfl, within⟩
      · rw [List.cons_append, List.infix_cons_iff, not_or]
        refine ⟨apart ?_, first⟩
        intro slash
        cases body with
        | nil => cases slash
        | cons c body =>
          obtain ⟨others, same⟩ := within.trans (seen_isPrefix rest)
          rw [← same]
          exact slash
    · refine .inr ⟨opened, ?_, ?_⟩
      · rw [seen_cons text]
        exact taken.trans (congrArg (b :: ·) read)
      · rw [seen_cons text, List.infix_cons_iff, not_or]
        refine ⟨apart ?_, never⟩
        intro slash
        obtain ⟨others, same⟩ := seen_isPrefix rest
        rw [← same, List.head?_append, slash]
        rfl

/-! ### Readings -/

/-- A reading of a comment: what it takes, and the fault that it is not closed. -/
structure CommentFits (bytes : Bytes) (kind : CommentKind) (fault : Option LexicalFault) (width : Nat) :
    Prop where
  text : Extends (seen bytes) kind (bytes.take width)
  fault : fault = if kind = .block ∧ ¬closing <:+: (seen bytes).drop 2 then
    some .unterminatedComment else none

theorem blockComment_fits (rest : Bytes) :
    CommentFits (0x2F :: 0x2A :: rest) .block
      (if (readComment rest).closed then none else some .unterminatedComment)
      (2 + (readComment rest).width) := by
  have sight : seen (0x2F :: 0x2A :: rest) = 0x2F :: 0x2A :: seen rest := by
    rw [seen_cons (by decide), seen_cons (by decide)]
  have taken : (0x2F :: 0x2A :: rest).take (2 + (readComment rest).width) =
      0x2F :: 0x2A :: rest.take (readComment rest).width := by
    rw [Nat.add_comm, List.take_succ_cons, List.take_succ_cons]
  rcases readComment_spec rest with ⟨closed, body, read, within, first⟩ | ⟨opened, read, never⟩
  · have ends : closing <:+: (seen (0x2F :: 0x2A :: rest)).drop 2 := by
      rw [sight]
      exact (List.suffix_append body closing).isInfix.trans within.isInfix
    constructor
    · rw [taken, read, sight]
      apply Extends.closed first
      exact List.cons_prefix_cons.2 ⟨rfl, List.cons_prefix_cons.2 ⟨rfl, within⟩⟩
    · rw [closed, if_pos rfl, if_neg fun unclosed => unclosed.2 ends]
  · constructor
    · rw [taken, read, sight]
      exact .unclosed (List.prefix_append [0x2F, 0x2A] (seen rest)) never
    · rw [opened, if_neg Bool.false_ne_true, sight, if_pos ⟨rfl, never⟩]

theorem lineComment_fits {bytes mark : Bytes} (listed : mark = [0x2D, 0x2D] ∨ mark = [0x23])
    (opens : mark <+: bytes) : CommentFits bytes .line none (lineComment bytes).2 := by
  refine ⟨?_, rfl⟩
  let goesOn (b : UInt8) : Bool := b != 0x0A && b != 0
  have text : bytes.take (lineComment bytes).2 = bytes.takeWhile goesOn :=
    (List.prefix_iff_eq_take.1 (List.takeWhile_prefix goesOn)).symm
  have visible : bytes.takeWhile goesOn = (seen bytes).takeWhile (· != 0x0A) := by
    rw [seen, List.takeWhile_takeWhile]
    congr 1
    funext b
    exact Bool.eq_iff_iff.2 (by simp [goesOn])
  rw [text]
  apply Extends.line
  · have kept : ∀ b ∈ mark, goesOn b = true := by
      rcases listed with rfl | rfl <;> simp [goesOn]
    obtain ⟨others, rfl⟩ := opens
    rw [List.takeWhile_append_of_pos kept]
    rcases listed with rfl | rfl
    · exact .inl (List.prefix_append _ _)
    · exact .inr (List.prefix_append _ _)
  · intro feed
    cases List.all_eq_true.1 List.all_takeWhile 0x0A feed
  · have parts := List.takeWhile_append_dropWhile (p := (· != 0x0A)) (l := seen bytes)
    have stops := List.head?_dropWhile_not (· != 0x0A) (seen bytes)
    rw [visible]
    cases rest : (seen bytes).dropWhile (· != 0x0A) with
    | nil =>
      rw [rest, List.append_nil] at parts
      exact .inl parts
    | cons b others =>
      rw [rest] at parts stops
      obtain rfl : b = 0x0A := by simpa using stops
      refine .inr ⟨others, ?_⟩
      rw [List.append_assoc]
      exact parts

theorem readLexeme_ne_comment (lexicon : Lexicon) (b : UInt8) (rest : Bytes) (kind : CommentKind)
    (literal : Bytes) (fault : Option LexicalFault) :
    (readLexeme lexicon b rest).1 ≠ .comment kind literal fault := by
  unfold readLexeme
  dsimp only
  split
  · exact nofun
  split
  · exact nofun
  split
  · exact nofun
  split
  · exact nofun
  split
  · exact nofun
  split
  · exact nofun
  split
  · exact nofun
  split <;> exact nofun

theorem read_commentFits {lexicon : Lexicon} {b : UInt8} {rest literal : Bytes} {kind : CommentKind}
    {fault : Option LexicalFault} {width : Nat}
    (found : read lexicon b rest = (.comment kind literal fault, width)) :
    CommentFits (b :: rest) kind fault width := by
  unfold read at found
  dsimp only at found
  split at found
  · cases found
  split at found
  next line =>
    have opens : ∃ mark : Bytes, (mark = [0x2D, 0x2D] ∨ mark = [0x23]) ∧ mark <+: b :: rest := by
      simp only [Bool.or_eq_true, Bool.and_eq_true, decide_eq_true_eq] at line
      rcases line with rfl | ⟨rfl, second⟩
      · exact ⟨[0x23], .inr rfl, List.prefix_append _ _⟩
      · cases rest with
        | nil => cases second
        | cons c rest =>
          obtain rfl : c = 0x2D := Option.some.inj second
          exact ⟨[0x2D, 0x2D], .inl rfl, List.prefix_append _ _⟩
    obtain ⟨mark, listed, opens⟩ := opens
    cases found
    exact lineComment_fits listed opens
  next =>
  split at found
  next block =>
    simp only [Bool.and_eq_true, decide_eq_true_eq] at block
    obtain ⟨rfl, second⟩ := block
    cases rest with
    | nil => cases second
    | cons c rest =>
      obtain rfl : c = 0x2A := Option.some.inj second
      cases found
      exact blockComment_fits rest
  next =>
    exact absurd (congrArg Prod.fst found) (readLexeme_ne_comment lexicon b rest kind literal fault)

end Lexing

namespace TokenStream

/-! ### Streams -/

/-- Laying out a source is followed from its end to its beginning: a property of the streams of what
stands from an offset on holds if it holds at the end and each piece that is read keeps it. -/
theorem lay_induction {lexicon : Lexicon} (proper : lexicon.Proper) {source : Bytes}
    (holds : Nat → TokenStream → Prop)
    (done : holds source.length (lay (.atOffset source source.length) []))
    (step : ∀ (n m : Nat) (b : UInt8) (rest : Bytes) (stream : TokenStream),
      source.drop n = b :: rest → n < m → m ≤ source.length →
      (b :: rest).take (Lexing.read lexicon b rest).2 = (source.take m).drop n → holds m stream →
      holds n (headed ⟨(source.take m).drop n, (Lexing.read lexicon b rest).1⟩ (.atOffset source n)
        stream))
    (n : Nat) (inside : n ≤ source.length) :
    holds n (lay (.atOffset source n) (lexicon.pieces (source.drop n))) := by
  induction h : source.length - n using Nat.strongRecOn generalizing n with
  | ind left ih =>
  cases start : source.drop n with
  | nil =>
    have ended := congrArg List.length start
    rw [List.length_drop, List.length_nil] at ended
    obtain rfl : n = source.length := by omega
    exact done
  | cons b rest =>
    have cut := Lexing.pieces_eq_read proper b rest
    have fits := pieces_fits proper b rest
    have parts := List.take_append_drop (Lexing.read lexicon b rest).2 (b :: rest)
    generalize bytes : (b :: rest).take (Lexing.read lexicon b rest).2 = taken at cut fits parts
    have positive : 0 < taken.length := List.length_pos_iff.2 fits.nonempty
    have total := congrArg List.length (start.trans parts.symm)
    rw [List.length_drop, List.length_append] at total
    have within : n + taken.length ≤ source.length := by omega
    have front : (source.take (n + taken.length)).drop n = taken := by
      rw [List.drop_take, start, Nat.add_sub_cancel_left, ← parts, List.take_left]
    have back : source.drop (n + taken.length) =
        (b :: rest).drop (Lexing.read lexicon b rest).2 := by
      rw [← List.drop_drop, start]
      conv_lhs => rw [← parts]
      exact List.drop_left
    have later := ih _ (by omega) (n + taken.length) within rfl
    have stop := Position.advance_between (Nat.le_add_right n taken.length) within
    have kept := step n _ b rest _ start (Nat.lt_add_of_pos_right positive) within
      (bytes.trans front.symm) later
    rw [front] at stop kept
    rw [cut, lay_cons fits, stop, ← back]
    exact kept

/-- How the comments of a stream stand in its source. Each begins with a mark and goes on as far as
comments of its kind do, and the block comments that are not closed are the ones that are reported, in
their order. -/
structure CommentsEnd (source : Bytes) (stream : TokenStream) : Prop where
  ends : ∀ comment ∈ stream.comments, ∃ i j, i ≤ j ∧ j ≤ source.length ∧
    comment.span = .between source i j ∧
    Lexing.Extends (Lexing.seen (source.drop i)) comment.kind ((source.take j).drop i)
  reported : (stream.errors.filter fun error => error.fault = .unterminatedComment).map (·.position) =
    (stream.comments.filter fun comment => comment.kind = .block ∧
      ¬Lexing.closing <:+:
        (Lexing.seen (source.drop comment.span.start.offset.toNat)).drop 2).map (·.span.start)

section Step

variable {lexicon : Lexicon} {source : Bytes} {stream : TokenStream} {n m : Nat} {b : UInt8} {rest : Bytes}

theorem CommentsEnd.comment (later : CommentsEnd source stream) (start : source.drop n = b :: rest)
    (forward : n < m) (inside : m ≤ source.length) {kind : CommentKind} {literal : Bytes}
    {fault : Option LexicalFault} {width : Nat} (taken : (b :: rest).take width = (source.take m).drop n)
    (fits : Lexing.CommentFits (b :: rest) kind fault width) :
    CommentsEnd source { stream with
      comments := { kind, literal, span := .between source n m } :: stream.comments
      errors := fault.toList.map (⟨.atOffset source n, ·⟩) ++ stream.errors } where
  ends comment member := by
    rcases List.mem_cons.1 member with rfl | member
    · have text := fits.text
      rw [taken, ← start] at text
      exact ⟨n, m, Nat.le_of_lt forward, inside, rfl, text⟩
    · exact later.ends comment member
  reported := by
    have fault := fits.fault
    rw [← start] at fault
    rw [List.filter_append, List.map_append, List.filter_cons, later.reported, fault]
    have offset : (Span.between source n m).start.offset.toNat = n := rfl
    simp only [offset]
    by_cases unclosed : kind = .block ∧ ¬Lexing.closing <:+: (Lexing.seen (source.drop n)).drop 2
    · simp [unclosed]
      rfl
    · simp [unclosed]

/-- A lexeme is never reported as a comment that is not closed. -/
theorem CommentsEnd.lexeme (later : CommentsEnd source stream) {kind : TokenKind} {literal : Bytes}
    {quoted : Bool} {fault : Option LexicalFault} (token : Token) (position : Position)
    (own : (PieceContent.lexeme kind literal quoted fault).OwnFault) :
    CommentsEnd source { stream with
      tokens := token :: stream.tokens
      errors := fault.toList.map (⟨position, ·⟩) ++ stream.errors } where
  ends := later.ends
  reported := by
    have none : (fault.toList.map fun what => (⟨position, what⟩ : LexicalError)).filter
        (fun error => error.fault = .unterminatedComment) = [] := by
      apply List.filter_eq_nil_iff.2
      intro error member
      obtain ⟨what, found, rfl⟩ := List.mem_map.1 member
      rcases own what (Option.mem_toList.1 found) with ⟨rfl, _⟩ | ⟨rfl, _⟩ <;> simp
    rw [List.filter_append, none, List.nil_append]
    exact later.reported

end Step

theorem ofSource_commentsEnd {lexicon : Lexicon} (proper : lexicon.Proper) (source : Bytes) :
    CommentsEnd source (ofSource lexicon source) := by
  refine lay_induction proper (fun _ => CommentsEnd source) ?_ ?_ 0 (Nat.zero_le _)
  · exact ⟨List.forall_mem_nil _, rfl⟩
  · intro n m b rest stream start forward inside taken later
    have stop := Position.advance_between (Nat.le_of_lt forward) inside
    have own := Lexing.read_ownFault lexicon b rest
    unfold headed
    dsimp only
    rw [stop]
    cases content : (Lexing.read lexicon b rest).1 with
    | blank => exact later
    | comment kind literal fault =>
      have found : Lexing.read lexicon b rest =
          (.comment kind literal fault, (Lexing.read lexicon b rest).2) := Prod.ext content rfl
      exact later.comment start forward inside taken (Lexing.read_commentFits found)
    | lexeme kind literal quoted fault => exact later.lexeme _ _ (content ▸ own)

def Disjoint (stream : TokenStream) : Prop :=
  ∀ token ∈ stream.tokens, ∀ comment ∈ stream.comments, ∀ k : Int,
    ¬(token.span.contains k = true ∧ comment.span.contains k = true)

theorem AccountsFor.disjoint {source : Bytes} {n : Nat} {stream : TokenStream}
    (accounts : AccountsFor source n stream) : Disjoint stream := by
  intro token listed comment member k ⟨inToken, inComment⟩
  simp only [Span.contains, Bool.and_eq_true, decide_eq_true_eq] at inToken inComment
  rcases accounts.apart token listed comment member with sooner | later
  · unfold Span.Precedes at sooner
    omega
  · unfold Span.Precedes at later
    omega

/-- Comments go on to their terminators, or to the end of the source, where a zero byte counts as the
end; without zero bytes that is all that is left of the source. A comment that is not closed is
reported, and nothing else is reported as one. What a comment takes belongs to no token. -/
theorem comments_end (source : Bytes) :
    (CommentsEnd source (ofSource Dialect.bigQuery.lexicon source) ∧
      Disjoint (ofSource Dialect.bigQuery.lexicon source)) ∧
    (∀ dialect : Dialect, dialect.Proper →
      CommentsEnd source (ofSource dialect.lexicon source) ∧
        Disjoint (ofSource dialect.lexicon source)) ∧
    (0 ∉ source → ∀ n, Lexing.seen (source.drop n) = source.drop n) := by
  have ends {dialect : Dialect} (proper : dialect.Proper) :
      CommentsEnd source (ofSource dialect.lexicon source) ∧
        Disjoint (ofSource dialect.lexicon source) :=
    ⟨ofSource_commentsEnd proper.lexicon source, (ofSource_accountsFor proper source).disjoint⟩
  have whole (text : 0 ∉ source) (n : Nat) : Lexing.seen (source.drop n) = source.drop n := by
    apply Lexing.seen_eq_self
    exact fun member => text (List.mem_of_mem_drop member)
  exact ⟨ends Dialect.bigQuery_proper, fun dialect proper => ends proper, whole⟩

/-- A dialect with a symbol of its own, and a source without zero bytes in which both kinds of line
comment and a block comment whose delimiters overlap stand before one that is not closed. -/
theorem comments_end_arrows :
    let dialect : Dialect := { name := "arrows", symbols := [("->", .symbol .arrow)] }
    let source : Bytes := [0x2D, 0x3E, 0x23, 0x61, 0x0A, 0x2D, 0x2D, 0x62, 0x0A, 0x2F, 0x2A, 0x2F, 0x63,
      0x2A, 0x2F, 0x2D, 0x3E, 0x2F, 0x2A, 0x64]
    dialect.Proper ∧ 0 ∉ source ∧ CommentsEnd source (ofSource dialect.lexicon source) ∧
      Disjoint (ofSource dialect.lexicon source) ∧
      ∀ n, Lexing.seen (source.drop n) = source.drop n := by
  intro dialect source
  have proper : dialect.Proper := by constructor <;> decide
  have text : 0 ∉ source := by decide
  obtain ⟨-, ends, whole⟩ := comments_end source
  exact ⟨proper, text, (ends dialect proper).1, (ends dialect proper).2, whole text⟩

/-- What follows a zero byte in a comment is not a part of it. -/
example : (ofSource Dialect.bigQuery.lexicon [0x23, 0x00, 0x61]).comments.map (·.span) =
    [.between [0x23, 0x00, 0x61] 0 1] := rfl

end TokenStream

end QueryLint
