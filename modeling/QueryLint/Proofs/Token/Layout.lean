import Mathlib.Data.List.Induction
import QueryLint.Proofs.Token.Cutting
import QueryLint.Token.Stream

/-!
Where tokens and comments stand. A position is determined by its offset: the line counts the line
feeds before it, the column the bytes since the last one. Laid out one after the other, the pieces
of a source account for each of its bytes: it belongs to one token, to one comment, or it is white
space between them.
-/

namespace QueryLint

open Text (Bytes)

namespace Position

/-- The offset of the first byte of the line on which an offset lies. -/
def lineStart (source : Bytes) (offset : Nat) : Nat :=
  offset - ((source.take offset).reverse.takeWhile (· != 0x0A)).length

def atOffset (source : Bytes) (offset : Nat) : Position where
  line := 1 + (source.take offset).count 0x0A
  column := offset - lineStart source offset + 1
  offset := offset

@[simp] theorem offset_atOffset (source : Bytes) (offset : Nat) :
    (atOffset source offset).offset = offset := rfl

theorem advance_start (bytes : Bytes) :
    start.advance bytes =
      ⟨1 + bytes.count 0x0A, (bytes.reverse.takeWhile (· != 0x0A)).length + 1, bytes.length⟩ := by
  induction bytes using List.reverseRecOn with
  | nil => rfl
  | append_singleton bytes b ih =>
    have snoc : start.advance (bytes ++ [b]) = (start.advance bytes).next b := advance_append _ _ _
    rw [snoc, ih, next, List.reverse_append, List.reverse_singleton, List.singleton_append]
    by_cases feed : b = 0x0A
    · simp [feed, Int.add_assoc]
    · simp [feed]

theorem atOffset_eq_advance {source : Bytes} {offset : Nat} (inside : offset ≤ source.length) :
    atOffset source offset = start.advance (source.take offset) := by
  have length : (source.take offset).length = offset := by simp [inside]
  have fewer := (List.takeWhile_sublist (· != 0x0A) (l := (source.take offset).reverse)).length_le
  rw [List.length_reverse, length] at fewer
  rw [advance_start, atOffset, lineStart, length]
  simp only [mk.injEq, true_and, and_true]
  omega

theorem advance_between {source : Bytes} {n m : Nat} (forward : n ≤ m) (inside : m ≤ source.length) :
    (atOffset source n).advance ((source.take m).drop n) = atOffset source m := by
  rw [atOffset_eq_advance (Nat.le_trans forward inside), atOffset_eq_advance inside, ← advance_append]
  congr 1
  conv_rhs => rw [← List.take_append_drop n (source.take m), List.take_take, Nat.min_eq_left forward]

theorem lineStart_spec {source : Bytes} {offset : Nat} (inside : offset ≤ source.length) :
    lineStart source offset ≤ offset ∧
      (∀ b ∈ (source.take offset).drop (lineStart source offset), b ≠ 0x0A) ∧
      (lineStart source offset = 0 ∨ source[lineStart source offset - 1]? = some 0x0A) := by
  generalize bytes : source.take offset = taken
  have length : taken.length = offset := by simp [← bytes, inside]
  have parts : (taken.reverse.dropWhile (· != 0x0A)).reverse ++
      (taken.reverse.takeWhile (· != 0x0A)).reverse = taken := by
    rw [← List.reverse_append, List.takeWhile_append_dropWhile, List.reverse_reverse]
  have before : (taken.reverse.dropWhile (· != 0x0A)).length = lineStart source offset := by
    have total := congrArg List.length parts
    simp only [List.length_append, List.length_reverse, length] at total
    rw [lineStart, bytes]
    omega
  refine ⟨Nat.sub_le _ _, fun b member => ?_, ?_⟩
  · rw [← parts, ← before, List.drop_left' (by simp), List.mem_reverse] at member
    simpa using List.all_eq_true.1 List.all_takeWhile b member
  · cases rest : taken.reverse.dropWhile (· != 0x0A) with
    | nil => exact .inl (by rw [← before, rest, List.length_nil])
    | cons b earlier =>
      have feed : b = 0x0A := by
        have head := List.head?_dropWhile_not (· != 0x0A) taken.reverse
        rw [rest] at head
        simpa using head
      refine .inr ?_
      have place : lineStart source offset = earlier.length + 1 := by rw [← before, rest]; rfl
      have found : taken[earlier.length]? = some 0x0A := by
        rw [← parts, rest, List.reverse_cons, List.append_assoc,
          List.getElem?_append_right (by simp)]
        simp [feed]
      rw [place, Nat.add_sub_cancel, ← found, ← bytes, List.getElem?_take_of_lt]
      have sooner : lineStart source offset ≤ offset := Nat.sub_le _ _
      omega

end Position

/-! ### Accounts -/

namespace Span

def Precedes (first second : Span) : Prop := first.stop.offset ≤ second.start.offset

def between (source : Bytes) (i j : Nat) : Span := ⟨.atOffset source i, .atOffset source j⟩

theorem isValid_between (source : Bytes) (i j : Nat) : (between source i j).isValid = true := by
  simp only [isValid, Position.isValid, Bool.and_eq_true, decide_eq_true_eq]
  simp only [between, Position.atOffset]
  omega

theorem slice_between {source : Bytes} {i j : Nat} (forward : i ≤ j) (inside : j ≤ source.length) :
    (between source i j).slice source = (source.take j).drop i := by
  rw [slice, if_pos]
  · rfl
  · simp only [isValid_between, Bool.true_and, Bool.and_eq_true, decide_eq_true_eq]
    simp only [between, Position.offset_atOffset]
    omega

theorem contains_between {source : Bytes} {i j k : Nat} (after : i ≤ k) (before : k < j) :
    (between source i j).contains k = true := by
  simp only [contains, Bool.and_eq_true, decide_eq_true_eq]
  simp only [between, Position.offset_atOffset]
  omega

end Span

/-- The stream accounts for the bytes of a source from an offset on: it ends with one mark at the
end of the source, all other tokens take bytes, all spans and errors lie at positions of the source,
the spans apart from each other, every byte is in one of them or white space, and literals are what
the source spells. -/
structure TokenStream.AccountsFor (source : Bytes) (first : Nat) (stream : TokenStream) : Prop where
  ends : ∃ tokens, stream.tokens =
      tokens ++ [{ kind := .endOfInput, span := .between source source.length source.length }] ∧
    ∀ token ∈ tokens, token.kind ≠ .endOfInput ∧
      token.span.start.offset < token.span.stop.offset
  placed : ∀ span ∈ stream.tokens.map Token.span ++ stream.comments.map Comment.span,
    ∃ i j, first ≤ i ∧ i ≤ j ∧ j ≤ source.length ∧ span = .between source i j
  noted : ∀ error ∈ stream.errors, ∃ i ≤ source.length, error.position = .atOffset source i
  tokens : stream.tokens.Pairwise (·.span.Precedes ·.span)
  comments : stream.comments.Pairwise (·.span.Precedes ·.span)
  apart : ∀ token ∈ stream.tokens, ∀ comment ∈ stream.comments,
    token.span.Precedes comment.span ∨ comment.span.Precedes token.span
  covered : ∀ k, first ≤ k → (inside : k < source.length) →
    (∃ token ∈ stream.tokens, token.span.contains k = true) ∨
      (∃ comment ∈ stream.comments, comment.span.contains k = true) ∨
      Lexing.isBlank source[k] = true
  literal : ∀ token ∈ stream.tokens, token.kind ≠ .string → token.quoted = false →
    token.literal = token.span.slice source

namespace TokenStream

namespace AccountsFor

variable {source : Bytes} {n m : Nat} {stream : TokenStream}

theorem done (source : Bytes) :
    AccountsFor source source.length { tokens :=
      [{ kind := .endOfInput, span := .between source source.length source.length }] } where
  ends := ⟨[], rfl, List.forall_mem_nil _⟩
  placed span member := by
    refine ⟨source.length, source.length, Nat.le_refl _, Nat.le_refl _, Nat.le_refl _, ?_⟩
    simpa using member
  noted := List.forall_mem_nil _
  tokens := List.pairwise_singleton _ _
  comments := .nil
  apart _ _ := List.forall_mem_nil _
  covered k after inside := absurd inside (Nat.not_lt.2 after)
  literal token member _ _ := by
    rw [List.mem_singleton] at member
    rw [member, Span.slice_between (Nat.le_refl _) (Nat.le_refl _), List.take_length,
      List.drop_length]

theorem noted_cons (rest : AccountsFor source m stream) (inside : n ≤ source.length)
    (fault : Option LexicalFault) :
    ∀ error ∈ fault.toList.map (⟨.atOffset source n, ·⟩) ++ stream.errors,
      ∃ i ≤ source.length, error.position = .atOffset source i := by
  intro error member
  rcases List.mem_append.1 member with own | later
  · obtain ⟨_, _, rfl⟩ := List.mem_map.1 own
    exact ⟨n, inside, rfl⟩
  · exact rest.noted error later

/-- Everything that is laid out later comes after what ends before it. -/
theorem precedes (rest : AccountsFor source m stream) {span : Span}
    (member : span ∈ stream.tokens.map Token.span ++ stream.comments.map Comment.span) :
    (Span.between source n m).Precedes span := by
  obtain ⟨i, j, after, _, _, rfl⟩ := rest.placed span member
  simpa [Span.Precedes, Span.between] using after

theorem precedes_token (rest : AccountsFor source m stream) {token : Token}
    (member : token ∈ stream.tokens) : (Span.between source n m).Precedes token.span :=
  rest.precedes (List.mem_append_left _ (List.mem_map_of_mem member))

theorem precedes_comment (rest : AccountsFor source m stream) {comment : Comment}
    (member : comment ∈ stream.comments) : (Span.between source n m).Precedes comment.span :=
  rest.precedes (List.mem_append_right _ (List.mem_map_of_mem member))

theorem blank (rest : AccountsFor source m stream) (forward : n ≤ m)
    (blanks : ∀ k, n ≤ k → k < m → (inside : k < source.length) →
      Lexing.isBlank source[k] = true) : AccountsFor source n stream :=
  { rest with
    placed := fun span member =>
      let ⟨i, j, after, within⟩ := rest.placed span member
      ⟨i, j, Nat.le_trans forward after, within⟩
    covered := fun k after inside => by
      by_cases later : m ≤ k
      · exact rest.covered k later inside
      · exact .inr (.inr (blanks k after (Nat.lt_of_not_le later) inside)) }

theorem comment (rest : AccountsFor source m stream) (forward : n ≤ m) (inside : m ≤ source.length)
    (kind : CommentKind) (literal : Bytes) (fault : Option LexicalFault) :
    AccountsFor source n { stream with
      comments := { kind, literal, span := .between source n m } :: stream.comments
      errors := fault.toList.map (⟨.atOffset source n, ·⟩) ++ stream.errors } where
  ends := rest.ends
  noted := rest.noted_cons (Nat.le_trans forward inside) fault
  placed span member := by
    simp only [List.map_cons, List.mem_append, List.mem_cons] at member
    rcases member with member | rfl | member
    · obtain ⟨i, j, after, within⟩ := rest.placed span (List.mem_append_left _ member)
      exact ⟨i, j, Nat.le_trans forward after, within⟩
    · exact ⟨n, m, Nat.le_refl _, forward, inside, rfl⟩
    · obtain ⟨i, j, after, within⟩ := rest.placed span (List.mem_append_right _ member)
      exact ⟨i, j, Nat.le_trans forward after, within⟩
  tokens := rest.tokens
  comments := .cons (fun _ member => rest.precedes_comment member) rest.comments
  apart token listed other member := by
    rcases List.mem_cons.1 member with rfl | member
    · exact .inr (rest.precedes_token listed)
    · exact rest.apart token listed other member
  covered k after inside := by
    by_cases later : m ≤ k
    · rcases rest.covered k later inside with found | ⟨other, member, found⟩ | white
      · exact .inl found
      · exact .inr (.inl ⟨other, List.mem_cons_of_mem _ member, found⟩)
      · exact .inr (.inr white)
    · exact .inr (.inl ⟨_, List.mem_cons_self, Span.contains_between after (Nat.lt_of_not_le later)⟩)
  literal := rest.literal

theorem token (rest : AccountsFor source m stream) (taken : n < m) (inside : m ≤ source.length)
    {kind : TokenKind} (proper : kind ≠ .endOfInput) {literal : Bytes} {quoted : Bool}
    (spelled : kind ≠ .string → quoted = false → literal = (source.take m).drop n)
    (fault : Option LexicalFault) :
    AccountsFor source n { stream with
      tokens := { kind, literal, span := .between source n m, quoted } :: stream.tokens
      errors := fault.toList.map (⟨.atOffset source n, ·⟩) ++ stream.errors } where
  noted := rest.noted_cons (Nat.le_trans (Nat.le_of_lt taken) inside) fault
  ends := by
    obtain ⟨tokens, ends, others⟩ := rest.ends
    refine ⟨_ :: tokens, by rw [ends]; rfl, fun token member => ?_⟩
    rcases List.mem_cons.1 member with rfl | member
    · exact ⟨proper, Int.ofNat_lt.2 taken⟩
    · exact others token member
  placed span member := by
    simp only [List.map_cons, List.cons_append, List.mem_cons] at member
    rcases member with rfl | member
    · exact ⟨n, m, Nat.le_refl _, Nat.le_of_lt taken, inside, rfl⟩
    · obtain ⟨i, j, after, within⟩ := rest.placed span member
      exact ⟨i, j, Nat.le_trans (Nat.le_of_lt taken) after, within⟩
  tokens := .cons (fun _ member => rest.precedes_token member) rest.tokens
  comments := rest.comments
  apart other listed comment member := by
    rcases List.mem_cons.1 listed with rfl | listed
    · exact .inl (rest.precedes_comment member)
    · exact rest.apart other listed comment member
  covered k after inside := by
    by_cases later : m ≤ k
    · rcases rest.covered k later inside with ⟨other, member, found⟩ | found
      · exact .inl ⟨other, List.mem_cons_of_mem _ member, found⟩
      · exact .inr found
    · exact .inl ⟨_, List.mem_cons_self, Span.contains_between after (Nat.lt_of_not_le later)⟩
  literal other listed notString unquoted := by
    rcases List.mem_cons.1 listed with rfl | listed
    · exact (spelled notString unquoted).trans
        (Span.slice_between (Nat.le_of_lt taken) inside).symm
    · exact rest.literal other listed notString unquoted

end AccountsFor

/-- Pieces that make up the rest of a source account for it. -/
theorem lay_accountsFor (source : Bytes) (pieces : List Piece) (n : Nat) (inside : n ≤ source.length)
    (cut : pieces.flatMap Piece.source = source.drop n) (fit : ∀ piece ∈ pieces, piece.Fits) :
    AccountsFor source n (lay (.atOffset source n) pieces) := by
  induction pieces generalizing n with
  | nil =>
    have none : (source.drop n).length = 0 := by rw [← cut]; rfl
    obtain rfl : n = source.length := by rw [List.length_drop] at none; omega
    exact .done source
  | cons piece pieces ih =>
    obtain ⟨nonempty, content⟩ := fit piece List.mem_cons_self
    rw [List.flatMap_cons] at cut
    generalize reached : n + piece.source.length = m
    have taken : n < m := by have := List.length_pos_iff.2 nonempty; omega
    have inside' : m ≤ source.length := by
      have total := congrArg List.length cut
      rw [List.length_append, List.length_drop] at total
      omega
    have bytes : piece.source = (source.take m).drop n := by
      rw [List.drop_take, ← cut, ← reached, Nat.add_sub_cancel_left, List.take_left']
      rfl
    have stop : (Position.atOffset source n).advance piece.source = .atOffset source m := by
      rw [bytes]
      exact Position.advance_between (Nat.le_of_lt taken) inside'
    have rest : AccountsFor source m (lay (.atOffset source m) pieces) := by
      refine ih m inside' ?_ fun piece member => fit piece (List.mem_cons_of_mem _ member)
      rw [← reached, ← List.drop_drop, ← cut, List.drop_left]
    rw [lay, stop]
    cases kind : piece.content with
    | blank =>
      refine rest.blank (Nat.le_of_lt taken) fun k after before inside => ?_
      rw [kind] at content
      refine content _ (bytes ▸ List.mem_iff_getElem?.2 ⟨k - n, ?_⟩)
      rw [List.getElem?_drop, List.getElem?_take_of_lt (by omega), Nat.add_sub_cancel' after,
        List.getElem?_eq_getElem inside]
    | comment kind literal fault => exact rest.comment (Nat.le_of_lt taken) inside' _ _ _
    | lexeme kind' literal quoted fault =>
      rw [kind] at content
      simp only [if_neg content.1]
      exact rest.token taken inside' content.1 (bytes ▸ content.2) _

theorem ofSource_accountsFor {dialect : Dialect} (proper : dialect.Proper) (source : Bytes) :
    AccountsFor source 0 (ofSource dialect.lexicon source) :=
  lay_accountsFor source _ 0 (Nat.zero_le _)
    (Lexing.flatMap_source_pieces proper.lexicon source) (Lexing.pieces_fit proper.lexicon source)

/-- Under BigQuery, and under every dialect that spells its symbols and leaves the end of the input
alone, the tokens and comments of a source account for all its bytes. -/
theorem source_accounted_for (source : Bytes) :
    AccountsFor source 0 (ofSource Dialect.bigQuery.lexicon source) ∧
      ∀ dialect : Dialect, dialect.Proper →
        AccountsFor source 0 (ofSource dialect.lexicon source) :=
  ⟨ofSource_accountsFor Dialect.bigQuery_proper source,
    fun _ proper => ofSource_accountsFor proper source⟩

/-- A dialect with a symbol of its own, and a source with a zero byte and an open string: `a -> `,
a line feed, the zero byte and `'b`. -/
theorem arrow_source_accounted_for :
    let dialect : Dialect := { name := "arrows", symbols := [("->", .symbol .arrow)] }
    let source : Bytes := [0x61, 0x20, 0x2D, 0x3E, 0x0A, 0x00, 0x27, 0x62]
    dialect.Proper ∧ AccountsFor source 0 (ofSource dialect.lexicon source) :=
  have proper : Dialect.Proper { name := "arrows", symbols := [("->", .symbol .arrow)] } :=
    ⟨by decide, by decide⟩
  ⟨proper, (source_accounted_for _).2 _ proper⟩

end TokenStream

end QueryLint
