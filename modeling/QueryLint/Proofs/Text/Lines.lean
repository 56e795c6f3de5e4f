import QueryLint.Proofs.Text.Utf8
import QueryLint.Proofs.Token.Layout
import QueryLint.Text.Blank

/-!
Lines of a text, each of which a line feed ends. Lines without a line feed in them are found again by
splitting the text (`splitOn_ended`), and every place of the text stands on one of them, with the number
that the line has (`atOffset_onLine`).
-/

namespace QueryLint

open Text (Bytes encode)

namespace Text

/-- Lines one below the other, each with the line feed that ends it. -/
def ended (lines : List String) : String := String.join (lines.map (· ++ "\n"))

@[simp] theorem ended_nil : ended [] = "" := rfl

@[simp] theorem ended_cons (line : String) (rest : List String) :
    ended (line :: rest) = line ++ "\n" ++ ended rest := String.join_cons

theorem ended_append (first second : List String) :
    ended (first ++ second) = ended first ++ ended second := by
  rw [ended, List.map_append, String.join_append]
  rfl

theorem splitList_piece {separator : Char} {piece : List Char} (whole : separator ∉ piece)
    (rest : List Char) :
    splitList separator (piece ++ separator :: rest) = piece :: splitList separator rest := by
  induction piece with
  | nil => exact if_pos rfl
  | cons c piece ih =>
    rw [List.mem_cons, not_or] at whole
    rw [List.cons_append, splitList, if_neg (Ne.symm whole.1), ih whole.2]

/-- Lines are found again, with an empty one behind the last line feed. -/
theorem splitOn_ended {lines : List String} (single : ∀ line ∈ lines, '\n' ∉ line.toList) :
    splitOn '\n' (ended lines) = lines ++ [""] := by
  induction lines with
  | nil => rfl
  | cons line rest ih =>
    have spelled : (ended (line :: rest)).toList = line.toList ++ '\n' :: (ended rest).toList := by
      simp [String.toList_append]
    have later := ih fun other member => single other (List.mem_cons_of_mem _ member)
    rw [splitOn, spelled, splitList_piece (single line List.mem_cons_self), List.map_cons,
      String.ofList_toList, List.cons_append, ← later]
    rfl

theorem encode_ended_nil : encode (ended []) = [] := by decide +kernel

theorem encode_ended_cons (line : String) (rest : List String) :
    encode (ended (line :: rest)) = encode line ++ 0x0A :: encode (ended rest) := by
  have feed : encode "\n" = [0x0A] := by decide +kernel
  rw [ended_cons, encode_append, encode_append, feed, List.append_assoc, List.singleton_append]

theorem feed_not_mem_encode {line : String} (single : '\n' ∉ line.toList) :
    (0x0A : UInt8) ∉ encode line := by
  rw [← String.ofList_toList (s := line), encode_ofList, List.mem_flatMap]
  rintro ⟨c, member, byte⟩
  have other : c ≠ '\n' := fun same => single (same ▸ member)
  exact asciiByte_not_mem (by decide) other byte

/-- What stands before an offset of a text: whole lines and the beginning of the next one. -/
theorem exists_take_ended (lines : List String) {offset : Nat}
    (inside : offset ≤ (encode (ended lines)).length) :
    ∃ front line back column, lines ++ [""] = front ++ line :: back ∧
      column ≤ (encode line).length ∧
      (encode (ended lines)).take offset = encode (ended front) ++ (encode line).take column := by
  induction lines generalizing offset with
  | nil =>
    refine ⟨[], "", [], 0, rfl, Nat.zero_le _, ?_⟩
    rw [encode_ended_nil, List.take_nil, List.take_zero, List.append_nil]
  | cons line rest ih =>
    rw [encode_ended_cons, List.length_append, List.length_cons] at inside
    rw [encode_ended_cons]
    by_cases early : offset ≤ (encode line).length
    · refine ⟨[], line, rest ++ [""], offset, rfl, early, ?_⟩
      rw [List.take_append_of_le_length early, encode_ended_nil, List.nil_append]
    · have beyond : offset - (encode line).length - 1 ≤ (encode (ended rest)).length := by omega
      obtain ⟨front, next, back, column, split, before, taken⟩ := ih beyond
      refine ⟨line :: front, next, back, column, congrArg (line :: ·) split, before, ?_⟩
      have further : offset - (encode line).length = offset - (encode line).length - 1 + 1 := by omega
      rw [encode_ended_cons, List.take_append, List.take_of_length_le (Nat.le_of_not_le early),
        further, List.take_succ_cons, taken, List.append_assoc, List.cons_append]

end Text

namespace Position

open Text

/-- The position stands on the line that comes after others: its line and its column count from one,
its offset counts the bytes of the lines before as well. -/
def OnLine (position : Position) (before : List String) (line : String) : Prop :=
  ∃ column ≤ (encode line).length,
    position = ⟨before.length + 1, column + 1, (encode (ended before)).length + column⟩

theorem advance_line {bytes : Bytes} (single : 0x0A ∉ bytes) (position : Position) :
    position.advance bytes =
      ⟨position.line, position.column + bytes.length, position.offset + bytes.length⟩ := by
  induction bytes generalizing position with
  | nil => simp
  | cons b rest ih =>
    rw [List.mem_cons, not_or] at single
    have step : position.advance (b :: rest) = (position.next b).advance rest := rfl
    rw [step, ih single.2, next, if_neg (Ne.symm single.1)]
    simp only [List.length_cons, mk.injEq, true_and]
    omega

theorem advance_ended {lines : List String} (single : ∀ line ∈ lines, '\n' ∉ line.toList)
    (line offset : Int) :
    (⟨line, 1, offset⟩ : Position).advance (encode (ended lines)) =
      ⟨line + lines.length, 1, offset + (encode (ended lines)).length⟩ := by
  induction lines generalizing line offset with
  | nil =>
    rw [encode_ended_nil, advance_nil]
    simp
  | cons first rest ih =>
    have whole := feed_not_mem_encode (single first List.mem_cons_self)
    have feed (position : Position) (bytes : Bytes) : position.advance (0x0A :: bytes) =
        (⟨position.line + 1, 1, position.offset + 1⟩ : Position).advance bytes := rfl
    rw [encode_ended_cons, advance_append, advance_line whole, feed,
      ih fun other member => single other (List.mem_cons_of_mem _ member)]
    simp only [List.length_append, List.length_cons, mk.injEq, true_and]
    omega

/-- Every place of a text stands on one of its lines. -/
theorem atOffset_onLine {lines : List String} (single : ∀ line ∈ lines, '\n' ∉ line.toList)
    {offset : Nat} (inside : offset ≤ (encode (ended lines)).length) :
    ∃ before line after, lines ++ [""] = before ++ line :: after ∧
      (atOffset (encode (ended lines)) offset).OnLine before line := by
  obtain ⟨before, line, after, column, split, short, taken⟩ := exists_take_ended lines inside
  have single' : ∀ other ∈ before ++ line :: after, '\n' ∉ other.toList := by
    rw [← split]
    intro other member
    rcases List.mem_append.1 member with member | last
    · exact single other member
    · rw [List.mem_singleton.1 last]
      exact List.not_mem_nil
  have whole : (0x0A : UInt8) ∉ (encode line).take column := fun member =>
    feed_not_mem_encode (single' line (by simp)) (List.mem_of_mem_take member)
  refine ⟨before, line, after, split, column, short, ?_⟩
  rw [atOffset_eq_advance inside, taken, advance_append, start,
    advance_ended fun other member => single' other (List.mem_append_left _ member),
    advance_line whole, List.length_take, Nat.min_eq_left short]
  simp only [mk.injEq]
  omega

end Position

end QueryLint
