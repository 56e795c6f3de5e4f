import Mathlib.Data.List.Nodup
import QueryLint.Proofs.Parser.Retention.Queries

/-!
The order of clauses. The clauses of a block are read along the list of the dialect and not along the
tokens, so that a clause which is repeated, out of order or foreign to the dialect is only noticed
because its keyword is left over. Of a row of written clauses the longest beginning that follows the
order of the dialect is read, each clause into its own slot; if a clause remains, an error is noted at
its keyword.
-/

namespace QueryLint

/-! ### Dialects -/

namespace Dialect

/-- The clauses of the dialect are standard ones or the one that each dialect reserves a word for, with
different keywords and slots. -/
structure StandardClauses (dialect : Dialect) : Prop where
  standard : ∀ rule ∈ dialect.clauses,
    rule ∈ Standard.clauses ∨ ∃ kind, rule = Standard.qualifyClause kind
  kinds : (dialect.clauses.map ClauseRule.kind).Nodup
  slots : (dialect.clauses.map ClauseRule.slot).Nodup

variable {dialect : Dialect} {rule : ClauseRule} {kind : TokenKind}

theorem clause?_eq_some (kinds : (dialect.clauses.map ClauseRule.kind).Nodup)
    (member : rule ∈ dialect.clauses) : dialect.clause? rule.kind = some rule := by
  cases found : dialect.clause? rule.kind with
  | none =>
    refine absurd (beq_self_eq_true rule.kind) ?_
    exact List.find?_eq_none.1 found rule (List.mem_reverse.2 member)
  | some other =>
    have listed : other ∈ dialect.clauses := List.mem_reverse.1 (List.mem_of_find?_eq_some found)
    have same : other.kind = rule.kind := by simpa using List.find?_some found
    exact congrArg some (List.inj_on_of_nodup_map kinds listed member same)

theorem clause?_isSome_iff :
    (dialect.clause? kind).isSome ↔ kind ∈ dialect.clauses.map ClauseRule.kind := by
  simp [clause?, List.find?_isSome, List.mem_map]

theorem StandardClauses.slotted (clauses : dialect.StandardClauses) : dialect.Slotted where
  found rule member := clause?_eq_some clauses.kinds member
  suits rule member := by
    have standard : ∀ rule ∈ Standard.clauses, ∀ form ∈ rule.form, form.suits rule.slot = true := by
      decide
    rcases clauses.standard rule member with member | ⟨kind, rfl⟩
    · exact standard rule member
    · rintro _ ⟨⟩
      rfl
  distinct := clauses.slots

theorem bigQuery_standardClauses : bigQuery.StandardClauses where
  standard rule member := by
    have listed : ∀ rule ∈ bigQuery.clauses,
        rule ∈ Standard.clauses ∨ rule = Standard.qualifyClause BigQuery.qualify := by decide +kernel
    exact (listed rule member).imp_right fun same => ⟨_, same⟩
  kinds := by decide +kernel
  slots := by decide +kernel

/-- A clause that can be written: one of the dialect, or one that only other dialects have. -/
def Knows (dialect : Dialect) (rule : ClauseRule) : Prop :=
  rule ∈ dialect.clauses ∨
    rule.kind ∉ dialect.clauses.map ClauseRule.kind ∧ isKnownClause rule.kind = true

/-- No clause begins with the kind. -/
def EndsClauses (dialect : Dialect) (kind : TokenKind) : Prop :=
  kind ∉ dialect.clauses.map ClauseRule.kind ∧ isKnownClause kind = false

end Dialect

/-! ### Slots -/

namespace SelectBlock

def SameIn (first second : SelectBlock) : ClauseSlot → Prop
  | .where => first.filter = second.filter
  | .groupBy => first.groupBy = second.groupBy
  | .having => first.having = second.having
  | .window => first.windows = second.windows
  | .orderBy => first.orderBy = second.orderBy ∧ first.orderByPosition = second.orderByPosition
  | .limit => first.limit = second.limit
  | .offset => first.offset = second.offset
  | .qualify => first.qualify = second.qualify
  | .extensions => first.extensions = second.extensions

def Holds (block : SelectBlock) : ClauseSlot → ClauseContent → Prop
  | .where, .expression expr => block.filter = some expr
  | .groupBy, .grouping exprs => block.groupBy = exprs
  | .having, .expression expr => block.having = some expr
  | .window, .windows windows => block.windows = windows
  | .orderBy, .ordering items => block.orderBy = items
  | .limit, .expression expr => block.limit = some expr
  | .offset, .expression expr => block.offset = some expr
  | .qualify, .expression expr => block.qualify = some expr
  | _, _ => False

def SameOutside (first second : SelectBlock) : Prop :=
  first.span = second.span ∧ first.distinct = second.distinct ∧ first.asKind = second.asKind ∧
    first.items = second.items ∧ first.source = second.source

end SelectBlock

/-! ### Written clauses -/

/-- A clause as it is written: its keyword stands at a place, and what follows the keyword has been
read. -/
structure WrittenClause where
  rule : ClauseRule
  place : Nat
  content : ClauseContent

/-- From one state to another, the tokens are clauses whose contents can be read without an error. -/
inductive WrittenClauses (grammar : Grammar) (input : ParserInput) :
    ParserState → List WrittenClause → ParserState → Prop
  | nil {s : ParserState} : WrittenClauses grammar input s [] s
  | cons {s s' s'' : ParserState} {clause : WrittenClause} {rest : List WrittenClause} {form : ClauseForm}
      (place : clause.place = s.index) (keyword : (input.token s.index).kind = clause.rule.kind)
      (reads : clause.rule.form = some form)
      (content : (grammar.clauseContent form).run input { s with index := input.following s.index } =
        some (.ok clause.content, s'))
      (quiet : s'.errors = s.errors) (others : WrittenClauses grammar input s' rest s'') :
      WrittenClauses grammar input s (clause :: rest) s''

namespace WrittenClause

variable (input : ParserInput)

def position (clause : WrittenClause) : Position := (input.token clause.place).span.start

/-- What is wrong with a clause that is left over. -/
def fault (clause : WrittenClause) : SyntaxFault :=
  if clause.rule.kind ∈ input.dialect.clauses.map ClauseRule.kind then
    .clauseOutOfOrder clause.rule.kind.text
  else .unsupportedClause clause.rule.kind.text input.dialect.name

def fill (block : SelectBlock) (clause : WrittenClause) : SelectBlock :=
  if clause.rule.slot = .orderBy then
    { block.assign clause.rule.slot clause.content with orderByPosition := clause.position input }
  else block.assign clause.rule.slot clause.content

end WrittenClause

def clauseKinds (written : List WrittenClause) : List TokenKind := written.map (·.rule.kind)

theorem clauseKinds_eq {written : List WrittenClause} :
    (written.map (·.rule)).map ClauseRule.kind = clauseKinds written := List.map_map

theorem clauseSlots_eq {written : List WrittenClause} :
    (written.map (·.rule)).map ClauseRule.slot = written.map (·.rule.slot) := List.map_map

open QueryLint.Parser

namespace Grammar

variable {grammar : Grammar} {input : ParserInput} {s s' stop : ParserState} {mark : Nat}
  {block : SelectBlock} {clause : WrittenClause} {written : List WrittenClause}

/-! ### One clause -/

theorem leftoverClause_ends (ends : input.dialect.EndsClauses (input.token s.index).kind) :
    leftoverClause input s = some ((), s) := by
  obtain ⟨foreign, unknown⟩ := ends
  rw [← Dialect.clause?_isSome_iff] at foreign
  rw [leftoverClause, bind_eq (rfl : current input s = some (input.token s.index, s)),
    bind_eq (rfl : dialect input s = some (input.dialect, s)), if_neg foreign, unknown]
  rfl

theorem leftoverClause_notes (keyword : (input.token s.index).kind = clause.rule.kind)
    (place : clause.place = s.index) (knows : input.dialect.Knows clause.rule) :
    leftoverClause input s = some ((), { s with
      errors := s.errors ++ [.syntactic (clause.position input) (clause.fault input)] }) := by
  rw [leftoverClause, bind_eq (rfl : current input s = some (input.token s.index, s)),
    bind_eq (rfl : dialect input s = some (input.dialect, s)), keyword, WrittenClause.fault,
    WrittenClause.position, place]
  by_cases own : clause.rule.kind ∈ input.dialect.clauses.map ClauseRule.kind
  · rw [if_pos (Dialect.clause?_isSome_iff.2 own), if_pos own]
    rfl
  · have known : Dialect.isKnownClause clause.rule.kind = true := by
      rcases knows with member | ⟨-, known⟩
      · exact absurd (List.mem_map_of_mem member) own
      · exact known
    rw [if_neg (mt Dialect.clause?_isSome_iff.1 own), if_neg own, known]
    rfl

theorem clause_reads {form : ClauseForm} (place : clause.place = s.index)
    (own : input.dialect.clause? clause.rule.kind = some clause.rule)
    (reads : clause.rule.form = some form)
    (content : (grammar.clauseContent form).run input { s with index := input.following s.index } =
      some (.ok clause.content, s')) :
    grammar.clause mark block clause.rule.kind input s = some (some (clause.fill input block), s') := by
  obtain ⟨⟨kind, _, slot, keywords, inline⟩, _, found⟩ := clause
  cases reads
  cases place
  rw [Grammar.clause, bind_eq (rfl : dialect input s = some (input.dialect, s)), own]
  change (Parser.position >>= fun keyword => _) input s = _
  rw [bind_eq (rfl : Parser.position input s = some ((input.token s.index).span.start, s)),
    bind_eq (rfl : advance input s = some ((), { s with index := input.following s.index })),
    bind_eq content]
  rfl

/-! ### Rows of clauses -/

/-- The outcome of reading written clauses along a list of rules: all of them are read if they follow
the list, and otherwise an error is noted at the first one that does not. -/
inductive Outcome (input : ParserInput) (start stop : ParserState) (block : SelectBlock)
    (rules : List ClauseRule) (written : List WrittenClause) : SelectBlock × ParserState → Prop
  | complete (ordered : (written.map (·.rule)).Sublist rules) :
      Outcome input start stop block rules written
        (written.foldl (WrittenClause.fill input) block, stop)
  | stuck {accepted rest : List WrittenClause} {clause : WrittenClause} {here : ParserState}
      (split : written = accepted ++ clause :: rest)
      (ordered : (clauseKinds accepted).Sublist (rules.map ClauseRule.kind))
      (breaks : ¬(clauseKinds (accepted ++ [clause])).Sublist (rules.map ClauseRule.kind))
      (quiet : here.errors = start.errors) :
      Outcome input start stop block rules written
        (accepted.foldl (WrittenClause.fill input) block, { here with
          errors := here.errors ++ [.syntactic (clause.position input) (clause.fault input)] })

theorem Outcome.skip {rules : List ClauseRule} {rule : ClauseRule} {answer : SelectBlock × ParserState}
    (other : ∀ clause rest, written = clause :: rest → clause.rule.kind ≠ rule.kind)
    (outcome : Outcome input s stop block rules written answer) :
    Outcome input s stop block (rule :: rules) written answer := by
  cases outcome with
  | complete ordered => exact .complete (ordered.cons rule)
  | @stuck accepted rest breaker here split ordered breaks quiet =>
    refine .stuck split (ordered.cons rule.kind) (fun longer => breaks ?_) quiet
    obtain ⟨first, others, begins⟩ : ∃ first others, accepted ++ [breaker] = first :: others :=
      List.exists_cons_of_ne_nil (List.append_ne_nil_of_right_ne_nil _ (List.cons_ne_nil _ _))
    have differs : first.rule.kind ≠ rule.kind := by
      refine other first (others ++ rest) ?_
      rw [split, ← List.cons_append, ← begins, List.append_assoc]
      rfl
    rw [begins] at longer ⊢
    rcases List.sublist_cons_iff.1 longer with shorter | ⟨_, same, -⟩
    · exact shorter
    · exact absurd (List.cons.inj same).1 differs

theorem Outcome.cons {rules : List ClauseRule} {answer : SelectBlock × ParserState}
    (quiet : s'.errors = s.errors)
    (outcome : Outcome input s' stop (clause.fill input block) rules written answer) :
    Outcome input s stop block (clause.rule :: rules) (clause :: written) answer := by
  cases outcome with
  | complete ordered => exact .complete (ordered.cons_cons clause.rule)
  | @stuck accepted rest breaker here split ordered breaks same =>
    have split : clause :: written = (clause :: accepted) ++ breaker :: rest :=
      congrArg (clause :: ·) split
    refine .stuck split (ordered.cons_cons _) (fun longer => breaks ?_) (same.trans quiet)
    exact List.cons_sublist_cons.1 longer

theorem Outcome.leftover :
    Outcome input s stop block [] (clause :: written) (block, { s with
      errors := s.errors ++ [.syntactic (clause.position input) (clause.fault input)] }) := by
  have split : clause :: written = [] ++ clause :: written := rfl
  exact .stuck split (List.nil_sublist _) nofun rfl

theorem clausesFrom_reads (mark : Nat) (block : SelectBlock)
    (kinds : (input.dialect.clauses.map ClauseRule.kind).Nodup)
    {rules : List ClauseRule} (listed : ∀ rule ∈ rules, rule ∈ input.dialect.clauses)
    (knows : ∀ clause ∈ written, input.dialect.Knows clause.rule)
    (reads : WrittenClauses grammar input s written stop)
    (ends : input.dialect.EndsClauses (input.token stop.index).kind) :
    ∃ answer, grammar.clausesFrom mark rules block input s = some answer ∧
      Outcome input s stop block rules written answer := by
  induction rules generalizing s block written with
  | nil =>
    cases reads with
    | nil =>
      refine ⟨(block, stop), ?_, .complete (List.nil_sublist _)⟩
      rw [clausesFrom, bind_eq (leftoverClause_ends ends)]
      rfl
    | @cons _ _ _ clause rest _ place keyword =>
      refine ⟨_, ?_, .leftover⟩
      rw [clausesFrom, bind_eq (leftoverClause_notes keyword place (knows clause List.mem_cons_self))]
      rfl
  | cons rule rules ih =>
    have later := fun rule member => listed rule (List.mem_cons_of_mem _ member)
    by_cases found : (input.token s.index).kind = rule.kind
    · have checked : check rule.kind input s = some (true, s) := by
        rw [check_eq, beq_iff_eq.2 found]
      have own : rule ∈ input.dialect.clauses := listed rule List.mem_cons_self
      cases reads with
      | nil => exact absurd (found ▸ List.mem_map_of_mem own) ends.1
      | @cons _ s' _ clause rest form place keyword reads content quiet others =>
        have same : clause.rule = rule := by
          have kind : clause.rule.kind = rule.kind := keyword.symm.trans found
          rcases knows clause List.mem_cons_self with member | ⟨foreign, -⟩
          · exact List.inj_on_of_nodup_map kinds member own kind
          · exact absurd (kind ▸ List.mem_map_of_mem own) foreign
        subst same
        obtain ⟨answer, run, outcome⟩ := ih (clause.fill input block) later
          (fun clause member => knows clause (List.mem_cons_of_mem _ member)) others
        refine ⟨answer, ?_, outcome.cons quiet⟩
        rw [clausesFrom, bind_eq checked, if_pos rfl,
          bind_eq (clause_reads place (Dialect.clause?_eq_some kinds own) reads content)]
        exact run
    · have unchecked : check rule.kind input s = some (false, s) := by
        rw [check_eq, beq_eq_false_iff_ne.2 found]
      obtain ⟨answer, run, outcome⟩ := ih block later knows reads
      refine ⟨answer, ?_, outcome.skip fun clause rest begins => ?_⟩
      · rw [clausesFrom, bind_eq unchecked, if_neg Bool.false_ne_true, run]
      · rw [begins] at reads
        cases reads with
        | cons _ keyword => rwa [← keyword]

end Grammar

/-! ### What the slots hold -/

section Filling

variable {input : ParserInput} {block : SelectBlock} {clause : WrittenClause} {written : List WrittenClause}
  {slot : ClauseSlot}

theorem SelectBlock.SameIn.trans {a b c : SelectBlock} (first : a.SameIn b slot)
    (second : b.SameIn c slot) : a.SameIn c slot := by
  cases slot <;> first | exact Eq.trans first second | exact ⟨first.1.trans second.1, first.2.trans second.2⟩

theorem SelectBlock.Holds.of_sameIn {a b : SelectBlock} {content : ClauseContent}
    (same : a.SameIn b slot) (holds : b.Holds slot content) : a.Holds slot content := by
  cases slot <;> cases content <;> first | exact Eq.trans same holds | exact same.1.trans holds | cases holds

namespace WrittenClause

theorem fill_sameIn (other : clause.rule.slot ≠ slot) : (clause.fill input block).SameIn block slot := by
  unfold fill SelectBlock.assign
  split <;> split <;> cases slot <;> first | rfl | exact ⟨rfl, rfl⟩ | simp_all

theorem fill_holds (suits : clause.content.form.suits clause.rule.slot = true) :
    (clause.fill input block).Holds clause.rule.slot clause.content := by
  unfold fill
  generalize clause.content = content at suits ⊢
  generalize clause.rule.slot = slot at suits ⊢
  cases content <;> cases slot <;> first | rfl | cases suits

theorem fill_orderByPosition (orders : clause.rule.slot = .orderBy) :
    (clause.fill input block).orderByPosition = clause.position input := by
  rw [fill, if_pos orders]

theorem fill_sameOutside : (clause.fill input block).SameOutside block := by
  unfold fill SelectBlock.assign
  split <;> split <;> exact ⟨rfl, rfl, rfl, rfl, rfl⟩

theorem foldl_fill_sameIn (others : ∀ clause ∈ written, clause.rule.slot ≠ slot) :
    (written.foldl (fill input) block).SameIn block slot := by
  induction written generalizing block with
  | nil => cases slot <;> first | rfl | exact ⟨rfl, rfl⟩
  | cons clause written ih =>
    have later : (written.foldl (fill input) (clause.fill input block)).SameIn
        (clause.fill input block) slot :=
      ih fun other member => others other (List.mem_cons_of_mem _ member)
    exact later.trans (fill_sameIn (others clause List.mem_cons_self))

theorem foldl_fill_sameOutside : (written.foldl (fill input) block).SameOutside block := by
  induction written generalizing block with
  | nil => exact ⟨rfl, rfl, rfl, rfl, rfl⟩
  | cons clause written ih =>
    have later : (written.foldl (fill input) (clause.fill input block)).SameOutside
        (clause.fill input block) := ih
    have first : (clause.fill input block).SameOutside block := fill_sameOutside
    obtain ⟨span, distinct, asKind, items, source⟩ := later
    obtain ⟨span', distinct', asKind', items', source'⟩ := first
    exact ⟨span.trans span', distinct.trans distinct', asKind.trans asKind', items.trans items',
      source.trans source'⟩

theorem foldl_fill_holds (distinct : (written.map (·.rule.slot)).Nodup)
    (suits : ∀ clause ∈ written, clause.content.form.suits clause.rule.slot = true)
    (member : clause ∈ written) :
    (written.foldl (fill input) block).Holds clause.rule.slot clause.content ∧
      (clause.rule.slot = .orderBy →
        (written.foldl (fill input) block).orderByPosition = clause.position input) := by
  induction written generalizing block with
  | nil => cases member
  | cons first written ih =>
    obtain ⟨alone, distinct⟩ := List.nodup_cons.1 distinct
    rcases List.mem_cons.1 member with rfl | later
    · have kept : (written.foldl (fill input) (clause.fill input block)).SameIn
          (clause.fill input block) clause.rule.slot :=
        foldl_fill_sameIn fun other also same => alone (List.mem_map.2 ⟨other, also, same⟩)
      refine ⟨.of_sameIn kept (fill_holds (suits clause List.mem_cons_self)), fun orders => ?_⟩
      rw [orders] at kept
      exact kept.2.trans (fill_orderByPosition orders)
    · exact ih distinct (fun other also => suits other (List.mem_cons_of_mem _ also)) later

end WrittenClause

end Filling

/-! ### The order of clauses -/

section Rows

variable {grammar : Grammar} {input : ParserInput} {s s' : ParserState} {written : List WrittenClause}

theorem Attempt.ok_of_bind {α β : Type} {p : Attempt α} {f : α → Attempt β} {b : β}
    (run : (p >>= f).run input s = some (.ok b, s')) :
    ∃ a s₁, p.run input s = some (.ok a, s₁) ∧ (f a).run input s₁ = some (.ok b, s') := by
  obtain ⟨result, s₁, first, rest⟩ := Parser.bind_eq_some run
  cases result with
  | ok a => exact ⟨a, s₁, first, rest⟩
  | error => cases rest

theorem Grammar.form_of_clauseContent {form : ClauseForm} {content : ClauseContent}
    (run : (grammar.clauseContent form).run input s = some (.ok content, s')) : content.form = form := by
  cases form with
  | expression | windows =>
    obtain ⟨_, _, -, answered⟩ := Attempt.ok_of_bind run
    cases answered
    rfl
  | grouping | ordering =>
    obtain ⟨_, _, -, run⟩ := Attempt.ok_of_bind run
    obtain ⟨_, _, -, answered⟩ := Attempt.ok_of_bind run
    cases answered
    rfl

namespace WrittenClauses

theorem form (reads : WrittenClauses grammar input s written s') :
    ∀ clause ∈ written, clause.rule.form = some clause.content.form := by
  induction reads with
  | nil => exact fun _ member => absurd member List.not_mem_nil
  | cons _ _ known content _ _ ih =>
    intro clause member
    rcases List.mem_cons.1 member with rfl | later
    · rw [known, Grammar.form_of_clauseContent content]
    · exact ih clause later

theorem errors (reads : WrittenClauses grammar input s written s') : s'.errors = s.errors := by
  induction reads with
  | nil => rfl
  | cons _ _ _ _ quiet _ ih => exact ih.trans quiet

end WrittenClauses

end Rows

/-- The clauses after the sources of a block are read without an error, and up to the end of the last
one, exactly if their keywords are in the order of the dialect. Then each slot holds what its own
clause has read. Otherwise one error is noted, at the first keyword that is not in order. -/
theorem Grammar.clauses_in_order (grammar : Grammar) (input : ParserInput)
    (standard : input.dialect.StandardClauses) (start stop : ParserState) (written : List WrittenClause)
    (knows : ∀ clause ∈ written, input.dialect.Knows clause.rule)
    (reads : WrittenClauses grammar input start written stop)
    (ends : input.dialect.EndsClauses (input.token stop.index).kind)
    (distinct : Bool) (asKind : String) (items : List SelectItem) (source : Option FromClause) :
    ∃ block s', grammar.clauses { SelectBlock.empty with distinct, asKind, items, source } input start =
        some (block, s') ∧
      (s'.errors = start.errors ∧ s'.index = stop.index ↔
        (clauseKinds written).Sublist (input.dialect.clauses.map ClauseRule.kind)) ∧
      ((clauseKinds written).Sublist (input.dialect.clauses.map ClauseRule.kind) →
        (∀ clause ∈ written, block.Holds clause.rule.slot clause.content) ∧
        (∀ slot, (∀ clause ∈ written, clause.rule.slot ≠ slot) → block.SameIn .empty slot) ∧
        (∀ clause ∈ written, clause.rule.slot = .orderBy →
          block.orderByPosition = clause.position input) ∧
        block.SameOutside { SelectBlock.empty with distinct, asKind, items, source }) ∧
      (¬(clauseKinds written).Sublist (input.dialect.clauses.map ClauseRule.kind) →
        ∃ accepted clause rest, written = accepted ++ clause :: rest ∧
          (clauseKinds accepted).Sublist (input.dialect.clauses.map ClauseRule.kind) ∧
          ¬(clauseKinds (accepted ++ [clause])).Sublist (input.dialect.clauses.map ClauseRule.kind) ∧
          s'.errors = start.errors ++
            [.syntactic (clause.position input) (clause.fault input)]) := by
  obtain ⟨⟨block, s'⟩, run, outcome⟩ := clausesFrom_reads start.errors.length
    { SelectBlock.empty with distinct, asKind, items, source } standard.kinds (fun _ => id) knows reads
    ends
  refine ⟨block, s', run, ?_⟩
  cases outcome with
  | complete ordered =>
    have kinds : (clauseKinds written).Sublist (input.dialect.clauses.map ClauseRule.kind) :=
      clauseKinds_eq ▸ ordered.map ClauseRule.kind
    refine ⟨iff_of_true ⟨reads.errors, rfl⟩ kinds, fun _ => ?_, fun unordered => absurd kinds unordered⟩
    have slots : (written.map (·.rule.slot)).Nodup :=
      clauseSlots_eq ▸ standard.slots.sublist (ordered.map ClauseRule.slot)
    have suits : ∀ clause ∈ written, clause.content.form.suits clause.rule.slot = true :=
      fun clause member => standard.slotted.suits clause.rule
        (ordered.subset (List.mem_map_of_mem member)) _ (reads.form clause member)
    refine ⟨fun clause member => (WrittenClause.foldl_fill_holds slots suits member).1,
      fun slot unwritten => ?_,
      fun clause member => (WrittenClause.foldl_fill_holds slots suits member).2,
      WrittenClause.foldl_fill_sameOutside⟩
    refine (WrittenClause.foldl_fill_sameIn unwritten).trans ?_
    cases slot <;> first | rfl | exact ⟨rfl, rfl⟩
  | @stuck accepted rest clause here split ordered breaks quiet =>
    have unordered : ¬(clauseKinds written).Sublist (input.dialect.clauses.map ClauseRule.kind) := by
      refine fun whole => breaks (List.Sublist.trans ?_ whole)
      have begins : accepted ++ [clause] <+: written :=
        ⟨rest, by rw [split, List.append_assoc]; rfl⟩
      exact begins.sublist.map _
    refine ⟨iff_of_false (fun clean => ?_) unordered, fun whole => absurd whole unordered, fun _ => ?_⟩
    · have noted := clean.1
      simp [quiet] at noted
    · exact ⟨accepted, clause, rest, split, ordered, breaks, by rw [quiet]⟩

/-- In `WHERE 1 LIMIT 2` both clauses are read. -/
theorem Grammar.where_limit_in_order :
    let input : ParserInput := ⟨#[{ kind := Keyword.WHERE }, { kind := .number, literal := [49] },
      { kind := Keyword.LIMIT }, { kind := .number, literal := [50] }, { kind := .endOfInput }],
      Dialect.bigQuery⟩
    ∃ block s', (ofInput input).clauses .empty input {} = some (block, s') ∧ s'.errors = [] ∧
      s'.index = 4 ∧ block.filter = some (.literal { kind := .number, value := "1" }) ∧
      block.limit = some (.literal { kind := .number, value := "2" }) := by
  intro input
  let filter : WrittenClause :=
    ⟨Dialect.Standard.whereClause, 0, .expression (.literal { kind := .number, value := "1" })⟩
  let limit : WrittenClause :=
    ⟨Dialect.Standard.limitClause, 2, .expression (.literal { kind := .number, value := "2" })⟩
  have reads : WrittenClauses (ofInput input) input {} [filter, limit] { index := 4 } := by
    have last : WrittenClauses (ofInput input) input { index := 2 } [limit] { index := 4 } := by
      refine .cons rfl rfl rfl ?_ ?_ .nil <;> rfl
    refine .cons rfl rfl rfl ?_ ?_ last <;> rfl
  have knows : ∀ clause ∈ [filter, limit], input.dialect.Knows clause.rule := by
    intro clause member
    simp only [List.mem_cons, List.not_mem_nil, or_false] at member
    rcases member with rfl | rfl <;> exact .inl (by decide +kernel)
  have ordered : (clauseKinds [filter, limit]).Sublist (input.dialect.clauses.map ClauseRule.kind) := by
    decide +kernel
  obtain ⟨block, s', run, read, held, -⟩ := clauses_in_order (ofInput input) input
    Dialect.bigQuery_standardClauses {} { index := 4 } [filter, limit] knows reads
    ⟨by decide +kernel, rfl⟩ false "" [] none
  obtain ⟨clean, index⟩ := read.2 ordered
  obtain ⟨holds, -⟩ := held ordered
  exact ⟨block, s', run, clean, index, holds filter List.mem_cons_self,
    holds limit (List.mem_cons_of_mem _ List.mem_cons_self)⟩

end QueryLint
