import QueryLint.Lint.Session
import QueryLint.Proofs.Lint.Location
import QueryLint.Proofs.Text.Lines

/-!
What becomes of the lines that are typed in a session. Each line is read by the session that the line
before it left (`turns`), and what a line adds to the input is either gathered or linted, so that
nothing is lost, said twice or moved (`join_sources_append_buffer`). A text that is linted consists of
the lines since the one that was read while nothing waited, in the order in which they were typed
(`exists_completes`).
-/

namespace QueryLint.Session

open Text (ended)

/-! ### Lines -/

def IsBlank (line : String) : Prop := Text.trim line = ""

def IsDotted (line : String) : Prop := Text.startsWith "." (Text.trim line) = true

def Closes (line : String) : Prop := Text.endsWith ";" (Text.trim line) = true

instance (line : String) : Decidable (IsBlank line) := inferInstanceAs (Decidable (_ = _))

instance (line : String) : Decidable (IsDotted line) := inferInstanceAs (Decidable (_ = _))

instance (line : String) : Decidable (Closes line) := inferInstanceAs (Decidable (_ = _))

/-- A line as it stands in a text: of a blank one, only the line feed is kept. -/
def kept (line : String) : String := if IsBlank line then "" else line

theorem IsBlank.not_closes {line : String} (blank : IsBlank line) : ¬Closes line := by
  rw [Closes, blank]
  decide

theorem IsDotted.not_isBlank {line : String} (dotted : IsDotted line) : ¬IsBlank line := by
  intro blank
  rw [IsDotted, blank] at dotted
  revert dotted
  decide

theorem feed_not_mem_kept {line : String} (single : '\n' ∉ line.toList) :
    '\n' ∉ (kept line).toList := by
  unfold kept
  split
  · exact List.not_mem_nil
  · exact single

theorem not_pending_iff (session : Session) : session.pending = false ↔ session = {} := by
  obtain ⟨buffer⟩ := session
  rw [pending, Bool.not_eq_false', String.isEmpty_iff, mk.injEq]

/-! ### Reading a line -/

section Reading

variable {session : Session} {line : String}

theorem read_blank (session : Session) (blank : IsBlank line) :
    session.read line = (if session.pending then ⟨session.buffer ++ "\n"⟩ else session, .wait) := by
  have trimmed : (Text.trim line).isEmpty = true := String.isEmpty_iff.2 blank
  rw [read, if_pos trimmed]

theorem read_command (idle : session.pending = false) (dotted : IsDotted line) :
    session.read line = (session, .command (Text.trim line)) := by
  have trimmed : ¬(Text.trim line).isEmpty = true := mt String.isEmpty_iff.1 dotted.not_isBlank
  have command : (!session.pending && Text.startsWith "." (Text.trim line)) = true := by
    rw [idle, Bool.not_false, Bool.true_and]
    exact dotted
  rw [read, if_neg trimmed, if_pos command]

theorem read_text (spelled : ¬IsBlank line) (text : session.pending = true ∨ ¬IsDotted line) :
    session.read line =
      if Closes line then ({}, .lint (session.buffer ++ line ++ "\n"))
      else (⟨session.buffer ++ line ++ "\n"⟩, .wait) := by
  have trimmed : ¬(Text.trim line).isEmpty = true := mt String.isEmpty_iff.1 spelled
  have command : ¬(!session.pending && Text.startsWith "." (Text.trim line)) = true := by
    rw [Bool.and_eq_true, Bool.not_eq_true']
    rintro ⟨idle, dotted⟩
    rcases text with waiting | plain
    · rw [idle] at waiting
      cases waiting
    · exact plain dotted
  rw [read, if_neg trimmed, if_neg command]
  rfl

end Reading

/-! ### Turns -/

/-- A line that is typed and the session that reads it. -/
structure Turn where
  before : Session
  line : String
deriving DecidableEq

namespace Turn

def after (turn : Turn) : Session := (turn.before.read turn.line).1

def action (turn : Turn) : Action := (turn.before.read turn.line).2

/-- The text that is linted, if the line completes one. -/
def source? (turn : Turn) : Option String :=
  match turn.action with
  | .lint source => some source
  | .wait | .command _ => none

def quits (linter : Linter) (console : Console) (turn : Turn) : Bool :=
  (perform linter console turn.action).2

/-- What the line adds to the input. A blank line counts only while lines are waiting, and a line
that begins with a dot is a command unless they are. -/
def added (turn : Turn) : String :=
  if IsBlank turn.line then if turn.before.pending then "\n" else ""
  else if turn.before.pending = false ∧ IsDotted turn.line then "" else turn.line ++ "\n"

end Turn

/-- The turns of a session that is given lines, up to the one that ends it. -/
def turns (linter : Linter) (console : Console) (session : Session) : List String → List Turn
  | [] => []
  | line :: rest =>
    let turn : Turn := ⟨session, line⟩
    turn :: if turn.quits linter console then [] else turns linter console turn.after rest

def afterAll (session : Session) (turns : List Turn) : Session :=
  turns.foldl (fun _ turn => turn.after) session

/-- What a line does to the input. It is passed over while nothing waits, it is gathered, or it
completes a text. -/
inductive Turn.Outcome (turn : Turn) : Prop
  | passed (idle : turn.before.pending = false) (nothing : turn.added = "")
      (unlinted : turn.source? = none) (same : turn.after = turn.before)
  | gathered (unclosed : ¬Closes turn.line) (whole : turn.added = kept turn.line ++ "\n")
      (unlinted : turn.source? = none) (longer : turn.after = ⟨turn.before.buffer ++ turn.added⟩)
  | linted (closes : Closes turn.line) (whole : turn.added = kept turn.line ++ "\n")
      (complete : turn.source? = some (turn.before.buffer ++ turn.added)) (emptied : turn.after = {})

theorem Turn.outcome (turn : Turn) : turn.Outcome := by
  by_cases blank : IsBlank turn.line
  · have reads := turn.before.read_blank blank
    cases waiting : turn.before.pending with
    | false =>
      rw [if_neg (by simp [waiting])] at reads
      refine .passed waiting ?_ ?_ ?_ <;> simp [added, source?, action, after, reads, blank, waiting]
    | true =>
      rw [if_pos waiting] at reads
      refine .gathered blank.not_closes ?_ ?_ ?_ <;>
        simp [added, source?, action, after, reads, blank, waiting, kept]
  by_cases command : turn.before.pending = false ∧ IsDotted turn.line
  · have reads := read_command command.1 command.2
    refine .passed command.1 ?_ ?_ ?_ <;> simp [added, source?, action, after, reads, command]
  · have text : turn.before.pending = true ∨ ¬IsDotted turn.line := by
      rwa [not_and_or, Bool.not_eq_false] at command
    have reads := read_text blank text
    have whole : turn.added = turn.line ++ "\n" := by rw [added, if_neg blank, if_neg command]
    by_cases closes : Closes turn.line
    · rw [if_pos closes] at reads
      refine .linted closes ?_ ?_ ?_ <;>
        simp [whole, source?, action, after, reads, blank, kept, String.append_assoc]
    · rw [if_neg closes] at reads
      refine .gathered closes ?_ ?_ ?_ <;>
        simp [whole, source?, action, after, reads, blank, kept, String.append_assoc]

/-! ### Nothing is lost -/

/-- A line moves what waits and what it adds into a text or leaves both waiting. -/
theorem Turn.source_append_buffer (turn : Turn) :
    turn.source?.getD "" ++ turn.after.buffer = turn.before.buffer ++ turn.added := by
  cases turn.outcome with
  | passed _ nothing unlinted same => simp [nothing, unlinted, same]
  | gathered _ _ unlinted longer => simp [unlinted, longer]
  | linted _ _ complete emptied => simp [complete, emptied]

theorem join_filterMap_cons {α : Type} (part? : α → Option String) (first : α) (rest : List α) :
    String.join ((first :: rest).filterMap part?) =
      (part? first).getD "" ++ String.join (rest.filterMap part?) := by
  cases found : part? first with
  | none => rw [List.filterMap_cons_none found, Option.getD_none, String.empty_append]
  | some part => rw [List.filterMap_cons_some found, String.join_cons, Option.getD_some]

section Turns

variable {linter : Linter} {console : Console}

/-- The texts that are linted, followed by what still waits, are what waited before and what the
lines add. -/
theorem join_sources_append_buffer (session : Session) (lines : List String) :
    String.join ((turns linter console session lines).filterMap Turn.source?) ++
        (afterAll session (turns linter console session lines)).buffer =
      session.buffer ++ String.join ((turns linter console session lines).map Turn.added) := by
  induction lines generalizing session with
  | nil => rw [turns, List.filterMap_nil, List.map_nil, afterAll, List.foldl_nil, String.join_nil,
      String.empty_append, String.append_empty]
  | cons line rest ih =>
    have step := Turn.source_append_buffer ⟨session, line⟩
    rw [turns, join_filterMap_cons, List.map_cons, String.join_cons, afterAll, List.foldl_cons,
      ← String.append_assoc, ← step, String.append_assoc, String.append_assoc]
    by_cases quits : Turn.quits linter console ⟨session, line⟩ = true
    · rw [if_pos quits, List.filterMap_nil, List.map_nil, String.join_nil, String.empty_append,
        String.append_empty, List.foldl_nil]
    · have later := ih (Turn.after ⟨session, line⟩)
      rw [afterAll] at later
      rw [if_neg quits, later]

theorem exists_unread (linter : Linter) (console : Console) (session : Session) (lines : List String) :
    ∃ unread, lines = (turns linter console session lines).map Turn.line ++ unread ∧
      (unread = [] ∨ ∃ last, (turns linter console session lines).getLast? = some last ∧
        last.quits linter console = true) := by
  induction lines generalizing session with
  | nil => exact ⟨[], rfl, .inl rfl⟩
  | cons line rest ih =>
    rw [turns]
    by_cases quits : Turn.quits linter console ⟨session, line⟩ = true
    · rw [if_pos quits]
      exact ⟨rest, rfl, .inr ⟨⟨session, line⟩, rfl, quits⟩⟩
    · rw [if_neg quits]
      obtain ⟨unread, split, all⟩ := ih (Turn.after ⟨session, line⟩)
      refine ⟨unread, congrArg (line :: ·) split, ?_⟩
      rcases all with none | ⟨last, found, ends⟩
      · exact .inl none
      · refine .inr ⟨last, ?_, ends⟩
        rw [List.getLast?_cons, found, Option.getD_some]

theorem line_mem {session : Session} {lines : List String} {turn : Turn}
    (member : turn ∈ turns linter console session lines) : turn.line ∈ lines := by
  obtain ⟨unread, split, -⟩ := exists_unread linter console session lines
  rw [split]
  exact List.mem_append_left _ (List.mem_map_of_mem member)

theorem eq_nil_of_quits {session : Session} {lines : List String} {earlier later : List Turn}
    {turn : Turn} (split : turns linter console session lines = earlier ++ turn :: later)
    (quits : turn.quits linter console = true) : later = [] := by
  induction lines generalizing session earlier with
  | nil => simp [turns] at split
  | cons line rest ih =>
    rw [turns] at split
    cases earlier with
    | nil =>
      obtain ⟨rfl, rfl⟩ := List.cons_eq_cons.1 split
      rw [if_pos quits]
    | cons first earlier =>
      have further := (List.cons_eq_cons.1 split).2
      split at further
      · simp at further
      · exact ih further

end Turns

/-! ### Whole texts -/

/-- The first turn reads while nothing waits and all others while lines are waiting. -/
def Together : List Turn → Prop
  | [] => True
  | first :: rest => first.before = {} ∧ ∀ later ∈ rest, later.before.pending = true

structure Gathered (waiting : List Turn) (session : Session) : Prop where
  buffer : session.buffer = ended (waiting.map (kept ·.line))
  together : Together waiting
  unclosed : ∀ earlier ∈ waiting, ¬Closes earlier.line

/-- A turn completes a text that consists of the lines that waited and of its own one. -/
structure Completes (waiting : List Turn) (turn : Turn) (source : String) : Prop where
  text : source = ended ((waiting ++ [turn]).map (kept ·.line))
  together : Together (waiting ++ [turn])
  closes : Closes turn.line
  unclosed : ∀ earlier ∈ waiting, ¬Closes earlier.line
  emptied : turn.after = {}

namespace Gathered

variable {waiting : List Turn} {session : Session}

theorem nil : Gathered [] {} := ⟨rfl, trivial, List.forall_mem_nil _⟩

theorem eq_nil_of_idle (gathered : Gathered waiting session) (idle : session.pending = false) :
    waiting = [] := by
  cases waiting with
  | nil => rfl
  | cons first rest =>
    have spelled := congrArg String.isEmpty gathered.buffer
    rw [pending, Bool.not_eq_false'] at idle
    rw [idle, List.map_cons, Text.ended_cons] at spelled
    simp at spelled

theorem together_append {turn : Turn} (gathered : Gathered waiting turn.before) :
    Together (waiting ++ [turn]) := by
  cases waiting with
  | nil =>
    refine ⟨turn.before.not_pending_iff.1 ?_, List.forall_mem_nil _⟩
    rw [pending, gathered.buffer]
    rfl
  | cons first rest =>
    obtain ⟨fresh, others⟩ := gathered.together
    refine ⟨fresh, fun later member => ?_⟩
    rcases List.mem_append.1 member with member | last
    · exact others later member
    · rw [List.mem_singleton.1 last, ← Bool.not_eq_false]
      exact fun idle => List.cons_ne_nil _ _ (gathered.eq_nil_of_idle idle)

theorem ended_append {turn : Turn} (gathered : Gathered waiting turn.before)
    (whole : turn.added = kept turn.line ++ "\n") :
    turn.before.buffer ++ turn.added = ended ((waiting ++ [turn]).map (kept ·.line)) := by
  rw [List.map_append, Text.ended_append, ← gathered.buffer, whole, List.map_singleton,
    Text.ended_cons, Text.ended_nil, String.append_empty]

theorem step (turn : Turn) (gathered : Gathered waiting turn.before) :
    (∃ gone since, waiting ++ [turn] = gone ++ since ∧ Gathered since turn.after) ∧
      ∀ source, turn.source? = some source → Completes waiting turn source := by
  cases turn.outcome with
  | passed idle _ unlinted same =>
    have fresh := turn.before.not_pending_iff.1 idle
    have empty : Gathered [] turn.after := same ▸ fresh ▸ nil
    refine ⟨⟨waiting ++ [turn], [], (List.append_nil _).symm, empty⟩, fun source found => ?_⟩
    rw [unlinted] at found
    cases found
  | gathered unclosed whole unlinted longer =>
    refine ⟨⟨[], waiting ++ [turn], rfl, ?_, gathered.together_append, ?_⟩,
      fun source found => ?_⟩
    · rw [longer]
      exact gathered.ended_append whole
    · intro earlier member
      rcases List.mem_append.1 member with member | last
      · exact gathered.unclosed earlier member
      · rw [List.mem_singleton.1 last]
        exact unclosed
    · rw [unlinted] at found
      cases found
  | linted closes whole complete emptied =>
    have empty : Gathered [] turn.after := emptied ▸ nil
    refine ⟨⟨waiting ++ [turn], [], (List.append_nil _).symm, empty⟩, fun source found => ?_⟩
    rw [complete, Option.some.injEq] at found
    exact ⟨found ▸ gathered.ended_append whole, gathered.together_append, closes, gathered.unclosed,
      emptied⟩

/-- What waits when a line is read are the lines right before it. -/
theorem run {linter : Linter} {console : Console} {lines : List String} {earlier later : List Turn}
    {turn : Turn} (gathered : Gathered waiting session)
    (split : turns linter console session lines = earlier ++ turn :: later) :
    ∃ gone since, waiting ++ earlier = gone ++ since ∧ Gathered since turn.before := by
  induction lines generalizing session waiting earlier with
  | nil => simp [turns] at split
  | cons line rest ih =>
    rw [turns] at split
    cases earlier with
    | nil =>
      obtain ⟨rfl, -⟩ := List.cons_eq_cons.1 split
      exact ⟨[], waiting, List.append_nil _, gathered⟩
    | cons first earlier =>
      obtain ⟨rfl, further⟩ := List.cons_eq_cons.1 split
      split at further
      · simp at further
      · obtain ⟨gone, since, parted, later⟩ := (step ⟨session, line⟩ gathered).1
        obtain ⟨gone', since', parted', found⟩ := ih later further
        refine ⟨gone ++ gone', since', ?_, found⟩
        rw [List.append_assoc, ← parted', ← List.append_assoc, ← parted, List.append_assoc,
          List.singleton_append]

end Gathered

theorem exists_completes {linter : Linter} {console : Console} {lines : List String}
    {earlier later : List Turn} {turn : Turn} {source : String}
    (split : turns linter console {} lines = earlier ++ turn :: later)
    (found : turn.source? = some source) :
    ∃ gone waiting, earlier = gone ++ waiting ∧ Completes waiting turn source := by
  obtain ⟨gone, waiting, parted, gathered⟩ := Gathered.nil.run split
  exact ⟨gone, waiting, parted, (Gathered.step turn gathered).2 source found⟩

/-! ### Lines of a text -/

namespace Completes

variable {waiting : List Turn} {turn : Turn} {source : String}

theorem splitOn_eq (completes : Completes waiting turn source)
    (single : ∀ read ∈ waiting ++ [turn], '\n' ∉ read.line.toList) :
    Text.splitOn '\n' source = (waiting ++ [turn]).map (kept ·.line) ++ [""] := by
  rw [completes.text, Text.splitOn_ended]
  rw [List.forall_mem_map]
  exact fun read member => feed_not_mem_kept (single read member)

/-- What is reported about a text stands on the line that was typed there. -/
theorem reported_onLine (completes : Completes waiting turn source)
    (single : ∀ read ∈ waiting ++ [turn], '\n' ∉ read.line.toList) {linter : Linter}
    (registered : linter.dialect ∈ Dialect.registered) {diagnostic : Diagnostic}
    (reported : diagnostic ∈ linter.lint (Text.encode source))
    (placed : diagnostic.span.start.isValid = true) :
    ∃ before line after, (waiting ++ [turn]).map (kept ·.line) ++ [""] = before ++ line :: after ∧
      diagnostic.span.start.OnLine before line := by
  have single' : ∀ line ∈ (waiting ++ [turn]).map (kept ·.line), '\n' ∉ line.toList := by
    rw [List.forall_mem_map]
    exact fun read member => feed_not_mem_kept (single read member)
  rcases Linter.start_of_mem_lint (List.mem_singleton.1 registered) reported with unset | lies
  · rw [unset] at placed
    cases placed
  · obtain ⟨offset, inside, same⟩ := lies
    rw [completes.text] at inside same
    rw [same]
    exact Position.atOffset_onLine single' inside

end Completes

/-! ### A session -/

/-- Input is neither lost nor doubled nor moved. The lines are read in order, up to the one that ends
the session; the texts that are linted and what still waits are what the lines add. A text is made of
lines that were read one right after the other, the first while nothing waited; it ends with the first
of them that closes it, and nothing waits after it. Its lines are those that were typed, so that what is
reported about it stands on the line with that number. While lines wait, one that begins with a dot is
taken into the text. -/
theorem input_kept (linter : Linter) (console : Console) {lines : List String}
    (single : ∀ line ∈ lines, '\n' ∉ line.toList) :
    let typed := turns linter console {} lines
    (∃ unread, lines = typed.map Turn.line ++ unread ∧
      (unread = [] ∨ ∃ last, typed.getLast? = some last ∧ last.quits linter console = true)) ∧
    (∀ earlier turn later, typed = earlier ++ turn :: later →
      turn.quits linter console = true → later = []) ∧
    String.join (typed.filterMap Turn.source?) ++ (afterAll {} typed).buffer =
      String.join (typed.map Turn.added) ∧
    (∀ earlier turn later source, typed = earlier ++ turn :: later → turn.source? = some source →
      ∃ gone waiting, earlier = gone ++ waiting ∧ Completes waiting turn source ∧
        Text.splitOn '\n' source = (waiting ++ [turn]).map (kept ·.line) ++ [""] ∧
        (linter.dialect ∈ Dialect.registered →
          ∀ diagnostic ∈ linter.lint (Text.encode source), diagnostic.span.start.isValid = true →
            ∃ before line after,
              (waiting ++ [turn]).map (kept ·.line) ++ [""] = before ++ line :: after ∧
                diagnostic.span.start.OnLine before line)) ∧
    ∀ turn ∈ typed, turn.before.pending = true → IsDotted turn.line →
      turn.added = turn.line ++ "\n" ∧ turn.before.read turn.line =
        if Closes turn.line then ({}, .lint (turn.before.buffer ++ turn.added))
        else (⟨turn.before.buffer ++ turn.added⟩, .wait) := by
  intro typed
  refine ⟨exists_unread linter console {} lines, fun earlier turn later => eq_nil_of_quits, ?_, ?_, ?_⟩
  · rw [join_sources_append_buffer]
    exact String.empty_append
  · intro earlier turn later source split found
    obtain ⟨gone, waiting, rfl, completes⟩ := exists_completes split found
    have single' : ∀ read ∈ waiting ++ [turn], '\n' ∉ read.line.toList := by
      intro read member
      have listed : read ∈ typed := by
        rw [split]
        rcases List.mem_append.1 member with waits | last
        · exact List.mem_append_left _ (List.mem_append_right _ waits)
        · exact List.mem_append_right _ (List.mem_singleton.1 last ▸ List.mem_cons_self)
      exact single read.line (line_mem listed)
    exact ⟨gone, waiting, rfl, completes, completes.splitOn_eq single', fun registered diagnostic =>
      completes.reported_onLine single' registered⟩
  · intro turn _ waiting dotted
    have whole : turn.added = turn.line ++ "\n" := by
      rw [Turn.added, if_neg dotted.not_isBlank, if_neg (by simp [waiting])]
    refine ⟨whole, ?_⟩
    rw [read_text dotted.not_isBlank (.inl waiting), whole, String.append_assoc]

/-- A blank line and one that begins with a dot, both in a text whose last line is at fault, and a line
behind the one that ends the session. -/
theorem input_kept_dotted :
    let linter := Linter.ofConfig {} .bigQuery
    let lines := [".rules", "SELECT a", " ", ".b FROM;", ".quit", "SELECT 2;"]
    let typed := turns linter {} {} lines
    let earlier : List Turn := [⟨{}, ".rules"⟩, ⟨{}, "SELECT a"⟩, ⟨⟨"SELECT a\n"⟩, " "⟩]
    let turn : Turn := ⟨⟨"SELECT a\n\n"⟩, ".b FROM;"⟩
    let source := "SELECT a\n\n.b FROM;\n"
    (∀ line ∈ lines, '\n' ∉ line.toList) ∧ typed = earlier ++ turn :: [⟨{}, ".quit"⟩] ∧
      String.join (typed.filterMap Turn.source?) ++ (afterAll {} typed).buffer = source ∧
      (∃ gone waiting, earlier = gone ++ waiting ∧ Completes waiting turn source ∧
        ∃ diagnostic ∈ linter.lint (Text.encode source), diagnostic.span.start = ⟨3, 8, 17⟩ ∧
          ∃ before line after, (waiting ++ [turn]).map (kept ·.line) ++ [""] = before ++ line :: after ∧
            diagnostic.span.start.OnLine before line) := by
  intro linter lines typed earlier turn source
  have single : ∀ line ∈ lines, '\n' ∉ line.toList := by decide +kernel
  have split : typed = earlier ++ turn :: [⟨{}, ".quit"⟩] := by decide +kernel
  have added : String.join (typed.map Turn.added) = source := by decide +kernel
  have found : turn.source? = some source := by decide +kernel
  have starts : (linter.lint (Text.encode source)).map (·.span.start) = [⟨3, 8, 17⟩] := by decide +kernel
  obtain ⟨diagnostic, reported, start⟩ := List.mem_map.1 (starts ▸ List.mem_singleton_self _)
  obtain ⟨-, -, conserved, texts, -⟩ := input_kept linter {} single
  obtain ⟨gone, waiting, parted, completes, -, located⟩ := texts _ _ _ _ split found
  refine ⟨single, split, conserved.trans added, gone, waiting, parted, completes, diagnostic, reported,
    start, located (List.mem_singleton_self _) diagnostic reported ?_⟩
  rw [start]
  rfl

end QueryLint.Session
