import QueryLint.Proofs.Syntax.Places
import QueryLint.Proofs.Syntax.Addresses
import QueryLint.Proofs.Parser.Ensures.Statements
import Mathlib.Data.List.Lex
import Mathlib.Data.List.Sort

/-!
A walk as a way through the places of a tree. The places are listed with their nodes in the order in
which they are visited (`Constituent.visits`), once by the recursion over the parts and once by where
the nodes are: a place is visited if it holds a node and all nodes above it are entered. The list is
strictly increasing, and that alone makes it visit each node once and above before below.
-/

namespace QueryLint

open Text

namespace Constituent

variable {enter : Node → Bool} {part : Constituent}

def visits (enter : Node → Bool) (part : Constituent) : List (List Nat × Node) :=
  part.node?.toList.map (fun node => ([], node)) ++
    if part.node?.all enter then
      part.parts.zipIdx.attach.flatMap fun ⟨(child, number), _⟩ =>
        (child.visits enter).map fun (place, node) => (number :: place, node)
    else []
termination_by sizeOf part
decreasing_by exact sizeOf_lt_of_mem_parts (List.fst_mem_of_mem_zipIdx ‹_›)

def visitsBelow (enter : Node → Bool) (part : Constituent) : List (List Nat × Node) :=
  part.parts.zipIdx.flatMap fun (child, number) =>
    (child.visits enter).map fun (place, node) => (number :: place, node)

theorem visits_eq (enter : Node → Bool) (part : Constituent) :
    part.visits enter = part.node?.toList.map (fun node => ([], node)) ++
      if part.node?.all enter then part.visitsBelow enter else [] := by
  rw [visits, visitsBelow, List.flatMap_subtype
    (g := fun (child, number) => (child.visits enter).map fun (place, node) => (number :: place, node))
    fun _ _ => rfl, List.unattach_attach]

theorem mem_visitsBelow {place : List Nat} {node : Node} :
    (place, node) ∈ part.visitsBelow enter ↔
      ∃ number child rest, place = number :: rest ∧ part.parts[number]? = some child ∧
        (rest, node) ∈ child.visits enter := by
  simp only [visitsBelow, List.mem_flatMap, List.mem_map, Prod.exists, Prod.mk.injEq,
    List.mk_mem_zipIdx_iff_getElem?]
  constructor
  · rintro ⟨child, number, listed, rest, _, visited, rfl, rfl⟩
    exact ⟨number, child, rest, rfl, listed, visited⟩
  · rintro ⟨number, child, rest, rfl, listed, visited⟩
    exact ⟨child, number, listed, rest, node, visited, rfl, rfl⟩

/-! ### The nodes of a walk -/

theorem visitsBelow_nodes
    (each : ∀ child ∈ part.parts, (child.visits enter).map Prod.snd = child.near.flatMap (·.walk enter)) :
    (part.visitsBelow enter).map Prod.snd = (part.parts.flatMap near).flatMap (·.walk enter) := by
  calc (part.visitsBelow enter).map Prod.snd
      = part.parts.zipIdx.flatMap fun listed => listed.1.near.flatMap (·.walk enter) := by
        rw [visitsBelow, List.map_flatMap]
        refine List.flatMap_congr fun listed member => ?_
        rw [List.map_map]
        exact each _ (List.fst_mem_of_mem_zipIdx member)
    _ = (part.parts.flatMap near).flatMap (·.walk enter) := by
        rw [List.flatMap_assoc]
        conv_rhs => rw [← List.zipIdx_map_fst 0 part.parts, List.flatMap_map]

theorem visits_nodes (enter : Node → Bool) (part : Constituent) (plain : Unextended part.near) :
    (part.visits enter).map Prod.snd = part.near.flatMap (·.walk enter) := by
  have below : (part.visitsBelow enter).map Prod.snd =
      (part.parts.flatMap near).flatMap (·.walk enter) :=
    visitsBelow_nodes fun child member => visits_nodes enter child (near_unextended plain member)
  rw [visits_eq]
  cases found : part.node? with
  | none =>
    rw [near_eq found]
    simpa using below
  | some node =>
    rw [near_eq_singleton found, List.flatMap_singleton, Node.walk_eq, children_eq found plain]
    simp only [Option.all_some]
    split
    · simpa using below
    · rfl
termination_by sizeOf part
decreasing_by exact sizeOf_lt_of_mem_parts member

/-! ### The order of a walk -/

theorem visitsBelow_increasing
    (each : ∀ child ∈ part.parts, (child.visits enter).Pairwise fun first second => first.1 < second.1) :
    (part.visitsBelow enter).Pairwise fun first second => first.1 < second.1 := by
  rw [visitsBelow, List.pairwise_flatMap]
  constructor
  · rintro ⟨child, number⟩ listed
    rw [List.pairwise_map]
    refine (each child (List.fst_mem_of_mem_zipIdx listed)).imp fun earlier => ?_
    exact List.cons_lt_cons_iff.2 (.inr ⟨rfl, earlier⟩)
  · refine (numbers_increasing part.parts).imp fun earlier => ?_
    intro first inFirst second inSecond
    obtain ⟨_, -, rfl⟩ := List.mem_map.1 inFirst
    obtain ⟨_, -, rfl⟩ := List.mem_map.1 inSecond
    exact List.cons_lt_cons_iff.2 (.inl earlier)

theorem visits_increasing (enter : Node → Bool) (part : Constituent) :
    (part.visits enter).Pairwise fun first second => first.1 < second.1 := by
  have below : (part.visitsBelow enter).Pairwise fun first second => first.1 < second.1 :=
    visitsBelow_increasing fun child member => visits_increasing enter child
  rw [visits_eq, List.pairwise_append]
  refine ⟨?_, ?_, ?_⟩
  · cases part.node? <;> simp
  · split
    · exact below
    · exact .nil
  · intro first heading second inBelow
    obtain ⟨_, -, rfl⟩ := List.mem_map.1 heading
    split at inBelow
    · obtain ⟨_, _, _, deeper, -⟩ := mem_visitsBelow.1 inBelow
      rw [deeper]
      exact List.nil_lt_cons _ _
    · cases inBelow
termination_by sizeOf part
decreasing_by exact sizeOf_lt_of_mem_parts member

/-! ### The places of a walk -/

theorem nodeAt?_nil : part.nodeAt? [] = part.node? := rfl

theorem nodeAt?_cons {number : Nat} {rest : List Nat} :
    part.nodeAt? (number :: rest) = part.parts[number]?.bind (·.nodeAt? rest) := by
  rw [nodeAt?, at?, Option.bind_assoc]
  rfl

theorem entered_nil : part.Entered enter [] := by
  intro above before differs
  exact absurd (List.prefix_nil.1 before) differs

theorem entered_cons {number : Nat} {rest : List Nat} :
    part.Entered enter (number :: rest) ↔
      part.node?.all enter ∧ ∀ child ∈ part.parts[number]?, child.Entered enter rest := by
  rw [Option.all_eq_true]
  constructor
  · intro entered
    constructor
    · exact entered [] List.nil_prefix nofun
    · intro child listed above before differs node found
      apply entered (number :: above) (List.prefix_cons_inj _ |>.2 before) (by simpa using differs)
      rw [nodeAt?_cons, Option.mem_def.1 listed]
      exact found
  · rintro ⟨here, deeper⟩ above before differs node found
    rcases List.prefix_cons_iff.1 before with rfl | ⟨above, rfl, shorter⟩
    · exact here node found
    · rw [Option.mem_def, nodeAt?_cons, Option.bind_eq_some_iff] at found
      obtain ⟨child, listed, found⟩ := found
      exact deeper child listed above shorter (by simpa using differs) node found

/-- A walk visits the places that hold a node and have only entered nodes above them. -/
theorem mem_visits {place : List Nat} {node : Node} :
    (place, node) ∈ part.visits enter ↔ part.nodeAt? place = some node ∧ part.Entered enter place := by
  induction place generalizing part with
  | nil =>
    have notBelow : ([], node) ∉ part.visitsBelow enter := by
      intro visited
      obtain ⟨_, _, _, deeper, -⟩ := mem_visitsBelow.1 visited
      cases deeper
    rw [visits_eq, List.mem_append, nodeAt?_nil, and_iff_left entered_nil]
    constructor
    · rintro (heading | visited)
      · obtain ⟨_, found, same⟩ := List.mem_map.1 heading
        cases same
        exact Option.mem_toList.1 found
      · split at visited
        · exact absurd visited notBelow
        · cases visited
    · intro found
      exact .inl (List.mem_map.2 ⟨node, Option.mem_toList.2 found, rfl⟩)
  | cons number rest ih =>
    have notHeading : (number :: rest, node) ∉ part.node?.toList.map (fun node => ([], node)) := by
      intro heading
      obtain ⟨_, -, same⟩ := List.mem_map.1 heading
      cases same
    rw [visits_eq, List.mem_append, or_iff_right notHeading, nodeAt?_cons, Option.bind_eq_some_iff,
      entered_cons]
    constructor
    · intro visited
      split at visited
      case isTrue entered =>
        obtain ⟨_, child, _, same, listed, visited⟩ := mem_visitsBelow.1 visited
        cases same
        obtain ⟨found, deeper⟩ := ih.1 visited
        refine ⟨⟨child, listed, found⟩, entered, fun other also => ?_⟩
        cases listed.symm.trans also
        exact deeper
      case isFalse => cases visited
    · rintro ⟨⟨child, listed, found⟩, entered, deeper⟩
      rw [if_pos entered]
      exact mem_visitsBelow.2 ⟨number, child, rest, rfl, listed, ih.2 ⟨found, deeper child listed⟩⟩

def visited (enter : Node → Bool) (part : Constituent) : List (List Nat) :=
  (part.visits enter).map Prod.fst

theorem visited_increasing (enter : Node → Bool) (part : Constituent) :
    (part.visited enter).Pairwise (· < ·) :=
  List.pairwise_map.2 (visits_increasing enter part)

theorem mem_visited {place : List Nat} :
    place ∈ part.visited enter ↔ (part.nodeAt? place).isSome ∧ part.Entered enter place := by
  simp only [visited, List.mem_map, Prod.exists, exists_and_right, exists_eq_right, mem_visits,
    Option.isSome_iff_exists]

theorem visited_nodes : (part.visited enter).map part.nodeAt? = (part.visits enter).map (some ·.2) := by
  rw [visited, List.map_map]
  refine List.map_congr_left ?_
  rintro ⟨place, node⟩ visited
  exact (mem_visits.1 visited).1

theorem entered_all (part : Constituent) (place : List Nat) : part.Entered (fun _ => true) place :=
  fun _ _ _ _ _ => rfl

theorem visited_sublist (enter : Node → Bool) (part : Constituent) :
    (part.visited enter).Sublist (part.visited fun _ => true) := by
  have increasing := visited_increasing enter part
  have all : part.visited enter ⊆ part.visited fun _ => true := by
    intro place visited
    exact mem_visited.2 ⟨(mem_visited.1 visited).1, entered_all part place⟩
  exact List.sublist_of_subperm_of_pairwise (List.subperm_of_subset increasing.nodup all) increasing
    (visited_increasing _ part)

theorem nodeAt?_ne_missing {place : List Nat} {node : Node} (found : part.nodeAt? place = some node) :
    node ≠ .expr .missing ∧ node ≠ .table .missing := by
  obtain ⟨below, -, found⟩ := Option.bind_eq_some_iff.1 found
  cases below with
  | expr e => cases e <;> cases found <;> exact ⟨nofun, nofun⟩
  | table t => cases t <;> cases found <;> exact ⟨nofun, nofun⟩
  | _ => cases found <;> exact ⟨nofun, nofun⟩

theorem not_prefix_of_lt {first second : List Nat} (earlier : first < second) : ¬ second <+: first := by
  rintro ⟨rest, rfl⟩
  induction second with
  | nil => exact List.not_lt_nil _ earlier
  | cons number second ih =>
    rcases List.cons_lt_cons_iff.1 earlier with less | ⟨-, earlier⟩
    · exact Nat.lt_irrefl _ less
    · exact ih earlier

/-- Nodes are visited at the given places of a tree: each of them once, none after one below it, and
none that is missing. -/
structure Passage (tree : Constituent) (nodes : List Node) (places : List (List Nat)) : Prop where
  found : nodes.map some = places.map tree.nodeAt?
  increasing : places.Pairwise (· < ·)
  downwards : places.Pairwise fun earlier later => ¬ later <+: earlier
  present : ∀ node ∈ nodes, node ≠ .expr .missing ∧ node ≠ .table .missing

theorem visited_passage (enter : Node → Bool) (part : Constituent) (plain : Unextended part.near) :
    part.Passage (part.near.flatMap (·.walk enter)) (part.visited enter) where
  found := by
    rw [← visits_nodes enter part plain, List.map_map, visited_nodes]
    rfl
  increasing := visited_increasing enter part
  downwards := (visited_increasing enter part).imp not_prefix_of_lt
  present := by
    intro node walked
    rw [← visits_nodes enter part plain] at walked
    obtain ⟨⟨place, _⟩, visited, rfl⟩ := List.mem_map.1 walked
    exact nodeAt?_ne_missing (mem_visits.1 visited).1

end Constituent

section Accepted

variable {source : Bytes} {query : Query} {recovered : Option SyntaxError}

/-- A walk into everything visits all places of a statement that hold a node, and any other walk those of
them that have only entered nodes above them, in the same order. -/
theorem Query.walk_passage
    (accepted : Query.parse Dialect.bigQuery source = .accepted query recovered) :
    ∃ places,
      (Constituent.query query).Passage (Node.query query).descendants places ∧
      (∀ place, place ∈ places ↔ ((Constituent.query query).nodeAt? place).isSome) ∧
      ∀ enter, ∃ visited,
        (Constituent.query query).Passage ((Node.query query).walk enter) visited ∧
        visited.Sublist places ∧
        ∀ place, place ∈ visited ↔ place ∈ places ∧ (Constituent.query query).Entered enter place := by
  have plain : Unextended (Constituent.query query).near := Query.unextended_of_accepted accepted
  have passage : ∀ enter, (Constituent.query query).Passage ((Node.query query).walk enter)
      ((Constituent.query query).visited enter) := by
    intro enter
    have passage := (Constituent.query query).visited_passage enter plain
    rwa [Constituent.near, List.flatMap_singleton] at passage
  refine ⟨(Constituent.query query).visited fun _ => true, passage _, fun place => ?_, fun enter => ?_⟩
  · rw [Constituent.mem_visited, and_iff_left (Constituent.entered_all _ place)]
  · refine ⟨(Constituent.query query).visited enter, passage enter, Constituent.visited_sublist enter _,
      fun place => ?_⟩
    simp only [Constituent.mem_visited, and_iff_left (Constituent.entered_all _ place)]

/-- A statement with nodes below a modifier of a star, in a call and below a pivoted source. -/
theorem Query.walk_passage_modified :
    ∃ query recovered,
      Query.parse Dialect.bigQuery
          (encode "SELECT * REPLACE (a AS b), MAX(c ORDER BY d LIMIT 2) FROM t PIVOT (SUM(e) FOR f IN (1))") =
        .accepted query recovered ∧
      ∃ places,
        (Constituent.query query).Passage (Node.query query).descendants places ∧
        (∀ place, place ∈ places ↔ ((Constituent.query query).nodeAt? place).isSome) ∧
        ∀ enter, ∃ visited,
          (Constituent.query query).Passage ((Node.query query).walk enter) visited ∧
          visited.Sublist places ∧
          ∀ place, place ∈ visited ↔ place ∈ places ∧ (Constituent.query query).Entered enter place := by
  obtain ⟨query, recovered, accepted, _⟩ := ParseResult.exists_of_isAcceptedWith
    (show (Query.parse Dialect.bigQuery
      (encode "SELECT * REPLACE (a AS b), MAX(c ORDER BY d LIMIT 2) FROM t PIVOT (SUM(e) FOR f IN (1))")).isAcceptedWith
      (fun _ recovered => recovered.isNone) by decide +kernel)
  exact ⟨query, recovered, accepted, Query.walk_passage accepted⟩

end Accepted

end QueryLint
