import QueryLint.Proofs.Syntax.Unextended
import Mathlib.Data.List.Lex

/-!
Addresses of nodes. The address of a node is the way down to it, as the numbers of the children on the
way; equal nodes at two places of a tree have two addresses. A walk is described by the addresses that
it comes to: those of the nodes that have only entered nodes above them (`Node.mem_visits`), in
lexicographic order (`Node.visits_increasing`) and so none of them twice.
-/

namespace QueryLint

theorem numbers_increasing {α : Type} (list : List α) :
    list.zipIdx.Pairwise fun first second => first.2 < second.2 := by
  have numbers : (list.zipIdx.map Prod.snd).Pairwise (· < ·) := by
    rw [List.zipIdx_map_snd]
    exact List.pairwise_lt_range'
  exact List.pairwise_map.1 numbers

namespace Node

variable {enter : Node → Bool} {node below : Node} {address rest : List Nat}

def at? (node : Node) : List Nat → Option Node
  | [] => some node
  | number :: rest => node.children[number]?.bind (·.at? rest)

theorem at?_nil : node.at? [] = some node := rfl

theorem at?_cons {number : Nat} :
    node.at? (number :: rest) = node.children[number]?.bind (·.at? rest) := rfl

theorem at?_append : node.at? (address ++ rest) = (node.at? address).bind (·.at? rest) := by
  induction address generalizing node with
  | nil => rfl
  | cons number address ih =>
    rw [List.cons_append, at?_cons, at?_cons, Option.bind_assoc]
    exact congrArg _ (funext fun _ => ih)

/-- All nodes above an address are entered. -/
def EnteredAbove (enter : Node → Bool) (node : Node) (address : List Nat) : Prop :=
  ∀ above, above <+: address → above ≠ address → ∀ found ∈ node.at? above, enter found = true

theorem EnteredAbove.of_isPrefix {shorter : List Nat} (entered : node.EnteredAbove enter address)
    (before : shorter <+: address) : node.EnteredAbove enter shorter := by
  intro above higher differs found here
  refine entered above (higher.trans before) ?_ found here
  rintro rfl
  exact differs (higher.eq_of_length_le before.length_le)

theorem enteredAbove_nil : node.EnteredAbove enter [] := by
  intro above before differs
  exact absurd (List.prefix_nil.1 before) differs

theorem enteredAbove_cons {number : Nat} :
    node.EnteredAbove enter (number :: rest) ↔
      enter node = true ∧ ∀ child ∈ node.children[number]?, child.EnteredAbove enter rest := by
  constructor
  · intro entered
    refine ⟨entered [] List.nil_prefix nofun node rfl, fun child listed above before differs found here => ?_⟩
    refine entered (number :: above) ((List.prefix_cons_inj _).2 before) (by simpa using differs) found ?_
    rw [at?_cons, Option.mem_def.1 listed]
    exact here
  · rintro ⟨here, deeper⟩ above before differs found member
    rcases List.prefix_cons_iff.1 before with rfl | ⟨above, rfl, shorter⟩
    · cases member
      exact here
    · rw [at?_cons, Option.mem_def, Option.bind_eq_some_iff] at member
      obtain ⟨child, listed, member⟩ := member
      exact deeper child listed above shorter (by simpa using differs) found member

/-! ### The way of a walk -/

/-- What a walk visits, each node with its address. -/
def visits (enter : Node → Bool) (node : Node) : List (List Nat × Node) :=
  ([], node) ::
    if enter node then
      node.children.zipIdx.attach.flatMap fun ⟨(child, number), _⟩ =>
        (child.visits enter).map fun (address, below) => (number :: address, below)
    else []
termination_by node.size
decreasing_by exact size_lt_of_mem_children (List.fst_mem_of_mem_zipIdx ‹_›)

def visitsBelow (enter : Node → Bool) (node : Node) : List (List Nat × Node) :=
  node.children.zipIdx.flatMap fun (child, number) =>
    (child.visits enter).map fun (address, below) => (number :: address, below)

theorem visits_eq (enter : Node → Bool) (node : Node) :
    node.visits enter = ([], node) :: if enter node then node.visitsBelow enter else [] := by
  rw [visits, visitsBelow, List.flatMap_subtype
    (g := fun (child, number) =>
      (child.visits enter).map fun (address, below) => (number :: address, below))
    fun _ _ => rfl, List.unattach_attach]

theorem mem_visitsBelow :
    (address, below) ∈ node.visitsBelow enter ↔
      ∃ number child rest, address = number :: rest ∧ node.children[number]? = some child ∧
        (rest, below) ∈ child.visits enter := by
  simp only [visitsBelow, List.mem_flatMap, List.mem_map, Prod.exists, Prod.mk.injEq,
    List.mk_mem_zipIdx_iff_getElem?]
  constructor
  · rintro ⟨child, number, listed, rest, _, visited, rfl, rfl⟩
    exact ⟨number, child, rest, rfl, listed, visited⟩
  · rintro ⟨number, child, rest, rfl, listed, visited⟩
    exact ⟨child, number, listed, rest, below, visited, rfl, rfl⟩

theorem visitsBelow_nodes
    (each : ∀ child ∈ node.children, (child.visits enter).map Prod.snd = child.walk enter) :
    (node.visitsBelow enter).map Prod.snd = node.children.flatMap (·.walk enter) := by
  calc (node.visitsBelow enter).map Prod.snd
      = node.children.zipIdx.flatMap fun listed => listed.1.walk enter := by
        rw [visitsBelow, List.map_flatMap]
        refine List.flatMap_congr fun listed member => ?_
        rw [List.map_map]
        exact each _ (List.fst_mem_of_mem_zipIdx member)
    _ = node.children.flatMap (·.walk enter) := by
        conv_rhs => rw [← List.zipIdx_map_fst 0 node.children, List.flatMap_map]

theorem visits_nodes (enter : Node → Bool) (node : Node) :
    (node.visits enter).map Prod.snd = node.walk enter := by
  have below : (node.visitsBelow enter).map Prod.snd = node.children.flatMap (·.walk enter) :=
    visitsBelow_nodes fun child member =>
      have := size_lt_of_mem_children member
      visits_nodes enter child
  rw [visits_eq, walk_eq, List.map_cons]
  split
  · rw [below]
  · rfl
termination_by node.size

theorem visitsBelow_increasing (each : ∀ child ∈ node.children,
      (child.visits enter).Pairwise fun first second => first.1 < second.1) :
    (node.visitsBelow enter).Pairwise fun first second => first.1 < second.1 := by
  rw [visitsBelow, List.pairwise_flatMap]
  constructor
  · rintro ⟨child, number⟩ listed
    rw [List.pairwise_map]
    refine (each child (List.fst_mem_of_mem_zipIdx listed)).imp fun earlier => ?_
    exact List.cons_lt_cons_iff.2 (.inr ⟨rfl, earlier⟩)
  · refine (numbers_increasing node.children).imp fun earlier => ?_
    intro first inFirst second inSecond
    obtain ⟨_, -, rfl⟩ := List.mem_map.1 inFirst
    obtain ⟨_, -, rfl⟩ := List.mem_map.1 inSecond
    exact List.cons_lt_cons_iff.2 (.inl earlier)

/-- A walk comes to smaller addresses first. -/
theorem visits_increasing (enter : Node → Bool) (node : Node) :
    (node.visits enter).Pairwise fun first second => first.1 < second.1 := by
  have below : (node.visitsBelow enter).Pairwise fun first second => first.1 < second.1 :=
    visitsBelow_increasing fun child member =>
      have := size_lt_of_mem_children member
      visits_increasing enter child
  rw [visits_eq, List.pairwise_cons]
  refine ⟨fun later visited => ?_, ?_⟩
  · split at visited
    · obtain ⟨_, _, _, deeper, -⟩ := mem_visitsBelow.1 visited
      rw [deeper]
      exact List.nil_lt_cons _ _
    · cases visited
  · split
    · exact below
    · exact .nil
termination_by node.size

/-- A walk visits the nodes that have only entered nodes above them. -/
theorem mem_visits :
    (address, below) ∈ node.visits enter ↔
      node.at? address = some below ∧ node.EnteredAbove enter address := by
  induction address generalizing node with
  | nil =>
    rw [visits_eq, List.mem_cons, at?_nil, and_iff_left enteredAbove_nil]
    constructor
    · rintro (heading | visited)
      · cases heading
        rfl
      · split at visited
        · obtain ⟨_, _, _, deeper, -⟩ := mem_visitsBelow.1 visited
          cases deeper
        · cases visited
    · rintro ⟨⟩
      exact .inl rfl
  | cons number rest ih =>
    rw [visits_eq, List.mem_cons, or_iff_right nofun, at?_cons, Option.bind_eq_some_iff,
      enteredAbove_cons]
    constructor
    · intro visited
      split at visited
      case isTrue entered =>
        obtain ⟨_, child, _, same, listed, visited⟩ := mem_visitsBelow.1 visited
        cases same
        obtain ⟨found, deeper⟩ := ih.1 visited
        refine ⟨⟨child, listed, found⟩, entered, fun other also => ?_⟩
        cases listed.symm.trans also
        exact deeper
      case isFalse => cases visited
    · rintro ⟨⟨child, listed, found⟩, entered, deeper⟩
      rw [if_pos entered]
      exact mem_visitsBelow.2 ⟨number, child, rest, rfl, listed, ih.2 ⟨found, deeper child listed⟩⟩

theorem mem_visits_all : (address, below) ∈ node.visits (fun _ => true) ↔ node.at? address = some below := by
  rw [mem_visits]
  exact and_iff_left fun _ _ _ _ _ => rfl

theorem mem_descendants : below ∈ node.descendants ↔ ∃ address, node.at? address = some below := by
  simp only [descendants, ← visits_nodes, List.mem_map, Prod.exists, exists_eq_right, mem_visits_all]

theorem eq_of_columnRef? {ref : ColumnRef} (found : node.columnRef? = some ref) :
    node = .expr (.column ref) := by
  unfold columnRef? at found
  split at found <;> cases found
  rfl

theorem mem_columnRefs {ref : ColumnRef} :
    ref ∈ node.columnRefs ↔ ∃ address, node.at? address = some (.expr (.column ref)) := by
  rw [← mem_descendants, columnRefs, List.mem_filterMap]
  constructor
  · rintro ⟨below, lower, found⟩
    rwa [← eq_of_columnRef? found]
  · exact fun lower => ⟨_, lower, rfl⟩

/-! ### Blocks with their addresses -/

def placedBlocks (node : Node) : List (List Nat × SelectBlock) :=
  (node.visits fun _ => true).filterMap fun (address, below) => below.block?.map (address, ·)

theorem placedBlocks_blocks (node : Node) : node.placedBlocks.map Prod.snd = node.blocks := by
  rw [blocks, descendants, ← visits_nodes, placedBlocks, List.map_filterMap, List.filterMap_map]
  refine List.filterMap_congr fun visit _ => ?_
  rw [Option.map_map]
  exact congrFun Option.map_id _

theorem placedBlocks_increasing (node : Node) :
    node.placedBlocks.Pairwise fun first second => first.1 < second.1 := by
  refine (visits_increasing _ node).filterMap _ fun first second earlier placed found other also => ?_
  obtain ⟨_, -, rfl⟩ := Option.map_eq_some_iff.1 found
  obtain ⟨_, -, rfl⟩ := Option.map_eq_some_iff.1 also
  exact earlier

theorem mem_placedBlocks {block : SelectBlock} :
    (address, block) ∈ node.placedBlocks ↔ node.at? address = some (.block block) := by
  simp only [placedBlocks, List.mem_filterMap, Prod.exists, Option.map_eq_some_iff, Prod.mk.injEq]
  constructor
  · rintro ⟨_, below, visited, _, found, rfl, rfl⟩
    cases below <;> cases found
    exact mem_visits_all.1 visited
  · exact fun found => ⟨address, .block block, mem_visits_all.2 found, block, rfl, rfl, rfl⟩

end Node

end QueryLint
