import QueryLint.Parser.Name
import QueryLint.Proofs.Usage.Soundness

/-!
A reference to a column marks the same columns with and without its qualifier, provided the bare name
is not taken by anything else on the way out to the scope that binds the qualifier. The fields of a
structure behind the column change nothing.
-/

namespace QueryLint

namespace Text

theorem foldChar_ne_nil (c : Char) : foldChar c ≠ [] := by
  unfold foldChar
  split
  · simp
  · split
    · next expansion found =>
      have listed : ∀ entry ∈ foldExpansions, entry.2 ≠ [] := by decide
      obtain ⟨before, after, split, _⟩ := List.lookup_eq_some_iff.1 found
      have written := listed (c.toNat, expansion) (by simp [split])
      simpa using written
    · simp

theorem fold_ne_empty {name : String} (written : name.isEmpty = false) : fold name ≠ "" := by
  intro folded
  have chars : name.toList.flatMap foldChar = [] := by
    simpa [fold] using congrArg String.toList folded
  cases split : name.toList with
  | nil => simp_all [String.isEmpty_eq_false_iff]
  | cons c rest =>
    rw [split, List.flatMap_cons, List.append_eq_nil_iff] at chars
    exact foldChar_ne_nil c chars.1

theorem fold_empty : fold "" = "" := rfl

end Text

namespace Usage

/-- A bare name stands for the columns of one definition: the scope binds that definition under the
alias and no other one with such a column, and the scopes further in neither bind the alias nor give
the bare name a meaning of its own. -/
structure SoleColumn (definitions : List Definition) (inner : ScopeChain) (scope : Scope)
    (aliasName key : String) (id : Nat) : Prop where
  bound : scope.find? (Text.fold aliasName) = some (some id)
  unshadowed : ∀ nearer ∈ inner, nearer.find? (Text.fold aliasName) = none
  present : HasColumn definitions id key
  sole : ∀ other ∈ scope.targets, HasColumn definitions other key → other = id
  absent : ∀ nearer ∈ inner, ∀ other ∈ nearer.targets, ¬HasColumn definitions other key
  unbound : ∀ nearer ∈ inner, ∀ other, nearer.find? key ≠ some (some other)

namespace SoleColumn

variable {definitions : List Definition} {inner outer : ScopeChain} {scope : Scope}
  {aliasName key : String} {id : Nat}

theorem resolve (column : SoleColumn definitions inner scope aliasName key id) :
    ScopeChain.resolve (inner ++ scope :: outer) aliasName = some (some id) := by
  unfold ScopeChain.resolve
  rw [List.findSome?_append, List.findSome?_eq_none_iff.2 column.unshadowed, Option.none_or,
    List.findSome?_cons, column.bound]

theorem bare_iff (column : SoleColumn definitions inner scope aliasName key id) (other : Nat)
    (name : String) :
    Bare definitions key (inner ++ scope :: outer) other name ↔ other = id ∧ name = key := by
  have bound := Scope.mem_targets_of_find? column.bound
  induction inner with
  | nil =>
    rw [List.nil_append, Model.bare_iff_of_present ⟨id, bound, column.present⟩]
    constructor
    · rintro ⟨member, has, named⟩
      exact ⟨column.sole other member has, named⟩
    · rintro ⟨rfl, named⟩
      exact ⟨bound, column.present, named⟩
  | cons nearer inner ih =>
    have further : SoleColumn definitions inner scope aliasName key id :=
      { column with
        unshadowed := fun scope member => column.unshadowed scope (List.mem_cons_of_mem _ member)
        absent := fun scope member => column.absent scope (List.mem_cons_of_mem _ member)
        unbound := fun scope member => column.unbound scope (List.mem_cons_of_mem _ member) }
    have unbound := column.unbound nearer (List.mem_cons_self ..)
    rw [List.cons_append, Model.bare_iff_of_absent (column.absent nearer (List.mem_cons_self ..))]
    split
    · next target found => exact absurd found (unbound target)
    · exact ih further

end SoleColumn

theorem isEmpty_of_find? {scope : Scope} {count : Nat} (proper : scope.Proper count)
    {aliasName : String} {target : Option Nat}
    (found : scope.find? (Text.fold aliasName) = some target) : aliasName.isEmpty = false := by
  simp only [Scope.find?, Option.map_eq_some_iff] at found
  obtain ⟨binding, found, _⟩ := found
  obtain ⟨written, named, folded⟩ := proper.folded binding (List.mem_of_find?_eq_some found)
  have same : binding.aliasName = Text.fold aliasName := by
    simpa using List.find?_some found
  by_contra empty
  rw [Bool.not_eq_false, String.isEmpty_iff] at empty
  rw [empty, Text.fold_empty] at same
  exact Text.fold_ne_empty named (folded.symm.trans same)

/-- The same columns are marked by a path and by the path without its first segment, if that segment
is the alias of a definition and the second one names columns of this definition alone. Where fields
follow, the column must have a name and must not be an alias itself, or the shorter path would be read
as a qualified one. -/
theorem markRef_qualified (model : Model) (inner outer : ScopeChain) (scope : Scope)
    (qualifier column : PathSegment) (fields : List PathSegment) (id : Nat) (span bareSpan : Span)
    (proper : scope.Proper model.definitions.length)
    (sole : SoleColumn model.definitions inner scope qualifier.name (Text.fold column.name) id)
    (named : fields ≠ [] → column.name ≠ "" ∧
      ScopeChain.resolve (inner ++ scope :: outer) column.name = none) :
    let chain := inner ++ scope :: outer
    model.markRef chain (PathSegment.columnRef (qualifier :: column :: fields) span) =
      model.markRef chain (PathSegment.columnRef (column :: fields) bareSpan) ∧
    model.markRef chain (PathSegment.columnRef (column :: fields) bareSpan) =
      model.markKey (Text.fold column.name) id := by
  intro chain
  have qualified : model.markRef chain (PathSegment.columnRef (qualifier :: column :: fields) span) =
      model.markKey (Text.fold column.name) id := by
    have written := isEmpty_of_find? proper sole.bound
    simp only [Model.markRef, PathSegment.columnRef, List.map_cons, written, Bool.false_eq_true,
      if_false, chain, sole.resolve]
  have bare : model.markBare (Text.fold column.name) chain =
      model.markKey (Text.fold column.name) id := by
    rw [Model.markBare_eq, Model.markKey_eq]
    exact Model.marking_congr sole.bare_iff
  have shorter : model.markRef chain (PathSegment.columnRef (column :: fields) bareSpan) =
      model.markKey (Text.fold column.name) id := by
    rw [← bare]
    cases fields with
    | nil => rfl
    | cons field rest =>
      obtain ⟨written, free⟩ := named (List.cons_ne_nil field rest)
      have written : column.name.isEmpty = false := by simpa using written
      simp only [Model.markRef, PathSegment.columnRef, List.map_cons, written, Bool.false_eq_true,
        if_false, chain, free]
  exact ⟨qualified.trans shorter.symm, shorter⟩

def singleColumn (column : String) : Model where
  definitions := [{ name := "s", columns := [{ name := column }] }]
  latest := [("s", 0)]

theorem singleColumn_sole {column written : String} (same : Text.fold column = Text.fold written) :
    SoleColumn (singleColumn column).definitions [[⟨"t", none⟩]] [⟨"s", some 0⟩] "S"
      (Text.fold written) 0 where
  bound := by decide
  unshadowed := by decide
  present := ⟨_, rfl, _, List.mem_singleton_self _, same⟩
  sole := by simp [Scope.targets]
  absent := by simp [Scope.targets]
  unbound := by simp [Scope.find?]

/-- In a nested query `S.k.f` and `k.f` both read the column `k` of `s`. -/
theorem markRef_qualified_nested :
    let chain : ScopeChain := [[⟨"t", none⟩], [⟨"s", some 0⟩]]
    let segment (name : String) : PathSegment := ⟨name, false, {}⟩
    (singleColumn "k").markRef chain
        (PathSegment.columnRef [segment "S", segment "K", segment "f"] {}) =
      (singleColumn "k").markRef chain (PathSegment.columnRef [segment "K", segment "f"] {}) ∧
    (singleColumn "k").markRef chain (PathSegment.columnRef [segment "K", segment "f"] {}) =
      (singleColumn "k").markKey (Text.fold "K") 0 := by
  intro chain segment
  have proper : Scope.Proper [⟨"s", some 0⟩] (singleColumn "k").definitions.length :=
    ⟨by simp [Scope.Within, Scope.targets, singleColumn], by decide, by
      simpa using ⟨"s", by decide, by decide⟩⟩
  exact markRef_qualified (singleColumn "k") [[⟨"t", none⟩]] [] [⟨"s", some 0⟩] (segment "S")
    (segment "K") [segment "f"] 0 {} {} proper (singleColumn_sole (by decide))
    fun _ => ⟨by decide, by decide⟩

/-- The column without a name: its qualified field reads it, its bare field does not. -/
theorem empty_column_bare_field :
    let chain : ScopeChain := [[⟨"t", none⟩], [⟨"s", some 0⟩]]
    let segment (name : String) : PathSegment := ⟨name, false, {}⟩
    SoleColumn (singleColumn "").definitions [[⟨"t", none⟩]] [⟨"s", some 0⟩] "S" (Text.fold "") 0 ∧
    chain.resolve "" = none ∧
    ((singleColumn "").markRef chain
      (PathSegment.columnRef [segment "S", segment "", segment "f"] {})).columns 0 =
      [{ name := "", used := true }] ∧
    (singleColumn "").markRef chain (PathSegment.columnRef [segment "", segment "f"] {}) =
      singleColumn "" :=
  ⟨singleColumn_sole rfl, by decide, by decide, by decide⟩

end Usage

end QueryLint
