import QueryLint.Parser.Select

/-!
Values with their places moved. A map of positions is applied to every position that a value holds, and
nothing else is changed. Two values differ in nothing but places if some map makes them equal; with the
map that knows one position only (`bare`), every two such values become equal.
-/

namespace QueryLint

/-- Values whose places can be moved. -/
class Located (α : Type) where
  relocate : (Position → Position) → α → α
  relocate_id : ∀ a, relocate id a = a

export Located (relocate relocate_id)

/-- A value without the places where it was read. -/
def bare {α : Type} [Located α] (a : α) : α := relocate (fun _ => {}) a

/-- Values that hold no places. -/
class Placeless (α : Type) [Located α] : Prop where
  relocate_eq : ∀ (place : Position → Position) (a : α), relocate place a = a

/-! ### Plain data and containers -/

attribute [simp] Placeless.relocate_eq

instance : Located Unit := ⟨fun _ => id, fun _ => rfl⟩
instance : Located Bool := ⟨fun _ => id, fun _ => rfl⟩
instance : Located String := ⟨fun _ => id, fun _ => rfl⟩
instance : Located Nat := ⟨fun _ => id, fun _ => rfl⟩
instance : Located FrameUnit := ⟨fun _ => id, fun _ => rfl⟩
instance : Located FrameBound := ⟨fun _ => id, fun _ => rfl⟩
instance : Located Frame := ⟨fun _ => id, fun _ => rfl⟩
instance : Located JoinKind := ⟨fun _ => id, fun _ => rfl⟩

instance : Placeless Unit := ⟨fun _ _ => rfl⟩
instance : Placeless Bool := ⟨fun _ _ => rfl⟩
instance : Placeless String := ⟨fun _ _ => rfl⟩
instance : Placeless Nat := ⟨fun _ _ => rfl⟩
instance : Placeless FrameUnit := ⟨fun _ _ => rfl⟩
instance : Placeless FrameBound := ⟨fun _ _ => rfl⟩
instance : Placeless Frame := ⟨fun _ _ => rfl⟩
instance : Placeless JoinKind := ⟨fun _ _ => rfl⟩

section Containers

variable {α β ε : Type} [Located α] [Located β] [Located ε] (place : Position → Position)

instance : Located (List α) where
  relocate place := List.map (relocate place)
  relocate_id as := (List.map_congr_left fun a _ => relocate_id a).trans (List.map_id' as)

instance : Located (Option α) where
  relocate place := Option.map (relocate place)
  relocate_id
    | none => rfl
    | some a => congrArg some (relocate_id a)

instance : Located (α × β) where
  relocate place := Prod.map (relocate place) (relocate place)
  relocate_id := fun (a, b) => Prod.ext (relocate_id a) (relocate_id b)

instance : Located (Except ε α) where
  relocate place
    | .ok a => .ok (relocate place a)
    | .error e => .error (relocate place e)
  relocate_id
    | .ok a => congrArg Except.ok (relocate_id a)
    | .error e => congrArg Except.error (relocate_id e)

@[simp] theorem relocate_nil : relocate place ([] : List α) = [] := rfl

@[simp] theorem relocate_cons (a : α) (as : List α) :
    relocate place (a :: as) = relocate place a :: relocate place as := rfl

@[simp] theorem relocate_append (as bs : List α) :
    relocate place (as ++ bs) = relocate place as ++ relocate place bs :=
  List.map_append

@[simp] theorem relocate_none : relocate place (none : Option α) = none := rfl

@[simp] theorem relocate_some (a : α) : relocate place (some a) = some (relocate place a) := rfl

@[simp] theorem relocate_pair (a : α) (b : β) :
    relocate place (a, b) = (relocate place a, relocate place b) := rfl

instance [Placeless α] : Placeless (List α) :=
  ⟨fun place as => (List.map_congr_left fun a _ => Placeless.relocate_eq place a).trans
    (List.map_id' as)⟩

instance [Placeless α] : Placeless (Option α) :=
  ⟨fun place a => by cases a <;> simp [Placeless.relocate_eq]⟩

instance [Placeless α] [Placeless β] : Placeless (α × β) :=
  ⟨fun place (a, b) => by simp [Placeless.relocate_eq]⟩

end Containers

/-! ### Tokens and errors -/

instance : Located Position := ⟨fun place => place, fun _ => rfl⟩

def Span.relocate (place : Position → Position) (span : Span) : Span :=
  ⟨place span.start, place span.stop⟩

theorem Span.relocate_id (span : Span) : span.relocate id = span := rfl

instance : Located Span := ⟨Span.relocate, Span.relocate_id⟩

@[simp] theorem relocate_span (place : Position → Position) (span : Span) :
    relocate place span = span.relocate place := rfl

instance : Located Token where
  relocate place token := { token with span := token.span.relocate place }
  relocate_id _ := rfl

instance : Located Comment where
  relocate place comment := { comment with span := comment.span.relocate place }
  relocate_id _ := rfl

instance : Located LexicalError where
  relocate place error := { error with position := place error.position }
  relocate_id _ := rfl

instance : Located SyntaxFault where
  relocate place
    | .unexpected found expected => .unexpected (relocate place found) expected
    | .unexpectedInput found => .unexpectedInput (relocate place found)
    | fault => fault
  relocate_id fault := by cases fault <;> rfl

def SyntaxError.relocate (place : Position → Position) : SyntaxError → SyntaxError
  | .lexical error => .lexical (Located.relocate place error)
  | .syntactic position fault => .syntactic (place position) (Located.relocate place fault)
  | .malformedArray position => .malformedArray (place position)
  | .pivotWithoutCall position => .pivotWithoutCall (place position)
  | .within context error => .within context (error.relocate place)

theorem SyntaxError.relocate_id (error : SyntaxError) : error.relocate id = error := by
  induction error with
  | lexical => rfl
  | syntactic position fault =>
    exact congrArg (SyntaxError.syntactic position) (Located.relocate_id fault)
  | malformedArray => rfl
  | pivotWithoutCall => rfl
  | within context _ ih => exact congrArg (SyntaxError.within context) ih

instance : Located SyntaxError := ⟨SyntaxError.relocate, SyntaxError.relocate_id⟩

instance : Located PathSegment where
  relocate place segment := { segment with span := segment.span.relocate place }
  relocate_id _ := rfl

/-! ### Leaves of trees -/

instance : Located ColumnRef where
  relocate place ref := { ref with span := ref.span.relocate place }
  relocate_id _ := rfl

instance : Located Literal where
  relocate place literal := { literal with span := literal.span.relocate place }
  relocate_id _ := rfl

instance : Located CallHead where
  relocate place head := { head with span := head.span.relocate place }
  relocate_id _ := rfl

instance : Located TableName where
  relocate place table :=
    { table with
      span := table.span.relocate place
      aliasSpan := table.aliasSpan.relocate place }
  relocate_id _ := rfl

instance : Located UnpivotGroup where
  relocate place group := { group with columns := relocate place group.columns }
  relocate_id group := congrArg (UnpivotGroup.mk · group.aliasName) (relocate_id group.columns)

section Leaves

variable (place : Position → Position)

@[simp] theorem ColumnRef.relocate_eq (ref : ColumnRef) :
    relocate place ref = { ref with span := ref.span.relocate place } := rfl

@[simp] theorem Literal.relocate_eq (literal : Literal) :
    relocate place literal = { literal with span := literal.span.relocate place } := rfl

@[simp] theorem CallHead.relocate_eq (head : CallHead) :
    relocate place head = { head with span := head.span.relocate place } := rfl

@[simp] theorem TableName.relocate_eq (table : TableName) :
    relocate place table =
      { table with span := table.span.relocate place, aliasSpan := table.aliasSpan.relocate place } := rfl

@[simp] theorem UnpivotGroup.relocate_eq (group : UnpivotGroup) :
    relocate place group = { group with columns := relocate place group.columns } := rfl

end Leaves

/-! ### Trees -/

section Trees

variable (place : Position → Position)

mutual

def Expr.relocate : Expr → Expr
  | .missing => .missing
  | .column ref => .column (Located.relocate place ref)
  | .literal literal => .literal (Located.relocate place literal)
  | .binary span left operator right =>
    .binary (span.relocate place) left.relocate operator right.relocate
  | .unary span operator operand => .unary (span.relocate place) operator operand.relocate
  | .call head arguments orderBy limit window =>
    .call (Located.relocate place head) (Expr.relocateList arguments) (OrderItem.relocateList orderBy)
      (Expr.relocateOption limit) (WindowSpec.relocateOption window)
  | .case span operand branches otherwise =>
    .case (span.relocate place) (Expr.relocateOption operand) (CaseBranch.relocateList branches)
      (Expr.relocateOption otherwise)
  | .cast span operand typeName safe => .cast (span.relocate place) operand.relocate typeName safe
  | .inValues span operand negated values =>
    .inValues (span.relocate place) operand.relocate negated (Expr.relocateList values)
  | .inQuery span operand negated query =>
    .inQuery (span.relocate place) operand.relocate negated query.relocate
  | .inUnnest span operand negated array =>
    .inUnnest (span.relocate place) operand.relocate negated array.relocate
  | .between span operand negated low high =>
    .between (span.relocate place) operand.relocate negated low.relocate high.relocate
  | .isNull span operand negated => .isNull (span.relocate place) operand.relocate negated
  | .isBool span operand negated value => .isBool (span.relocate place) operand.relocate negated value
  | .like span operand negated pattern =>
    .like (span.relocate place) operand.relocate negated pattern.relocate
  | .paren span inner => .paren (span.relocate place) inner.relocate
  | .star span table => .star (span.relocate place) table
  | .subquery span query array => .subquery (span.relocate place) query.relocate array
  | .exists span query => .exists (span.relocate place) query.relocate
  | .struct span typeName fields =>
    .struct (span.relocate place) typeName (NamedExpr.relocateList fields)
  | .array span typeName elements => .array (span.relocate place) typeName (Expr.relocateList elements)
  | .index span operand index mode => .index (span.relocate place) operand.relocate index.relocate mode
  | .field span operand name => .field (span.relocate place) operand.relocate name
  | .extract span part operand => .extract (span.relocate place) part operand.relocate
  | .interval span value unit toUnit => .interval (span.relocate place) value.relocate unit toUnit

def Expr.relocateList : List Expr → List Expr
  | [] => []
  | e :: es => e.relocate :: Expr.relocateList es

def Expr.relocateOption : Option Expr → Option Expr
  | none => none
  | some e => some e.relocate

def NamedExpr.relocate : NamedExpr → NamedExpr
  | ⟨expr, name⟩ => ⟨expr.relocate, name⟩

def NamedExpr.relocateList : List NamedExpr → List NamedExpr
  | [] => []
  | e :: es => e.relocate :: NamedExpr.relocateList es

def CaseBranch.relocate : CaseBranch → CaseBranch
  | ⟨condition, result⟩ => ⟨condition.relocate, result.relocate⟩

def CaseBranch.relocateList : List CaseBranch → List CaseBranch
  | [] => []
  | e :: es => e.relocate :: CaseBranch.relocateList es

def OrderItem.relocate : OrderItem → OrderItem
  | ⟨expr, descending, nullsFirst⟩ => ⟨expr.relocate, descending, nullsFirst⟩

def OrderItem.relocateList : List OrderItem → List OrderItem
  | [] => []
  | e :: es => e.relocate :: OrderItem.relocateList es

def WindowSpec.relocate : WindowSpec → WindowSpec
  | ⟨span, name, partitionBy, orderBy, frame, firstOffset, lastOffset⟩ =>
    ⟨span.relocate place, name, Expr.relocateList partitionBy, OrderItem.relocateList orderBy, frame,
      Expr.relocateOption firstOffset, Expr.relocateOption lastOffset⟩

def WindowSpec.relocateOption : Option WindowSpec → Option WindowSpec
  | none => none
  | some e => some e.relocate

def NamedWindow.relocate : NamedWindow → NamedWindow
  | ⟨name, spec⟩ => ⟨name, spec.relocate⟩

def NamedWindow.relocateList : List NamedWindow → List NamedWindow
  | [] => []
  | e :: es => e.relocate :: NamedWindow.relocateList es

def Query.relocate : Query → Query
  | ⟨span, definitions, body⟩ =>
    ⟨span.relocate place, WithClause.relocateOption definitions, body.relocate⟩

def Query.relocateOption : Option Query → Option Query
  | none => none
  | some e => some e.relocate

def WithClause.relocate : WithClause → WithClause
  | ⟨span, recursive, ctes⟩ => ⟨span.relocate place, recursive, Cte.relocateList ctes⟩

def WithClause.relocateOption : Option WithClause → Option WithClause
  | none => none
  | some e => some e.relocate

def Cte.relocate : Cte → Cte
  | ⟨span, name, nameSpan, columns, query⟩ =>
    ⟨span.relocate place, name, nameSpan.relocate place, columns, Query.relocateOption query⟩

def Cte.relocateList : List Cte → List Cte
  | [] => []
  | e :: es => e.relocate :: Cte.relocateList es

def QueryBody.relocate : QueryBody → QueryBody
  | .single span operand => .single (span.relocate place) operand.relocate
  | .combined span left operator all right =>
    .combined (span.relocate place) left.relocate operator all right.relocate

def Operand.relocate : Operand → Operand
  | .block block => .block block.relocate
  | .nested query => .nested query.relocate

def SelectBlock.relocate : SelectBlock → SelectBlock
  | ⟨span, distinct, asKind, items, source, filter, groupBy, having, windows, qualify, orderBy,
      orderByPosition, limit, offset, extensions⟩ =>
    ⟨span.relocate place, distinct, asKind, SelectItem.relocateList items,
      FromClause.relocateOption source, Expr.relocateOption filter,
      Expr.relocateList groupBy, Expr.relocateOption having,
      NamedWindow.relocateList windows, Expr.relocateOption qualify, OrderItem.relocateList orderBy,
      place orderByPosition, Expr.relocateOption limit, Expr.relocateOption offset,
        Expr.relocateList extensions⟩

def SelectItem.relocate : SelectItem → SelectItem
  | .star span modifiers => .star (span.relocate place) (StarModifier.relocateList modifiers)
  | .tableStar span table modifiers =>
    .tableStar (span.relocate place) table (StarModifier.relocateList modifiers)
  | .expr span expr aliasName aliasSpan =>
    .expr (span.relocate place) expr.relocate aliasName (aliasSpan.relocate place)

def SelectItem.relocateList : List SelectItem → List SelectItem
  | [] => []
  | e :: es => e.relocate :: SelectItem.relocateList es

def StarModifier.relocate : StarModifier → StarModifier
  | .except columns => .except columns
  | .replace items => .replace (NamedExpr.relocateList items)

def StarModifier.relocateList : List StarModifier → List StarModifier
  | [] => []
  | e :: es => e.relocate :: StarModifier.relocateList es

def FromClause.relocate : FromClause → FromClause
  | ⟨span, source, joins⟩ => ⟨span.relocate place, source.relocate, Join.relocateList joins⟩

def FromClause.relocateOption : Option FromClause → Option FromClause
  | none => none
  | some e => some e.relocate

def Join.relocate : Join → Join
  | ⟨span, kind, natural, right, condition, columns⟩ =>
    ⟨span.relocate place, kind, natural, right.relocate, Expr.relocateOption condition,
      Located.relocate place columns⟩

def Join.relocateList : List Join → List Join
  | [] => []
  | e :: es => e.relocate :: Join.relocateList es

def TableRef.relocate : TableRef → TableRef
  | .missing => .missing
  | .table table => .table (Located.relocate place table)
  | .derived span query aliasName => .derived (span.relocate place) query.relocate aliasName
  | .function span call aliasName withOffset offsetAlias =>
    .function (span.relocate place) call.relocate aliasName withOffset offsetAlias
  | .pivot span source aggregates forColumn values aliasName =>
    .pivot (span.relocate place) source.relocate (NamedExpr.relocateList aggregates)
      (Located.relocate place forColumn)
      (NamedExpr.relocateList values) aliasName
  | .unpivot span source valueColumns nameColumn groups aliasName =>
    .unpivot (span.relocate place) source.relocate valueColumns nameColumn (Located.relocate place
      groups) aliasName

end

mutual

theorem Expr.relocate_id : ∀ a : Expr, Expr.relocate id a = a
  | .missing => rfl
  | .column ref => rfl
  | .literal literal => rfl
  | .binary span left operator right => by
    simp only [Expr.relocate, Span.relocate_id, Expr.relocate_id left, Expr.relocate_id right]
  | .unary span operator operand => by
    simp only [Expr.relocate, Span.relocate_id, Expr.relocate_id operand]
  | .call head arguments orderBy limit window => by
    simp only [Expr.relocate, Located.relocate_id, Expr.relocateList_id arguments,
      OrderItem.relocateList_id orderBy, Expr.relocateOption_id limit, WindowSpec.relocateOption_id
      window]
  | .case span operand branches otherwise => by
    simp only [Expr.relocate, Span.relocate_id, Expr.relocateOption_id operand,
      CaseBranch.relocateList_id branches, Expr.relocateOption_id otherwise]
  | .cast span operand typeName safe => by
    simp only [Expr.relocate, Span.relocate_id, Expr.relocate_id operand]
  | .inValues span operand negated values => by
    simp only [Expr.relocate, Span.relocate_id, Expr.relocate_id operand, Expr.relocateList_id
      values]
  | .inQuery span operand negated query => by
    simp only [Expr.relocate, Span.relocate_id, Expr.relocate_id operand, Query.relocate_id query]
  | .inUnnest span operand negated array => by
    simp only [Expr.relocate, Span.relocate_id, Expr.relocate_id operand, Expr.relocate_id array]
  | .between span operand negated low high => by
    simp only [Expr.relocate, Span.relocate_id, Expr.relocate_id operand, Expr.relocate_id low,
      Expr.relocate_id high]
  | .isNull span operand negated => by
    simp only [Expr.relocate, Span.relocate_id, Expr.relocate_id operand]
  | .isBool span operand negated value => by
    simp only [Expr.relocate, Span.relocate_id, Expr.relocate_id operand]
  | .like span operand negated pattern => by
    simp only [Expr.relocate, Span.relocate_id, Expr.relocate_id operand, Expr.relocate_id pattern]
  | .paren span inner => by simp only [Expr.relocate, Span.relocate_id, Expr.relocate_id inner]
  | .star span table => rfl
  | .subquery span query array => by
    simp only [Expr.relocate, Span.relocate_id, Query.relocate_id query]
  | .exists span query => by simp only [Expr.relocate, Span.relocate_id, Query.relocate_id query]
  | .struct span typeName fields => by
    simp only [Expr.relocate, Span.relocate_id, NamedExpr.relocateList_id fields]
  | .array span typeName elements => by
    simp only [Expr.relocate, Span.relocate_id, Expr.relocateList_id elements]
  | .index span operand index mode => by
    simp only [Expr.relocate, Span.relocate_id, Expr.relocate_id operand, Expr.relocate_id index]
  | .field span operand name => by
    simp only [Expr.relocate, Span.relocate_id, Expr.relocate_id operand]
  | .extract span part operand => by
    simp only [Expr.relocate, Span.relocate_id, Expr.relocate_id operand]
  | .interval span value unit toUnit => by
    simp only [Expr.relocate, Span.relocate_id, Expr.relocate_id value]

theorem Expr.relocateList_id : ∀ as : List Expr, Expr.relocateList id as = as
  | [] => rfl
  | e :: es => by simp only [Expr.relocateList, Expr.relocate_id e, Expr.relocateList_id es]

theorem Expr.relocateOption_id : ∀ a : Option Expr, Expr.relocateOption id a = a
  | none => rfl
  | some e => by simp only [Expr.relocateOption, Expr.relocate_id e]

theorem NamedExpr.relocate_id : ∀ a : NamedExpr, NamedExpr.relocate id a = a
  | ⟨expr, name⟩ => by simp only [NamedExpr.relocate, Expr.relocate_id expr]

theorem NamedExpr.relocateList_id : ∀ as : List NamedExpr, NamedExpr.relocateList id as = as
  | [] => rfl
  | e :: es => by
    simp only [NamedExpr.relocateList, NamedExpr.relocate_id e, NamedExpr.relocateList_id es]

theorem CaseBranch.relocate_id : ∀ a : CaseBranch, CaseBranch.relocate id a = a
  | ⟨condition, result⟩ => by
    simp only [CaseBranch.relocate, Expr.relocate_id condition, Expr.relocate_id result]

theorem CaseBranch.relocateList_id : ∀ as : List CaseBranch, CaseBranch.relocateList id as = as
  | [] => rfl
  | e :: es => by
    simp only [CaseBranch.relocateList, CaseBranch.relocate_id e, CaseBranch.relocateList_id es]

theorem OrderItem.relocate_id : ∀ a : OrderItem, OrderItem.relocate id a = a
  | ⟨expr, descending, nullsFirst⟩ => by simp only [OrderItem.relocate, Expr.relocate_id expr]

theorem OrderItem.relocateList_id : ∀ as : List OrderItem, OrderItem.relocateList id as = as
  | [] => rfl
  | e :: es => by
    simp only [OrderItem.relocateList, OrderItem.relocate_id e, OrderItem.relocateList_id es]

theorem WindowSpec.relocate_id : ∀ a : WindowSpec, WindowSpec.relocate id a = a
  | ⟨span, name, partitionBy, orderBy, frame, firstOffset, lastOffset⟩ => by
    simp only [WindowSpec.relocate, Span.relocate_id, Expr.relocateList_id partitionBy,
      OrderItem.relocateList_id orderBy, Expr.relocateOption_id firstOffset, Expr.relocateOption_id
      lastOffset]

theorem WindowSpec.relocateOption_id : ∀ a : Option WindowSpec, WindowSpec.relocateOption id a = a
  | none => rfl
  | some e => by simp only [WindowSpec.relocateOption, WindowSpec.relocate_id e]

theorem NamedWindow.relocate_id : ∀ a : NamedWindow, NamedWindow.relocate id a = a
  | ⟨name, spec⟩ => by simp only [NamedWindow.relocate, WindowSpec.relocate_id spec]

theorem NamedWindow.relocateList_id : ∀ as : List NamedWindow, NamedWindow.relocateList id as = as
  | [] => rfl
  | e :: es => by
    simp only [NamedWindow.relocateList, NamedWindow.relocate_id e, NamedWindow.relocateList_id es]

theorem Query.relocate_id : ∀ a : Query, Query.relocate id a = a
  | ⟨span, definitions, body⟩ => by
    simp only [Query.relocate, Span.relocate_id, QueryBody.relocate_id body,
      WithClause.relocateOption_id definitions]

theorem Query.relocateOption_id : ∀ a : Option Query, Query.relocateOption id a = a
  | none => rfl
  | some e => by simp only [Query.relocateOption, Query.relocate_id e]

theorem WithClause.relocate_id : ∀ a : WithClause, WithClause.relocate id a = a
  | ⟨span, recursive, ctes⟩ => by
    simp only [WithClause.relocate, Span.relocate_id, Cte.relocateList_id ctes]

theorem WithClause.relocateOption_id : ∀ a : Option WithClause, WithClause.relocateOption id a = a
  | none => rfl
  | some e => by simp only [WithClause.relocateOption, WithClause.relocate_id e]

theorem Cte.relocate_id : ∀ a : Cte, Cte.relocate id a = a
  | ⟨span, name, nameSpan, columns, query⟩ => by
    simp only [Cte.relocate, Span.relocate_id, Query.relocateOption_id query]

theorem Cte.relocateList_id : ∀ as : List Cte, Cte.relocateList id as = as
  | [] => rfl
  | e :: es => by simp only [Cte.relocateList, Cte.relocate_id e, Cte.relocateList_id es]

theorem QueryBody.relocate_id : ∀ a : QueryBody, QueryBody.relocate id a = a
  | .single span operand => by
    simp only [QueryBody.relocate, Span.relocate_id, Operand.relocate_id operand]
  | .combined span left operator all right => by
    simp only [QueryBody.relocate, Span.relocate_id, Operand.relocate_id left,
      QueryBody.relocate_id right]

theorem Operand.relocate_id : ∀ a : Operand, Operand.relocate id a = a
  | .block block => by simp only [Operand.relocate, SelectBlock.relocate_id block]
  | .nested query => by simp only [Operand.relocate, Query.relocate_id query]

theorem SelectBlock.relocate_id : ∀ a : SelectBlock, SelectBlock.relocate id a = a
  | ⟨span, distinct, asKind, items, source, filter, groupBy, having, windows, qualify, orderBy,
    orderByPosition, limit, offset, extensions⟩ => by
    simp only [SelectBlock.relocate, Span.relocate_id, SelectItem.relocateList_id items,
      FromClause.relocateOption_id source, Expr.relocateOption_id filter, Expr.relocateList_id
      groupBy, Expr.relocateOption_id having, NamedWindow.relocateList_id windows,
      Expr.relocateOption_id qualify, OrderItem.relocateList_id orderBy, Expr.relocateOption_id
      limit, Expr.relocateOption_id offset, Expr.relocateList_id extensions, id_eq]

theorem SelectItem.relocate_id : ∀ a : SelectItem, SelectItem.relocate id a = a
  | .star span modifiers => by
    simp only [SelectItem.relocate, Span.relocate_id, StarModifier.relocateList_id modifiers]
  | .tableStar span table modifiers => by
    simp only [SelectItem.relocate, Span.relocate_id, StarModifier.relocateList_id modifiers]
  | .expr span expr aliasName aliasSpan => by
    simp only [SelectItem.relocate, Span.relocate_id, Expr.relocate_id expr]

theorem SelectItem.relocateList_id : ∀ as : List SelectItem, SelectItem.relocateList id as = as
  | [] => rfl
  | e :: es => by
    simp only [SelectItem.relocateList, SelectItem.relocate_id e, SelectItem.relocateList_id es]

theorem StarModifier.relocate_id : ∀ a : StarModifier, StarModifier.relocate id a = a
  | .except columns => rfl
  | .replace items => by simp only [StarModifier.relocate, NamedExpr.relocateList_id items]

theorem StarModifier.relocateList_id : ∀ as : List StarModifier, StarModifier.relocateList id as = as
  | [] => rfl
  | e :: es => by
    simp only [StarModifier.relocateList, StarModifier.relocate_id e, StarModifier.relocateList_id
      es]

theorem FromClause.relocate_id : ∀ a : FromClause, FromClause.relocate id a = a
  | ⟨span, source, joins⟩ => by
    simp only [FromClause.relocate, Span.relocate_id, TableRef.relocate_id source,
      Join.relocateList_id joins]

theorem FromClause.relocateOption_id : ∀ a : Option FromClause, FromClause.relocateOption id a = a
  | none => rfl
  | some e => by simp only [FromClause.relocateOption, FromClause.relocate_id e]

theorem Join.relocate_id : ∀ a : Join, Join.relocate id a = a
  | ⟨span, kind, natural, right, condition, columns⟩ => by
    simp only [Join.relocate, Span.relocate_id, Located.relocate_id, TableRef.relocate_id right,
      Expr.relocateOption_id condition]

theorem Join.relocateList_id : ∀ as : List Join, Join.relocateList id as = as
  | [] => rfl
  | e :: es => by simp only [Join.relocateList, Join.relocate_id e, Join.relocateList_id es]

theorem TableRef.relocate_id : ∀ a : TableRef, TableRef.relocate id a = a
  | .missing => rfl
  | .table table => rfl
  | .derived span query aliasName => by
    simp only [TableRef.relocate, Span.relocate_id, Query.relocate_id query]
  | .function span call aliasName withOffset offsetAlias => by
    simp only [TableRef.relocate, Span.relocate_id, Expr.relocate_id call]
  | .pivot span source aggregates forColumn values aliasName => by
    simp only [TableRef.relocate, Span.relocate_id, Located.relocate_id, TableRef.relocate_id
      source, NamedExpr.relocateList_id aggregates, NamedExpr.relocateList_id values]
  | .unpivot span source valueColumns nameColumn groups aliasName => by
    simp only [TableRef.relocate, Span.relocate_id, Located.relocate_id, TableRef.relocate_id
      source]

end
instance : Located Expr := ⟨Expr.relocate, Expr.relocate_id⟩
instance : Located NamedExpr := ⟨NamedExpr.relocate, NamedExpr.relocate_id⟩
instance : Located CaseBranch := ⟨CaseBranch.relocate, CaseBranch.relocate_id⟩
instance : Located OrderItem := ⟨OrderItem.relocate, OrderItem.relocate_id⟩
instance : Located WindowSpec := ⟨WindowSpec.relocate, WindowSpec.relocate_id⟩
instance : Located NamedWindow := ⟨NamedWindow.relocate, NamedWindow.relocate_id⟩
instance : Located Query := ⟨Query.relocate, Query.relocate_id⟩
instance : Located WithClause := ⟨WithClause.relocate, WithClause.relocate_id⟩
instance : Located Cte := ⟨Cte.relocate, Cte.relocate_id⟩
instance : Located QueryBody := ⟨QueryBody.relocate, QueryBody.relocate_id⟩
instance : Located Operand := ⟨Operand.relocate, Operand.relocate_id⟩
instance : Located SelectBlock := ⟨SelectBlock.relocate, SelectBlock.relocate_id⟩
instance : Located SelectItem := ⟨SelectItem.relocate, SelectItem.relocate_id⟩
instance : Located StarModifier := ⟨StarModifier.relocate, StarModifier.relocate_id⟩
instance : Located FromClause := ⟨FromClause.relocate, FromClause.relocate_id⟩
instance : Located Join := ⟨Join.relocate, Join.relocate_id⟩
instance : Located TableRef := ⟨TableRef.relocate, TableRef.relocate_id⟩

@[simp] theorem Expr.relocate_apply (a : Expr) :
    Located.relocate place a = a.relocate place := rfl

@[simp] theorem NamedExpr.relocate_apply (a : NamedExpr) :
    Located.relocate place a = a.relocate place := rfl

@[simp] theorem CaseBranch.relocate_apply (a : CaseBranch) :
    Located.relocate place a = a.relocate place := rfl

@[simp] theorem OrderItem.relocate_apply (a : OrderItem) :
    Located.relocate place a = a.relocate place := rfl

@[simp] theorem WindowSpec.relocate_apply (a : WindowSpec) :
    Located.relocate place a = a.relocate place := rfl

@[simp] theorem NamedWindow.relocate_apply (a : NamedWindow) :
    Located.relocate place a = a.relocate place := rfl

@[simp] theorem Query.relocate_apply (a : Query) :
    Located.relocate place a = a.relocate place := rfl

@[simp] theorem WithClause.relocate_apply (a : WithClause) :
    Located.relocate place a = a.relocate place := rfl

@[simp] theorem Cte.relocate_apply (a : Cte) :
    Located.relocate place a = a.relocate place := rfl

@[simp] theorem QueryBody.relocate_apply (a : QueryBody) :
    Located.relocate place a = a.relocate place := rfl

@[simp] theorem Operand.relocate_apply (a : Operand) :
    Located.relocate place a = a.relocate place := rfl

@[simp] theorem SelectBlock.relocate_apply (a : SelectBlock) :
    Located.relocate place a = a.relocate place := rfl

@[simp] theorem SelectItem.relocate_apply (a : SelectItem) :
    Located.relocate place a = a.relocate place := rfl

@[simp] theorem StarModifier.relocate_apply (a : StarModifier) :
    Located.relocate place a = a.relocate place := rfl

@[simp] theorem FromClause.relocate_apply (a : FromClause) :
    Located.relocate place a = a.relocate place := rfl

@[simp] theorem Join.relocate_apply (a : Join) :
    Located.relocate place a = a.relocate place := rfl

@[simp] theorem TableRef.relocate_apply (a : TableRef) :
    Located.relocate place a = a.relocate place := rfl

attribute [simp] Expr.relocate NamedExpr.relocate CaseBranch.relocate OrderItem.relocate WindowSpec.relocate
  NamedWindow.relocate Query.relocate WithClause.relocate Cte.relocate QueryBody.relocate Operand.relocate
  SelectBlock.relocate SelectItem.relocate StarModifier.relocate FromClause.relocate Join.relocate
  TableRef.relocate

@[simp] theorem Expr.relocateList_eq (as : List Expr) :
    Expr.relocateList place as = Located.relocate place as := by
  induction as with
  | nil => rfl
  | cons a as ih => exact congrArg (a.relocate place :: ·) ih

@[simp] theorem NamedExpr.relocateList_eq (as : List NamedExpr) :
    NamedExpr.relocateList place as = Located.relocate place as := by
  induction as with
  | nil => rfl
  | cons a as ih => exact congrArg (a.relocate place :: ·) ih

@[simp] theorem CaseBranch.relocateList_eq (as : List CaseBranch) :
    CaseBranch.relocateList place as = Located.relocate place as := by
  induction as with
  | nil => rfl
  | cons a as ih => exact congrArg (a.relocate place :: ·) ih

@[simp] theorem OrderItem.relocateList_eq (as : List OrderItem) :
    OrderItem.relocateList place as = Located.relocate place as := by
  induction as with
  | nil => rfl
  | cons a as ih => exact congrArg (a.relocate place :: ·) ih

@[simp] theorem NamedWindow.relocateList_eq (as : List NamedWindow) :
    NamedWindow.relocateList place as = Located.relocate place as := by
  induction as with
  | nil => rfl
  | cons a as ih => exact congrArg (a.relocate place :: ·) ih

@[simp] theorem Cte.relocateList_eq (as : List Cte) :
    Cte.relocateList place as = Located.relocate place as := by
  induction as with
  | nil => rfl
  | cons a as ih => exact congrArg (a.relocate place :: ·) ih

@[simp] theorem SelectItem.relocateList_eq (as : List SelectItem) :
    SelectItem.relocateList place as = Located.relocate place as := by
  induction as with
  | nil => rfl
  | cons a as ih => exact congrArg (a.relocate place :: ·) ih

@[simp] theorem StarModifier.relocateList_eq (as : List StarModifier) :
    StarModifier.relocateList place as = Located.relocate place as := by
  induction as with
  | nil => rfl
  | cons a as ih => exact congrArg (a.relocate place :: ·) ih

@[simp] theorem Join.relocateList_eq (as : List Join) :
    Join.relocateList place as = Located.relocate place as := by
  induction as with
  | nil => rfl
  | cons a as ih => exact congrArg (a.relocate place :: ·) ih

@[simp] theorem Expr.relocateOption_eq (a : Option Expr) :
    Expr.relocateOption place a = Located.relocate place a := by
  cases a <;> rfl

@[simp] theorem WindowSpec.relocateOption_eq (a : Option WindowSpec) :
    WindowSpec.relocateOption place a = Located.relocate place a := by
  cases a <;> rfl

@[simp] theorem Query.relocateOption_eq (a : Option Query) :
    Query.relocateOption place a = Located.relocate place a := by
  cases a <;> rfl

@[simp] theorem WithClause.relocateOption_eq (a : Option WithClause) :
    WithClause.relocateOption place a = Located.relocate place a := by
  cases a <;> rfl

@[simp] theorem FromClause.relocateOption_eq (a : Option FromClause) :
    FromClause.relocateOption place a = Located.relocate place a := by
  cases a <;> rfl

end Trees

instance : Located ClauseContent where
  relocate place
    | .expression expr => .expression (relocate place expr)
    | .grouping exprs => .grouping (relocate place exprs)
    | .ordering items => .ordering (relocate place items)
    | .windows windows => .windows (relocate place windows)
  relocate_id
    | .expression expr => congrArg ClauseContent.expression (relocate_id expr)
    | .grouping exprs => congrArg ClauseContent.grouping (relocate_id exprs)
    | .ordering items => congrArg ClauseContent.ordering (relocate_id items)
    | .windows windows => congrArg ClauseContent.windows (relocate_id windows)

end QueryLint
