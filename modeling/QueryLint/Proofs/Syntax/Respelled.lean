import QueryLint.Syntax.Node
import Mathlib.Data.List.Forall2

/-!
Trees of one shape whose identifiers correspond. Which spellings correspond to each other is left open:
`spelt name other` says that `other` may stand where `name` stood. Identifiers are the names of columns,
tables, sources and named queries, wherever they are written. Positions are free, and so are the words
that name none of these, such as literals, operators, types and the functions that are called.
-/

namespace QueryLint

variable (spelt : String → String → Prop)

/-! ### Leaves of trees -/

structure ColumnRef.Respelled (ref other : ColumnRef) : Prop where
  table : spelt ref.table other.table
  column : spelt ref.column other.column
  fields : List.Forall₂ spelt ref.fields other.fields

structure TableName.Respelled (table other : TableName) : Prop where
  project : spelt table.project other.project
  dataset : spelt table.dataset other.dataset
  name : spelt table.name other.name
  aliasName : spelt table.aliasName other.aliasName

structure UnpivotGroup.Respelled (group other : UnpivotGroup) : Prop where
  columns : List.Forall₂ (ColumnRef.Respelled spelt) group.columns other.columns

/-! ### Trees -/

mutual

inductive Expr.Respelled : Expr → Expr → Prop
  | missing : Expr.Respelled .missing .missing
  | column {ref other} : ref.Respelled spelt other → Expr.Respelled (.column ref) (.column other)
  | literal {constant other} : Expr.Respelled (.literal constant) (.literal other)
  | binary {span span' left left' operator operator' right right'} :
    Expr.Respelled left left' → Expr.Respelled right right' →
    Expr.Respelled (.binary span left operator right) (.binary span' left' operator' right')
  | unary {span span' operator operator' operand operand'} : Expr.Respelled operand operand' →
    Expr.Respelled (.unary span operator operand) (.unary span' operator' operand')
  | call {head head' arguments arguments' orderBy orderBy' limit limit' window window'} :
    List.Forall₂ Expr.Respelled arguments arguments' →
    List.Forall₂ OrderItem.Respelled orderBy orderBy' → Option.Rel Expr.Respelled limit limit' →
    Option.Rel WindowSpec.Respelled window window' →
    Expr.Respelled (.call head arguments orderBy limit window)
      (.call head' arguments' orderBy' limit' window')
  | case {span span' operand operand' branches branches' otherwise otherwise'} :
    Option.Rel Expr.Respelled operand operand' →
    List.Forall₂ CaseBranch.Respelled branches branches' →
    Option.Rel Expr.Respelled otherwise otherwise' →
    Expr.Respelled (.case span operand branches otherwise)
      (.case span' operand' branches' otherwise')
  | cast {span span' operand operand' typeName typeName' safe safe'} :
    Expr.Respelled operand operand' →
    Expr.Respelled (.cast span operand typeName safe) (.cast span' operand' typeName' safe')
  | inValues {span span' operand operand' negated negated' values values'} :
    Expr.Respelled operand operand' → List.Forall₂ Expr.Respelled values values' →
    Expr.Respelled (.inValues span operand negated values)
      (.inValues span' operand' negated' values')
  | inQuery {span span' operand operand' negated negated' query query'} :
    Expr.Respelled operand operand' → Query.Respelled query query' →
    Expr.Respelled (.inQuery span operand negated query) (.inQuery span' operand' negated' query')
  | inUnnest {span span' operand operand' negated negated' array array'} :
    Expr.Respelled operand operand' → Expr.Respelled array array' →
    Expr.Respelled (.inUnnest span operand negated array)
      (.inUnnest span' operand' negated' array')
  | between {span span' operand operand' negated negated' low low' high high'} :
    Expr.Respelled operand operand' → Expr.Respelled low low' → Expr.Respelled high high' →
    Expr.Respelled (.between span operand negated low high)
      (.between span' operand' negated' low' high')
  | isNull {span span' operand operand' negated negated'} : Expr.Respelled operand operand' →
    Expr.Respelled (.isNull span operand negated) (.isNull span' operand' negated')
  | isBool {span span' operand operand' negated negated' value value'} :
    Expr.Respelled operand operand' →
    Expr.Respelled (.isBool span operand negated value) (.isBool span' operand' negated' value')
  | like {span span' operand operand' negated negated' pattern pattern'} :
    Expr.Respelled operand operand' → Expr.Respelled pattern pattern' →
    Expr.Respelled (.like span operand negated pattern)
      (.like span' operand' negated' pattern')
  | paren {span span' inner inner'} : Expr.Respelled inner inner' →
    Expr.Respelled (.paren span inner) (.paren span' inner')
  | star {span span' table table'} : spelt table table' →
    Expr.Respelled (.star span table) (.star span' table')
  | subquery {span span' query query' array} : Query.Respelled query query' →
    Expr.Respelled (.subquery span query array) (.subquery span' query' array)
  | exists {span span' query query'} : Query.Respelled query query' →
    Expr.Respelled (.exists span query) (.exists span' query')
  | struct {span span' typeName typeName' fields fields'} :
    List.Forall₂ NamedExpr.Respelled fields fields' →
    Expr.Respelled (.struct span typeName fields) (.struct span' typeName' fields')
  | array {span span' typeName typeName' elements elements'} :
    List.Forall₂ Expr.Respelled elements elements' →
    Expr.Respelled (.array span typeName elements) (.array span' typeName' elements')
  | index {span span' operand operand' place place' mode mode'} :
    Expr.Respelled operand operand' → Expr.Respelled place place' →
    Expr.Respelled (.index span operand place mode) (.index span' operand' place' mode')
  | field {span span' operand operand' name name'} :
    Expr.Respelled operand operand' → spelt name name' →
    Expr.Respelled (.field span operand name) (.field span' operand' name')
  | extract {span span' part part' operand operand'} : Expr.Respelled operand operand' →
    Expr.Respelled (.extract span part operand) (.extract span' part' operand')
  | interval {span span' value value' unit unit' toUnit toUnit'} : Expr.Respelled value value' →
    Expr.Respelled (.interval span value unit toUnit) (.interval span' value' unit' toUnit')

inductive NamedExpr.Respelled : NamedExpr → NamedExpr → Prop
  | mk {expr expr' name name'} : Expr.Respelled expr expr' → spelt name name' →
    NamedExpr.Respelled ⟨expr, name⟩ ⟨expr', name'⟩

inductive CaseBranch.Respelled : CaseBranch → CaseBranch → Prop
  | mk {condition condition' result result'} : Expr.Respelled condition condition' →
    Expr.Respelled result result' →
    CaseBranch.Respelled ⟨condition, result⟩ ⟨condition', result'⟩

inductive OrderItem.Respelled : OrderItem → OrderItem → Prop
  | mk {expr expr' descending descending' nullsFirst nullsFirst'} : Expr.Respelled expr expr' →
    OrderItem.Respelled ⟨expr, descending, nullsFirst⟩ ⟨expr', descending', nullsFirst'⟩

inductive WindowSpec.Respelled : WindowSpec → WindowSpec → Prop
  | mk {span span' name name' partitionBy partitionBy' orderBy orderBy' frame frame' firstOffset
      firstOffset' lastOffset lastOffset'} :
    List.Forall₂ Expr.Respelled partitionBy partitionBy' →
    List.Forall₂ OrderItem.Respelled orderBy orderBy' →
    Option.Rel Expr.Respelled firstOffset firstOffset' →
    Option.Rel Expr.Respelled lastOffset lastOffset' →
    WindowSpec.Respelled ⟨span, name, partitionBy, orderBy, frame, firstOffset, lastOffset⟩
      ⟨span', name', partitionBy', orderBy', frame', firstOffset', lastOffset'⟩

inductive NamedWindow.Respelled : NamedWindow → NamedWindow → Prop
  | mk {name name' spec spec'} : WindowSpec.Respelled spec spec' →
    NamedWindow.Respelled ⟨name, spec⟩ ⟨name', spec'⟩

inductive Query.Respelled : Query → Query → Prop
  | mk {span span' definitions definitions' body body'} :
    Option.Rel WithClause.Respelled definitions definitions' → QueryBody.Respelled body body' →
    Query.Respelled ⟨span, definitions, body⟩ ⟨span', definitions', body'⟩

inductive WithClause.Respelled : WithClause → WithClause → Prop
  | mk {span span' recursive recursive' ctes ctes'} : List.Forall₂ Cte.Respelled ctes ctes' →
    WithClause.Respelled ⟨span, recursive, ctes⟩ ⟨span', recursive', ctes'⟩

inductive Cte.Respelled : Cte → Cte → Prop
  | mk {span span' name name' nameSpan nameSpan' columns columns' query query'} :
    spelt name name' → List.Forall₂ spelt columns columns' →
    Option.Rel Query.Respelled query query' →
    Cte.Respelled ⟨span, name, nameSpan, columns, query⟩ ⟨span', name', nameSpan', columns', query'⟩

inductive QueryBody.Respelled : QueryBody → QueryBody → Prop
  | single {span span' operand operand'} : Operand.Respelled operand operand' →
    QueryBody.Respelled (.single span operand) (.single span' operand')
  | combined {span span' left left' operator operator' all all' right right'} :
    Operand.Respelled left left' → QueryBody.Respelled right right' →
    QueryBody.Respelled (.combined span left operator all right)
      (.combined span' left' operator' all' right')

inductive Operand.Respelled : Operand → Operand → Prop
  | block {block block'} : SelectBlock.Respelled block block' →
    Operand.Respelled (.block block) (.block block')
  | nested {query query'} : Query.Respelled query query' →
    Operand.Respelled (.nested query) (.nested query')

inductive SelectBlock.Respelled : SelectBlock → SelectBlock → Prop
  | mk {span span' distinct distinct' asKind asKind' items items' source source' filter filter'
      groupBy groupBy' having having' windows windows' qualify qualify' orderBy orderBy'
      orderByPosition orderByPosition' limit limit' offset offset' extensions extensions'} :
    List.Forall₂ SelectItem.Respelled items items' →
    Option.Rel FromClause.Respelled source source' → Option.Rel Expr.Respelled filter filter' →
    List.Forall₂ Expr.Respelled groupBy groupBy' → Option.Rel Expr.Respelled having having' →
    List.Forall₂ NamedWindow.Respelled windows windows' →
    Option.Rel Expr.Respelled qualify qualify' →
    List.Forall₂ OrderItem.Respelled orderBy orderBy' → Option.Rel Expr.Respelled limit limit' →
    Option.Rel Expr.Respelled offset offset' →
    SelectBlock.Respelled
      ⟨span, distinct, asKind, items, source, filter, groupBy, having, windows, qualify, orderBy,
        orderByPosition, limit, offset, extensions⟩
      ⟨span', distinct', asKind', items', source', filter', groupBy', having', windows', qualify',
        orderBy', orderByPosition', limit', offset', extensions'⟩

inductive SelectItem.Respelled : SelectItem → SelectItem → Prop
  | star {span span' modifiers modifiers'} :
    List.Forall₂ StarModifier.Respelled modifiers modifiers' →
    SelectItem.Respelled (.star span modifiers) (.star span' modifiers')
  | tableStar {span span' table table' modifiers modifiers'} : spelt table table' →
    List.Forall₂ StarModifier.Respelled modifiers modifiers' →
    SelectItem.Respelled (.tableStar span table modifiers) (.tableStar span' table' modifiers')
  | expr {span span' expr expr' aliasName aliasName' aliasSpan aliasSpan'} :
    Expr.Respelled expr expr' → spelt aliasName aliasName' →
    SelectItem.Respelled (.expr span expr aliasName aliasSpan)
      (.expr span' expr' aliasName' aliasSpan')

inductive StarModifier.Respelled : StarModifier → StarModifier → Prop
  | except {columns columns'} : List.Forall₂ spelt columns columns' →
    StarModifier.Respelled (.except columns) (.except columns')
  | replace {items items'} : List.Forall₂ NamedExpr.Respelled items items' →
    StarModifier.Respelled (.replace items) (.replace items')

inductive FromClause.Respelled : FromClause → FromClause → Prop
  | mk {span span' source source' joins joins'} : TableRef.Respelled source source' →
    List.Forall₂ Join.Respelled joins joins' →
    FromClause.Respelled ⟨span, source, joins⟩ ⟨span', source', joins'⟩

inductive Join.Respelled : Join → Join → Prop
  | mk {span span' kind kind' natural natural' right right' condition condition' columns columns'} :
    TableRef.Respelled right right' → Option.Rel Expr.Respelled condition condition' →
    List.Forall₂ (ColumnRef.Respelled spelt) columns columns' →
    Join.Respelled ⟨span, kind, natural, right, condition, columns⟩
      ⟨span', kind', natural', right', condition', columns'⟩

inductive TableRef.Respelled : TableRef → TableRef → Prop
  | missing : TableRef.Respelled .missing .missing
  | table {table table'} : table.Respelled spelt table' →
    TableRef.Respelled (.table table) (.table table')
  | derived {span span' query query' aliasName aliasName'} : Query.Respelled query query' →
    spelt aliasName aliasName' →
    TableRef.Respelled (.derived span query aliasName) (.derived span' query' aliasName')
  | function {span span' call call' aliasName aliasName' withOffset withOffset' offsetAlias
      offsetAlias'} : Expr.Respelled call call' → spelt aliasName aliasName' →
    spelt offsetAlias offsetAlias' →
    TableRef.Respelled (.function span call aliasName withOffset offsetAlias)
      (.function span' call' aliasName' withOffset' offsetAlias')
  | pivot {span span' source source' aggregates aggregates' forColumn forColumn' values values'
      aliasName aliasName'} : TableRef.Respelled source source' →
    List.Forall₂ NamedExpr.Respelled aggregates aggregates' →
    forColumn.Respelled spelt forColumn' → List.Forall₂ NamedExpr.Respelled values values' →
    spelt aliasName aliasName' →
    TableRef.Respelled (.pivot span source aggregates forColumn values aliasName)
      (.pivot span' source' aggregates' forColumn' values' aliasName')
  | unpivot {span span' source source' valueColumns valueColumns' nameColumn nameColumn' groups
      groups' aliasName aliasName'} : TableRef.Respelled source source' →
    List.Forall₂ (UnpivotGroup.Respelled spelt) groups groups' → spelt aliasName aliasName' →
    TableRef.Respelled (.unpivot span source valueColumns nameColumn groups aliasName)
      (.unpivot span' source' valueColumns' nameColumn' groups' aliasName')

end

/-! ### Nodes -/

inductive Node.Respelled : Node → Node → Prop
  | query {query other} : query.Respelled spelt other → Node.Respelled (.query query) (.query other)
  | definitions {definitions other} : definitions.Respelled spelt other →
    Node.Respelled (.definitions definitions) (.definitions other)
  | cte {cte other} : cte.Respelled spelt other → Node.Respelled (.cte cte) (.cte other)
  | body {body other} : body.Respelled spelt other → Node.Respelled (.body body) (.body other)
  | block {block other} : block.Respelled spelt other → Node.Respelled (.block block) (.block other)
  | source {source other} : source.Respelled spelt other →
    Node.Respelled (.source source) (.source other)
  | join {join other} : join.Respelled spelt other → Node.Respelled (.join join) (.join other)
  | table {table other} : table.Respelled spelt other → Node.Respelled (.table table) (.table other)
  | window {window other} : window.Respelled spelt other →
    Node.Respelled (.window window) (.window other)
  | expr {expr other} : expr.Respelled spelt other → Node.Respelled (.expr expr) (.expr other)

section Children

variable {spelt}

abbrev NodesRespelled (spelt : String → String → Prop) : List Node → List Node → Prop :=
  List.Forall₂ (Node.Respelled spelt)

theorem forall₂_toList {α β : Type} {related : α → β → Prop} {a : Option α} {b : Option β}
    (same : Option.Rel related a b) : List.Forall₂ related a.toList b.toList := by
  cases same with
  | none => exact .nil
  | some same => exact .cons same .nil

theorem Expr.Respelled.present {expr other : Expr} (same : expr.Respelled spelt other) :
    NodesRespelled spelt expr.present other.present := by
  cases same <;> first
    | exact .nil
    | exact .cons (.expr (by constructor <;> assumption)) .nil

theorem TableRef.Respelled.present {table other : TableRef} (same : table.Respelled spelt other) :
    NodesRespelled spelt table.present other.present := by
  cases same <;> first
    | exact .nil
    | exact .cons (.table (by constructor <;> assumption)) .nil

theorem respelled_exprNodes {exprs others : List Expr}
    (same : List.Forall₂ (Expr.Respelled spelt) exprs others) :
    NodesRespelled spelt (exprNodes exprs) (exprNodes others) :=
  List.rel_flatMap same fun _ _ same => same.present

theorem respelled_optionNodes {expr other : Option Expr}
    (same : Option.Rel (Expr.Respelled spelt) expr other) :
    NodesRespelled spelt (optionNodes expr) (optionNodes other) :=
  respelled_exprNodes (forall₂_toList same)

theorem respelled_columnNodes {columns others : List ColumnRef}
    (same : List.Forall₂ (ColumnRef.Respelled spelt) columns others) :
    NodesRespelled spelt (columnNodes columns) (columnNodes others) :=
  List.rel_map (fun _ _ same => .expr (.column same)) same

theorem respelled_orderNodes {items others : List OrderItem}
    (same : List.Forall₂ (OrderItem.Respelled spelt) items others) :
    NodesRespelled spelt (orderNodes items) (orderNodes others) :=
  List.rel_flatMap same fun _ _ ⟨same⟩ => same.present

theorem respelled_namedNodes {items others : List NamedExpr}
    (same : List.Forall₂ (NamedExpr.Respelled spelt) items others) :
    NodesRespelled spelt (namedNodes items) (namedNodes others) :=
  List.rel_flatMap same fun _ _ ⟨same, _⟩ => same.present

theorem respelled_branchNodes {branches others : List CaseBranch}
    (same : List.Forall₂ (CaseBranch.Respelled spelt) branches others) :
    NodesRespelled spelt (branchNodes branches) (branchNodes others) :=
  List.rel_flatMap same fun _ _ ⟨condition, result⟩ => List.rel_append condition.present result.present

theorem respelled_modifierNodes {modifiers others : List StarModifier}
    (same : List.Forall₂ (StarModifier.Respelled spelt) modifiers others) :
    NodesRespelled spelt (modifiers.flatMap StarModifier.nodes)
      (others.flatMap StarModifier.nodes) := by
  refine List.rel_flatMap same fun modifier other same => ?_
  cases same with
  | except => exact .nil
  | replace items => exact respelled_namedNodes items

theorem respelled_itemNodes {items others : List SelectItem}
    (same : List.Forall₂ (SelectItem.Respelled spelt) items others) :
    NodesRespelled spelt (items.flatMap SelectItem.nodes) (others.flatMap SelectItem.nodes) := by
  refine List.rel_flatMap same fun item other same => ?_
  cases same with
  | star modifiers => exact respelled_modifierNodes modifiers
  | tableStar _ modifiers => exact respelled_modifierNodes modifiers
  | expr expr _ => exact expr.present

theorem respelled_windowNodes {windows others : List NamedWindow}
    (same : List.Forall₂ (NamedWindow.Respelled spelt) windows others) :
    NodesRespelled spelt (windows.map fun window => .window window.spec)
      (others.map fun window => .window window.spec) :=
  List.rel_map (fun _ _ ⟨spec⟩ => .window spec) same

theorem Operand.Respelled.node {operand other : Operand} (same : operand.Respelled spelt other) :
    Node.Respelled spelt operand.node other.node := by
  cases same with
  | block block => exact .block block
  | nested query => exact .query query

theorem Expr.Respelled.children {expr other : Expr} (same : expr.Respelled spelt other) :
    NodesRespelled spelt expr.children other.children := by
  cases same with
  | missing | column | literal | star => exact .nil
  | unary operand | cast operand | isNull operand | isBool operand | paren operand
  | field operand _ | extract operand | interval operand => exact operand.present
  | binary left right | inUnnest left right | like left right | index left right =>
    exact List.rel_append left.present right.present
  | between operand low high =>
    exact List.rel_append (List.rel_append operand.present low.present) high.present
  | call arguments orderBy limit window =>
    exact List.rel_append (List.rel_append (List.rel_append (respelled_exprNodes arguments)
      (respelled_orderNodes orderBy)) (respelled_optionNodes limit))
      (List.rel_map (fun _ _ => .window) (forall₂_toList window))
  | case operand branches otherwise =>
    exact List.rel_append (List.rel_append (respelled_optionNodes operand)
      (respelled_branchNodes branches)) (respelled_optionNodes otherwise)
  | inValues operand values => exact List.rel_append operand.present (respelled_exprNodes values)
  | inQuery operand query => exact List.rel_append operand.present (.cons (.query query) .nil)
  | subquery query | «exists» query => exact .cons (.query query) .nil
  | struct fields => exact respelled_namedNodes fields
  | array elements => exact respelled_exprNodes elements

theorem TableRef.Respelled.children {table other : TableRef} (same : table.Respelled spelt other) :
    NodesRespelled spelt table.children other.children := by
  cases same with
  | missing | table => exact .nil
  | derived query _ => exact .cons (.query query) .nil
  | function call _ _ => exact call.present
  | pivot source aggregates forColumn values _ =>
    exact List.rel_append (List.rel_append (List.rel_append source.present
      (respelled_namedNodes aggregates)) (respelled_columnNodes (.cons forColumn .nil)))
      (respelled_namedNodes values)
  | unpivot source groups _ =>
    exact List.rel_append source.present
      (List.rel_flatMap groups fun _ _ group => respelled_columnNodes group.columns)

theorem SelectBlock.Respelled.children {block other : SelectBlock}
    (same : block.Respelled spelt other) :
    NodesRespelled spelt block.children other.children := by
  obtain ⟨items, source, filter, groupBy, having, windows, qualify, orderBy, limit, offset⟩ := same
  exact List.rel_append (List.rel_append (List.rel_append (List.rel_append (List.rel_append
    (List.rel_append (List.rel_append (List.rel_append (List.rel_append (respelled_itemNodes items)
    (List.rel_map (fun _ _ => .source) (forall₂_toList source))) (respelled_optionNodes filter))
    (respelled_exprNodes groupBy)) (respelled_optionNodes having)) (respelled_windowNodes windows))
    (respelled_optionNodes qualify)) (respelled_orderNodes orderBy)) (respelled_optionNodes limit))
    (respelled_optionNodes offset)

/-- Corresponding nodes have corresponding children. -/
theorem Node.Respelled.children {node other : Node} (same : node.Respelled spelt other) :
    NodesRespelled spelt node.children other.children := by
  cases same with
  | query query =>
    obtain ⟨definitions, body⟩ := query
    exact List.rel_append (List.rel_map (fun _ _ => .definitions) (forall₂_toList definitions))
      (.cons (.body body) .nil)
  | definitions definitions =>
    obtain ⟨ctes⟩ := definitions
    exact List.rel_map (fun _ _ => .cte) ctes
  | cte cte =>
    obtain ⟨_, _, query⟩ := cte
    exact List.rel_map (fun _ _ => .query) (forall₂_toList query)
  | body body =>
    cases body with
    | single operand => exact .cons operand.node .nil
    | combined left right => exact .cons left.node (.cons (.body right) .nil)
  | block block => exact block.children
  | source source =>
    obtain ⟨first, joins⟩ := source
    exact List.rel_append first.present (List.rel_map (fun _ _ => .join) joins)
  | join join =>
    obtain ⟨right, condition, columns⟩ := join
    exact List.rel_append (List.rel_append right.present (respelled_optionNodes condition))
      (respelled_columnNodes columns)
  | table table => exact table.children
  | window window =>
    obtain ⟨partitionBy, orderBy, first, last⟩ := window
    exact List.rel_append (List.rel_append (List.rel_append (respelled_exprNodes partitionBy)
      (respelled_orderNodes orderBy)) (respelled_optionNodes first)) (respelled_optionNodes last)
  | expr expr => exact expr.children

end Children

end QueryLint
