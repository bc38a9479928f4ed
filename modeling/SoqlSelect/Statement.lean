import SoqlSelect.Filter
import SoqlSelect.Paging
import SoqlSelect.Text.Characters

/-!
# Statements

A statement names an operation, an object, a filter, fields and maybe a paging. Only selections can be
written as queries.
-/

namespace SoqlSelect

/-! ### Operations -/

inductive Operation
  | select
  | insert
  | update
  | delete
  | other (name : String)
deriving DecidableEq

namespace Operation

def name : Operation → String
  | .select => "select"
  | .insert => "insert"
  | .update => "update"
  | .delete => "delete"
  | .other name => name

def ofName (name : String) : Operation :=
  if name = "select" then .select
  else if name = "insert" then .insert
  else if name = "update" then .update
  else if name = "delete" then .delete
  else .other name

@[simp] theorem name_ofName (s : String) : (ofName s).name = s := by
  unfold ofName
  repeat' split
  all_goals simp_all [name]

end Operation

/-! ### Statements -/

structure Statement where
  object : String := ""
  operation : Operation := .select
  filter : Filter := {}
  fields : List String := []
  paging : Option Paging := none

/-- The text of a selection, with the clause of its filter (`build_select`). -/
def selectText (object : String) (fields : List String) (filterClause : String)
    (paging : Option Paging) : Except QueryError String :=
  if fields.isEmpty then .error (.malformed .noFields)
  else
    let selection := "SELECT " ++ String.intercalate "," fields ++ " FROM " ++ object
    let order := match paging.bind Paging.sortField with
      | some field => "ORDER BY " ++ field ++ " ASC"
      | none => ""
    let window := (paging.map Paging.window).getD {}
    let clauses := [filterClause, order, window.clause].filter (· ≠ "")
    .ok (String.intercalate " " (selection :: clauses))

namespace Statement

/-- The statement is one that can be written (`StatementCompiler`): it names an object and
selects. -/
def validate (s : Statement) : Except QueryError Unit :=
  if Text.isAllBlank s.object then .error (.malformed .noObject)
  else if s.operation = .select then .ok ()
  else .error (.unsupportedOperation s.operation.name)

/-- The query of the statement (`translate`). -/
def soql (s : Statement) : Except QueryError String := do
  s.validate
  let filterClause ← s.filter.clause
  selectText s.object s.fields filterClause s.paging

end Statement

end SoqlSelect
