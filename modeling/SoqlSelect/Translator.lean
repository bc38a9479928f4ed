import SoqlSelect.Descriptor
import SoqlSelect.Settings.Load

/-!
# Translators

A translator writes statements as queries under its settings: it fills in what a statement does not ask
for, and refuses a statement that asks for too many rows.
-/

namespace SoqlSelect

structure Translator where
  settings : Settings := {}
deriving DecidableEq

inductive TranslatorError
  | query (cause : QueryError)
  | settings (cause : SettingsError)

def TranslatorError.message : TranslatorError → Option String
  | .query cause => some ("Translation error: " ++ cause.message)
  | .settings cause => cause.message.map ("Configuration error: " ++ ·)

namespace Paging

/-- Takes a limit if there is none: as the size of the page if a page without a size is asked for. -/
def withDefaultLimit (p : Paging) (limit : UInt64) : Paging :=
  if p.window.active then p
  else if p.page.any (0 < ·) && p.pageSize.all (· == 0) then { p with pageSize := some limit }
  else { p with limit := some limit }

/-- Takes a field to sort by if there is none. -/
def withDefaultSort (p : Paging) (field : String) : Paging :=
  if p.sortField.isSome then p else { p with sort := some field }

end Paging

namespace Translator

/-- A translator with settings that pass the check (`new`). -/
def ofSettings (s : Settings) : Except TranslatorError Translator :=
  match s.checked with
  | .ok settings => .ok { settings }
  | .error cause => .error (.settings cause)

/-- A translator with the settings that are found (`from_env`). -/
def load (place : Place) (env : Environment) : Except TranslatorError Translator :=
  match Settings.load place env with
  | .ok settings => ofSettings settings
  | .error cause => .error (.settings cause)

/-- The paging with the defaults for what it leaves open. -/
def effectivePaging (t : Translator) (p : Paging) : Paging :=
  let p := t.settings.defaultLimit.elim p p.withDefaultLimit
  t.settings.defaultSort.elim p p.withDefaultSort

/-- The statement with the defaults, if it keeps to the bound on rows (`apply_defaults`). A paging that asks
for nothing is left out. -/
def withDefaults (t : Translator) (s : Statement) : Except QueryError Statement :=
  let p := t.effectivePaging (s.paging.getD {})
  let limit := p.window.limit
  let completed := { s with paging := if p = {} then none else some p }
  match t.settings.maxLimit with
  | some maximum =>
    if maximum < limit then .error (.malformed (.limitExceeded limit maximum)) else .ok completed
  | none => .ok completed

/-- The query of a statement under the settings (`translate`). -/
def soql (t : Translator) (s : Statement) : Except TranslatorError String :=
  match t.withDefaults s with
  | .ok s => s.soql.mapError .query
  | .error cause => .error (.query cause)

/-- The query of the statement that JSON data describes (`translate_json`). -/
def soqlOfJson (t : Translator) (j : Json) : Except TranslatorError String :=
  match Statement.ofJson j with
  | .ok s => t.soql s
  | .error cause => .error (.query (.descriptor cause))

end Translator

end SoqlSelect
