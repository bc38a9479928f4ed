import SoqlSelect.Text.Characters

/-!
# Settings

Defaults for statements that ask for no window or no order, and a bound on the rows that a statement
may ask for. Settings are in force only if they pass the check.
-/

namespace SoqlSelect

structure Settings where
  defaultLimit : Option UInt64 := none
  maxLimit : Option UInt64 := none
  defaultSort : Option String := none
deriving DecidableEq

/-! ### Errors -/

/-- What is wrong with settings. -/
inductive Flaw
  | maxLimitZero
  | defaultLimitZero
  | defaultAboveMax
  | defaultSortBlank
deriving DecidableEq

def Flaw.reason : Flaw → String
  | .maxLimitZero => "Select max_limit must be greater than 0"
  | .defaultLimitZero => "Select default_limit must be greater than 0"
  | .defaultAboveMax => "Select default_limit cannot be greater than max_limit"
  | .defaultSortBlank => "Select default_sort cannot be empty"

namespace Settings

/-- The default limit is greater than the maximum. -/
def defaultExceedsMax (s : Settings) : Bool :=
  match s.defaultLimit, s.maxLimit with
  | some default, some max => max < default
  | _, _ => false

/-- The first flaw of the settings, in the order of the check (`validate`). -/
def flaw? (s : Settings) : Option Flaw :=
  if s.maxLimit = some 0 then some .maxLimitZero
  else if s.defaultLimit = some 0 then some .defaultLimitZero
  else if s.defaultExceedsMax then some .defaultAboveMax
  else if s.defaultSort.any Text.isAllBlank then some .defaultSortBlank
  else none

end Settings

end SoqlSelect
