import SoqlSelect.Settings.Basic
import SoqlSelect.Toml.Parser

/-!
# Settings in TOML

The settings are the members of the table `select`, or the items of an array in their order. Other
members are passed over, but their numbers are read; further items are not. A date given for the table
has no member that is a setting.
-/

namespace SoqlSelect.Settings

def tomlLimit? : Toml.Value → Option UInt64
  | .integer (some n) => if 0 ≤ n ∧ n < 0x10000000000000000 then some (UInt64.ofNat n.toNat) else none
  | _ => none

def tomlSort? : Toml.Value → Option String
  | .string s => some s
  | _ => none

def memberNames : List String := ["default_limit", "max_limit", "default_sort"]

def setTomlMember (s : Settings) : String × Toml.Value → Option Settings
  | (name, v) =>
    if name = "default_limit" then (tomlLimit? v).map fun n => { s with defaultLimit := some n }
    else if name = "max_limit" then (tomlLimit? v).map fun n => { s with maxLimit := some n }
    else if name = "default_sort" then (tomlSort? v).map fun f => { s with defaultSort := some f }
    else if v.inRange then some s
    else none

/-- The settings that the value of `select` gives. -/
def ofTomlValue? : Toml.Value → Option Settings
  | .table _ members => members.foldlM setTomlMember {}
  | .array items => (memberNames.zip items).foldlM setTomlMember {}
  | .dateTime => some {}
  | _ => none

/-- The settings of a document. -/
def ofTomlTable? (t : Toml.Table) : Option Settings :=
  List.foldlM
    (fun s (name, v) =>
      if name = "select" then ofTomlValue? v else if v.inRange then some s else none)
    {} t

/-- The settings that a text writes down. -/
def ofToml? (text : String) : Option Settings :=
  (Toml.parse? text).bind ofTomlTable?

end SoqlSelect.Settings
