import SoqlSelect.Dotenv
import SoqlSelect.FileTree
import SoqlSelect.Settings.Toml

/-!
# Finding settings

The settings are in the file that a variable names, or else in a file of a fixed name, or else they are
the defaults. The variable may come from a file of variables. Whatever is found has to be right: a
failure does not lead to the next source. A variable that cannot hold the text that it is given halts the
search without a report.
-/

namespace SoqlSelect

inductive SettingsError
  | file (cause : FileError)
  | toml
  | dotenv
  | halted
  | invalid (flaw : Flaw)
deriving DecidableEq

/-- The message; the details of texts that cannot be read are left to their readers. -/
def SettingsError.message : SettingsError → Option String
  | .file cause => some ("IO error: " ++ cause.message)
  | .toml => none
  | .dotenv => none
  | .halted => none
  | .invalid flaw => some ("Invalid configuration: " ++ flaw.reason)

namespace Settings

/-- The variable that names the file of the settings. -/
def pathVariable : String := "SOQUERY_CONFIG"

/-- The file of the settings if no variable names one. -/
def defaultPath : String := "./soquery.toml"

/-- The name of a file of variables. -/
def variablesFile : String := ".env"

/-- The settings, if they pass the check. -/
def checked (s : Settings) : Except SettingsError Settings :=
  match s.flaw? with
  | some flaw => .error (.invalid flaw)
  | none => .ok s

theorem checked_eq_ok {d d' : Settings} (h : d.checked = .ok d') : d'.flaw? = none := by
  unfold checked at h
  cases hf : d.flaw? with
  | some flaw =>
    rw [hf] at h
    cases h
  | none =>
    rw [hf] at h
    rw [← Except.ok.inj h]
    exact hf

/-- The settings that a text in TOML gives (`from_toml_str`). -/
def ofText (text : String) : Except SettingsError Settings :=
  match ofToml? text with
  | some s => s.checked
  | none => .error .toml

/-- The settings of a file (`from_file`). -/
def ofFile (place : Place) (path : String) : Except SettingsError Settings :=
  match place.read path with
  | .ok text => ofText text
  | .error cause => .error (.file cause)

/-- The environment with the variables of the nearest file of variables, if there is one. -/
def environmentAt (place : Place) (env : Environment) : Except SettingsError Environment :=
  match place.nearest? variablesFile with
  | none => .ok env
  | some (.error _) => .error .dotenv
  | some (.ok content) =>
    match Dotenv.parse env content with
    | .ok assignments => .ok (env.provideAll assignments)
    | .error .malformed => .error .dotenv
    | .error .unsettable => .error .halted

/-- The settings for a place and an environment (`load`). -/
def load (place : Place) (env : Environment) : Except SettingsError Settings := do
  let env ← environmentAt place env
  match env.get? pathVariable with
  | some path => ofFile place path
  | none => if place.has defaultPath then ofFile place defaultPath else return {}

end Settings

end SoqlSelect
