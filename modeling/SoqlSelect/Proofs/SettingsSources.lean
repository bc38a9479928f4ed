import Mathlib.Data.String.Basic
import SoqlSelect.Proofs.PathReading
import SoqlSelect.Proofs.ProvidedVariables
import SoqlSelect.Settings.Load

/-!
# Sources of settings

The settings are looked for in one source after the other: the file that the environment names, the file
that the nearest file of variables names, the file of the fixed name, the defaults. The main statement
says that the first source that is there decides, also if it is in error, and that what is found has
passed the check. Only a NUL character in the file of variables halts the search.
-/

namespace SoqlSelect.Settings

/-- The name of the file at the default path. -/
def defaultName : String := "soquery.toml"

/-- What the nearest file of variables assigns. Without such a file nothing is assigned. -/
inductive Assigned (place : Place) (env : Environment) : List (String × String) → Prop
  | nothing : place.nearest? variablesFile = none → Assigned place env []
  | file {content : ByteArray} {assignments : List (String × String)} :
      place.nearest? variablesFile = some (.ok content) → Dotenv.parse env content = .ok assignments →
      Assigned place env assignments

/-- The path that is named in the environment, or else in the first assignment to the variable. -/
def namedPath (env : Environment) (assignments : List (String × String)) : Option String :=
  (env.get? pathVariable).or (Members.get? pathVariable assignments)

variable {place place' : Place} {env : Environment} {assignments : List (String × String)}

/-! ### The file of variables -/

theorem load_of_barred {cause : FileError}
    (hfound : place.nearest? variablesFile = some (.error cause)) : load place env = .error .dotenv := by
  have henv : environmentAt place env = .error .dotenv := by simp [environmentAt, hfound]
  rw [load, henv]
  rfl

theorem load_of_malformed {content : ByteArray}
    (hfound : place.nearest? variablesFile = some (.ok content))
    (h : Dotenv.parse env content = .error .malformed) : load place env = .error .dotenv := by
  have henv : environmentAt place env = .error .dotenv := by simp [environmentAt, hfound, h]
  rw [load, henv]
  rfl

theorem load_of_unsettable {content : ByteArray}
    (hfound : place.nearest? variablesFile = some (.ok content))
    (h : Dotenv.parse env content = .error .unsettable) : load place env = .error .halted := by
  have henv : environmentAt place env = .error .halted := by simp [environmentAt, hfound, h]
  rw [load, henv]
  rfl

theorem Assigned.environmentAt (h : Assigned place env assignments) :
    Settings.environmentAt place env = .ok (env.provideAll assignments) := by
  cases h with
  | nothing hnone => simp [Settings.environmentAt, hnone, Environment.provideAll]
  | file hfound hparse => simp [Settings.environmentAt, hfound, hparse]

theorem Assigned.load (h : Assigned place env assignments) :
    load place env = match namedPath env assignments with
      | some path => ofFile place path
      | none => if place.has defaultPath then ofFile place defaultPath else .ok {} := by
  rw [Settings.load, h.environmentAt]
  show (match (env.provideAll assignments).get? pathVariable with | some _ => _ | none => _) = _
  rw [Environment.get?_provideAll]
  rfl

/-! ### The default path -/

theorem names_defaultPath : Place.names defaultPath = [".", defaultName] := by
  rw [Place.names, String.splitToList_of_valid]
  decide

theorem has_defaultPath (place : Place) :
    place.has defaultPath = (place.here.entry? defaultName).isSome := by
  rw [Place.has, place.follow_relative defaultPath (by decide) (by decide) (by decide) (by decide),
    names_defaultPath, place.steps_dot (by decide), place.isOk_step (by decide) (by decide)]

/-! ### Other files -/

theorem Assigned.congr (h : Assigned place env assignments)
    (hnearest : place'.nearest? variablesFile = place.nearest? variablesFile) :
    Assigned place' env assignments := by
  cases h with
  | nothing hnone => exact .nothing (hnearest.trans hnone)
  | file hfound hparse => exact .file (hnearest.trans hfound) hparse

/-- If a path is named, the settings depend on the file of variables and on the file at the path. -/
theorem load_congr (h : Assigned place env assignments) {path : String}
    (hpath : namedPath env assignments = some path)
    (hnearest : place'.nearest? variablesFile = place.nearest? variablesFile)
    (hread : place'.read path = place.read path) : load place' env = load place env := by
  have hfile : ofFile place' path = ofFile place path := by rw [ofFile, ofFile, hread]
  rw [h.load, (h.congr hnearest).load, hpath]
  exact hfile

theorem load_of_agreesBut (h : Assigned place env assignments) {path : String}
    (hpath : namedPath env assignments = some path) (hname : defaultName ∉ Place.names path)
    (hagree : place.AgreesBut defaultName place') : load place' env = load place env := by
  have hnearest : place.nearest? variablesFile = place'.nearest? variablesFile :=
    hagree.nearest?_eq (by decide)
  exact load_congr h hpath hnearest.symm (hagree.read_eq hname).symm

/-! ### The check -/

theorem flaw?_of_ofText {text : String} {s : Settings} (h : ofText text = .ok s) : s.flaw? = none := by
  unfold ofText at h
  split at h
  · exact checked_eq_ok h
  · cases h

theorem flaw?_of_ofFile {path : String} {s : Settings} (h : ofFile place path = .ok s) :
    s.flaw? = none := by
  unfold ofFile at h
  split at h
  · exact flaw?_of_ofText h
  · cases h

theorem flaw?_of_load {s : Settings} (h : load place env = .ok s) : s.flaw? = none := by
  obtain ⟨env', -, h⟩ := bind_eq_ok.mp h
  split at h
  · exact flaw?_of_ofFile h
  · split at h
    · exact flaw?_of_ofFile h
    · cases h
      rfl

/-! ### Precedence -/

/-- The file of variables comes first. If it cannot be opened or is malformed, the search fails. If a
variable cannot hold what the file gives it, the search halts, which takes a NUL character in the file.
Otherwise the path in the environment, or else the first one in the file, is read whatever it leads to, and
nothing depends on other files, such as the one at the default path. That file is read if no path is named
and it is there; if it is not, the settings are the defaults. All settings that are found have passed the
check. -/
theorem load_by_precedence (place : Place) (env : Environment) :
    (∀ cause, place.nearest? variablesFile = some (.error cause) → load place env = .error .dotenv) ∧
    (∀ content, place.nearest? variablesFile = some (.ok content) →
      (Dotenv.parse env content = .error .malformed → load place env = .error .dotenv) ∧
      (Dotenv.parse env content = .error .unsettable →
        load place env = .error .halted ∧ (env.NulFree → 0 ∈ content.data.toList))) ∧
    (∀ assignments, Assigned place env assignments →
      (∀ path, namedPath env assignments = some path →
        load place env = ofFile place path ∧
          (∀ place', place'.nearest? variablesFile = place.nearest? variablesFile →
            place'.read path = place.read path → load place' env = load place env) ∧
          (defaultName ∉ Place.names path → ∀ place', place.AgreesBut defaultName place' →
            load place' env = load place env)) ∧
      (namedPath env assignments = none → load place env =
        if (place.here.entry? defaultName).isSome then ofFile place defaultPath else .ok {})) ∧
    (∀ s, load place env = .ok s → s.flaw? = none) ∧
    (∀ path s, ofFile place path = .ok s → s.flaw? = none) ∧
    ∀ text s, ofText text = .ok s → s.flaw? = none := by
  refine ⟨fun cause => load_of_barred,
    fun content hfound => ⟨load_of_malformed hfound, fun hparse => ?_⟩,
    fun assignments hassigned => ⟨fun path hpath => ⟨?_, fun place' => load_congr hassigned hpath,
      fun hname place' => load_of_agreesBut hassigned hpath hname⟩, fun hnone => ?_⟩,
    fun s => flaw?_of_load, fun path s => flaw?_of_ofFile, fun text s => flaw?_of_ofText⟩
  · refine ⟨load_of_unsettable hfound hparse, fun henv => ?_⟩
    exact Decidable.byContradiction fun hzero => Dotenv.parse_ne_unsettable henv hzero hparse
  · rw [hassigned.load, hpath]
  · rw [hassigned.load, hnone, has_defaultPath]

/- The first path counts although it leads nowhere, and the file at the default path does not. -/
theorem load_by_precedence_missing_file :
    let naming := (".env", FileTree.file "SOQUERY_CONFIG=my.toml\nSOQUERY_CONFIG=soquery.toml\n".toUTF8)
    let broken := (".env", FileTree.file "SOQUERY_CONFIG='my.toml\n".toUTF8)
    let barred := (".env", FileTree.barredFile .permission)
    let standard := ("soquery.toml", FileTree.file "[select]\nmax_limit = 5\n".toUTF8)
    let place : Place := { here := .directory [naming, standard] }
    load place {} = ofFile place "my.toml" ∧
      load { here := .directory [naming] } {} = load place {} ∧
      load { here := .directory [broken, standard] } {} = .error .dotenv ∧
      load { here := .directory [barred, standard] } {} = .error .dotenv := by
  intro naming broken barred standard place
  have hassigned : Assigned place {}
      [("SOQUERY_CONFIG", "my.toml"), ("SOQUERY_CONFIG", "soquery.toml")] := .file rfl rfl
  have hname : defaultName ∉ Place.names "my.toml" := by
    rw [Place.names, String.splitToList_of_valid]
    decide
  have hagree : place.AgreesBut defaultName { here := .directory [naming] } := ⟨.directory rfl, .nil⟩
  obtain ⟨hfile, -, hother⟩ := ((load_by_precedence place {}).2.2.1 _ hassigned).1 "my.toml" rfl
  exact ⟨hfile, hother hname _ hagree, ((load_by_precedence _ {}).2.1 _ rfl).1 rfl,
    (load_by_precedence _ {}).1 _ rfl⟩

/-- A NUL character in a variable that nothing asks for halts the search, although the environment names
a file with proper settings. -/
theorem load_halts_at_nul :
    let place : Place := { here := .directory [(".env", .file "NOTE=a\x00b\n".toUTF8),
      ("a.toml", .file "[select]\ndefault_limit = 2\n".toUTF8)] }
    let env : Environment := { bindings := [("SOQUERY_CONFIG", "a.toml".toUTF8)] }
    Dotenv.lineAssignments? env "NOTE=a\x00b".toList = some [("NOTE", "a\x00b")] ∧
      env.get? pathVariable = some "a.toml" ∧
      ofFile place "a.toml" = .ok { defaultLimit := some 2 } ∧ load place env = .error .halted := by
  intro place env
  have hnames : Place.names "a.toml" = ["a.toml"] := by
    rw [Place.names, String.splitToList_of_valid]
    decide
  have hread : place.read "a.toml" = .ok "[select]\ndefault_limit = 2\n" := by
    rw [Place.read, place.follow_relative "a.toml" (by decide) (by decide) (by decide) (by decide), hnames]
    rfl
  refine ⟨by decide, by decide, ?_, by decide⟩
  rw [ofFile, hread]
  decide +kernel

end SoqlSelect.Settings
