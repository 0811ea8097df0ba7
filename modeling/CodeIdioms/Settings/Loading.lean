import CodeIdioms.Settings.Basic
import CodeIdioms.FileFault

/-! # Loading settings

Settings are read from the text of a document and then checked; a settings file may also be
missing or unreadable. -/

namespace CodeIdioms

/-- Why settings cannot be used. -/
inductive SettingsError where
  | unreadable (path : String) (fault : FileFault)
  | parse (problem : Document.Problem)
  | invalid (option : InvalidOption)
deriving Repr

namespace SettingsError

/-- The text of an error. -/
def message : SettingsError → String
  | unreadable path f => "failed to read configuration " ++ path ++ ": " ++ f.message
  | parse p => "failed to parse configuration: " ++ p.message
  | invalid o => o.message

/-- The text of what an error goes back to, if that is an error of its own. -/
def cause? : SettingsError → Option String
  | unreadable _ f => some f.message
  | parse p => some p.message
  | invalid _ => none

end SettingsError

namespace Settings

/-- Settings that meet all conditions. -/
def checked (s : Settings) : Except SettingsError Settings :=
  match s.invalidOption? with
  | some o => .error (.invalid o)
  | none => .ok s

/-- Settings from the text of a document, checked. -/
def ofText (text : String) : Except SettingsError Settings :=
  match codec.readText text with
  | .error p => .error (.parse p)
  | .ok s => s.checked

/-- Settings from a file that has been read, or has not. -/
def ofFile (path : String) (contents : Except FileFault String) : Except SettingsError Settings :=
  match contents with
  | .error f => .error (.unreadable path f)
  | .ok text => ofText text

end Settings

end CodeIdioms
