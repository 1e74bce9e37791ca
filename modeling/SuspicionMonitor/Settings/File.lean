import SuspicionMonitor.Settings.Reading
import SuspicionMonitor.Settings.Validation
import SuspicionMonitor.Toml.Document

/-!
# Settings from one file

A file that is read on its own has to say what it means: nothing is converted,
and only valid settings are accepted.
-/

namespace SuspicionMonitor

inductive FileError where
  | unreadable
  | malformed
  | invalid (cause : InvalidSettings)

/-- A date is a table whose only key names no setting, so it may stand for a
section that sets nothing. -/
def fileDialect : Toml.Dialect where
  addsToImplied := false
  moment text := .table [("date", .text text)]

/-- The settings in the text of a file; without a text there is no such
file. -/
def Settings.ofFile (text : Option String) : Except FileError Settings :=
  match text with
  | none => .error .unreadable
  | some text =>
      match (Data.ofToml? fileDialect text).bind (Settings.read .toml .standard) with
      | none => .error .malformed
      | some settings => settings.validate.mapError .invalid

end SuspicionMonitor
