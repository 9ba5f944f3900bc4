import StatementView.Text.Blank
import StatementView.Markup.Classes
import StatementView.Summary.Settings

namespace StatementView.Command

open Markup (Classes)
open Summary (Settings SettingsFault)

structure Configuration where
  version : Text
  settings : Settings
  classes : Classes

inductive ConfigurationFault where
  | malformed (reason : Option Text)
  | unsupported (version : Text)
  | unfit (fault : SettingsFault)

def untold : Text := "...".toList

def ConfigurationFault.message : ConfigurationFault → Text
  | .malformed reason => reason.getD untold
  | .unsupported version => "unsupported config version: ".toList ++ version
  | .unfit fault => fault.message

namespace Configuration

def default : Configuration := ⟨['1'], .default, .default⟩

def check (c : Configuration) : Except ConfigurationFault Configuration :=
  if c.version.trim ≠ ['1'] then .error (.unsupported c.version)
  else
    match c.settings.check with
    | .error fault => .error (.unfit fault)
    | .ok _ => .ok c

def read (file : Reader Configuration) (t : Text) : Except ConfigurationFault Configuration :=
  match file t with
  | .ok configuration => configuration.check
  | .error reason => .error (.malformed reason)

end Configuration

end StatementView.Command
