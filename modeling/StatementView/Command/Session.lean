import StatementView.Binding.Json
import StatementView.Command.Configuration
import StatementView.Command.Files
import StatementView.Command.Help
import StatementView.Markup.Backend
import StatementView.Placeholder.Substitution
import StatementView.Summary.Basic

namespace StatementView.Command

open Markup (Classes)
open Summary (Settings SettingsFault)

/-- What the program takes from other hands: the layout of a statement, its clause bodies indented
by a number of blanks, and the readers of JSON documents and of configuration files. -/
structure Libraries where
  layout : Nat → Text → Text
  json : Reader Json
  configuration : Reader Configuration

structure World where
  input : List UInt8
  look : Text → Node

structure Outcome where
  code : Nat
  output : Text
  errors : Text

inductive Failure where
  | arguments (fault : ArgumentFault)
  | unreadableConfiguration (path : Text) (fault : ReadFault)
  | configuration (path : Text) (fault : ConfigurationFault)
  | settings (fault : SettingsFault)
  | noStatement
  | unreadableInput (fault : ReadFault)
  | unreadable (path : Text) (fault : ReadFault)
  | inlineBindings (fault : BindingFault)
  | fileBindings (path : Text) (fault : BindingFault)
  | noDocument (reason : Option Text)

def Failure.message : Failure → Text
  | .arguments fault => fault.message
  | .unreadableConfiguration path fault =>
    "failed to read config file ".toList ++ path ++ ": ".toList ++ fault.message
  | .configuration path fault =>
    "invalid config file ".toList ++ path ++ ": ".toList ++ fault.message
  | .settings fault => fault.message
  | .noStatement => "no SQL provided (pass files or pipe SQL to stdin)".toList
  | .unreadableInput fault => "failed to read stdin: ".toList ++ fault.message
  | .unreadable path fault => "failed to read ".toList ++ path ++ ": ".toList ++ fault.message
  | .inlineBindings fault => "invalid --params: ".toList ++ fault.message?.getD untold
  | .fileBindings path fault =>
    "invalid parameters in ".toList ++ path ++ ": ".toList ++ fault.message?.getD untold
  | .noDocument reason => "invalid JSON value: ".toList ++ reason.getD untold

structure Statement where
  label : Text
  text : Text

namespace World

def read (w : World) (path : Text) : Except Failure Text :=
  (w.look path).read.mapError (.unreadable path)

def statement (w : World) (path : Text) : Except Failure Statement := do
  let t ← w.read path
  pure ⟨path, t.trimEnd⟩

def inputStatement (w : World) : Except Failure Statement := do
  let t ← (readBytes w.input).mapError .unreadableInput
  if t.trim.isEmpty then .error .noStatement else .ok ⟨"stdin".toList, t.trimEnd⟩

def statements (w : World) (files : List Text) : Except Failure (List Statement) :=
  if files.isEmpty then do
    let s ← w.inputStatement
    pure [s]
  else files.mapM w.statement

end World

def printed (lines : List Text) : Text := lines.flatMap (· ++ ['\n'])

/-- A run under way: it may fail, and what it has printed by then stays printed. -/
abbrev Session := ExceptT Failure (StateM Text)

def Session.ending {α : Type} (x : Session α) (output : Text) : Except Failure α × Text :=
  x.run.run output

def print (line : Text) : Session Unit := modify (· ++ printed [line])

/-- A line for each statement, all of which are read before the first is printed. What is printed
may depend on whether there are several. -/
def World.printEach (w : World) (files : List Text) (line : Bool → Statement → Text) :
    Session Unit := do
  let statements ← w.statements files
  statements.forM fun s ↦ print (line (statements.length > 1) s)

def escape (json : Reader Json) (document : Text) : Session Unit :=
  match json document with
  | .ok j => print (Value.ofJson j).literal
  | .error reason => throw (.noDocument reason)

namespace Libraries

variable (l : Libraries) (w : World)

def configurationAt (path : Text) : Except Failure Configuration :=
  if (w.look path).isThere then do
    let t ← (w.look path).read.mapError (.unreadableConfiguration path)
    (Configuration.read l.configuration t).mapError (.configuration path)
  else .ok .default

def settings (o : SummaryOptions) : Except Failure Settings := do
  let configuration ← l.configurationAt w o.config
  let settings := configuration.settings
  ({ settings with width := o.width.getD settings.width }).check.mapError .settings

def bindings : Source → Except Failure Bindings
  | .nothing => .ok .empty
  | .inline document => (Bindings.read l.json document).mapError .inlineBindings
  | .file path => do
    let t ← w.read path
    (Bindings.read l.json t).mapError (.fileBindings path)

/-- The classes of markup from the configuration at a path, of which the settings must be fit, too.
-/
def classes (path : Text) : Except Failure Classes := do
  let configuration ← l.configurationAt w path
  let _ ← configuration.settings.check.mapError .settings
  pure configuration.classes

def backend : Markup.Backend := .spans (l.layout 2)

def minify (a : Arguments SummaryOptions) : Session Unit := do
  let settings ← l.settings w a.options
  w.printEach a.files fun several s ↦
    let summary := settings.summarize s.text
    if several then s.label ++ ": ".toList ++ summary else summary

def subst (a : Arguments Source) : Session Unit := do
  let bindings ← l.bindings w a.options
  w.printEach a.files fun _ s ↦ Placeholder.substitute bindings s.text

def html (a : Arguments MarkupOptions) : Session Unit := do
  let classes ← l.classes w a.options.config
  w.printEach a.files fun _ s ↦ l.backend.render classes s.text a.options.highlightOnly

def perform : Request → Session Unit
  | .help topic => print topic.text
  | .minify a => l.minify w a
  | .subst a => l.subst w a
  | .escape document => escape l.json document
  | .html a => l.html w a

def session (arguments : List Text) : Session Unit := do
  let request ← (parse arguments).mapError Failure.arguments
  l.perform w request

def run (arguments : List Text) : Outcome :=
  match (l.session w arguments).ending [] with
  | (.ok (), output) => ⟨0, output, []⟩
  | (.error failure, output) => ⟨1, output, printed [failure.message]⟩

end Libraries

end StatementView.Command
