import StatementView.Command.Session
import StatementView.Markup.Layout
import StatementView.Toml.Basic

namespace StatementView.Command

open Markup (Classes)
open Summary (Settings)

namespace Configuration

def table? (d : Toml) (table : String) (names : List Text) : Option (Text → Option Toml.Value) :=
  let misplaced (name : Text) : Bool :=
    d.reaches [table.toList, name] && (d.get? [table.toList, name]).isNone
  if (d.get? [table.toList]).isSome ∨ names.any misplaced then none
  else some fun name ↦ d.get? [table.toList, name]

def string? : Toml.Value → Option Text
  | .string t => some t
  | _ => none

def width? : Toml.Value → Option Nat
  | .integer n => if 0 ≤ n ∧ n < Decimal.wordBound then some n.toNat else none
  | _ => none

def ofToml? (d : Toml) : Option Configuration := do
  let version ← (← d.get? ["version".toList]) |> string?
  let settings ← table? d "minify" ["max_char_width".toList, "truncation_marker".toList]
  let classes ← table? d "markup" Classes.names
  pure
    { version := version
      settings := ← Settings.read? width? string? settings
      classes := ← Classes.read? string? classes }

end Configuration

/-- The layout and the readers that the program is built with here. They cover less than those they
stand for, see `Markup.layout` and `Toml`, and keep their reasons to themselves. -/
def Libraries.standard : Libraries where
  layout := Markup.layout
  json := Json.read
  configuration := .ofOption fun t ↦ (Toml.ofText? t).bind Configuration.ofToml?

def run : World → List Text → Outcome := Libraries.standard.run

def Request.paths : Request → List Text
  | .minify a => a.options.config :: a.files
  | .subst a =>
    match a.options with
    | .file path => path :: a.files
    | _ => a.files
  | .html a => a.options.config :: a.files
  | _ => []

def Request.readsInput : Request → Bool
  | .minify a => a.files.isEmpty
  | .subst a => a.files.isEmpty
  | .html a => a.files.isEmpty
  | _ => false

end StatementView.Command
