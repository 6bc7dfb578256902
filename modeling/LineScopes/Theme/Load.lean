import LineScopes.Document.Load
import LineScopes.Json.Document
import LineScopes.Theme.Basic

/-!
# Theme documents

Rules are written in two lists, the second of which comes after the first.
What is written for no scope replaces the defaults.
-/

namespace LineScopes

open Document (Format Field)

namespace Written

inductive Scope
  | one (selectors : String)
  | many (selectors : List String)

def Scope.ofValue : Document.Value → Option Scope
  | .text selectors => some (.one selectors)
  | .list items => (items.mapM Document.Value.text?).map .many
  | _ => none

def Scope.selectors : Scope → List Selector
  | one selectors => Selector.parseList selectors
  | many selectors => selectors.filterMap Selector.parse

structure ThemeRule where
  scope : Option Scope := none
  settings : StyleSettings := {}

structure Theme where
  settings : List ThemeRule := []
  tokenColors : List ThemeRule := []

variable {m : Type → Type} [Format m]

def optionalColor : m (Option String) := Format.optional (Format.text "a string")

def styleSettings : m StyleSettings := Format.record "StyleSettings" [
  .optional "foreground" optionalColor fun x s => { s with foreground := x },
  .optional "background" optionalColor fun x s => { s with background := x },
  .optional "fontStyle" optionalColor fun x s => { s with fontStyle := x }] {}

def ThemeRule.read : m ThemeRule := Format.record "RawThemeRule" [
  .optional "scope" (Format.optional (Format.choose "RawScope" Scope.ofValue))
    fun x r => { r with scope := x },
  .optional "settings" styleSettings fun x r => { r with settings := x }] {}

def Theme.read : m Theme := Format.record "RawTheme" [
  .optional "settings" (Format.list ThemeRule.read) fun x t => { t with settings := x },
  .optional "tokenColors" (Format.list ThemeRule.read) fun x t => { t with tokenColors := x }] {}

end Written

namespace ThemeDefaults

def replace (defaults : ThemeDefaults) (style : StyleSettings) : ThemeDefaults where
  foreground := style.foreground.getD defaults.foreground
  background := style.background.getD defaults.background

end ThemeDefaults

namespace Theme

def addWritten (theme : Theme) (written : Written.ThemeRule) : Theme :=
  match written.scope with
  | none => { theme with defaults := theme.defaults.replace written.settings }
  | some scope => { theme with rules := theme.rules ++ [⟨scope.selectors, written.settings⟩] }

def ofWritten (defaults : ThemeDefaults) (written : Written.Theme) : Theme :=
  (written.settings ++ written.tokenColors).foldl addWritten ⟨[], defaults⟩

def ofJson (defaults : ThemeDefaults) (path source : String) : Except LoadError Theme :=
  match Json.readDocument Written.Theme.read source with
  | .ok written => .ok (ofWritten defaults written)
  | .error message => .error (.badJson path message)

/-- Where a theme that is not read from a file comes from. -/
def inlineOrigin : String := "<inline>"

def load (defaults : ThemeDefaults) (files : FileSystem) (path : String) :
    Except LoadError Theme := do
  let source ← (files path).mapError (.unreadable path)
  ofJson defaults path source

end Theme

end LineScopes
