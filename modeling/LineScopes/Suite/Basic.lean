import LineScopes.Case
import LineScopes.Document.Load
import LineScopes.Files.Path
import LineScopes.Json.Document
import LineScopes.Yaml.Document

/-!
# Test suites

A suite is a list of cases. Each names the grammar that it tests, by path or
by scope name, and the grammars that are registered for it; paths are seen
from the directory of the suite.
-/

namespace LineScopes

open Document (Format Field)

structure TestCase where
  desc : String := ""
  grammarScopeName : Option String := none
  grammarPath : Option String := none
  grammars : List String := []
  lines : List LineCase := []
  skip : Bool := false
  deriving DecidableEq, Repr

namespace TestCase

/-- The grammars that are registered, in their order. -/
def references (case : TestCase) : List String := case.grammars ++ case.grammarPath.toList

/-- The name in reports of the case with an index. -/
def label (case : TestCase) (index : Nat) : String :=
  if case.desc.isEmpty then "case #" ++ toString index else case.desc

end TestCase

section

variable {m : Type → Type} [Format m]

def anyText : m String := Format.text "a string"

def pathText : m String := Format.text "path string"

def ExpectedToken.read : m ExpectedToken := Format.record "ExpectedToken" [
  .required "value" anyText fun x t => { t with value := x },
  .optional "scopes" (Format.list anyText) fun x t => { t with scopes := x }] { value := "" }

def LineCase.read : m LineCase := Format.record "LineCase" [
  .required "line" anyText fun x l => { l with line := x },
  .optional "tokens" (Format.list ExpectedToken.read) fun x l => { l with tokens := x }]
  { line := "" }

def TestCase.read : m TestCase := Format.record "TestCase" [
  .optional "desc" anyText fun x c => { c with desc := x },
  .optional "grammarScopeName" (Format.optional anyText)
    fun x c => { c with grammarScopeName := x },
  .optional "grammarPath" (Format.optional pathText) fun x c => { c with grammarPath := x },
  .optional "grammars" (Format.list pathText) fun x c => { c with grammars := x },
  .optional "lines" (Format.list LineCase.read) fun x c => { c with lines := x },
  .optional "skip" Format.boolean fun x c => { c with skip := x }] {}

end

structure Suite where
  cases : List TestCase
  /-- The directory that paths of grammars are seen from. -/
  baseDir : String
  deriving DecidableEq, Repr

namespace Suite

def casesOfJson (path source : String) : Except LoadError (List TestCase) :=
  (Json.readDocument (Format.list TestCase.read) source).mapError (.badJson path)

def casesOfYaml (path source : String) : Except LoadError (List TestCase) :=
  (Yaml.readDocument (Format.list TestCase.read) source).mapError (.badYaml path)

/-- A suite that is not read from a file; its directory stands for it in messages. -/
def ofJson (baseDir source : String) : Except LoadError Suite :=
  return { cases := ← casesOfJson baseDir source, baseDir }

def ofYaml (baseDir source : String) : Except LoadError Suite :=
  return { cases := ← casesOfYaml baseDir source, baseDir }

/-- The name of the file tells the format. -/
def load (files : FileSystem) (path : String) : Except LoadError Suite := do
  let source ← (files path).mapError (.unreadable path)
  let cases ←
    if Path.isJson path then casesOfJson path source
    else if Path.isYaml path then casesOfYaml path source
    else throw (.unknownFormat path)
  return { cases, baseDir := Path.parent path }

end Suite

end LineScopes
