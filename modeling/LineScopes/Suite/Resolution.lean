import LineScopes.Suite.Basic

/-!
# The grammars of a case

Each case has a registry of its own, with the grammars that it refers to.
-/

namespace LineScopes

/-- Registers the grammars of files in their order. -/
def Registry.load (engine : Engine ρ) (files : FileSystem) (baseDir : String)
    (references : List String) : Except (Halt CaseError) (Registry ρ) :=
  references.foldlM (fun registry reference => do
    let grammar ← (Grammar.load engine files (Path.join baseDir reference)).mapError (.map .load)
    return registry.insert grammar) .empty

def Registry.ofCase (engine : Engine ρ) (files : FileSystem) (baseDir : String)
    (case : TestCase) : Except (Halt CaseError) (Registry ρ) :=
  Registry.load engine files baseDir case.references

/-- The grammar that a case is tokenized with: the one at its path if it gives one, else the
one registered under the scope name. -/
def TestCase.grammar (case : TestCase) (engine : Engine ρ) (files : FileSystem)
    (baseDir : String) (registry : Registry ρ) : Except (Halt CaseError) (Grammar ρ) :=
  match case.grammarPath with
  | some path => (Grammar.load engine files (Path.join baseDir path)).mapError (.map .load)
  | none =>
    match case.grammarScopeName.bind registry.get? with
    | some grammar => .ok grammar
    | none => .error (.error (.grammarNotFound case.grammarScopeName))

/-- Tokenizes and validates the lines of a case. -/
def TestCase.run (case : TestCase) (engine : Engine ρ) (maxNesting : Nat) (files : FileSystem)
    (baseDir : String) : Except (Halt CaseError) Unit := do
  let registry ← Registry.ofCase engine files baseDir case
  let base ← case.grammar engine files baseDir registry
  let tokenizer : Tokenizer ρ := { base, registry, engine, maxNesting }
  match (tokenizer.lineTokenizer.drive case.lines).run [] with
  | .ok () _ => return
  | .error e _ => throw e

end LineScopes
