import LineScopes.Text.Blank

/-!
# Settings of a run

Which cases run and how. Settings come from variables of the environment.
-/

namespace LineScopes

structure RunConfig where
  /-- A part that the description of a case must have. -/
  filter : Option String := none
  parallel : Bool := false
  failFast : Bool := false
  deriving DecidableEq, Repr

namespace RunConfig

/-- Whether the value of a variable switches something on. -/
def isOn (value : String) : Bool :=
  ["1", "true", "yes", "on"].contains (Text.trim value).toLower

def ofLookup (lookup : String → Option String) : RunConfig where
  filter := (lookup "SCOPECHECK_FILTER").filter (¬ ·.isEmpty)
  parallel := (lookup "SCOPECHECK_PARALLEL").any isOn
  failFast := (lookup "SCOPECHECK_FAIL_FAST").any isOn

/-- Whether a case with this description runs. -/
def selects (config : RunConfig) (desc : String) : Bool :=
  config.filter.all (Text.containsText desc)

end RunConfig

end LineScopes
