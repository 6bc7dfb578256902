/-!
# Reading documents

Grammars, suites and themes are written in JSON or YAML. A description of a
record is written once, over the readers of a document format: which fields it
has, which of them are required, and how each changes the record.
-/

namespace LineScopes.Document

/-- A document whose form is not known beforehand. -/
inductive Value
  | null
  | boolean (b : Bool)
  | integer (n : Int)
  | real
  | text (s : String)
  | list (items : List Value)
  | map (entries : List (String × Value))
  deriving Inhabited

def Value.text? : Value → Option String
  | text s => some s
  | _ => none

structure Field (m : Type → Type) (ρ : Type) where
  name : String
  isRequired : Bool
  read : m (ρ → ρ)

class Format (m : Type → Type) extends Monad m where
  /-- Text, described as `expected` where something else stands. -/
  text : (expected : String) → m String
  boolean : m Bool
  /-- Nothing at all, or what the reader reads. -/
  optional {α : Type} : m α → m (Option α)
  list {α : Type} : m α → m (List α)
  /-- Entries in the order of their first keys; the last entry of a key counts. -/
  entries {α : Type} : m α → m (List (String × α))
  record {ρ : Type} : (name : String) → List (Field m ρ) → ρ → m ρ
  /-- Any value, as long as the choice takes it. -/
  choose {α : Type} : (name : String) → (Value → Option α) → m α
  tooDeep {α : Type} : m α

def Field.optional [Functor m] (name : String) (read : m α) (set : α → ρ → ρ) : Field m ρ :=
  ⟨name, false, set <$> read⟩

def Field.required [Functor m] (name : String) (read : m α) (set : α → ρ → ρ) : Field m ρ :=
  ⟨name, true, set <$> read⟩

/-- The entry of a key, replaced where it stands or added at the end. -/
def put (entries : List (String × α)) (key : String) (value : α) : List (String × α) :=
  match entries with
  | [] => [(key, value)]
  | (other, old) :: rest =>
    if other = key then (key, value) :: rest else (other, old) :: put rest key value

def minInt64 : Int := -0x8000000000000000

def maxInt64 : Int := 0x7FFFFFFFFFFFFFFF

/-- A boolean, or an integer that stands for one. -/
def flag [Format m] : m Bool :=
  Format.choose "Flag" fun
    | .boolean b => some b
    | .integer n => if minInt64 ≤ n ∧ n ≤ maxInt64 then some (n ≠ 0) else none
    | _ => none

end LineScopes.Document
