import LineScopes.Grammar.Rule

/-!
# Scope stacks

The rules that are open at some point of a document, each with the scopes
that it gives to text. The root stands for the top level of the grammar that
is tokenized, and is never closed. Scopes are listed with the outermost first.
-/

namespace LineScopes

/-- A rule together with the grammar that it belongs to. -/
structure RuleRef (ρ : Type) where
  grammar : Grammar ρ
  id : RuleId
  deriving DecidableEq

namespace RuleRef

def rule (ref : RuleRef ρ) : Rule ρ := ref.grammar.rule ref.id

/-- Grammars that can be reached from one another have different scope names. -/
def key (ref : RuleRef ρ) : String × RuleId := (ref.grammar.scopeName, ref.id)

def root (grammar : Grammar ρ) : RuleRef ρ := ⟨grammar, grammar.root⟩

end RuleRef

structure Frame (ρ : Type) where
  owner : RuleRef ρ
  /-- The scopes up to and including the name of the rule. -/
  nameScopes : List String
  /-- The scopes between the begin match and the end. -/
  contentScopes : List String
  /-- The end or while pattern with the captured text in place of its back-references. -/
  ending : Option String := none
  /-- The position in the current line at which the rule was looked for. -/
  entered : Option Nat := none
  /-- The end of the last match before the rule was entered, kept for when it is left. -/
  anchor : Option Nat := none
  /-- The begin match took the line's end. -/
  tookLineEnd : Bool := false

namespace Frame

def new (owner : RuleRef ρ) (scopes : List String) (entered : Option Nat) : Frame ρ :=
  { owner, nameScopes := scopes, contentScopes := scopes, entered }

def rule (frame : Frame ρ) : Rule ρ := frame.owner.rule

/-- Positions within a line do not count. -/
def same (a b : Frame ρ) : Bool :=
  a.owner.key = b.owner.key ∧ a.nameScopes = b.nameScopes ∧ a.contentScopes = b.contentScopes ∧
    a.ending = b.ending ∧ a.tookLineEnd = b.tookLineEnd

def endLine (frame : Frame ρ) : Frame ρ := { frame with entered := none, anchor := none }

end Frame

instance : BEq (Frame ρ) := ⟨Frame.same⟩

structure Stack (ρ : Type) where
  root : Frame ρ
  /-- The frames above the root, the topmost first. -/
  frames : List (Frame ρ)
  /-- No line has been tokenized yet. -/
  firstLine : Bool

namespace Stack

def same (a b : Stack ρ) : Bool :=
  a.root == b.root && a.frames == b.frames && a.firstLine == b.firstLine

instance : BEq (Stack ρ) := ⟨same⟩

def initial (base : Grammar ρ) : Stack ρ where
  root := .new (.root base) [base.scopeName] none
  frames := []
  firstLine := true

def depth (stack : Stack ρ) : Nat := stack.frames.length

def top (stack : Stack ρ) : Frame ρ := stack.frames.headD stack.root

/-- The scopes of text at this point. -/
def scopes (stack : Stack ρ) : List String := stack.top.contentScopes

def push (stack : Stack ρ) (frame : Frame ρ) : Stack ρ :=
  { stack with frames := frame :: stack.frames }

/-- The root stays. -/
def pop (stack : Stack ρ) : Stack ρ := { stack with frames := stack.frames.tail }

def mapTop (stack : Stack ρ) (change : Frame ρ → Frame ρ) : Stack ρ :=
  match stack.frames with
  | frame :: below => { stack with frames := change frame :: below }
  | [] => { stack with root := change stack.root }

/-- Whether a rule was entered at a position of the current line and is still open. -/
def hasEntered (stack : Stack ρ) (ref : RuleRef ρ) (pos : Nat) : Bool :=
  (stack.frames ++ [stack.root]).any fun frame =>
    frame.entered = some pos ∧ frame.owner.key = ref.key

/-- Positions are forgotten when a line is done. -/
def endLine (stack : Stack ρ) : Stack ρ where
  root := stack.root.endLine
  frames := stack.frames.map Frame.endLine
  firstLine := false

end Stack

end LineScopes
