import LineScopes.Engine
import LineScopes.Text.Blank
import LineScopes.Text.Number
import LineScopes.Unicode.CaseMapping

/-!
# Names with references to capture groups

The name of a rule may contain the text of the capture groups of its match,
as in `meta.$1` or `meta.${1:/downcase}`. A dollar sign that begins no
reference stands for itself, and inserted text is not looked at again.
-/

namespace LineScopes.NameTemplate

inductive Letters
  | asCaptured
  | lower
  | upper
  deriving DecidableEq, Repr

inductive Piece
  | char (c : Char)
  | group (number : Nat) (letters : Letters)
  deriving DecidableEq, Repr

def letters? (word : List Char) : Option Letters :=
  if word = "/downcase".toList then some .lower
  else if word = "/upcase".toList then some .upper
  else none

/-- What stands between the braces of a reference. -/
def braced? (body : List Char) : Option Piece :=
  let number := Text.number? (body.takeWhile (· ≠ ':'))
  match body.dropWhile (· ≠ ':') with
  | [] => number.map (.group · .asCaptured)
  | _ :: word => do return .group (← number) (← letters? word)

/-- The reference that begins after a dollar sign, and what follows it. -/
def reference? (rest : List Char) : Option (Piece × List Char) :=
  match rest with
  | '\x7b' :: inner =>
    match inner.dropWhile (· ≠ '\x7d') with
    | _ :: after => (braced? (inner.takeWhile (· ≠ '\x7d'))).map (·, after)
    | [] => none
  | _ =>
    (Text.digits? (rest.takeWhile Char.isDigit)).map fun number =>
      (.group number .asCaptured, rest.dropWhile Char.isDigit)

theorem length_dropWhile_le (p : α → Bool) (l : List α) : (l.dropWhile p).length ≤ l.length :=
  (List.dropWhile_suffix p).length_le

theorem reference?_length {rest after : List Char} (h : reference? rest = some (piece, after)) :
    after.length ≤ rest.length := by
  unfold reference? at h
  split at h
  · next inner =>
    have hd := length_dropWhile_le (· ≠ '\x7d') inner
    split at h
    · next _ tail heq =>
      simp only [Option.map_eq_some_iff, Prod.mk.injEq] at h
      obtain ⟨_, _, _, rfl⟩ := h
      rw [heq] at hd
      simp only [List.length_cons] at hd ⊢
      omega
    · contradiction
  · simp only [Option.map_eq_some_iff, Prod.mk.injEq] at h
    obtain ⟨_, _, _, rfl⟩ := h
    exact length_dropWhile_le _ _

/-- The template cut into characters and references, from left to right. -/
def pieces : List Char → List Piece
  | [] => []
  | '$' :: rest =>
    match h : reference? rest with
    | some (piece, after) =>
      have := reference?_length h
      piece :: pieces after
    | none => .char '$' :: pieces rest
  | c :: rest => .char c :: pieces rest
termination_by template => template.length

/-- Captured text begins no empty segment of a name. -/
def Piece.text (groups : Groups) (text : String) : Piece → String
  | .char c => c.toString
  | .group number letters =>
    let captured := String.ofList ((groups.captured text number).toList.dropWhile (· = '.'))
    match letters with
    | .asCaptured => captured
    | .lower => Unicode.lowercase captured
    | .upper => Unicode.uppercase captured

def substitute (template : String) (groups : Groups) (text : String) : String :=
  String.join ((pieces template.toList).map (Piece.text groups text))

/-- The scopes that a name stands for; none if there is no name. -/
def scopes (name : Option String) (groups : Groups) (text : String) : List String :=
  match name with
  | some template => Text.words (substitute template groups text)
  | none => []

end LineScopes.NameTemplate
