import LineScopes.Text.Blank

/-!
# Themes

A theme gives styles to paths of scopes. For each attribute of a style the
best of the rules counts that match the path and set the attribute.
-/

namespace LineScopes

structure StyleSettings where
  foreground : Option String := none
  background : Option String := none
  fontStyle : Option String := none
  deriving DecidableEq, Repr

structure ThemeDefaults where
  foreground : String := "#FFF"
  background : String := "#000"
  deriving DecidableEq, Repr

structure ResolvedStyle where
  foreground : String
  background : String
  fontStyle : Option String
  deriving DecidableEq, Repr

/-- A scope with what must be found further out in the path, the outermost first. -/
structure Selector where
  ancestors : List String
  last : String
  deriving DecidableEq, Repr

/-- What counts between selectors that match, from the most to the least: the depth of the scope
that the last element matches, the segments of that element, and the other elements. -/
structure Rank where
  depth : Nat
  segments : Nat
  ancestors : Nat
  deriving DecidableEq, Repr, Ord

namespace Selector

/-- A selector written with blanks between its elements. -/
def parse (text : String) : Option Selector :=
  match (Text.words text).reverse with
  | last :: ancestors => some ⟨ancestors.reverse, last⟩
  | [] => none

/-- Selectors with commas between them. -/
def parseList (text : String) : List Selector := (Text.split ',' text).filterMap parse

/-- Whether an element is a scope or all of its first segments. -/
def covers (element scope : String) : Bool :=
  element.toList.isPrefixOf scope.toList &&
    (scope.toList.drop element.length).head?.all (· = '.')

/-- Whether elements can be found in a path in their order; both begin at the inner end. -/
def findsAll : (elements path : List String) → Bool
  | [], _ => true
  | _ :: _, [] => false
  | element :: elements, scope :: path =>
    if covers element scope then findsAll elements path else findsAll (element :: elements) path

def segments (element : String) : Nat := (Text.split '.' element).length

/-- The best way to match a path whose innermost scope comes first. -/
def rankIn (selector : Selector) : List String → Option Rank
  | [] => none
  | scope :: outer =>
    if covers selector.last scope ∧ findsAll selector.ancestors.reverse outer then
      some ⟨outer.length, segments selector.last, selector.ancestors.length⟩
    else selector.rankIn outer

def rank (selector : Selector) (path : List String) : Option Rank := selector.rankIn path.reverse

end Selector

structure ThemeRule where
  selectors : List Selector
  style : StyleSettings
  deriving DecidableEq, Repr

/-- A rule for selectors with commas between them. -/
def ThemeRule.ofText (selectors : String) (style : StyleSettings) : ThemeRule :=
  ⟨Selector.parseList selectors, style⟩

/-- The greater of two ranks, the second one if they are equal. -/
def Rank.greater (a b : Rank) : Rank := if (compare b a).isLT then a else b

def ThemeRule.rank (rule : ThemeRule) (path : List String) : Option Rank :=
  (rule.selectors.filterMap (·.rank path)).foldl
    (fun best rank => some (match best with
      | some best => best.greater rank
      | none => rank)) none

structure Theme where
  rules : List ThemeRule
  defaults : ThemeDefaults
  deriving DecidableEq, Repr

namespace Theme

/-- The value of an attribute in the best of the rules; of equal ones the last. -/
def bestOf (path : List String) (setting : StyleSettings → Option String) :
    List ThemeRule → Option (Rank × String) → Option (Rank × String)
  | [], best => best
  | rule :: rules, best =>
    match rule.rank path, setting rule.style with
    | some rank, some value =>
      let stays := best.any fun (other, _) => (compare rank other).isLT
      bestOf path setting rules (if stays then best else some (rank, value))
    | _, _ => bestOf path setting rules best

def best? (theme : Theme) (path : List String) (setting : StyleSettings → Option String) :
    Option String :=
  (bestOf path setting theme.rules none).map (·.2)

/-- The style of scopes that are written with blanks between them, the outermost first. -/
def resolve (theme : Theme) (scopePath : String) : ResolvedStyle :=
  let path := Text.words scopePath
  { foreground := (theme.best? path (·.foreground)).getD theme.defaults.foreground
    background := (theme.best? path (·.background)).getD theme.defaults.background
    fontStyle := theme.best? path (·.fontStyle) }

end Theme

end LineScopes
