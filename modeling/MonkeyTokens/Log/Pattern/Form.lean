import MonkeyTokens.Log.Pattern.Class
import MonkeyTokens.Text.Alphanumeric

/-!
The form of a pattern.

`Pattern.isWellFormed` tells whether a text is a pattern: its groups and classes are
closed, a repetition has something to repeat, every symbol may stand where it stands,
groups have different names, and nothing is nested too deep. Options hold from where
they are set to the end of their group. Counted repetitions, references to groups and
groups that look ahead or behind do not belong to the language.
-/

namespace MonkeyTokens.Log.Pattern

/-! ### Reading -/

/-- A group that is open, or the pattern itself. -/
structure Group where
  options : Options := {}
  /-- What has been read since the last vertical bar. -/
  row : Row := {}
  /-- The depth of the deepest alternative before the last vertical bar. -/
  alternatives : Option Nat := none
  /-- The depth of the part that a repetition would repeat. -/
  operand : Option Nat := none
deriving DecidableEq, Repr, Inhabited

namespace Group

/-- Adds a part of some depth that can be repeated. -/
def push (g : Group) (depth : Nat) : Group :=
  { g with row := g.row.push depth, operand := some depth }

/-- Repeats the last part. -/
def repeated? (g : Group) : Option Group := do
  let depth := (← g.operand) + 1
  return { g with row := { g.row with deepest := max g.row.deepest depth }, operand := some depth }

/-- Begins another alternative. -/
def alternate (g : Group) : Group :=
  { g with
    row := {}, operand := none, alternatives := some (max (g.alternatives.getD 0) g.row.depth) }

/-- Sets options inside the group. -/
def setOptions (g : Group) (o : Options) : Group :=
  { g with options := o, row := g.row.push 0, operand := none }

/-- How deep everything that has been read of the group is nested. -/
def depth (g : Group) : Nat :=
  match g.alternatives with
  | none => g.row.depth
  | some alternatives => max alternatives g.row.depth + 1

end Group

/-- What has been read of a pattern. -/
structure Reading where
  group : Group := {}
  /-- The groups around the innermost one. -/
  outer : List Group := []
  /-- The classes that are open, the innermost one first. -/
  classes : List Class := []
  /-- The names of groups. -/
  names : List String := []
deriving DecidableEq, Repr, Inhabited

namespace Reading

/-- Opens a group. -/
def opening (r : Reading) (o : Options) : Reading :=
  { r with group := { options := o }, outer := r.group :: r.outer }

/-- Whether a text can be the name of a group. -/
def isName : List Char → Bool
  | [] => false
  | c :: cs =>
    (c == '_' || Text.isAlphabetic c)
      && cs.all fun c => Text.isAlphanumeric c || c == '_' || c == '.' || c == '[' || c == ']'

/-- Reads the name of a group, up to an angle bracket, and opens the group. -/
def openNamed? (r : Reading) (cs : List Char) : Option (Reading × List Char) :=
  let name := cs.takeWhile (· != '>')
  match cs.dropWhile (· != '>') with
  | [] => none
  | _ :: rest =>
    if isName name && !r.names.contains (String.ofList name) then
      some ({ r.opening r.group.options with names := String.ofList name :: r.names }, rest)
    else none

/-- Reads what follows an opening parenthesis: the beginning of a group, with a name, with
options or plain, or options for the rest of the group around it. -/
def enter? (r : Reading) (cs : List Char) : Option (Reading × List Char) :=
  match r.group.options.pass cs with
  | '?' :: 'P' :: '<' :: cs | '?' :: '<' :: cs => r.openNamed? cs
  | '?' :: ')' :: _ => none
  | '?' :: cs => do
    match ← r.group.options.read? [] cs with
    | (o, ')' :: rest) => return ({ r with group := r.group.setOptions o }, rest)
    | (o, rest) => return (r.opening o, rest.drop 1)
  | cs => some (r.opening r.group.options, cs)

/-- Adds a symbol outside of brackets, if it may stand there. -/
def symbol? (r : Reading) (s : Symbol) : Option Reading :=
  if r.group.options.allows s then some { r with group := r.group.push 0 } else none

/-- Reads the next part of a pattern. -/
def step? (r : Reading) (cs : List Char) : Option (Reading × List Char) :=
  match r.classes with
  | k :: outer => do
    match ← k.step? r.group.options outer cs with
    | (.inl depth, rest) => return ({ r with classes := [], group := r.group.push depth }, rest)
    | (.inr classes, rest) => return ({ r with classes }, rest)
  | [] =>
    match cs with
    | [] => none
    | '(' :: cs => r.enter? cs
    | ')' :: cs =>
      match r.outer with
      | [] => none
      | parent :: outer => some ({ r with group := parent.push (r.group.depth + 1), outer }, cs)
    | '|' :: cs => some ({ r with group := r.group.alternate }, cs)
    | '[' :: cs => do return ({ r with classes := [{}] }, ← Class.opened? r.group.options cs)
    | '*' :: '?' :: cs | '+' :: '?' :: cs | '?' :: '?' :: cs | '*' :: cs | '+' :: cs | '?' :: cs =>
      do return ({ r with group := ← r.group.repeated? }, cs)
    | '\x7b' :: _ => none
    | '\\' :: cs => do
      let (s, cs) ← escape? r.group.options cs
      return (← r.symbol? s, cs)
    | '.' :: cs => do return (← r.symbol? .any, cs)
    | '^' :: cs | '$' :: cs => do return (← r.symbol? .anchor, cs)
    | c :: cs => do return (← r.symbol? (.literal c), cs)

/-- How deep the parts of a pattern may be nested. -/
def deepest : Nat := 250

/-- Whether a pattern may end here. -/
def isComplete (r : Reading) : Bool :=
  r.outer.isEmpty && r.classes.isEmpty && r.group.depth ≤ deepest

/-- Whether the rest of a pattern is well formed. Every part takes up a part of the
text. -/
def accepts (r : Reading) (cs : List Char) : Bool :=
  match r.group.options.pass cs with
  | [] => r.isComplete
  | visible =>
    match r.step? visible with
    | none => false
    | some (r, rest) => if _shorter : rest.length < cs.length then accepts r rest else false
termination_by cs.length

end Reading

/-- Whether a text is a pattern. -/
def isWellFormed (text : String) : Bool := ({} : Reading).accepts text.toList

end MonkeyTokens.Log.Pattern
