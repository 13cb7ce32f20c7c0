import MonkeyTokens.Log.Pattern.Symbol

/-!
Classes of characters in brackets.

A class holds literals, ranges, named classes and other classes, and is made of several
such rows by the operations `&&`, `--` and `~~`. A circumflex at its beginning stands
for the complement. A closing bracket closes the class, unless it is the first of its
members, and hyphens at the beginning are members too. A hyphen between two literals
makes them a range, which has to ascend, but not before a closing bracket or another
hyphen.
-/

namespace MonkeyTokens.Log.Pattern

/-- Which part of a class is being read. -/
inductive ClassPlace where
  /-- The beginning, where a closing bracket is a member. -/
  | beginning
  /-- The hyphens at the beginning. -/
  | hyphens
  | members
deriving DecidableEq, Repr

/-- A class that is open. -/
structure Class where
  place : ClassPlace := .beginning
  row : Row := {}
  /-- The depth of what stands before the last operation. -/
  left : Option Nat := none
deriving DecidableEq, Repr, Inhabited

namespace Class

/-- Adds a member of some depth. -/
def push (k : Class) (depth : Nat) (place : ClassPlace) : Class :=
  { k with place, row := k.row.push depth }

/-- How deep everything that has been read of the class is nested. -/
def depth (k : Class) : Nat :=
  match k.left with
  | none => k.row.depth
  | some left => max left k.row.depth + 1

/-- Begins the row after an operation. -/
def operate (k : Class) : Class := { place := .members, left := some k.depth }

/-- The names of classes that may stand between colons. -/
def names : List String :=
  ["alnum", "alpha", "ascii", "blank", "cntrl", "digit", "graph", "lower", "print", "punct",
   "space", "upper", "word", "xdigit"]

/-- Reads a name between colons and the bracket that closes it, and tells whether the
complement is meant. -/
def named? : List Char → Option (Bool × List Char)
  | ':' :: cs =>
    let negated := cs.head? = some '^'
    let cs := if negated then cs.drop 1 else cs
    match cs.dropWhile (· != ':') with
    | ':' :: ']' :: rest =>
      if names.contains (String.ofList (cs.takeWhile (· != ':'))) then some (negated, rest)
      else none
    | _ => none
  | _ => none

/-- Reads what follows the bracket that opens a class. -/
def opened? (o : Options) (cs : List Char) : Option (List Char) :=
  match o.pass cs with
  | '^' :: cs => if o.beyondAscii then some cs else none
  | cs => some cs

/-- Reads a symbol in a class. -/
def symbol? (o : Options) : List Char → Option (Symbol × List Char)
  | [] => none
  | '\\' :: cs => escape? o cs
  | c :: cs => some (.literal c, cs)

/-- Reads a member: a symbol or a range of two. -/
def member? (o : Options) (cs : List Char) : Option (List Char) := do
  let (first, rest) ← symbol? o cs
  let single : Option (List Char) := if o.allowsMember first then some rest else none
  match o.pass rest with
  | '-' :: more =>
    if o.ahead more = some ']' ∨ o.ahead more = some '-' then single
    else
      let (last, rest) ← symbol? o (o.pass more)
      let a ← first.char?
      let b ← last.char?
      if a ≤ b && o.allowsMember first && o.allowsMember last then some rest else none
  | _ => single

/-- Reads the next part of the innermost of some open classes. No class is left open
where the outermost one is closed, whose depth is then told. -/
def step? (o : Options) (k : Class) (outer : List Class) (cs : List Char) :
    Option ((Nat ⊕ List Class) × List Char) :=
  match k.place, cs with
  | .beginning, '-' :: cs | .hyphens, '-' :: cs =>
    if o.allowsMember (.literal '-') then some (.inr (k.push 0 .hyphens :: outer), cs) else none
  | .beginning, ']' :: cs =>
    if o.allowsMember (.literal ']') then some (.inr (k.push 0 .members :: outer), cs) else none
  | _, '[' :: cs =>
    match named? cs with
    | some (negated, cs) =>
      if o.allowsName negated then some (.inr (k.push 0 .members :: outer), cs) else none
    | none => do return (.inr ({} :: k :: outer), ← opened? o cs)
  | _, ']' :: cs =>
    match outer with
    | [] => some (.inl (k.depth + 1), cs)
    | parent :: outer => some (.inr (parent.push (k.depth + 1) .members :: outer), cs)
  | _, '&' :: '&' :: cs | _, '-' :: '-' :: cs | _, '~' :: '~' :: cs =>
    some (.inr (k.operate :: outer), cs)
  | _, cs => do return (.inr (k.push 0 .members :: outer), ← member? o cs)

end Class

end MonkeyTokens.Log.Pattern
