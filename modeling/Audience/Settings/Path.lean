import Audience.Settings.Value

/-!
# Paths of settings

A key of a settings file may be a path: a name, and then names after points and positions in
brackets. Names are letters, digits, underscores, hyphens and blanks, and their case does not matter.

* **`Setting.Step`** and **`Setting.path`**: the steps that a key stands for. A key that is no path is
  one step under its own name.
* **`Setting.put`**: sets the value at a path. What stands in the way becomes a table or a list, as the
  path needs it; a negative position counts from the end of the list.
-/

namespace Audience.Setting

/-- A step from a setting to one inside it. -/
inductive Step
  | member (key : String)
  | item (position : Int)
  deriving DecidableEq

/-- Whether a character may stand in a name of a path. -/
def isNameChar (c : Char) : Bool := c.isAlphanum || c = '_' || c = '-' || c = ' '

/-- The step to the name at the front of a text, and the rest. -/
def nameStep? (text : List Char) : Option (Step × List Char) :=
  let (name, rest) := text.span isNameChar
  if name.isEmpty then none else some (.member (Text.lowerAscii (String.ofList name)), rest)

/-- Whether a character is a blank inside brackets. -/
def isPad (c : Char) : Bool := c = ' ' || c = '\t'

/-- The step to the position before the next closing bracket, and what follows it. -/
def itemStep? (text : List Char) : Option (Step × List Char) :=
  let (inside, rest) := (text.dropWhile isPad).span (· != ']')
  let digits := (inside.reverse.dropWhile isPad).reverse
  match digits.head?, Text.integer? digits, rest with
  | some first, some position, ']' :: rest =>
      if first ≠ '+' && Binary64.leastWord ≤ position && position ≤ Binary64.largestWord then
        some (.item position, rest)
      else none
  | _, _, _ => none

/-- The steps after the first one. -/
def steps? : Nat → List Char → Option (List Step)
  | _, [] => some []
  | 0, _ => none
  | fuel + 1, c :: rest => do
      let (step, rest) ←
        if c = '.' then nameStep? rest else if c = '[' then itemStep? rest else none
      return step :: (← steps? fuel rest)

/-- The path of a text, if it is one. -/
def path? (text : List Char) : Option (List Step) := do
  let (first, rest) ← nameStep? text
  return first :: (← steps? rest.length rest)

/-- The path that a key stands for. -/
def path (key : String) : List Step := (path? key.toList).getD [.member (Text.lowerAscii key)]

/-- The index of a position among so many items, if it does not lie before the first. -/
def index? (count : Nat) (position : Int) : Option Nat :=
  let index := if position < 0 then count + position else position
  if 0 ≤ index then some index.toNat else none

/-- The item at a position. -/
def item? (setting : Setting) (position : Int) : Option Setting := do
  setting.items[← index? setting.items.length position]?

/-- Sets an item of what must become a list; places that are left open hold nothing. -/
def replaceItem (setting : Setting) (position : Int) (value : Setting) : Setting :=
  match index? setting.items.length position with
  | some index =>
      .list (setting.items.take index ++ List.replicate (index - setting.items.length) .nothing ++
        value :: setting.items.drop (index + 1))
  | none => setting

/-- Sets the value at a path. -/
def put (target : Setting) : List Step → Setting → Setting
  | [], value => value
  | [.member key], value => target.merge key value
  | .member key :: path, value =>
      target.replace key (put ((target.member? key).getD .nothing) path value)
  | .item position :: path, value =>
      target.replaceItem position (put ((target.item? position).getD .nothing) path value)

end Audience.Setting
