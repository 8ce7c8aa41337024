import Audience.Settings.Toml.Scalar

/-!
# Tables of TOML documents

* **`Toml.Node`**: a value under construction. It is remembered how a table came to be, since a table
  may be opened by one header only, and dotted keys reopen only tables that dotted keys made.
* **`Toml.Members.change?`**: changes the table that a path leads to.
* **`Toml.Node.setting?`**: the finished value. A table whose first key is `momentKey` stands for the
  moment that is written there as a text.
-/

namespace Audience.Toml

/-- How a table came to be: on the way to the table of a header, by its own header, or by a dotted
key. -/
inductive Origin
  | passing
  | header
  | dotted
  deriving DecidableEq

/-- A scalar, a list, a closed table, a table, or a row of tables, the last one first. Members are in
the order in which they were set. -/
inductive Node
  | scalar (value : Scalar)
  | list (items : List Node)
  | closed (members : List (String × Node))
  | table (origin : Origin) (members : List (String × Node))
  | tables (rows : List (List (String × Node)))

/-- The members of a table under construction. -/
abbrev Members := List (String × Node)

namespace Members

/-- Sets a member, in its place if it is there, or else as the last one. -/
def set (key : String) (node : Node) : Members → Members
  | [] => [(key, node)]
  | (name, old) :: rest => if name = key then (key, node) :: rest else (name, old) :: set key node rest

/-- Changes the table that a path leads to, making the tables on the way; `dotted` tells a path of a
dotted key from that of a header. -/
def change? (dotted : Bool) (change : Members → Option Members) :
    List String → Members → Option Members
  | [], members => change members
  | key :: path, members => do
      match Json.find? members key with
      | none =>
          let inner ← change? dotted change path []
          return set key (.table (if dotted then .dotted else .passing) inner) members
      | some (.table origin inner) =>
          if dotted && (origin = .header || (path.isEmpty && origin ≠ .dotted)) then none
          else return set key (.table origin (← change? dotted change path inner)) members
      | some (.tables (last :: before)) =>
          if dotted && path.isEmpty then none
          else return set key (.tables ((← change? dotted change path last) :: before)) members
      | _ => none

/-- Adds a member under a key that is not there yet. -/
def add? (key : String) (node : Node) (members : Members) : Option Members :=
  match Json.find? members key with
  | none => some (set key node members)
  | some _ => none

/-- Opens a table by its header; it becomes the last member. -/
def openTable? (key : String) (members : Members) : Option Members :=
  match Json.find? members key with
  | none => some (set key (.table .header []) members)
  | some (.table .passing inner) =>
      some (set key (.table .header inner) (members.filter fun member => member.1 ≠ key))
  | _ => none

/-- Opens the next table of a row by its header. -/
def openRow? (key : String) (members : Members) : Option Members :=
  match Json.find? members key with
  | none => some (set key (.tables [[]]) members)
  | some (.tables rows) => some (set key (.tables ([] :: rows)) members)
  | _ => none

end Members

/-- The key of a table that stands for a moment. -/
def momentKey : String := "$__toml_private_datetime"

/-- The moment that is written in a text. -/
def writtenMoment? : Node → Option Setting
  | .scalar (.plain (.text value)) =>
      (Moment.ofChars? true value.toList).map fun moment => .text moment.text
  | _ => none

mutual

/-- The finished value of a node. -/
def Node.setting? : Node → Option Setting
  | .scalar value => some value.setting
  | .list items => do return .list (← itemSettings? items)
  | .closed members => tableSetting? members
  | .table _ members => tableSetting? members
  | .tables rows => do return .list (← rowSettings? rows).reverse

/-- The finished value of a table. -/
def tableSetting? : List (String × Node) → Option Setting
  | [] => some (.table [])
  | (key, node) :: rest =>
      if key = momentKey then writtenMoment? node
      else do return .table ((key, ← node.setting?) :: (← memberSettings? rest))

/-- The finished values of members. -/
def memberSettings? : List (String × Node) → Option (List (String × Setting))
  | [] => some []
  | (key, node) :: rest => do return (key, ← node.setting?) :: (← memberSettings? rest)

/-- The finished values of items. -/
def itemSettings? : List Node → Option (List Setting)
  | [] => some []
  | item :: rest => do return (← item.setting?) :: (← itemSettings? rest)

/-- The finished tables of a row. -/
def rowSettings? : List (List (String × Node)) → Option (List Setting)
  | [] => some []
  | row :: rest => do return (← tableSetting? row) :: (← rowSettings? rest)

end

end Audience.Toml
