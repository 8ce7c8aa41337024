import Audience.Settings.Yaml.Node

/-!
# YAML documents

* **`Yaml.node?`**: reads a node from the tokens of a document.
* **`Yaml.ofText?`**: reads the document of a text. A text without one stands for an empty table, and
  a text with more than one is refused.
-/

namespace Audience.Yaml

/-! ### Tags and anchors -/

/-- The handles of tags and what they stand for. -/
abbrev Handles := List (String × String)

/-- What the tags of the core kinds start with. -/
def coreStart : String := "tag:yaml.org,2002:"

/-- What the handle of a tag stands for; one with two marks has to be declared. -/
def TagName.start? (handles : Handles) (tag : TagName) : Option String :=
  if tag.handle = "!!" then some ((handles.lookup "!!").getD coreStart)
  else match handles.lookup tag.handle with
    | some start => some start
    | none => if isClosedHandle tag.handle.toList then none else some tag.handle

/-- The kind that a tag gives a plain word. -/
def TagName.kind? (handles : Handles) (tag : TagName) : Option Node.Kind := do
  return if (← tag.start? handles) = coreStart then .ofCore tag.rest else .text

/-- The tokens that are not read yet, and the anchors. -/
structure Remainder where
  tokens : List Token
  /-- The nodes with anchors, numbered, by name; the last comes first. -/
  names : List (String × Nat)
  /-- The nodes with anchors that are complete, by number. -/
  nodes : List (Nat × Node)

namespace Remainder

/-- Passes over a token. -/
def next (remainder : Remainder) : Remainder := { remainder with tokens := remainder.tokens.drop 1 }

/-- Gives an anchor to a node that starts. -/
def announce (remainder : Remainder) (name : String) : Remainder :=
  { remainder with names := (name, remainder.names.length) :: remainder.names }

/-- Completes the node of a number. -/
def complete (remainder : Remainder) (number : Option Nat) (node : Node) : Remainder :=
  match number with
  | some number => { remainder with nodes := (number, node) :: remainder.nodes }
  | none => remainder

/-- The node of an alias. -/
def alias? (remainder : Remainder) (name : String) : Option Node := do
  return (remainder.nodes.lookup (← remainder.names.lookup name)).getD .unfit

/-- Whether one of some tokens comes next. -/
def startsWith (remainder : Remainder) (tokens : List Token) : Bool :=
  match remainder.tokens with
  | token :: _ => tokens.contains token
  | [] => false

end Remainder

/-- What stands in front of a node: the number of its anchor, and the kind that its tag gives. -/
structure Properties where
  number : Option Nat
  kind : Option Node.Kind

/-- Reads an anchor and a tag, in any order. -/
def properties? (handles : Handles) (remainder : Remainder) : Option (Properties × Remainder) :=
  let number := some remainder.names.length
  match remainder.tokens with
  | .anchor name :: .tag tag :: rest => do
      return (⟨number, some (← tag.kind? handles)⟩, { remainder.announce name with tokens := rest })
  | .anchor name :: rest => some (⟨number, none⟩, { remainder.announce name with tokens := rest })
  | .tag tag :: .anchor name :: rest => do
      return (⟨number, some (← tag.kind? handles)⟩, { remainder.announce name with tokens := rest })
  | .tag tag :: rest => do
      return (⟨none, some (← tag.kind? handles)⟩, { remainder with tokens := rest })
  | _ => some (⟨none, none⟩, remainder)

/-! ### Nodes -/

/-- Where a node stands. -/
inductive Place
  /-- Inside brackets. -/
  | flow
  /-- In a block. -/
  | block
  /-- In a table in a block, where a list needs no indentation. -/
  | member
  deriving DecidableEq

mutual

/-- A node in front of tokens. -/
def node? (handles : Handles) : Nat → Place → Remainder → Option (Node × Remainder)
  | 0, _, _ => none
  | fuel + 1, place, remainder =>
      match remainder.tokens with
      | .alias name :: _ => do return (← remainder.alias? name, remainder.next)
      | _ => do
          let (properties, behind) ← properties? handles remainder
          let (node, behind) ← content? handles fuel place properties behind
          return (node, behind.complete properties.number node)

/-- A node behind its properties. -/
def content? (handles : Handles) :
    Nat → Place → Properties → Remainder → Option (Node × Remainder)
  | 0, _, _, _ => none
  | fuel + 1, place, properties, remainder =>
      let empty? : Option (Node × Remainder) :=
        if properties.number.isSome || properties.kind.isSome then
          some (.ofWord properties.kind "", remainder)
        else none
      match remainder.tokens with
      | .scalar isPlain text :: _ =>
          some (if isPlain then .ofWord properties.kind text else .text text, remainder.next)
      | .flowListStart :: _ =>
          (flowItems? handles fuel true [] remainder.next).map fun (items, behind) =>
            (.list items, behind)
      | .flowTableStart :: _ => do
          let (nodes, behind) ← flowMembers? handles fuel true [] remainder.next
          return (← Node.table? nodes, behind)
      | .item :: _ =>
          if place = .member then
            (items? handles fuel false [] remainder).map fun (items, behind) => (.list items, behind)
          else empty?
      | .listStart :: _ =>
          if place = .flow then empty?
          else
            (items? handles fuel true [] remainder.next).map fun (items, behind) =>
              (.list items, behind)
      | .tableStart :: _ =>
          if place = .flow then empty?
          else do
            let (nodes, behind) ← members? handles fuel [] remainder.next
            return (← Node.table? nodes, behind)
      | _ => empty?

/-- A node, unless one of some tokens comes next. -/
def nodeBefore? (handles : Handles) :
    Nat → Place → List Token → Remainder → Option (Node × Remainder)
  | 0, _, _, _ => none
  | fuel + 1, place, ends, remainder =>
      if remainder.startsWith ends then some (.nothing, remainder)
      else node? handles fuel place remainder

/-- A value, if a colon comes next. -/
def valueBefore? (handles : Handles) :
    Nat → Place → List Token → Remainder → Option (Node × Remainder)
  | 0, _, _, _ => none
  | fuel + 1, place, ends, remainder =>
      if remainder.startsWith [.value] then nodeBefore? handles fuel place ends remainder.next
      else some (.nothing, remainder)

/-- The items of a list in a block; `isBlock` tells whether the list ends with its block. -/
def items? (handles : Handles) :
    Nat → Bool → List Node → Remainder → Option (List Node × Remainder)
  | 0, _, _, _ => none
  | fuel + 1, isBlock, found, remainder =>
      match remainder.tokens with
      | .item :: _ => do
          let ends := if isBlock then [.item, .blockEnd] else [.item, .key, .value, .blockEnd]
          let (item, behind) ← nodeBefore? handles fuel .block ends remainder.next
          items? handles fuel isBlock (item :: found) behind
      | .blockEnd :: _ => some (found.reverse, if isBlock then remainder.next else remainder)
      | _ => if isBlock then none else some (found.reverse, remainder)

/-- The keys and values of a table in a block, in turn. -/
def members? (handles : Handles) : Nat → List Node → Remainder → Option (List Node × Remainder)
  | 0, _, _ => none
  | fuel + 1, found, remainder =>
      let ends := [.key, .value, .blockEnd]
      match remainder.tokens with
      | .blockEnd :: _ => some (found.reverse, remainder.next)
      | .key :: _ => do
          let (key, behind) ← nodeBefore? handles fuel .member ends remainder.next
          let (value, behind) ← valueBefore? handles fuel .member ends behind
          members? handles fuel (value :: key :: found) behind
      | .value :: _ => do
          let (value, behind) ← valueBefore? handles fuel .member ends remainder
          members? handles fuel (value :: .nothing :: found) behind
      | _ => none

/-- The items of a list in brackets; an item with a key is a table. -/
def flowItems? (handles : Handles) :
    Nat → Bool → List Node → Remainder → Option (List Node × Remainder)
  | 0, _, _, _ => none
  | fuel + 1, isFirst, found, remainder =>
      if remainder.startsWith [.flowListEnd] then some (found.reverse, remainder.next)
      else if !isFirst && !remainder.startsWith [.comma] then none
      else
        let remainder := if isFirst then remainder else remainder.next
        match remainder.tokens with
        | .flowListEnd :: _ => some (found.reverse, remainder.next)
        | .key :: _ => do
            let (key, behind) ← node? handles fuel .flow remainder.next
            let (value, behind) ← valueBefore? handles fuel .flow [.comma, .flowListEnd] behind
            flowItems? handles fuel false ((← Node.table? [key, value]) :: found) behind
        | _ => do
            let (item, behind) ← node? handles fuel .flow remainder
            flowItems? handles fuel false (item :: found) behind

/-- The keys and values of a table in brackets, in turn. -/
def flowMembers? (handles : Handles) :
    Nat → Bool → List Node → Remainder → Option (List Node × Remainder)
  | 0, _, _, _ => none
  | fuel + 1, isFirst, found, remainder =>
      if remainder.startsWith [.flowTableEnd] then some (found.reverse, remainder.next)
      else if !isFirst && !remainder.startsWith [.comma] then none
      else
        let remainder := if isFirst then remainder else remainder.next
        let ends := [.comma, .flowTableEnd]
        match remainder.tokens with
        | .flowTableEnd :: _ => some (found.reverse, remainder.next)
        | .key :: _ => do
            let (key, behind) ← nodeBefore? handles fuel .flow (.value :: ends) remainder.next
            let (value, behind) ← valueBefore? handles fuel .flow ends behind
            flowMembers? handles fuel false (value :: key :: found) behind
        | .value :: _ => do
            let (value, behind) ← valueBefore? handles fuel .flow ends remainder
            flowMembers? handles fuel false (value :: .nothing :: found) behind
        | _ => do
            let (key, behind) ← node? handles fuel .flow remainder
            flowMembers? handles fuel false (.nothing :: key :: found) behind

end

/-! ### Documents -/

/-- The handles of the last directive, and the tokens behind the directives; of versions there is at
most one. -/
def directives? (hasVersion : Bool) (handles : Handles) : List Token → Option (Handles × List Token)
  | .directive .version :: rest => if hasVersion then none else directives? true [] rest
  | .directive (.handle name start) :: rest => directives? hasVersion [(name, start)] rest
  | tokens => some (handles, tokens)

/-- Passes over marks of the end of a document. -/
def dropEnds (tokens : List Token) : List Token := tokens.dropWhile (· = .documentEnd)

/-- The node of a document, behind which no other document comes. -/
def root? (handles : Handles) (tokens : List Token) : Option Node := do
  let (node, behind) ← node? handles (4 * tokens.length + 4) .block ⟨tokens, [], []⟩
  if (dropEnds behind.tokens).isEmpty then some node else none

/-- The node of a document that starts with directives or with its mark. -/
def marked? (tokens : List Token) : Option Node := do
  let (handles, rest) ← directives? false [] tokens
  match rest with
  | .documentStart :: rest =>
      if (dropEnds rest).isEmpty then some .nothing else root? handles rest
  | _ => none

/-- The node of the document of some tokens; without a document an empty table. -/
def ofTokens? (tokens : List Token) : Option Node :=
  match dropEnds tokens with
  | [] => some (.table [])
  | .directive directive :: rest => marked? (.directive directive :: rest)
  | .documentStart :: rest => marked? (.documentStart :: rest)
  | tokens => root? [] tokens

/-- The text with each end of a line as one character, up to a NUL. -/
def lineFeeds : List Char → List Char
  | '\r' :: '\n' :: rest => '\n' :: lineFeeds rest
  | '\r' :: rest => '\n' :: lineFeeds rest
  | c :: rest => if c = '\x00' then [] else c :: lineFeeds rest
  | [] => []

/-- Reads the document of a text. -/
def ofText? (text : String) : Option Setting := do
  (← ofTokens? (← tokens? (lineFeeds text.toList))).setting?

end Audience.Yaml
