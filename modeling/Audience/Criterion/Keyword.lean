import Audience.Criterion.Basic

/-!
# Keywords of criteria documents

* **`Keyword`**: what the key of a member asks for.
* **`Keyword.ofKey?`**: the keyword of a key. A key that starts with a point names a custom field.
-/

namespace Audience

/-- What the key of a member asks for. -/
inductive Keyword
  | field (path : String)
  | order (operator : Operator)
  | equal
  | any
  | all
  | startsWith
  | inside
  | and
  | or
  | not
  | installation
  | user
  | event
  | lastActivity
  | geo
  | subscription
  | presence
  deriving DecidableEq

namespace Keyword

/-- The keyword of a key that is a word. -/
def ofWord? (word : String) : Option Keyword :=
  if word = "eq" then some equal
  else if word = "any" then some any
  else if word = "all" then some all
  else if word = "prefix" then some startsWith
  else if word = "inside" then some inside
  else if word = "and" then some and
  else if word = "or" then some or
  else if word = "not" then some not
  else if word = "installation" then some installation
  else if word = "user" then some user
  else if word = "event" then some event
  else if word = "lastActivityDate" then some lastActivity
  else if word = "geo" then some geo
  else if word = "subscriptionStatus" then some subscription
  else if word = "presence" then some presence
  else (Operator.ofKey? word).map order

/-- The keyword of a key. -/
def ofKey? (key : String) : Option Keyword :=
  match key.toList with
  | '.' :: path => some (field (String.ofList path))
  | _ => ofWord? key

end Keyword

end Audience
