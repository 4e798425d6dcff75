import MelodyAutomation.Document.Construction

/-!
# Documents

The literal that the text of a document stands for. Lines may end in a line feed,
in a carriage return, or in both.
-/

namespace MelodyAutomation
namespace Document

variable {R : Type} [Machine R]

/-- A text with every line ended by a line feed. -/
def withLineFeeds : List Char → List Char
  | [] => []
  | '\r' :: '\n' :: rest => '\n' :: withLineFeeds rest
  | '\r' :: rest => '\n' :: withLineFeeds rest
  | character :: rest => character :: withLineFeeds rest

/-- The literal that a text stands for; a text without a document is null. -/
def ofText (text : String) : Attempt R (Value R) := do
  let depthLimit := (Machine.limits R).documentDepth
  match ← attempt (nodes depthLimit (withLineFeeds text.toList)) with
  | (_, none) => .ok .null
  | (nodes, some root) => construct nodes root

end Document
end MelodyAutomation
