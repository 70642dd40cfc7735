import FrameReplay.Text.Escaped
import FrameReplay.Text.Shortest

/-!
# Document trees

What a structured document says, whatever notation it is written in. A text that breaks off or goes
wrong still has a tree: it ends in a `broken` leaf at the place of the fault, so that whoever reads
the tree in document order meets the fault exactly where a reader of the text would.
-/

namespace FrameReplay

/-- How a text goes wrong. -/
inductive Cut where
  /-- Something stands where nothing of its kind may. -/
  | malformed
  /-- The text ends inside a value or where one is due. -/
  | ended
  /-- The text ends between the items of a list or a record. -/
  | unclosed
  deriving DecidableEq, Repr

/-- A document, or a part of one. -/
inductive Node where
  /-- A place for a value where none is written. -/
  | absent
  | null
  | bool (value : Bool)
  | int (value : Int)
  /-- A number with a fraction or an exponent. -/
  | float (value : Float)
  | text (value : String)
  | list (items : List Node)
  | record (entries : List (Node × Node))
  /-- A scalar that is well written and stands for no value. -/
  | valueless
  /-- The place where the text goes wrong; nothing stands behind it. Who reads a value here meets
  `cut`, who skips one meets `skipped`, because less is asked of a value that nobody wants. -/
  | broken (cut skipped : Cut)
  deriving Repr, Inhabited

namespace Node

/-- Floating point numbers in messages are written without an exponent from 1e-5 to below 1e16. -/
def floatText : Text.FloatText := ⟨-5, 15, "e+"⟩

/-- What kind of value a node is, as messages say it. -/
def kindText : Node → String
  | .absent | .null => "null"
  | .bool value => s!"boolean `{value}`"
  | .int value => s!"integer `{value}`"
  | .float value => "floating point `" ++ floatText.render value ++ "`"
  | .text value => "string " ++ Text.quoteText value
  | .list _ => "sequence"
  | .record _ => "map"
  | .valueless | .broken _ _ => "value"

mutual

/-- The fault that is met where a tree is skipped, if its text went wrong. -/
def skippedCut? : Node → Option Cut
  | .broken _ skipped => some skipped
  | .list items => skippedCutOfItems? items
  | .record entries => skippedCutOfEntries? entries
  | _ => none

/-- The fault that is met where the items of a list are skipped. -/
def skippedCutOfItems? : List Node → Option Cut
  | [] => none
  | item :: items => item.skippedCut?.or (skippedCutOfItems? items)

/-- The fault that is met where the entries of a record are skipped. -/
def skippedCutOfEntries? : List (Node × Node) → Option Cut
  | [] => none
  | (key, value) :: entries =>
    (key.skippedCut?.or value.skippedCut?).or (skippedCutOfEntries? entries)

end

/-- The first value that a record holds under a key. -/
def member? (name : String) : Node → Option Node
  | .record entries =>
    (entries.find? fun entry =>
      match entry.1 with
      | .text key => key == name
      | _ => false).map Prod.snd
  | _ => none

end Node

end FrameReplay
