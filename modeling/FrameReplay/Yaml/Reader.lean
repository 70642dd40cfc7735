import FrameReplay.Document.Codec
import FrameReplay.Yaml.Token

/-!
# Reading YAML

`Yaml.read?` turns a text with one document into a tree. An item, a key or a value that is left out
is an absent node, and so is the document of a text without any.
-/

namespace FrameReplay.Yaml

namespace Token

/-- Whether an item of lines with dashes is left out in front of a token. -/
def endsItem : Token → Bool
  | .dash | .blockEnd => true
  | _ => false

/-- Whether a key or a value of lines with keys is left out in front of a token. -/
def endsEntry : Token → Bool
  | .key | .colon | .blockEnd => true
  | _ => false

/-- Whether an item is left out in front of a token if its dash stands right under a key. -/
def endsItemUnderKey (token : Token) : Bool := token.endsItem || token.endsEntry

/-- Whether the value of a pair in square brackets is left out in front of a token. -/
def endsPair : Token → Bool
  | .comma | .listClose => true
  | _ => false

/-- Whether a value in braces is left out in front of a token. -/
def endsFlowEntry : Token → Bool
  | .comma | .mapClose => true
  | _ => false

/-- Whether a document is left out in front of a token. -/
def endsDocument : Token → Bool
  | .version | .documentStart | .documentEnd => true
  | _ => false

/-- Whether a token is a colon. -/
def isColon : Token → Bool
  | .colon => true
  | _ => false

/-- Whether a token is the end of a document. -/
def isDocumentEnd : Token → Bool
  | .documentEnd => true
  | _ => false

end Token

/-- Goes on behind the comma between two parts; there is none in front of the first part. -/
def afterComma? (first : Bool) : List Token → Option (List Token)
  | .comma :: rest => if first then some (.comma :: rest) else some rest
  | tokens => if first then some tokens else none

mutual

/-- Reads a node. Right under a key, the dashes of a list need no block of their own. -/
def readNode (underKey : Bool) : Nat → List Token → Option (Node × List Token)
  | 0, _ => none
  | fuel + 1, tokens =>
    match tokens with
    | .scalar node :: rest => some (node, rest)
    | .listOpen :: rest =>
      (readFlowItems true fuel rest).map fun (items, rest) => (.list items, rest)
    | .mapOpen :: rest =>
      (readFlowEntries true fuel rest).map fun (entries, rest) => (.record entries, rest)
    | .blockList :: rest => (readItems fuel rest).map fun (items, rest) => (.list items, rest)
    | .blockMap :: rest =>
      (readEntries fuel rest).map fun (entries, rest) => (.record entries, rest)
    | .dash :: rest =>
      if underKey then
        (readItemsUnderKey fuel (.dash :: rest)).map fun (items, rest) => (.list items, rest)
      else none
    | _ => none

/-- Reads a node, unless it is left out in front of the next token. -/
def readUnless (ends : Token → Bool) (underKey : Bool) :
    Nat → List Token → Option (Node × List Token)
  | 0, _ => none
  | fuel + 1, tokens =>
    if tokens.head?.any ends then some (.absent, tokens) else readNode underKey fuel tokens

/-- Reads a value with its colon, if it is there. -/
def readValue (ends : Token → Bool) (underKey : Bool) :
    Nat → List Token → Option (Node × List Token)
  | 0, _ => none
  | fuel + 1, tokens =>
    match tokens with
    | .colon :: rest => readUnless ends underKey fuel rest
    | tokens => some (.absent, tokens)

/-- Reads the items of a block, up to its end. -/
def readItems : Nat → List Token → Option (List Node × List Token)
  | 0, _ => none
  | fuel + 1, tokens =>
    match tokens with
    | .blockEnd :: rest => some ([], rest)
    | .dash :: rest => do
      let (item, rest) ← readUnless Token.endsItem false fuel rest
      let (items, rest) ← readItems fuel rest
      return (item :: items, rest)
    | _ => none

/-- Reads the items of a list right under a key, as far as there are dashes. -/
def readItemsUnderKey : Nat → List Token → Option (List Node × List Token)
  | 0, _ => none
  | fuel + 1, tokens =>
    match tokens with
    | .dash :: rest => do
      let (item, rest) ← readUnless Token.endsItemUnderKey false fuel rest
      let (items, rest) ← readItemsUnderKey fuel rest
      return (item :: items, rest)
    | tokens => some ([], tokens)

/-- Reads the entries of a block, up to its end. -/
def readEntries : Nat → List Token → Option (List (Node × Node) × List Token)
  | 0, _ => none
  | fuel + 1, tokens =>
    match tokens with
    | .blockEnd :: rest => some ([], rest)
    | .key :: rest => do
      let (key, rest) ← readUnless Token.endsEntry true fuel rest
      let (value, rest) ← readValue Token.endsEntry true fuel rest
      let (entries, rest) ← readEntries fuel rest
      return ((key, value) :: entries, rest)
    | _ => none

/-- Reads an item in square brackets. A key makes a pair of it; where the key is left out, the
token behind its mark is left out as well. -/
def readFlowItem : Nat → List Token → Option (Node × List Token)
  | 0, _ => none
  | fuel + 1, tokens =>
    match tokens with
    | .key :: token :: rest => do
      let (key, rest) ←
        if token.isColon || token.endsPair then some (.absent, rest)
        else readNode false fuel (token :: rest)
      let (value, rest) ← readValue Token.endsPair false fuel rest
      return (.record [(key, value)], rest)
    | tokens => readNode false fuel tokens

/-- Reads the items in square brackets, up to the closing one. A comma may stand behind the last
one. -/
def readFlowItems (first : Bool) : Nat → List Token → Option (List Node × List Token)
  | 0, _ => none
  | fuel + 1, tokens =>
    match tokens with
    | .listClose :: rest => some ([], rest)
    | tokens =>
      match afterComma? first tokens with
      | none => none
      | some (.listClose :: rest) => some ([], rest)
      | some tokens => do
        let (item, rest) ← readFlowItem fuel tokens
        let (items, rest) ← readFlowItems false fuel rest
        return (item :: items, rest)

/-- Reads an entry in braces; without a mark for its key it has no value. -/
def readFlowEntry : Nat → List Token → Option ((Node × Node) × List Token)
  | 0, _ => none
  | fuel + 1, tokens =>
    match tokens with
    | .key :: rest => do
      let ends := fun token => token.isColon || token.endsFlowEntry
      let (key, rest) ← readUnless ends false fuel rest
      let (value, rest) ← readValue Token.endsFlowEntry false fuel rest
      return ((key, value), rest)
    | tokens => (readNode false fuel tokens).map fun (key, rest) => ((key, .absent), rest)

/-- Reads the entries in braces, up to the closing one. A comma may stand behind the last one. -/
def readFlowEntries (first : Bool) : Nat → List Token → Option (List (Node × Node) × List Token)
  | 0, _ => none
  | fuel + 1, tokens =>
    match tokens with
    | .mapClose :: rest => some ([], rest)
    | tokens =>
      match afterComma? first tokens with
      | none => none
      | some (.mapClose :: rest) => some ([], rest)
      | some tokens => do
        let (entry, rest) ← readFlowEntry fuel tokens
        let (entries, rest) ← readFlowEntries false fuel rest
        return (entry :: entries, rest)

end

/-- Reads the tokens of a document, up to its end. A line that states the version has the dashes of
the document behind it; a document without dashes is not left out. -/
def readDocument (fuel : Nat) : List Token → Option (Node × List Token)
  | [] => some (.absent, [])
  | .version :: .documentStart :: rest | .documentStart :: rest =>
    if rest.isEmpty then some (.absent, []) else readUnless Token.endsDocument false fuel rest
  | tokens => readNode false fuel tokens

/-- Reads a text with at most one document. -/
def read? (text : String) : Option Node :=
  match tokens? text.toList with
  | none => none
  | some tokens =>
    match readDocument (4 * tokens.length + 8) tokens with
    | some (node, rest) => if rest.all Token.isDocumentEnd then some node else none
    | none => none

/-- Containers that may be nested in a text. -/
abbrev nesting : Nat := 128

/-- Reads a value from a text. -/
def decode? {α : Type} (codec : Codec α) (text : String) : Option α :=
  match read? text with
  | none => none
  | some node => (codec.read (.yaml nesting) node).toOption

end FrameReplay.Yaml
