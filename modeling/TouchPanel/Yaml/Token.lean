import TouchPanel.Yaml.Block
import TouchPanel.Yaml.Node
import TouchPanel.Yaml.Tag

/-!
This module contains the tokens of YAML text. Indentation is part of them: where a line starts a
mapping, or ends one, there is a token that says so.
-/

namespace TouchPanel.Yaml

inductive Token where
  | directive (directive : Directive)
  | documentStart
  | documentEnd
  | mappingStart
  | mappingEnd
  | flowStart
  | flowEnd
  | flowEntry
  | key
  | value
  | reference (name : String)
  | anchor (name : String)
  | tag (tag : TagName)
  | scalar (style : Style) (text : String)
  deriving DecidableEq, Repr

/--
A token that turns out to be a key if a colon follows it on its line.
-/
structure PendingKey where
  /-- The number of tokens before it. -/
  position : Nat
  place : Place
  /-- Nothing else than a key can stand at its place. -/
  isRequired : Bool
  deriving DecidableEq, Repr

/--
The colon has to follow within so many characters.
-/
def PendingKey.reach : Nat := 1024

def PendingKey.isStale (key : PendingKey) (place : Place) : Bool :=
  key.place.line < place.line || key.place.column + PendingKey.reach < place.column

structure TokenStream where
  cursor : Cursor
  /-- The columns of the mappings that are open, the innermost one first. -/
  indents : List Nat
  key : Option PendingKey
  /-- The keys of the flow mappings around this one, and of the block around them. -/
  outerKeys : List (Option PendingKey)
  /-- A key without a question mark can start here. -/
  canStartKey : Bool
  /-- The tokens, the last one first. -/
  reversed : List Token
  deriving Repr

namespace TokenStream

def ofText (text : List Char) : TokenStream := ⟨⟨text, .start⟩, [], none, [], true, []⟩

def inFlow (stream : TokenStream) : Bool := !stream.outerKeys.isEmpty

def column (stream : TokenStream) : Nat := stream.cursor.column

def push (stream : TokenStream) (token : Token) : TokenStream :=
  { stream with reversed := token :: stream.reversed }

def insert (stream : TokenStream) (position : Nat) (tokens : List Token) : TokenStream :=
  let count := stream.reversed.length - position
  let reversed := stream.reversed.take count ++ tokens.reverse ++ stream.reversed.drop count
  { stream with reversed }

def advance (stream : TokenStream) (count : Nat) : TokenStream :=
  { stream with cursor := stream.cursor.advance count }

def close (stream : TokenStream) (column : Option Nat) : TokenStream :=
  if stream.inFlow then
    stream
  else
    let closes (indent : Nat) : Bool := column.all (· < indent)
    let ended := (stream.indents.takeWhile closes).map fun _ => Token.mappingEnd
    { stream with
      indents := stream.indents.dropWhile closes
      reversed := ended ++ stream.reversed }

def startsMapping (stream : TokenStream) (column : Nat) : Bool :=
  !stream.inFlow && stream.indents.head?.all (· < column)

/--
Inserts a key, and before it the start of its mapping if the key is the first one.
-/
def insertKey (stream : TokenStream) (position column : Nat) : TokenStream :=
  if stream.startsMapping column then
    let stream := { stream with indents := column :: stream.indents }
    stream.insert position [.mappingStart, .key]
  else
    stream.insert position [.key]

def openMapping (stream : TokenStream) : TokenStream :=
  if stream.startsMapping stream.column then
    { stream with
      indents := stream.column :: stream.indents
      reversed := .mappingStart :: stream.reversed }
  else
    stream

def dropKey? (stream : TokenStream) : Option TokenStream :=
  if stream.key.any PendingKey.isRequired then none else some { stream with key := none }

def saveKey? (stream : TokenStream) : Option TokenStream :=
  if stream.canStartKey then do
    let stream ← stream.dropKey?
    let isRequired := !stream.inFlow && stream.indents.head? == some stream.column
    return { stream with key := some ⟨stream.reversed.length, stream.cursor.place, isRequired⟩ }
  else
    some stream

def dropStaleKeys? (stream : TokenStream) : Option TokenStream :=
  let isStale (key : PendingKey) : Bool := key.isStale stream.cursor.place
  let isLost (key : Option PendingKey) : Bool := key.any fun k => isStale k && k.isRequired
  if (stream.key :: stream.outerKeys).any isLost then
    none
  else
    let fresh (key : Option PendingKey) : Option PendingKey := key.filter fun k => !isStale k
    some { stream with key := fresh stream.key, outerKeys := stream.outerKeys.map fresh }

def skip (stream : TokenStream) : TokenStream :=
  let (cursor, crossed) := stream.cursor.skip stream.inFlow (stream.inFlow || !stream.canStartKey)
  { stream with cursor, canStartKey := stream.canStartKey || (crossed && !stream.inFlow) }

def leave? (stream : TokenStream) : Option TokenStream := do
  let stream ← (stream.close none).dropKey?
  return { stream with canStartKey := false }

def directive? (stream : TokenStream) : Option TokenStream := do
  let stream ← stream.leave?
  let (directive, cursor) ← Yaml.directive? stream.cursor
  return { stream with cursor }.push (.directive directive)

def mark? (stream : TokenStream) (token : Token) : Option TokenStream := do
  return ((← stream.leave?).advance 3).push token

def flowStart? (stream : TokenStream) : Option TokenStream := do
  let stream ← stream.saveKey?
  let stream :=
    { stream with
      key := none
      outerKeys := stream.key :: stream.outerKeys
      canStartKey := true }
  return (stream.advance 1).push .flowStart

def flowEnd? (stream : TokenStream) : Option TokenStream := do
  let stream ← stream.dropKey?
  match stream.outerKeys with
  | [] => none
  | key :: outerKeys =>
    let stream := { stream with key, outerKeys, canStartKey := false }
    return (stream.advance 1).push .flowEnd

def flowEntry? (stream : TokenStream) : Option TokenStream := do
  let stream ← stream.dropKey?
  return ({ stream with canStartKey := true }.advance 1).push .flowEntry

def key? (stream : TokenStream) : Option TokenStream := do
  if !stream.inFlow && !stream.canStartKey then none
  let stream ← stream.openMapping.dropKey?
  return ({ stream with canStartKey := !stream.inFlow }.advance 1).push .key

/--
A colon before a value. The token before it is its key, if it can be one.
-/
def value? (stream : TokenStream) : Option TokenStream :=
  match stream.key with
  | some key =>
    let stream := stream.insertKey key.position key.place.column
    some (({ stream with key := none, canStartKey := false }.advance 1).push .value)
  | none => do
    if !stream.inFlow && !stream.canStartKey then none
    let stream := stream.openMapping
    return ({ stream with canStartKey := !stream.inFlow }.advance 1).push .value

def node? (stream : TokenStream) (read? : Cursor → Option (Token × Cursor)) :
    Option TokenStream := do
  let stream ← stream.saveKey?
  let (token, cursor) ← read? stream.cursor
  return { stream with cursor, canStartKey := false }.push token

def pushScanned (stream : TokenStream) (style : Style) (scanned : Scanned) : TokenStream :=
  { stream with
    cursor := scanned.cursor
    canStartKey := stream.canStartKey || scanned.crossed }.push
      (.scalar style (String.ofList scanned.text))

def scalar? (stream : TokenStream) (style : Style) (read? : Cursor → Option Scanned) :
    Option TokenStream := do
  let stream ← stream.saveKey?
  let scanned ← read? stream.cursor
  return { stream with canStartKey := false }.pushScanned style scanned

def block? (stream : TokenStream) (folded : Bool) : Option TokenStream := do
  let stream ← stream.dropKey?
  let scanned ← Yaml.block? folded stream.indents.head? (stream.cursor.advance 1)
  return stream.pushScanned (if folded then .folded else .literal) scanned

def token? (stream : TokenStream) : Option TokenStream :=
  let cursor := stream.cursor
  match cursor.rest with
  | [] => none
  | c :: cs =>
    if c == '%' && cursor.column == 0 then stream.directive?
    else if cursor.isMark '-' then stream.mark? .documentStart
    else if cursor.isMark '.' then stream.mark? .documentEnd
    else if c == '{' then stream.flowStart?
    else if c == '}' then stream.flowEnd?
    else if c == ',' then stream.flowEntry?
    else if c == '?' && (stream.inFlow || endsWord cs) then stream.key?
    else if c == ':' && (stream.inFlow || endsWord cs) then stream.value?
    else if c == '*' then
      stream.node? fun here => (name? (here.advance 1)).map fun (name, next) =>
        (.reference name, next)
    else if c == '&' then
      stream.node? fun here => (name? (here.advance 1)).map fun (name, next) =>
        (.anchor name, next)
    else if c == '!' then
      stream.node? fun here => (tag? stream.inFlow here).map fun (tag, next) => (.tag tag, next)
    else if c == '|' && !stream.inFlow then stream.block? false
    else if c == '>' && !stream.inFlow then stream.block? true
    else if c == '\'' then stream.scalar? .quoted fun here => singleQuoted? (here.advance 1)
    else if c == '"' then stream.scalar? .quoted fun here => doubleQuoted? (here.advance 1)
    else if startsPlain stream.inFlow cursor.rest then
      let indent := (stream.indents.head?.map (· + 1)).getD 0
      stream.scalar? .plain (plain? stream.inFlow indent)
    else
      none

/--
Reads tokens up to the end of the text. Every token takes a character at least, so that a budget of
one more than the number of characters is enough.
-/
def finish? (stream : TokenStream) : Nat → Option (List Token)
  | 0 => none
  | budget + 1 => do
    let stream ← stream.skip.dropStaleKeys?
    if stream.cursor.isEnd then
      let stream ← stream.leave?
      return stream.reversed.reverse
    else
      let stream := stream.close (some stream.column)
      finish? (← stream.token?) budget

end TokenStream

/--
The tokens of a text. `none` refuses a text that is not made up of tokens. No sequence is.
-/
def tokens? (text : List Char) : Option (List Token) :=
  (TokenStream.ofText text).finish? (text.length + 1)

end TouchPanel.Yaml
