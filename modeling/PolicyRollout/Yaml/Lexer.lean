import PolicyRollout.Yaml.Block
import PolicyRollout.Yaml.Plain
import PolicyRollout.Yaml.Quoted
import PolicyRollout.Yaml.Tag
/-!
The tokens of a text, one after another.  A scalar may turn out to be the key
of a mapping only when its colon is reached, so tokens wait in a queue as long
as one of them may be a key; the tokens that open the mapping are put before it
then.  Outside of brackets the indentation opens and closes collections.
-/
namespace PolicyRollout.Yaml

open Document (Fault)

/-- A place at which a key may have begun. -/
structure KeyMark where
  /-- Whether there must be a key, because something with this indentation has begun. -/
  required : Bool
  /-- The number of the token it begins with. -/
  token : Nat
  line : Nat
  column : Nat
  index : Nat
deriving DecidableEq, Repr

/-- A text between two tokens. -/
structure Lexer where
  cursor : Cursor
  /-- The tokens that have been read and not been taken. -/
  queue : List Token
  /-- The number of tokens that have been taken. -/
  taken : Nat
  /-- The column of the innermost collection outside of brackets. -/
  indent : Option Nat
  /-- The columns of the collections around it, innermost first. -/
  outer : List (Option Nat)
  /-- Whether a key may begin here. -/
  keyAllowed : Bool
  /-- The key that may have begun at this level of brackets. -/
  key : Option KeyMark
  /-- Those at the levels around it, innermost first. -/
  outerKeys : List (Option KeyMark)
deriving Repr

namespace Lexer

def start (text : List Char) : Lexer :=
  ⟨.start text, [], 0, none, [], true, none, []⟩

/-- Whether the place is inside brackets. -/
def inFlow (l : Lexer) : Bool :=
  !l.outerKeys.isEmpty

/-- Put a token at the end of the queue. -/
def push (t : Token) (l : Lexer) : Lexer :=
  { l with queue := l.queue ++ [t] }

/-- Put a token before the one with a given number. -/
def insert (number : Nat) (t : Token) (l : Lexer) : Lexer :=
  let place := number - l.taken
  { l with queue := l.queue.take place ++ t :: l.queue.drop place }

/-- A complaint about a key without its colon. -/
def noColon {α : Type} : Except Fault α :=
  wrong "could not find expected ':'" "while scanning a simple key"

/-- A complaint about the place itself. -/
def misplaced {α : Type} (problem : String) : Except Fault α :=
  .error (.markup problem none none)

/-- No key has begun at this level. -/
def dropKey (l : Lexer) : Except Fault Lexer :=
  if l.key.any (·.required) then noColon else .ok { l with key := none }

/-- A key may begin here, if keys are allowed. -/
def markKey (l : Lexer) : Except Fault Lexer := do
  if l.keyAllowed then
    let c := l.cursor
    let required := !l.inFlow && l.indent = some c.column
    let l' ← l.dropKey
    return { l' with
      key := some ⟨required, l.taken + l.queue.length, c.line, c.column, c.index⟩ }
  else return l

/-- How many characters a key may have. -/
def maxKeyLength : Nat := 1024

/-- Whether a key that may have begun is out of reach: on an earlier line or too far back. -/
def isStale (c : Cursor) (k : KeyMark) : Bool :=
  k.line < c.line || k.index + maxKeyLength < c.index

/-- The keys without those that are out of reach. -/
def dropStaleKeys (l : Lexer) : Except Fault Lexer :=
  let stale (k : Option KeyMark) : Bool := k.any (isStale l.cursor)
  if (l.key :: l.outerKeys).any fun k => stale k && k.any (·.required) then noColon
  else
    let keep (k : Option KeyMark) : Option KeyMark := if stale k then none else k
    .ok { l with key := keep l.key, outerKeys := l.outerKeys.map keep }

/-- Open a collection at a column if it is indented more than the one around it. -/
def roll (column : Nat) (put : Lexer → Lexer) (l : Lexer) : Lexer :=
  if !l.inFlow && l.indent.all (· < column) then
    put { l with indent := some column, outer := l.indent :: l.outer }
  else l

/-- Close the collections that are indented more than `column`, or all. -/
def unrollFrom (column : Option Nat) : (indent : Option Nat) → (outer : List (Option Nat)) →
    Lexer → Lexer
  | none, outer, l => { l with indent := none, outer }
  | some n, outer, l =>
    if column.all (· < n) then
      match outer with
      | [] => { l.push .blockEnd with indent := none, outer := [] }
      | next :: outer => unrollFrom column next outer (l.push .blockEnd)
    else { l with indent := some n, outer }

/-- Close the collections that are indented more than `column`, or all; brackets keep them open. -/
def unroll (column : Option Nat) (l : Lexer) : Lexer :=
  if l.inFlow then l else unrollFrom column l.indent l.outer l

/-- The place of the next token: after blanks, comments and breaks. -/
def toToken : (fuel : Nat) → Lexer → Lexer
  | 0, l => l
  | fuel + 1, l =>
    let c := l.cursor
    let c := if c.column = 0 && c.has 0 (Char.ofNat 0xFEFF) then c.skip 1 else c
    let mayTab := l.inFlow || !l.keyAllowed
    let c := (c.span fun ch => ch = ' ' || (mayTab && ch = '\t')).2.skipComment
    if (c.ahead 0).any isBreak then
      toToken fuel { l with cursor := c.skipBreak, keyAllowed := l.keyAllowed || !l.inFlow }
    else { l with cursor := c }

/-- The end of the text, which also ends its line. -/
def fetchEnd (l : Lexer) : Except Fault Lexer := do
  let c := l.cursor
  let cursor := if c.column = 0 then c else c.nextLine 0
  let l ← ({ l with cursor }.unroll none).dropKey
  return { l with keyAllowed := false }.push .streamEnd

def fetchDirective (l : Lexer) : Except Fault Lexer := do
  let l ← (l.unroll none).dropKey
  let (token, cursor) ← takeDirective l.cursor
  return { l with cursor, keyAllowed := false }.push token

/-- The beginning or end of a document. -/
def fetchMarker (token : Token) (l : Lexer) : Except Fault Lexer := do
  let l ← (l.unroll none).dropKey
  return { l with cursor := l.cursor.skip 3, keyAllowed := false }.push token

def fetchOpening (token : Token) (l : Lexer) : Except Fault Lexer := do
  let l ← l.markKey
  return { l with
    cursor := l.cursor.skip 1
    keyAllowed := true
    key := none
    outerKeys := l.key :: l.outerKeys }.push token

def fetchClosing (token : Token) (l : Lexer) : Except Fault Lexer := do
  let l ← l.dropKey
  let l := match l.outerKeys with
    | [] => l
    | key :: outerKeys => { l with key, outerKeys }
  return { l with cursor := l.cursor.skip 1, keyAllowed := false }.push token

/-- A comma inside brackets. -/
def fetchComma (l : Lexer) : Except Fault Lexer := do
  let l ← l.dropKey
  return { l with cursor := l.cursor.skip 1, keyAllowed := true }.push .flowEntry

/-- An indicator outside of brackets may stand only where a key may. -/
def open? (problem : String) (collection : Token) (l : Lexer) : Except Fault Lexer :=
  if l.inFlow then .ok l
  else if !l.keyAllowed then misplaced problem
  else .ok (l.roll l.cursor.column (push collection))

def fetchDash (l : Lexer) : Except Fault Lexer := do
  let l ← l.open? "block sequence entries are not allowed in this context" .blockSequenceStart
  let l ← l.dropKey
  return { l with cursor := l.cursor.skip 1, keyAllowed := true }.push .blockEntry

/-- The question mark of a key. -/
def fetchQuestion (l : Lexer) : Except Fault Lexer := do
  let l ← l.open? "mapping keys are not allowed in this context" .blockMappingStart
  let l ← l.dropKey
  return { l with cursor := l.cursor.skip 1, keyAllowed := !l.inFlow }.push .key

/-- The colon of a value, which may show that a key has begun before. -/
def fetchColon (l : Lexer) : Except Fault Lexer := do
  let l ← match l.key with
    | some k =>
      let l := l.insert k.token .key
      let l := l.roll k.column (insert k.token .blockMappingStart)
      pure { l with key := none, keyAllowed := false }
    | none => do
      let l ← l.open? "mapping values are not allowed in this context" .blockMappingStart
      pure { l with keyAllowed := !l.inFlow }
  return { l with cursor := l.cursor.skip 1 }.push .value

def fetchAnchor (isAlias : Bool) (l : Lexer) : Except Fault Lexer := do
  let l ← l.markKey
  let context := if isAlias then "while scanning an alias" else "while scanning an anchor"
  let (name, cursor) ← takeAnchorName context l.cursor
  return { l with cursor, keyAllowed := false }.push (if isAlias then .aliasTo name else .anchor name)

def fetchTag (l : Lexer) : Except Fault Lexer := do
  let l ← l.markKey
  let (token, cursor) ← takeTag l.inFlow l.cursor
  return { l with cursor, keyAllowed := false }.push token

def fetchBlock (folded : Bool) (l : Lexer) : Except Fault Lexer := do
  let l ← l.dropKey
  let (token, cursor) ← takeBlock folded l.indent l.cursor
  return { l with cursor, keyAllowed := true }.push token

def fetchQuoted (quote : Char) (l : Lexer) : Except Fault Lexer := do
  let l ← l.markKey
  let (token, cursor) ← takeQuoted quote l.cursor
  return { l with cursor, keyAllowed := false }.push token

def fetchPlain (l : Lexer) : Except Fault Lexer := do
  let l ← l.markKey
  let indent := match l.indent with
    | some n => n + 1
    | none => 0
  let ((token, broken), cursor) ← takePlain l.inFlow indent l.cursor
  return { l with cursor, keyAllowed := broken }.push token

/-- Whether a plain scalar may begin with a character, whatever follows. -/
def mayBeginPlain (ch : Char) : Bool :=
  !(isGap ch || ['-', '?', ':', ',', '[', ']', '\x7b', '\x7d', '#', '&', '*', '!', '|', '>',
    singleQuote, '"', '%', '@', '\x60'].contains ch)

/-- Whether a plain scalar begins here. -/
def atPlain (ch : Char) (l : Lexer) : Bool :=
  let c := l.cursor
  mayBeginPlain ch || (ch = '-' && !(c.ahead 1).any isBlank) ||
    (!l.inFlow && (ch = '?' || ch = ':') && !c.gapAhead 1)

/-- The token that begins with a character at hand. -/
def fetchAt (ch : Char) (l : Lexer) : Except Fault Lexer :=
  let c := l.cursor
  if c.column = 0 && ch = '%' then l.fetchDirective
  else if c.atMarker '-' then l.fetchMarker .documentStart
  else if c.atMarker '.' then l.fetchMarker .documentEnd
  else if ch = '[' then l.fetchOpening .flowSequenceStart
  else if ch = '\x7b' then l.fetchOpening .flowMappingStart
  else if ch = ']' then l.fetchClosing .flowSequenceEnd
  else if ch = '\x7d' then l.fetchClosing .flowMappingEnd
  else if ch = ',' then l.fetchComma
  else if ch = '-' && c.gapAhead 1 then l.fetchDash
  else if ch = '?' && (l.inFlow || c.gapAhead 1) then l.fetchQuestion
  else if ch = ':' && (l.inFlow || c.gapAhead 1) then l.fetchColon
  else if ch = '*' then l.fetchAnchor true
  else if ch = '&' then l.fetchAnchor false
  else if ch = '!' then l.fetchTag
  else if ch = '|' && !l.inFlow then l.fetchBlock false
  else if ch = '>' && !l.inFlow then l.fetchBlock true
  else if ch = singleQuote || ch = '"' then l.fetchQuoted ch
  else if l.atPlain ch then l.fetchPlain
  else wrong "found character that cannot start any token" "while scanning for the next token"

/-- Read one more token. -/
def fetch (l : Lexer) : Except Fault Lexer := do
  let l := l.toToken l.cursor.limit
  let l ← l.dropStaleKeys
  let l := l.unroll (some l.cursor.column)
  match l.cursor.rest with
  | [] => l.fetchEnd
  | ch :: _ => l.fetchAt ch

/-- Whether the next token may still turn out to be a key. -/
def isUnsettled (l : Lexer) : Bool :=
  (l.key :: l.outerKeys).any fun k => k.any (·.token = l.taken)

/-- Read tokens until it is clear which is next. -/
def settle : (fuel : Nat) → Lexer → Except Fault Lexer
  | 0, l => .ok l
  | fuel + 1, l => do
    if l.queue.isEmpty then settle fuel (← l.fetch)
    else
      let l ← l.dropStaleKeys
      if l.isUnsettled then settle fuel (← l.fetch) else return l

/-- The next token, which stays in the queue. -/
def peek (l : Lexer) : Except Fault (Token × Lexer) := do
  let l ← l.settle l.cursor.limit
  match l.queue with
  | [] => return (.streamEnd, l)
  | t :: _ => return (t, l)

/-- The text after its next token. -/
def drop (l : Lexer) : Lexer :=
  { l with queue := l.queue.tail, taken := l.taken + 1 }

end Lexer

end PolicyRollout.Yaml
