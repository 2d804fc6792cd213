import PolicyRollout.Text.Utf8
import PolicyRollout.Yaml.Token
/-!
Tags, anchors and directives.  A tag is written in full between angle
brackets, or as a handle that stands for the beginning of a tag and the rest of
it.
-/
namespace PolicyRollout.Yaml

open Document (Fault)

/-- The name of an anchor, or of the anchor an alias refers to. -/
def takeAnchorName (context : String) (c : Cursor) : Except Fault (List Char × Cursor) :=
  let (name, c) := (c.skip 1).span isNameChar
  let ends := c.gapAhead 0 || (c.ahead 0).any ['?', ':', ',', ']', '\x7d', '%', '@', '\x60'].contains
  if name.isEmpty || !ends then wrong "did not find expected alphabetic or numeric character" context
  else .ok (name, c)

/-- What is being read in a tag, in complaints; `directive` when a directive defines it. -/
def parsingTag (directive : Bool) : String :=
  if directive then "while parsing a %TAG directive" else "while parsing a tag"

/-- How many bytes an encoding has that begins with this byte. -/
def encodingLength? (b : Nat) : Option Nat :=
  if b < 0x80 then some 1
  else if 0xC0 ≤ b && b < 0xE0 then some 2
  else if 0xE0 ≤ b && b < 0xF0 then some 3
  else if 0xF0 ≤ b && b < 0xF8 then some 4
  else none

/-- An encoded byte. -/
def takeOctet (directive : Bool) (c : Cursor) : Except Fault (Nat × Cursor) :=
  match c.has 0 '%', (c.ahead 1).bind (Text.digit? 16), (c.ahead 2).bind (Text.digit? 16) with
  | true, some high, some low => .ok (16 * high + low, c.skip 3)
  | _, _, _ => wrong "did not find URI escaped octet" (parsingTag directive)

/-- The encoded bytes that continue a character. -/
def takeOctets (directive : Bool) : (count : Nat) → Cursor → Except Fault (List Nat × Cursor)
  | 0, c => .ok ([], c)
  | count + 1, c => do
    let (b, c) ← takeOctet directive c
    if b < 0x80 || 0xC0 ≤ b then
      wrong "found an incorrect trailing UTF-8 octet" (parsingTag directive)
    else
      let (rest, c) ← takeOctets directive count c
      return (b :: rest, c)

/-- A character given by its encoded bytes. -/
def takeEncoded (directive : Bool) (c : Cursor) : Except Fault (List Char × Cursor) := do
  let (first, c) ← takeOctet directive c
  match encodingLength? first with
  | none => wrong "found an incorrect leading UTF-8 octet" (parsingTag directive)
  | some n =>
    let (rest, c) ← takeOctets directive (n - 1) c
    return ((Text.decodeLenient ((first :: rest).map Nat.toUInt8)).toList, c)

/-- Whether a character may stand in a tag; commas and square brackets only in one that is `full`. -/
def isTagChar (full : Bool) (c : Char) : Bool :=
  isNameChar c ||
    [';', '/', '?', ':', '@', '&', '=', '+', '$', '.', '%', '!', '~', '*', '\x27', '(', ')'].contains c ||
    (full && [',', '[', ']'].contains c)

def takeTagChars (full directive : Bool) : (fuel : Nat) → Cursor → Except Fault (List Char × Cursor)
  | 0, c => .ok ([], c)
  | fuel + 1, c =>
    match c.rest with
    | [] => .ok ([], c)
    | ch :: _ =>
      if !isTagChar full ch then .ok ([], c)
      else do
        let (decoded, c) ← if ch = '%' then takeEncoded directive c else .ok ([ch], c.skip 1)
        let (rest, c) ← takeTagChars full directive fuel c
        return (decoded ++ rest, c)

/-- The characters of a tag, of which there must be one unless something stands before them. -/
def takeTagText (full directive mayBeEmpty : Bool) (c : Cursor) :
    Except Fault (List Char × Cursor) := do
  let (text, next) ← takeTagChars full directive c.limit c
  if text.isEmpty && !mayBeEmpty then wrong "did not find expected tag URI" (parsingTag directive)
  else return (text, next)

/-- A handle: a name between exclamation marks, or what looks like the beginning of one. -/
def takeHandle (directive : Bool) (c : Cursor) : Except Fault (List Char × Cursor) :=
  let context := if directive then "while scanning a tag directive" else "while scanning a tag"
  if !c.has 0 '!' then wrong "did not find expected '!'" context
  else
    let (name, c) := (c.skip 1).span isNameChar
    if c.has 0 '!' then .ok ('!' :: name ++ ['!'], c.skip 1)
    else if directive && !name.isEmpty then
      wrong "did not find expected '!'" "while parsing a tag directive"
    else .ok ('!' :: name, c)

/-- The handle and the rest of a tag that is not written in full. -/
def takeShortTag (c : Cursor) : Except Fault ((List Char × List Char) × Cursor) := do
  let (handle, c) ← takeHandle false c
  if 1 < handle.length && handle.getLast? = some '!' then
    let (suffix, c) ← takeTagText false false false c
    return ((handle, suffix), c)
  else
    let (rest, c) ← takeTagText false false true c
    let suffix := handle.tail ++ rest
    return (if suffix.isEmpty then ([], ['!']) else (['!'], suffix), c)

/-- A tag; `inFlow` inside brackets. -/
def takeTag (inFlow : Bool) (c : Cursor) : Except Fault (Token × Cursor) := do
  let ((handle, suffix), c) ←
    if c.has 1 '<' then do
      let (suffix, c) ← takeTagText true false false (c.skip 2)
      if c.has 0 '>' then .ok ((([] : List Char), suffix), c.skip 1)
      else wrong "did not find the expected '>'" "while scanning a tag"
    else takeShortTag c
  if c.gapAhead 0 || (inFlow && c.has 0 ',') then return (.tag handle suffix, c)
  else wrong "did not find expected whitespace or line break" "while scanning a tag"

def takeVersionNumber (c : Cursor) : Except Fault (Nat × Cursor) :=
  let context := "while scanning a %YAML directive"
  let (digits, c) := c.span Char.isDigit
  if 9 < digits.length then wrong "found extremely long version number" context
  else match Text.natural? 10 digits with
    | none => wrong "did not find expected version number" context
    | some n => .ok (n, c)

def takeVersion (c : Cursor) : Except Fault (Token × Cursor) := do
  let (major, c) ← takeVersionNumber c.skipBlanks
  if !c.has 0 '.' then
    wrong "did not find expected digit or '.' character" "while scanning a %YAML directive"
  else
    let (minor, c) ← takeVersionNumber (c.skip 1)
    return (.version major minor, c)

/-- A handle and what it stands for. -/
def takeTagPrefix (c : Cursor) : Except Fault (Token × Cursor) := do
  let context := "while scanning a %TAG directive"
  let (handle, c) ← takeHandle true c.skipBlanks
  if !(c.ahead 0).any isBlank then wrong "did not find expected whitespace" context
  else
    let (value, c) ← takeTagText true true false c.skipBlanks
    if c.gapAhead 0 then return (.tagPrefix handle value, c)
    else wrong "did not find expected whitespace or line break" context

/-- A directive, to the end of its line. -/
def takeDirective (c : Cursor) : Except Fault (Token × Cursor) := do
  let context := "while scanning a directive"
  let (name, c) := (c.skip 1).span isNameChar
  if name.isEmpty then wrong "could not find expected directive name" context
  else if !c.gapAhead 0 then wrong "found unexpected non-alphabetical character" context
  else
    let (token, c) ←
      if name = "YAML".toList then takeVersion c
      else if name = "TAG".toList then takeTagPrefix c
      else wrong "found unknown directive name" context
    let c := c.skipBlanks.skipComment
    if !c.atLineEnd then wrong "did not find expected comment or line break" context
    else return (token, c.skipBreak)

end PolicyRollout.Yaml
