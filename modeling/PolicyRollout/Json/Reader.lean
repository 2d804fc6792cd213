import PolicyRollout.Document.Decoder
import PolicyRollout.Json.Numeral
/-!
JSON text as documents.  The grammar is the strict one: no comments, no
trailing commas, no leading zeros, no raw control characters in strings.
-/
namespace PolicyRollout.Json

open Text (Symbol)
open Document (Fault Break Node Scalar Source)

/-- The four characters between values that mean nothing. -/
def isSpace : Symbol → Bool
  | .char c => c = ' ' || c = '\n' || c = '\t' || c = '\r'
  | .stray => false

/-- The text after the blanks it begins with. -/
def skipSpace (symbols : List Symbol) : List Symbol :=
  symbols.dropWhile isSpace

/-- The number of four hexadecimal digits. -/
def unit? : (a b c d : Symbol) → Option Nat
  | .char a, .char b, .char c, .char d => Text.natural? 16 [a, b, c, d]
  | _, _, _, _ => none

/-- What a string has come to: its characters, and why it cannot be read although it can be
passed over. -/
structure Draft where
  chars : List Char
  spoiled : Option Fault

def Draft.push (c : Char) (d : Draft) : Draft :=
  { d with chars := c :: d.chars }

/-- A draft that cannot be read, for a reason that comes before any other it has. -/
def Draft.spoil (f : Fault) (d : Draft) : Draft :=
  { d with spoiled := some f }

def simpleEscape? (c : Char) : Option Char :=
  if c = '"' || c = '\\' || c = '/' then some c
  else if c = 'b' then some '\x08'
  else if c = 'f' then some '\x0c'
  else if c = 'n' then some '\n'
  else if c = 'r' then some '\r'
  else if c = 't' then some '\t'
  else none

/-- Whether a number is the first half of a character. -/
def isLeading (n : Nat) : Bool :=
  0xD800 ≤ n && n ≤ 0xDBFF

/-- Whether a number is the second half of a character. -/
def isTrailing (n : Nat) : Bool :=
  0xDC00 ≤ n && n ≤ 0xDFFF

/-- The character of a first half and of the escape a text begins with, which
must be a second half. -/
def joinHalves (n : Nat) : List Symbol → Except Fault Char
  | .char '\\' :: .char 'u' :: a :: b :: c :: d :: _ =>
    match unit? a b c d with
    | none => .error .badEscape
    | some m =>
      if isTrailing m then .ok (Char.ofNat (0x10000 + (n - 0xD800) * 0x400 + (m - 0xDC00)))
      else .error .loneSurrogate
  | [] | [.char '\\'] | .char '\\' :: .char 'u' :: _ => .error .endInString
  | _ => .error .unfinishedSurrogate

/-- A break inside a string whose reader may have stopped earlier. -/
def Draft.breakOff (spoiled : Option Fault) (f : Fault) : Break :=
  ⟨spoiled.getD f, f⟩

/-- What a string has come to, and the text after it. -/
abbrev StringReading := Except Break (Draft × List Symbol)

/-- A string with one more character in front. -/
def StringReading.push (c : Char) (r : StringReading) : StringReading :=
  r.map fun (draft, after) => (draft.push c, after)

/-- A string that cannot be read, for a reason that comes before any other it has. -/
def StringReading.spoil (f : Fault) (r : StringReading) : StringReading :=
  r.map fun (draft, after) => (draft.spoil f, after)

/-- The string after its opening quote, up to and with the closing one.
`spoiled` is why the part before cannot be read. -/
def readString (spoiled : Option Fault) : List Symbol → StringReading
  | [] => .error (Draft.breakOff spoiled .endInString)
  | .stray :: rest => do
    let (draft, after) ← readString spoiled rest
    return (draft.spoil (draft.spoiled.getD .badEncoding), after)
  | .char c :: rest =>
    if c = '"' then .ok (⟨[], none⟩, rest)
    else if c = '\\' then
      match rest with
      | [] => .error (Draft.breakOff spoiled .endInString)
      | .stray :: _ => .error (Draft.breakOff spoiled .badEscape)
      | .char 'u' :: a :: b :: c :: d :: rest =>
        match unit? a b c d with
        | none => .error (Draft.breakOff spoiled .badEscape)
        | some n =>
          if isLeading n then
            match joinHalves n rest with
            | .error f => (readString (spoiled.or (some f)) rest).spoil f
            | .ok c => match rest with
              | _ :: _ :: _ :: _ :: _ :: _ :: after => (readString spoiled after).push c
              | _ => .error (Draft.breakOff spoiled .endInString)
          else if isTrailing n then
            (readString (spoiled.or (some .loneSurrogate)) rest).spoil .loneSurrogate
          else (readString spoiled rest).push (Char.ofNat n)
      | .char e :: rest =>
        match simpleEscape? e with
        | some c => (readString spoiled rest).push c
        | none =>
          .error (Draft.breakOff spoiled (if e = 'u' then .endInString else .badEscape))
    else if c.toNat < 0x20 then .error (Draft.breakOff spoiled .rawControl)
    else (readString spoiled rest).push c

def Draft.node (d : Draft) : Node :=
  match d.spoiled with
  | some f => .spoiled f
  | none => .text (String.ofList d.chars)

/-- The text after a word it is known to begin with, or the break. -/
def takeWord : List Char → List Symbol → Except Break (List Symbol)
  | [], rest => .ok rest
  | _ :: _, [] => .error (.at .endInValue)
  | w :: word, .char c :: rest => if w = c then takeWord word rest else .error (.at .badWord)
  | _ :: _, .stray :: _ => .error (.at .badWord)

/-- A node, and the text after it unless the node breaks off. -/
abbrev Reading := Node × Option (List Symbol)

def readWord (word : List Char) (node : Node) (symbols : List Symbol) : Reading :=
  match takeWord word symbols with
  | .ok rest => (node, some rest)
  | .error b => (.broken b, none)

def readNumber (negative : Bool) (symbols : List Symbol) : Reading :=
  match takeNumeral negative symbols with
  | .error b => (.broken b, none)
  | .ok (numeral, rest) =>
    match numeral.value? with
    | some n => (.scalar (.of (Document.foundNumber n)), some rest)
    | none => (.spoiled .numberTooGreat, some rest)

mutual

def readValue : (fuel : Nat) → List Symbol → Reading
  | 0, _ => (.broken (.at .tooDeep), none)
  | fuel + 1, symbols =>
    match skipSpace symbols with
    | [] => (.broken (.at .endInValue), none)
    | .stray :: _ => (.broken (.at .noValue), none)
    | .char c :: rest =>
      if c = '"' then
        match readString none rest with
        | .error b => (.broken b, none)
        | .ok (draft, rest) => (draft.node, some rest)
      else if c = '[' then
        let (items, after) := readItems fuel true rest
        match after with
        | .ok rest => (.sequence items none, some rest)
        | .error b => (.sequence items (some b), none)
      else if c = '\x7b' then
        let (entries, after) := readEntries fuel true rest
        match after with
        | .ok rest => (.mapping entries none, some rest)
        | .error b => (.mapping entries (some b), none)
      else if c = 'n' then readWord "ull".toList (.scalar (.of .unit)) rest
      else if c = 't' then readWord "rue".toList (.scalar (.of (.boolean true))) rest
      else if c = 'f' then readWord "alse".toList (.scalar (.of (.boolean false))) rest
      else if c = '-' then readNumber true rest
      else if c.isDigit then readNumber false (.char c :: rest)
      else (.broken (.at .noValue), none)

/-- The items of a list up to and with its closing bracket, and the text after
it.  Before an item that is not the `first` a comma must stand. -/
def readItems : (fuel : Nat) → (first : Bool) → List Symbol →
    List Node × Except Break (List Symbol)
  | 0, _, _ => ([], .error (.at .tooDeep))
  | fuel + 1, first, symbols =>
    match skipSpace symbols with
    | [] => ([], .error (.at .endInList))
    | .char ']' :: rest => ([], .ok rest)
    | .char ',' :: rest =>
      if first then readItem fuel (.char ',' :: rest)
      else match skipSpace rest with
        | .char ']' :: _ => ([], .error ⟨.trailingComma, .noValue⟩)
        | rest => readItem fuel rest
    | rest => if first then readItem fuel rest else ([], .error (.at .noCommaInList))

/-- An item of a list, and the items after it. -/
def readItem : (fuel : Nat) → List Symbol → List Node × Except Break (List Symbol)
  | 0, _ => ([], .error (.at .tooDeep))
  | fuel + 1, symbols =>
    match readValue fuel symbols with
    | (node, none) => ([node], .error (.at .endInList))
    | (node, some rest) =>
      let (items, after) := readItems fuel false rest
      (node :: items, after)

/-- The members of an object up to and with its closing brace, and the text
after it.  Before a member that is not the `first` a comma must stand. -/
def readEntries : (fuel : Nat) → (first : Bool) → List Symbol →
    List (Node × Node) × Except Break (List Symbol)
  | 0, _, _ => ([], .error (.at .tooDeep))
  | fuel + 1, first, symbols =>
    match skipSpace symbols with
    | [] => ([], .error (.at .endInObject))
    | .char c :: rest =>
      if c = '\x7d' then ([], .ok rest)
      else if first then
        if c = '"' then readEntry fuel rest else ([], .error (.at .keyNotText))
      else if c = ',' then
        match skipSpace rest with
        | [] => ([], .error ⟨.endInValue, .endInObject⟩)
        | .char d :: rest =>
          if d = '"' then readEntry fuel rest
          else if d = '\x7d' then ([], .error ⟨.trailingComma, .keyNotText⟩)
          else ([], .error (.at .keyNotText))
        | .stray :: _ => ([], .error (.at .keyNotText))
      else ([], .error (.at .noCommaInObject))
    | .stray :: _ =>
      ([], .error (.at (if first then .keyNotText else .noCommaInObject)))

/-- A member of an object after the opening quote of its name, and the members after it. -/
def readEntry : (fuel : Nat) → List Symbol → List (Node × Node) × Except Break (List Symbol)
  | 0, _ => ([], .error (.at .tooDeep))
  | fuel + 1, symbols =>
    match readString none symbols with
    | .error b => ([], .error b)
    | .ok (draft, rest) =>
      match skipSpace rest with
      | .char ':' :: rest =>
        match readValue fuel rest with
        | (node, none) => ([(draft.node, node)], .error (.at .endInObject))
        | (node, some rest) =>
          let (entries, after) := readEntries fuel false rest
          ((draft.node, node) :: entries, after)
      | [] => ([(draft.node, .broken (.at .endInObject))], .error (.at .endInObject))
      | _ => ([(draft.node, .broken (.at .noColon))], .error (.at .noColon))

end

def read (symbols : List Symbol) : Source :=
  let (root, rest) := readValue (3 * symbols.length + 3) symbols
  let tail := match rest with
    | none => none
    | some rest => if (skipSpace rest).isEmpty then none else some .trailingText
  ⟨root, [], tail⟩

/-- How many collections of a JSON text may be opened inside one another. -/
def maxDepth : Nat := 127

def decode {α : Type} (decoder : Document.Decoder α) (symbols : List Symbol) :
    Except Document.Complaint α :=
  (read symbols).decode .json (some maxDepth) decoder

/-- The value a JSON text is, if it is one. -/
def parse? (text : String) : Option Value :=
  (decode Document.value (Text.symbolsOfText text)).toOption

end PolicyRollout.Json
