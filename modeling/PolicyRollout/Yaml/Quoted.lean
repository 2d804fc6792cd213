import PolicyRollout.Yaml.Token
/-!
Quoted scalars.  Between single quotes a quote is written twice and nothing
else is special; between double quotes a backslash begins an escape.  Breaks
are folded in both.
-/
namespace PolicyRollout.Yaml

open Document (Fault)

def singleQuote : Char := Char.ofNat 0x27

def simpleEscape? (c : Char) : Option Char :=
  match c with
  | '0' => some (Char.ofNat 0)
  | 'a' => some (Char.ofNat 7)
  | 'b' => some (Char.ofNat 8)
  | 't' | '\t' => some '\t'
  | 'n' => some '\n'
  | 'v' => some (Char.ofNat 11)
  | 'f' => some (Char.ofNat 12)
  | 'r' => some '\r'
  | 'e' => some (Char.ofNat 0x1B)
  | ' ' => some ' '
  | '"' => some '"'
  | '/' => some '/'
  | '\\' => some '\\'
  | 'N' => some (Char.ofNat 0x85)
  | '_' => some (Char.ofNat 0xA0)
  | 'L' => some (Char.ofNat 0x2028)
  | 'P' => some (Char.ofNat 0x2029)
  | _ => none

/-- The number of hexadecimal digits after the first character of an escape. -/
def codeLength? (c : Char) : Option Nat :=
  match c with
  | 'x' => some 2
  | 'u' => some 4
  | 'U' => some 8
  | _ => none

/-- What is being read, in complaints about escapes. -/
def parsingQuoted : String := "while parsing a quoted scalar"

/-- What is being read, in other complaints. -/
def scanningQuoted : String := "while scanning a quoted scalar"

/-- The character an escape stands for, after its backslash. -/
def takeEscape (c : Cursor) : Except Fault (Char × Cursor) :=
  match c.rest with
  | [] => wrong "found unknown escape character" parsingQuoted
  | e :: rest =>
    match simpleEscape? e with
    | some ch => .ok (ch, c.skip 1)
    | none => match codeLength? e with
      | none => wrong "found unknown escape character" parsingQuoted
      | some n =>
        let digits := rest.take n
        if digits.length < n then wrong "did not find expected hexdecimal number" parsingQuoted
        else match Text.natural? 16 digits with
          | none => wrong "did not find expected hexdecimal number" parsingQuoted
          | some code =>
            if code.isValidChar then .ok (Char.ofNat code, c.skip (n + 1))
            else wrong "found invalid Unicode character escape code" parsingQuoted

/-- The characters up to a gap or the closing quote, after `done`, which is
held last first; and whether an escaped break ended them. -/
def takeQuotedRun (quote : Char) : (fuel : Nat) → (done : List Char) → Cursor →
    Except Fault ((List Char × Bool) × Cursor)
  | 0, done, c => .ok ((done, false), c)
  | fuel + 1, done, c =>
    match c.rest with
    | [] => .ok ((done, false), c)
    | ch :: _ =>
      if isGap ch then .ok ((done, false), c)
      else if ch = quote then
        if quote = singleQuote && c.has 1 quote then
          takeQuotedRun quote fuel (quote :: done) (c.skip 2)
        else .ok ((done, false), c)
      else if ch = '\\' && quote ≠ singleQuote then
        if (c.ahead 1).any isBreak then .ok ((done, true), (c.skip 1).skipBreak)
        else match takeEscape (c.skip 1) with
          | .error f => .error f
          | .ok (e, c) => takeQuotedRun quote fuel (e :: done) c
      else takeQuotedRun quote fuel (ch :: done) (c.skip 1)

/-- The text of a quoted scalar after its opening quote. -/
def takeQuotedText (quote : Char) : (fuel : Nat) → (done : List Char) → Cursor →
    Except Fault (List Char × Cursor)
  | 0, _, _ => wrong "found unexpected end of stream" scanningQuoted
  | fuel + 1, done, c =>
    if c.atDocumentMarker then wrong "found unexpected document indicator" scanningQuoted
    else if c.rest.isEmpty then wrong "found unexpected end of stream" scanningQuoted
    else match takeQuotedRun quote c.limit done c with
      | .error f => .error f
      | .ok ((done, escapedBreak), c) =>
        if c.has 0 quote then .ok (done.reverse, c.skip 1)
        else
          let gap := { Gap.none with broken := escapedBreak }
          match takeGap (fun _ => true) c.limit gap c with
          | none => wrong "found unexpected end of stream" scanningQuoted
          | some (gap, c) => takeQuotedText quote fuel (gap.text.reverse ++ done) c

def takeQuoted (quote : Char) (c : Cursor) : Except Fault (Token × Cursor) := do
  let (text, c) ← takeQuotedText quote c.limit [] (c.skip 1)
  return (.scalar text .quoted, c)

end PolicyRollout.Yaml
