import PolicyRollout.Http.Message
/-!
Requests and responses as bytes.  A response is read after the connection has
been closed: its body is as long as announced, or in chunks, or as long as the
connection lasted.
-/
namespace PolicyRollout.Http

def Request.wire (r : Request) : List UInt8 :=
  let body := Text.encode r.body
  let length := match r.method with
    | .get => []
    | .post => [("content-length", Text.decimalText body.length)]
  let headers := [("host", r.authority), ("authorization", r.authorization),
    ("content-type", r.contentType), ("accept", "*/*"), ("connection", "close")] ++ length
  let lines := (r.method.name ++ " " ++ r.target ++ " HTTP/1.1") ::
    headers.map fun (name, value) => name ++ ": " ++ value
  Text.encode ("\r\n".intercalate lines ++ "\r\n\r\n") ++ body

/-- A line without the carriage return at its end; the line is held last byte first. -/
def endLine : List UInt8 → List UInt8
  | 13 :: line => line.reverse
  | line => line.reverse

/-- The lines of a head and the bytes after its empty line; `line` holds the
line that has been begun, last byte first. -/
def splitHead : (line : List UInt8) → List UInt8 → Option (List (List UInt8) × List UInt8)
  | _, [] => none
  | line, byte :: rest =>
    if byte ≠ 10 then splitHead (byte :: line) rest
    else if (endLine line).isEmpty then some ([], rest)
    else (splitHead [] rest).map fun (lines, rest) => (endLine line :: lines, rest)

/-- A line as text without blanks around it, in lower case. -/
def lineText (line : List UInt8) : String :=
  String.ofList ((Text.trimChars (Text.decodeLenient line).toList).map Char.toLower)

def readHeader (line : List UInt8) : String × String :=
  (lineText (line.takeWhile (· ≠ 58)), lineText ((line.dropWhile (· ≠ 58)).drop 1))

def readStatus (line : List UInt8) : Option Nat :=
  Text.natural? 10 (((Text.decodeLenient line).toList.dropWhile (· ≠ ' ')).drop 1 |>.take 3)

/-- The first line of some bytes, and the bytes after it. -/
def splitLine (bytes : List UInt8) : List UInt8 × List UInt8 :=
  (bytes.takeWhile (· ≠ 10), (bytes.dropWhile (· ≠ 10)).drop 1)

/-- The size a chunk begins with. -/
def readSize (line : List UInt8) : Option Nat :=
  Text.natural? 16 ((lineText line).toList.takeWhile (· ≠ ';'))

/-- A body in at most so many chunks, and whether it is complete. -/
def readChunks : (chunks : Nat) → List UInt8 → List UInt8 × Bool
  | 0, _ => ([], false)
  | chunks + 1, bytes =>
    let (line, rest) := splitLine bytes
    match readSize line with
    | none => ([], false)
    | some 0 => ([], true)
    | some size =>
      let chunk := rest.take size
      if chunk.length < size then (chunk, false)
      else
        let (others, complete) := readChunks chunks (splitLine (rest.drop size)).2
        (chunk ++ others, complete)

def readBody (headers : List (String × String)) (bytes : List UInt8) : List UInt8 × Bool :=
  let value? (name : String) := (headers.find? (·.1 = name)).map (·.2)
  if value? "transfer-encoding" = some "chunked" then readChunks (bytes.length + 1) bytes
  else match (value? "content-length").bind fun text => Text.natural? 10 text.toList with
    | some length => (bytes.take length, length ≤ bytes.length)
    | none => (bytes, true)

/-- The response in some bytes, after at most so many that only announce it. -/
def Response.ofWire? : (announced : Nat) → List UInt8 → Option Response
  | 0, _ => none
  | announced + 1, bytes => do
    let (lines, rest) ← splitHead [] bytes
    let status ← readStatus (← lines.head?)
    if status < 200 then ofWire? announced rest
    else
      let (body, complete) := readBody (lines.tail.map readHeader) rest
      return ⟨status, body, complete⟩

end PolicyRollout.Http
