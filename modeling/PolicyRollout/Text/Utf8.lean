/-!
UTF-8.  Bytes are read as symbols: a scalar value where the bytes encode one,
and a stray symbol for every longest run of bytes that begins an encoding
without finishing it.  A text is strict when it holds no stray symbol; the
lenient reading puts U+FFFD in place of each.
-/
namespace PolicyRollout.Text

/-- What bytes are read as: a character, or bytes that encode none. -/
inductive Symbol where
  | char (c : Char)
  | stray
deriving DecidableEq, Repr

/-- The character with a given number; the number is known to be a scalar value. -/
def scalar (n : Nat) : Char :=
  Char.ofNat n

/-- Whether a byte continues an encoding. -/
def isTail (b : UInt8) : Bool :=
  0x80 ≤ b && b ≤ 0xBF

/-- How an encoding goes on after its first byte: the value the first byte
contributes, the range its second byte must lie in, and the bytes after that. -/
structure Lead where
  value : Nat
  low : UInt8
  high : UInt8
  more : Nat

/-- The first byte of an encoding of two to four bytes. -/
def lead? (b : UInt8) : Option Lead :=
  if 0xC2 ≤ b && b ≤ 0xDF then some ⟨b.toNat - 0xC0, 0x80, 0xBF, 0⟩
  else if b == 0xE0 then some ⟨0, 0xA0, 0xBF, 1⟩
  else if b == 0xED then some ⟨0xD, 0x80, 0x9F, 1⟩
  else if 0xE1 ≤ b && b ≤ 0xEF then some ⟨b.toNat - 0xE0, 0x80, 0xBF, 1⟩
  else if b == 0xF0 then some ⟨0, 0x90, 0xBF, 2⟩
  else if 0xF1 ≤ b && b ≤ 0xF3 then some ⟨b.toNat - 0xF0, 0x80, 0xBF, 2⟩
  else if b == 0xF4 then some ⟨4, 0x80, 0x8F, 2⟩
  else none

/-- The character finished by `more` tail bytes after `value`, and the rest. -/
def readTail (value : Nat) : (more : Nat) → List UInt8 → Symbol × List UInt8
  | 0, bytes => (.char (scalar value), bytes)
  | _ + 1, [] => (.stray, [])
  | more + 1, b :: rest =>
    if isTail b then readTail (value * 64 + (b.toNat - 0x80)) more rest
    else (.stray, b :: rest)

/-- The first symbol of non-empty bytes, and the rest. -/
def readSymbol (b : UInt8) (rest : List UInt8) : Symbol × List UInt8 :=
  if b < 0x80 then (.char (scalar b.toNat), rest)
  else match lead? b with
    | none => (.stray, rest)
    | some lead => match rest with
      | [] => (.stray, [])
      | second :: rest =>
        if lead.low ≤ second && second ≤ lead.high then
          readTail (lead.value * 64 + (second.toNat - 0x80)) lead.more rest
        else (.stray, second :: rest)

theorem readTail_length (value more : Nat) (bytes : List UInt8) :
    (readTail value more bytes).2.length ≤ bytes.length := by
  induction more generalizing value bytes with
  | zero => simp [readTail]
  | succ more ih =>
    cases bytes with
    | nil => simp [readTail]
    | cons b rest =>
      simp only [readTail]
      split
      · exact Nat.le_succ_of_le (ih _ _)
      · simp

/-- Reading a symbol takes at least its first byte. -/
theorem readSymbol_length (b : UInt8) (rest : List UInt8) :
    (readSymbol b rest).2.length ≤ rest.length := by
  unfold readSymbol
  split
  · simp
  · split
    · simp
    · split
      · simp
      · split
        · exact Nat.le_succ_of_le (readTail_length _ _ _)
        · simp

def symbols : List UInt8 → List Symbol
  | [] => []
  | b :: rest =>
    (readSymbol b rest).1 :: symbols (readSymbol b rest).2
termination_by bytes => bytes.length
decreasing_by
  have := readSymbol_length b rest
  simp only [List.length_cons]
  omega

/-- The symbols of a text that is known to be well encoded. -/
def symbolsOfText (s : String) : List Symbol :=
  s.toList.map .char

/-- The characters of bytes that encode characters only. -/
def charsOfSymbols? : List Symbol → Option (List Char)
  | [] => some []
  | .char c :: rest => (charsOfSymbols? rest).map (c :: ·)
  | .stray :: _ => none

/-- The text bytes encode, if all of them do. -/
def decodeStrict? (bytes : List UInt8) : Option String :=
  (charsOfSymbols? (symbols bytes)).map String.ofList

/-- The text of bytes with U+FFFD for every stray symbol. -/
def decodeLenient (bytes : List UInt8) : String :=
  String.ofList ((symbols bytes).map fun
    | .char c => c
    | .stray => scalar 0xFFFD)

def encodeChar (c : Char) : List UInt8 :=
  let n := c.toNat
  if n < 0x80 then [n.toUInt8]
  else if n < 0x800 then [(0xC0 + n / 64).toUInt8, (0x80 + n % 64).toUInt8]
  else if n < 0x10000 then
    [(0xE0 + n / 4096).toUInt8, (0x80 + n / 64 % 64).toUInt8, (0x80 + n % 64).toUInt8]
  else
    [(0xF0 + n / 262144).toUInt8, (0x80 + n / 4096 % 64).toUInt8,
      (0x80 + n / 64 % 64).toUInt8, (0x80 + n % 64).toUInt8]

def encode (s : String) : List UInt8 :=
  s.toList.flatMap encodeChar

end PolicyRollout.Text
