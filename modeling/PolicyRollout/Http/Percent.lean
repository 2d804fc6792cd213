import PolicyRollout.Text.Basic
import PolicyRollout.Text.Utf8
/-!
Percent encoding.  A byte is written as a percent sign and two hexadecimal
digits; the bytes of characters that are safe where they stand are left as
they are.  Decoding takes any text and leaves a percent sign alone that no two
digits follow.
-/
namespace PolicyRollout.Http

/-- A byte as a percent sign and two digits. -/
def percentByte (b : UInt8) : List Char :=
  ['%', (Text.hexDigit (b.toNat / 16)).toUpper, (Text.hexDigit b.toNat).toUpper]

/-- A character that is safe as it is, and the bytes of any other encoded. -/
def percentChar (safe : Char → Bool) (c : Char) : List Char :=
  if safe c then [c] else (Text.encodeChar c).flatMap percentByte

/-- A text with all characters encoded that are not safe. -/
def percentEncode (safe : Char → Bool) (cs : List Char) : List Char :=
  cs.flatMap (percentChar safe)

/-- The bytes a text with encoded bytes stands for. -/
def percentDecode : List Char → List UInt8
  | '%' :: a :: b :: rest =>
    match Text.digit? 16 a, Text.digit? 16 b with
    | some high, some low => (16 * high + low).toUInt8 :: percentDecode rest
    | _, _ => Text.encodeChar '%' ++ percentDecode (a :: b :: rest)
  | c :: rest => Text.encodeChar c ++ percentDecode rest
  | [] => []

/-- The characters that have no special meaning anywhere in a URL. -/
def isUnreserved (c : Char) : Bool :=
  c.isAlphanum || c = '-' || c = '_' || c = '.' || c = '~'

/-- A text as one segment of a path. -/
def encodeSegment (text : String) : List Char :=
  percentEncode isUnreserved text.toList

end PolicyRollout.Http
