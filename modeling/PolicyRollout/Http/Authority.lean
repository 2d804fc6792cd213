import PolicyRollout.Http.Form
import PolicyRollout.Network.Address
/-!
The part of a URL before its path: the user, the host and the port.  A host is
an IPv6 address between brackets, an IPv4 address, or a name.  Numbers are read
as leniently as browsers read them, so `127.1` and `0x7f000001` are both
127.0.0.1.  A name is taken as it stands but for its case.  Names with letters
beyond ASCII, which only the tables of Unicode could turn into ASCII, are
refused, and labels that are marked as turned into ASCII are not checked.
-/
namespace PolicyRollout.Http

def base64Digit (n : Nat) : Char :=
  if n < 26 then Char.ofNat (n + 'A'.toNat)
  else if n < 52 then Char.ofNat (n - 26 + 'a'.toNat)
  else if n < 62 then Char.ofNat (n - 52 + '0'.toNat)
  else if n = 62 then '+' else '/'

/-- So many digits of a number of 24 bits, the first ones. -/
def base64Digits (count n : Nat) : List Char :=
  ([n / 262144 % 64, n / 4096 % 64, n / 64 % 64, n % 64].take count).map base64Digit

/-- Bytes in base 64: three bytes are four digits, and fewer are filled up with equals signs. -/
def base64 : List UInt8 → List Char
  | [] => []
  | [a] => base64Digits 2 (65536 * a.toNat) ++ ['=', '=']
  | [a, b] => base64Digits 3 (65536 * a.toNat + 256 * b.toNat) ++ ['=']
  | a :: b :: c :: rest =>
    base64Digits 4 (65536 * a.toNat + 256 * b.toNat + c.toNat) ++ base64 rest

/-- Words of all three lengths of the last group. -/
example : ["foo", "foob", "fooba"].map (fun word => String.ofList (base64 (Text.encode word))) =
    ["Zm9v", "Zm9vYg==", "Zm9vYmE="] := by cbv

namespace Url

/-- What stands before the last at sign of an authority. -/
def readUserInfo (cs : List Char) : List Char :=
  ((cs.reverse.dropWhile (· ≠ '@')).drop 1).reverse

/-- The text some encoded characters stand for, if they stand for text. -/
def decodeUserText? (cs : List Char) : Option String :=
  Text.decodeStrict? (percentDecode cs)

/-- The credentials a user has by name and password; an empty password is none. -/
def basicCredentials? (userInfo : List Char) : Option String := do
  let (name, password) := splitFirst ':' userInfo
  let name ← decodeUserText? name
  let password? := (password.filter (· ≠ [])).bind decodeUserText?
  if name = "" && password?.isNone then none
  else some ("Basic " ++ String.ofList (base64 (Text.encode (name ++ ":" ++ password?.getD ""))))

/-- Whether a character may not stand in the name of a host. -/
def isForbiddenInHost (c : Char) : Bool :=
  c.toNat ≤ 0x20 || 0x7F ≤ c.toNat ||
    ['#', '/', ':', '<', '>', '?', '@', '[', '\\', ']', '^', '|', '%'].contains c

/-- The number a part of a host is: hexadecimal after `0x`, octal after a zero, or decimal. -/
def hostNumber? : List Char → Option Nat
  | ['0', 'x'] => some 0
  | '0' :: 'x' :: digits => Text.natural? 16 digits
  | '0' :: d :: digits => Text.natural? 8 (d :: digits)
  | digits => Text.natural? 10 digits

/-- The number that the numbers in a host make of so many bytes: each stands for
one byte, and the last one for all that are left. -/
def joinNumbers? : (bytes : Nat) → List Nat → Option Nat
  | bytes + 1, [last] => if last < Nat.pow 256 (bytes + 1) then some last else none
  | bytes + 1, n :: rest =>
    if n < 256 then (joinNumbers? bytes rest).map (n * Nat.pow 256 bytes + ·) else none
  | _, _ => none

/-- The parts of the name of a host; a point at its end does not count. -/
def hostParts (name : List Char) : List (List Char) :=
  match (splitEvery (· = '.') name).reverse with
  | [] :: part :: parts => (part :: parts).reverse
  | parts => parts.reverse

/-- Whether the last part of a host is a number, be it one that can be read or digits only. -/
def endsInNumber (parts : List (List Char)) : Bool :=
  parts.getLast?.any fun last =>
    (last ≠ [] && last.all Char.isDigit) || (hostNumber? last).isSome

/-- The host of a name, which is an address if it ends in a number. -/
def nameHost? (name : List Char) : Option String :=
  let parts := hostParts name
  if endsInNumber parts then do
    let n ← joinNumbers? 4 (← parts.mapM hostNumber?)
    let ip : Network.V4 :=
      ⟨(n / 16777216).toUInt8, (n / 65536).toUInt8, (n / 256).toUInt8, n.toUInt8⟩
    return String.ofList ip.render
  else some (String.ofList name)

/-- The host a text names: an address between brackets, or a name. -/
def readHost (cs : List Char) : Option String :=
  match cs with
  | '[' :: rest =>
    match rest.reverse with
    | ']' :: inner =>
      match Network.Address.ofChars? inner.reverse with
      | some (.v6 ip) => some ("[" ++ String.ofList ip.renderHex ++ "]")
      | _ => none
    | _ => none
  | _ =>
    let name := (Text.decodeLenient (percentDecode cs)).toList.map Char.toLower
    if name.isEmpty || name.any isForbiddenInHost then none else nameHost? name

/-- Addresses are written out, and names keep their points. -/
example : ["127.1", "0x7F.0.0.010", "1.2.3.256", "09", "[::FFFF:1.2.3.4]", "A.b."].map
    (fun host => readHost host.toList) = [some "127.0.0.1", some "127.0.0.8", none, none,
      some "[::ffff:102:304]", some "a.b."] := by decide +kernel

/-- Split the port off a host; colons between brackets belong to the host. -/
def splitPort (cs : List Char) : List Char × List Char :=
  let backwards := cs.reverse
  let digits := backwards.takeWhile Char.isDigit
  match backwards.drop digits.length with
  | ':' :: host => (host.reverse, digits.reverse)
  | _ => (cs, [])

/-- The host and the port that an authority names after its user. -/
def readAuthority (cs : List Char) : Option (String × Option Nat) :=
  let afterUser := (cs.reverse.takeWhile (· ≠ '@')).reverse
  let (host, digits) := splitPort afterUser
  match readHost host with
  | none => none
  | some host =>
    match digits with
    | [] => some (host, none)
    | digits => match Text.natural? 10 digits with
      | some port => if port < 65536 then some (host, some port) else none
      | none => none

end Url

end PolicyRollout.Http
