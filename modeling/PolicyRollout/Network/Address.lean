import PolicyRollout.Text.Basic
/-!
IP addresses and their text.  An IPv4 address is four decimal numbers; an IPv6
address is eight hexadecimal groups, of which one run of zeros may be left out
and the last two may be written as an IPv4 address.  Reading is strict: no
blanks, no leading zeros in decimal numbers, at most four digits in a group.
-/
namespace PolicyRollout.Network

structure V4 where
  a : UInt8
  b : UInt8
  c : UInt8
  d : UInt8
deriving DecidableEq, Repr

/-- An IPv6 address: eight groups of 16 bits. -/
structure V6 where
  groups : List UInt16
  length_eq : groups.length = 8
deriving DecidableEq, Repr

inductive Address where
  | v4 (ip : V4)
  | v6 (ip : V6)
deriving DecidableEq, Repr

def Address.isV6 : Address → Bool
  | .v4 _ => false
  | .v6 _ => true

/-- The longest run of digits of a base, and the rest. -/
def takeDigits (base : Nat) : List Char → List Char × List Char
  | [] => ([], [])
  | c :: rest =>
    match Text.digit? base c with
    | some _ => ((c :: (takeDigits base rest).1), (takeDigits base rest).2)
    | none => ([], c :: rest)

/-- A decimal number of one byte without leading zeros, and the rest. -/
def takeOctet (cs : List Char) : Option (UInt8 × List Char) :=
  let (digits, rest) := takeDigits 10 cs
  if 3 < digits.length then none
  else if digits.head? = some '0' && 1 < digits.length then none
  else match Text.natural? 10 digits with
    | some n => if n < 256 then some (n.toUInt8, rest) else none
    | none => none

/-- A hexadecimal number of one to four digits, and the rest. -/
def takeGroup (cs : List Char) : Option (UInt16 × List Char) :=
  let (digits, rest) := takeDigits 16 cs
  if 4 < digits.length then none
  else match Text.natural? 16 digits with
    | some n => some (n.toUInt16, rest)
    | none => none

/-- The text after a character it begins with. -/
def takeChar (c : Char) : List Char → Option (List Char)
  | [] => none
  | d :: rest => if c = d then some rest else none

def takeV4 (cs : List Char) : Option (V4 × List Char) := do
  let (a, cs) ← takeOctet cs
  let cs ← takeChar '.' cs
  let (b, cs) ← takeOctet cs
  let cs ← takeChar '.' cs
  let (c, cs) ← takeOctet cs
  let cs ← takeChar '.' cs
  let (d, cs) ← takeOctet cs
  return (⟨a, b, c, d⟩, cs)

/-- The two groups an IPv4 address stands for. -/
def V4.groups (ip : V4) : List UInt16 :=
  [ip.a.toUInt16 * 256 + ip.b.toUInt16, ip.c.toUInt16 * 256 + ip.d.toUInt16]

/-- Groups separated by colons: at most `room` of them, with an IPv4 address
in place of the last two if there is room for two.  `first` says that no colon
stands before the next group.  The flag says whether an IPv4 address was read. -/
def takeGroups : (room : Nat) → (first : Bool) → List Char → List UInt16 × Bool × List Char
  | 0, _, cs => ([], false, cs)
  | room + 1, first, cs =>
    let start := if first then some cs else takeChar ':' cs
    match start with
    | none => ([], false, cs)
    | some body =>
      let embedded := if room = 0 then none else takeV4 body
      match embedded with
      | some (ip, rest) => (ip.groups, true, rest)
      | none =>
        match takeGroup body with
        | none => ([], false, cs)
        | some (group, rest) =>
          let (groups, embedded, rest) := takeGroups room false rest
          (group :: groups, embedded, rest)

def V6.ofGroups? (groups : List UInt16) : Option V6 :=
  if h : groups.length = 8 then some ⟨groups, h⟩ else none

def takeV6 (cs : List Char) : Option (V6 × List Char) :=
  let (head, embedded, rest) := takeGroups 8 true cs
  if head.length = 8 then (V6.ofGroups? head).map (·, rest)
  else if embedded then none
  else match rest with
    | ':' :: ':' :: rest =>
      let (tail, _, rest) := takeGroups (7 - head.length) true rest
      let zeros := List.replicate (8 - head.length - tail.length) 0
      (V6.ofGroups? (head ++ zeros ++ tail)).map (·, rest)
    | _ => none

def Address.ofChars? (cs : List Char) : Option Address :=
  match takeV4 cs with
  | some (ip, rest) => if rest.isEmpty then some (.v4 ip) else none
  | none => match takeV6 cs with
    | some (ip, rest) => if rest.isEmpty then some (.v6 ip) else none
    | none => none

def Address.parse? (s : String) : Option Address :=
  Address.ofChars? s.toList

def V4.render (ip : V4) : List Char :=
  Text.decimal ip.a.toNat ++ '.' :: Text.decimal ip.b.toNat ++ '.' ::
    Text.decimal ip.c.toNat ++ '.' :: Text.decimal ip.d.toNat

/-- Groups separated by colons, in lower case and without leading zeros. -/
def renderGroups : List UInt16 → List Char
  | [] => []
  | [g] => Nat.toDigits 16 g.toNat
  | g :: gs => Nat.toDigits 16 g.toNat ++ ':' :: renderGroups gs

/-- A run of zero groups: where it starts and how long it is. -/
structure Run where
  start : Nat
  length : Nat
deriving DecidableEq, Repr

/-- The longest run of zeros, the first of equally long ones.  `at_` is the
position, `current` the run that ends there. -/
def longestRun : (groups : List UInt16) → (at_ : Nat) → (current longest : Run) → Run
  | [], _, _, longest => longest
  | g :: gs, at_, current, longest =>
    if g = 0 then
      let current : Run :=
        if current.length = 0 then ⟨at_, 1⟩ else ⟨current.start, current.length + 1⟩
      longestRun gs (at_ + 1) current (if longest.length < current.length then current else longest)
    else longestRun gs (at_ + 1) ⟨0, 0⟩ longest

/-- The IPv4 address that an IPv6 address wraps. -/
def V6.mapped? (ip : V6) : Option V4 :=
  match ip.groups with
  | [0, 0, 0, 0, 0, 0xFFFF, hi, lo] =>
    some ⟨(hi / 256).toUInt8, (hi % 256).toUInt8, (lo / 256).toUInt8, (lo % 256).toUInt8⟩
  | _ => none

/-- The groups of an IPv6 address; the longest run of two or more zeros is left out. -/
def V6.renderHex (ip : V6) : List Char :=
  let run := longestRun ip.groups 0 ⟨0, 0⟩ ⟨0, 0⟩
  if 1 < run.length then
    renderGroups (ip.groups.take run.start) ++ ':' :: ':' ::
      renderGroups (ip.groups.drop (run.start + run.length))
  else renderGroups ip.groups

/-- The text of an IPv6 address; one that wraps an IPv4 address ends in it. -/
def V6.render (ip : V6) : List Char :=
  match ip.mapped? with
  | some v4 => "::ffff:".toList ++ v4.render
  | none => ip.renderHex

def Address.render : Address → List Char
  | .v4 ip => ip.render
  | .v6 ip => ip.render

def Address.text (ip : Address) : String :=
  String.ofList ip.render

end PolicyRollout.Network
