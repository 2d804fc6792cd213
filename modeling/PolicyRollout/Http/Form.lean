import PolicyRollout.Http.Percent
/-!
Form encoding: pairs of texts in a query.  Pairs are joined by ampersands, the
two texts of a pair by an equals sign, and blanks become plus signs.
-/
namespace PolicyRollout.Http

/-- The characters that stand for themselves in a form. -/
def isFormSafe (c : Char) : Bool :=
  c.isAlphanum || c = '*' || c = '-' || c = '.' || c = '_'

def formChar (c : Char) : List Char :=
  if c = ' ' then ['+'] else percentChar isFormSafe c

def formText (text : String) : List Char :=
  text.toList.flatMap formChar

def formPair (p : String × String) : List Char :=
  formText p.1 ++ '=' :: formText p.2

/-- Pairs as a query. -/
def formEncode : List (String × String) → List Char
  | [] => []
  | [p] => formPair p
  | p :: rest => formPair p ++ '&' :: formEncode rest

/-- A text before the first occurrence of a character, and the text after it if it occurs. -/
def splitFirst (mark : Char) (cs : List Char) : List Char × Option (List Char) :=
  (cs.takeWhile (· ≠ mark), (cs.dropWhile (· ≠ mark)).tail?)

/-- The parts of a text between the occurrences of a character; there is always at least one. -/
def splitEvery (mark : Char → Bool) : List Char → List (List Char)
  | [] => [[]]
  | c :: rest =>
    if mark c then [] :: splitEvery mark rest
    else match splitEvery mark rest with
      | [] => [[c]]
      | part :: parts => (c :: part) :: parts

def formDecodeText (cs : List Char) : String :=
  Text.decodeLenient (percentDecode (cs.map fun c => if c = '+' then ' ' else c))

/-- The pair a part of a query stands for. -/
def formDecodePair (cs : List Char) : String × String :=
  let (name, value) := splitFirst '=' cs
  (formDecodeText name, formDecodeText (value.getD []))

/-- The pairs of a query; empty parts are dropped. -/
def formDecode (cs : List Char) : List (String × String) :=
  ((splitEvery (· = '&') cs).filter fun part => !part.isEmpty).map formDecodePair

end PolicyRollout.Http
