import PolicyRollout.Json.Value
/-!
JSON values as text, on one line or indented.  Quotes, backslashes and the
control characters are escaped and nothing else is.
-/
namespace PolicyRollout.Json

/-- How floating-point numbers are written: in full from a hundred-thousandth
up to ten quadrillion, otherwise with a signed exponent. -/
def floatLayout : FloatLayout := ⟨16, -5, true⟩

/-- A character inside a string. -/
def escapeChar (c : Char) : List Char :=
  if c = '"' then ['\\', '"']
  else if c = '\\' then ['\\', '\\']
  else if 0x20 ≤ c.toNat then [c]
  else if c.toNat = 8 then ['\\', 'b']
  else if c = '\t' then ['\\', 't']
  else if c = '\n' then ['\\', 'n']
  else if c.toNat = 12 then ['\\', 'f']
  else if c = '\r' then ['\\', 'r']
  else ['\\', 'u', '0', '0', Text.hexDigit (c.toNat / 16), Text.hexDigit c.toNat]

/-- A string between quotes. -/
def renderString (s : String) : List Char :=
  '"' :: s.toList.flatMap escapeChar ++ ['"']

def Number.render : Number → List Char
  | .natural n => Text.decimal n
  | .negative n => '-' :: Text.decimal n
  | .float x => (x.render floatLayout).toList

mutual

/-- A value on one line, without blanks. -/
def Value.render : Value → List Char
  | .null => "null".toList
  | .bool true => "true".toList
  | .bool false => "false".toList
  | .number n => n.render
  | .string s => renderString s
  | .array [] => ['[', ']']
  | .array (item :: items) => '[' :: (item.render ++ renderItems items) ++ [']']
  | .object [] => ['\x7b', '\x7d']
  | .object ((key, value) :: entries) =>
    '\x7b' :: (renderString key ++ ':' :: value.render ++ renderEntries entries) ++ ['\x7d']

/-- Items after the first, each after a comma. -/
def renderItems : List Value → List Char
  | [] => []
  | item :: items => ',' :: item.render ++ renderItems items

/-- Members after the first, each after a comma. -/
def renderEntries : List (String × Value) → List Char
  | [] => []
  | (key, value) :: entries =>
    ',' :: renderString key ++ ':' :: value.render ++ renderEntries entries

end

/-- A new line, indented by two blanks a level. -/
def newline (level : Nat) : List Char :=
  '\n' :: List.replicate (2 * level) ' '

mutual

/-- A value with every item and member on a line of its own. -/
def Value.renderPretty (level : Nat) : Value → List Char
  | .array [] => ['[', ']']
  | .array (item :: items) =>
    '[' :: newline (level + 1) ++ item.renderPretty (level + 1) ++
      renderItemsPretty (level + 1) items ++ newline level ++ [']']
  | .object [] => ['\x7b', '\x7d']
  | .object ((key, value) :: entries) =>
    '\x7b' :: newline (level + 1) ++ renderString key ++ [':', ' '] ++
      value.renderPretty (level + 1) ++ renderEntriesPretty (level + 1) entries ++
      newline level ++ ['\x7d']
  | .null => "null".toList
  | .bool true => "true".toList
  | .bool false => "false".toList
  | .number n => n.render
  | .string s => renderString s

/-- Items after the first, each on a line of its own. -/
def renderItemsPretty (level : Nat) : List Value → List Char
  | [] => []
  | item :: items =>
    ',' :: newline level ++ item.renderPretty level ++ renderItemsPretty level items

/-- Members after the first, each on a line of its own. -/
def renderEntriesPretty (level : Nat) : List (String × Value) → List Char
  | [] => []
  | (key, value) :: entries =>
    ',' :: newline level ++ renderString key ++ [':', ' '] ++ value.renderPretty level ++
      renderEntriesPretty level entries

end

def Value.text (v : Value) : String :=
  String.ofList v.render

/-- The text of a value with every item and member on a line of its own. -/
def Value.prettyText (v : Value) : String :=
  String.ofList (v.renderPretty 0)

end PolicyRollout.Json
