/-!
JSON text without blanks.

Each function writes the text of one form of JSON value from the texts of its
parts, with nothing between the tokens, members in the order given, and numbers
in decimal. In a string a quotation mark, a backslash and the control characters
below `U+0020` are escaped, by a letter where JSON has one and by four hexadecimal
digits otherwise; every other character is written as it is.
-/

namespace MonkeyTokens.Json

/-- How a character is written in a JSON string. -/
def stringChar (c : Char) : List Char :=
  if c = '\x22' ∨ c = '\\' then ['\\', c]
  else if c = '\x08' then ['\\', 'b']
  else if c = '\x0c' then ['\\', 'f']
  else if c = '\n' then ['\\', 'n']
  else if c = '\r' then ['\\', 'r']
  else if c = '\t' then ['\\', 't']
  else if c < ' ' then
    ['\\', 'u', '0', '0', Nat.digitChar (c.toNat / 16), Nat.digitChar (c.toNat % 16)]
  else [c]

/-- A JSON string. -/
def string (s : String) : String :=
  String.ofList ('\x22' :: s.toList.flatMap stringChar ++ ['\x22'])

/-- A JSON number. -/
def number (n : Nat) : String := Nat.repr n

/-- A JSON array of the values with these texts. -/
def array (values : List String) : String :=
  "[" ++ String.intercalate "," values ++ "]"

/-- A JSON object of members given by name and text. -/
def object (members : List (String × String)) : String :=
  "\x7b" ++ String.intercalate "," (members.map fun (name, value) => string name ++ ":" ++ value)
    ++ "\x7d"

end MonkeyTokens.Json
