import EnvOperator.Json.Basic
import EnvOperator.Number.Shortest

/-! # Writing JSON text

The compact form has no blanks. The indented form puts every item and member on
a line of its own, two blanks deeper than what holds it. An unreadable part leaves a
null behind.
-/
namespace EnvOperator
namespace Json

/-- Quotes, backslashes and control characters are escaped, all else stands for itself. -/
def escapeChar (c : Char) : List Char :=
  if c = '"' then ['\\', '"']
  else if c = '\\' then ['\\', '\\']
  else if c = '\n' then ['\\', 'n']
  else if c = '\r' then ['\\', 'r']
  else if c = '\t' then ['\\', 't']
  else if c = '\x08' then ['\\', 'b']
  else if c = '\x0c' then ['\\', 'f']
  else if c.toNat < 0x20 then
    ['\\', 'u', '0', '0', Text.hexChar (c.toNat / 16), Text.hexChar (c.toNat % 16)]
  else [c]

def quote (s : String) : String := "\"" ++ String.ofList (s.toList.flatMap escapeChar) ++ "\""

mutual
def compact : Json → String
  | null => "null"
  | bool true => "true"
  | bool false => "false"
  | integer i => toString i
  | decimal negative x => x.text negative
  | string s => quote s
  | array xs => "[" ++ compactItems xs ++ "]"
  | object ms => "\x7b" ++ compactMembers ms ++ "\x7d"
  | unreadable => "null"
def compactItems : List Json → String
  | [] => ""
  | [x] => compact x
  | x :: y :: rest => compact x ++ "," ++ compactItems (y :: rest)
def compactMembers : Members → String
  | [] => ""
  | [(n, x)] => quote n ++ ":" ++ compact x
  | (n, x) :: y :: rest => quote n ++ ":" ++ compact x ++ "," ++ compactMembers (y :: rest)
end

def newLine (depth : Nat) : String := "\n" ++ String.ofList (List.replicate (2 * depth) ' ')

mutual
def indentedAt (depth : Nat) : Json → String
  | array (x :: xs) => "[" ++ indentedItems (depth + 1) (x :: xs) ++ newLine depth ++ "]"
  | object (m :: ms) => "\x7b" ++ indentedMembers (depth + 1) (m :: ms) ++ newLine depth ++ "\x7d"
  | j => compact j
def indentedItems (depth : Nat) : List Json → String
  | [] => ""
  | [x] => newLine depth ++ indentedAt depth x
  | x :: y :: rest => newLine depth ++ indentedAt depth x ++ "," ++ indentedItems depth (y :: rest)
def indentedMembers (depth : Nat) : Members → String
  | [] => ""
  | [(n, x)] => newLine depth ++ quote n ++ ": " ++ indentedAt depth x
  | (n, x) :: y :: rest =>
    newLine depth ++ quote n ++ ": " ++ indentedAt depth x ++ "," ++ indentedMembers depth
      (y :: rest)
end

def indented (j : Json) : String := indentedAt 0 j

end Json
end EnvOperator
