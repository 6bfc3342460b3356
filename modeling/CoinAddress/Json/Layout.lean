import CoinAddress.Json.Text

/-!
# Laid-out JSON

Documents are written with one element or member on a line, two spaces deeper than the brackets
around it. An array or object without content is written as its two brackets.
-/

namespace CoinAddress.Json

/-- A line break and the blanks before a line of the given depth. -/
def lineBreak (depth : Nat) : List Char :=
  '\n' :: List.replicate (2 * depth) ' '

/-- The items between two brackets that stand at the given depth. -/
def block (opening closing : Char) (depth : Nat) (items : List (List Char)) : List Char :=
  match items with
  | [] => [opening, closing]
  | first :: others =>
    opening :: lineBreak (depth + 1) ++ first
      ++ others.flatMap (fun item => ',' :: lineBreak (depth + 1) ++ item)
      ++ lineBreak depth ++ [closing]

/-- An array of elements, already written for the next depth. -/
def array (depth : Nat) (elements : List (List Char)) : List Char :=
  block '[' ']' depth elements

/-- An object of members, already written for the next depth. -/
def object (depth : Nat) (members : List (List Char)) : List Char :=
  block '\x7b' '\x7d' depth members

/-- A member of an object. -/
def member (key : String) (value : List Char) : List Char :=
  quote key ++ [':', ' '] ++ value

/-- A natural number. -/
def natural (n : Nat) : List Char :=
  Nat.toDigits 10 n

end CoinAddress.Json
