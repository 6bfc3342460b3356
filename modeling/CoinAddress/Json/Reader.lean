import CoinAddress.Json.Skip

/-!
# Readers

A reader takes a value of one type from the front of a text and stops at the first fault. Every
reader leaves less text than it was given, and this is part of its type, so repetition ends.
-/

namespace CoinAddress.Json

/-- A way to read values of a type. -/
structure Reader (α : Type) where
  /-- Reads a value and answers what follows it. -/
  run : List Char → Except Fault (α × List Char)
  /-- A value takes at least one character. -/
  shortens : ∀ {text rest : List Char} {a : α}, run text = .ok (a, rest) → rest.length < text.length

/-- The fault of a value that is not of the wanted type. A fault within the value goes first. -/
def misfit (wanted : String) : List Char → Fault
  | [] => .ended .value
  | c :: text =>
    if c = 'n' then word ['u', 'l', 'l'] text .null
    else if c = 't' then word ['r', 'u', 'e'] text (.boolean true)
    else if c = 'f' then word ['a', 'l', 's', 'e'] text (.boolean false)
    else if c = '"' then
      match readBody text with
      | .ok (cs, _) => .wrongType (.string (String.ofList cs)) wanted
      | .error fault => fault
    else if c = '[' then .wrongType .sequence wanted
    else if c = '\x7b' then .wrongType .map wanted
    else if Numeral.starts c then
      match Numeral.read (c :: text) with
      | .ok (value, _) => .wrongType (.number value) wanted
      | .error fault => fault
    else .expectedValue
where
  /-- The fault of a word that stands for a value, once its first letter is read. -/
  word (letters text : List Char) (found : Found) : Fault :=
    match readWord letters text with
    | .ok _ => .wrongType found wanted
    | .error fault => fault

namespace Reader

/-- A reader of values made from those of another. -/
def map {α β : Type} (f : α → β) (reader : Reader α) : Reader β where
  run text := (reader.run text).map fun (a, rest) => (f a, rest)
  shortens {text rest b} h := by
    obtain ⟨⟨a, left⟩, read, eq⟩ := Outcome.map_eq_ok_iff.mp h
    cases eq
    exact reader.shortens read

/-- Reads a string after blanks. -/
def readString (text : List Char) : Except Fault (String × List Char) :=
  match skipBlanks text with
  | [] => .error (.ended .value)
  | c :: rest =>
    if c = '"' then (readBody rest).map fun (cs, left) => (String.ofList cs, left)
    else .error (misfit "a string" (c :: rest))

/-- A string takes its first quote at least. -/
theorem readString_length {text rest : List Char} {value : String}
    (h : readString text = .ok (value, rest)) : rest.length < text.length := by
  unfold readString at h
  split at h
  case h_1 => cases h
  case h_2 c after found =>
    split at h
    case isTrue =>
      obtain ⟨⟨cs, left⟩, body, eq⟩ := Outcome.map_eq_ok_iff.mp h
      cases eq
      exact Nat.lt_trans (readBody_length body) (length_of_skipBlanks found)
    case isFalse => cases h

/-- Reads a string. -/
def string : Reader String where
  run := readString
  shortens := readString_length

/-- The byte that a number is, which has to be an integer from 0 to 255. -/
def toByte : Number → Except Fault UInt8
  | .integer value =>
    if 0 ≤ value ∧ value ≤ 255 then .ok value.toNat.toUInt8 else .error (.wrongValue value "u8")
  | number => .error (.wrongType (.number number) "u8")

/-- Reads a byte. -/
def byte : Reader UInt8 where
  run text :=
    match skipBlanks text with
    | [] => .error (.ended .value)
    | c :: rest =>
      if Numeral.starts c then do
        let (number, left) ← Numeral.read (c :: rest)
        let value ← toByte number
        return (value, left)
      else .error (misfit "u8" (c :: rest))
  shortens {text rest value} h := by
    split at h
    case h_1 => cases h
    case h_2 c after found =>
      have shown := length_of_skipBlanks found
      split at h
      case isTrue =>
        obtain ⟨⟨number, left⟩, read, eq⟩ := Outcome.bind_eq_ok_iff.mp h
        obtain ⟨byte, _, eq⟩ := Outcome.bind_eq_ok_iff.mp eq
        cases eq
        exact Nat.lt_of_lt_of_le (Numeral.read_length read) shown
      case isFalse => cases h

/-- Reads a value or the word `null`. -/
def nullable {α : Type} (reader : Reader α) : Reader (Option α) where
  run text :=
    match skipBlanks text with
    | 'n' :: rest => (readWord ['u', 'l', 'l'] rest).map (none, ·)
    | _ => (reader.map some).run text
  shortens {text rest value} h := by
    split at h
    case h_1 after found =>
      obtain ⟨left, word, eq⟩ := Outcome.map_eq_ok_iff.mp h
      cases eq
      exact Nat.lt_of_le_of_lt (readWord_length word) (length_of_skipBlanks found)
    case h_2 => exact (reader.map some).shortens h

end Reader

/-- What comes next in an array or an object. -/
inductive Next where
  /-- The array or object is closed, and this follows. -/
  | closed (rest : List Char)
  /-- An element or a key starts here. -/
  | item (text : List Char)
deriving DecidableEq, Repr

/-- Looks for the next element of an array, before which a comma stands unless it is the first. -/
def nextElement (first : Bool) (text : List Char) : Except Fault Next :=
  match skipBlanks text with
  | [] => .error (.ended .list)
  | c :: rest =>
    if c = ']' then .ok (.closed rest)
    else if first then .ok (.item (c :: rest))
    else if c = ',' then
      match skipBlanks rest with
      | [] => .error (.ended .value)
      | d :: left => if d = ']' then .error .trailingComma else .ok (.item (d :: left))
    else .error .expectedListEnd

/-- A bracket takes a character, and an element starts no earlier than the text. -/
theorem nextElement_length {first : Bool} {text : List Char} {next : Next}
    (h : nextElement first text = .ok next) :
    match next with
    | .closed rest => rest.length < text.length
    | .item rest => rest.length ≤ text.length := by
  unfold nextElement at h
  split at h
  case h_1 => cases h
  case h_2 c after found =>
    have shown := length_of_skipBlanks found
    split at h
    case isTrue =>
      cases h
      exact shown
    split at h
    case isTrue =>
      cases h
      exact shown
    split at h
    case isFalse => cases h
    case isTrue =>
      split at h
      case h_1 => cases h
      case h_2 d left found' =>
        split at h
        case isTrue => cases h
        case isFalse =>
          cases h
          exact Nat.le_of_lt (Nat.lt_of_le_of_lt (length_of_skipBlanks found') shown)

/-- Reads the elements of an array up to its closing bracket. -/
def readElements {α : Type} (reader : Reader α) (first : Bool) (text : List Char) :
    Except Fault (List α × List Char) :=
  match _ : nextElement first text with
  | .error fault => .error fault
  | .ok (.closed rest) => .ok ([], rest)
  | .ok (.item start) =>
    match _ : reader.run start with
    | .error fault => .error fault
    | .ok (a, rest) => (readElements reader false rest).map fun (as, left) => (a :: as, left)
termination_by text.length
decreasing_by
  have := nextElement_length ‹nextElement first text = _›
  have := reader.shortens ‹reader.run start = _›
  simp only at *
  omega

/-- The elements of an array end with a bracket. -/
theorem readElements_length {α : Type} {reader : Reader α} {first : Bool} {text rest : List Char}
    {as : List α} (h : readElements reader first text = .ok (as, rest)) :
    rest.length < text.length := by
  fun_induction readElements reader first text generalizing as rest with
  | case1 => cases h
  | case2 _ text left closed =>
    cases h
    exact nextElement_length closed
  | case3 => cases h
  | case4 _ text start item a left element ih =>
    obtain ⟨⟨_, _⟩, others, eq⟩ := Outcome.map_eq_ok_iff.mp h
    cases eq
    have shorter := Nat.lt_trans (ih others) (reader.shortens element)
    exact Nat.lt_of_lt_of_le shorter (nextElement_length item)

/-- Reads an array of values. -/
def Reader.list {α : Type} (reader : Reader α) : Reader (List α) where
  run text :=
    match skipBlanks text with
    | [] => .error (.ended .value)
    | c :: rest =>
      if c = '[' then readElements reader true rest
      else .error (misfit "a sequence" (c :: rest))
  shortens {text rest value} h := by
    split at h
    case h_1 => cases h
    case h_2 c after found =>
      split at h
      case isTrue => exact Nat.lt_trans (readElements_length h) (length_of_skipBlanks found)
      case isFalse => cases h

/-- Reads a document, which holds one value and nothing else. -/
def Reader.document {α : Type} (reader : Reader α) (text : String) : Except Fault α := do
  let (a, rest) ← reader.run text.toList
  if (skipBlanks rest).isEmpty then return a else throw .trailingCharacters

end CoinAddress.Json
