import CoinAddress.Hex
import CoinAddress.Json.Fault
import CoinAddress.Outcome

/-!
# JSON strings

A string is written with escapes for the quote, the backslash and the controls alone. It is read
with all escapes, where two escaped surrogates make one character. A string that is passed over is
held to the form of its escapes only, so surrogates may stand alone in it.
-/

namespace CoinAddress.Json

/-- What an escape stands for. -/
inductive Escape where
  /-- A character with a short escape. -/
  | char (c : Char)
  /-- A UTF-16 unit. -/
  | unit (value : Nat)
deriving DecidableEq, Repr

/-- The character of a short escape. -/
def shortEscape? : Char → Option Char
  | '"' => some '"'
  | '\\' => some '\\'
  | '/' => some '/'
  | 'b' => some '\x08'
  | 'f' => some '\x0c'
  | 'n' => some '\n'
  | 'r' => some '\r'
  | 't' => some '\t'
  | _ => none

/-- Reads the four digits of a UTF-16 unit. With fewer than four bytes left the string has ended. -/
def readUnit : List Char → Except Fault (Nat × List Char)
  | a :: b :: c :: d :: text =>
    match Hex.digit? a, Hex.digit? b, Hex.digit? c, Hex.digit? d with
    | some w, some x, some y, some z => .ok (((w * 16 + x) * 16 + y) * 16 + z, text)
    | _, _, _, _ => .error .badEscape
  | text =>
    if (String.ofList text).utf8ByteSize < 4 then .error (.ended .string) else .error .badEscape

/-- Reads what follows a backslash. -/
def readEscape : List Char → Except Fault (Escape × List Char)
  | [] => .error (.ended .string)
  | c :: text =>
    if c = 'u' then (readUnit text).map fun (value, rest) => (.unit value, rest)
    else
      match shortEscape? c with
      | some d => .ok (.char d, text)
      | none => .error .badEscape

/-- Whether a unit is the first of a pair. -/
def isLeading (unit : Nat) : Bool := 0xd800 ≤ unit ∧ unit ≤ 0xdbff

/-- Whether a unit is the second of a pair. -/
def isTrailing (unit : Nat) : Bool := 0xdc00 ≤ unit ∧ unit ≤ 0xdfff

/-- The character of a pair of units. -/
def pairChar (leading trailing : Nat) : Char :=
  Char.ofNat (0x10000 + (leading - 0xd800) * 0x400 + (trailing - 0xdc00))

/-- Reads the second unit of a pair, which has to follow as an escape of its own. -/
def readTrailing (leading : Nat) : List Char → Except Fault (Char × List Char)
  | [] => .error (.ended .string)
  | '\\' :: [] => .error (.ended .string)
  | '\\' :: 'u' :: text => do
    let (trailing, rest) ← readUnit text
    if isTrailing trailing then return (pairChar leading trailing, rest) else throw .loneSurrogate
  | _ => .error .unfinishedSurrogate

/-- Reads the character of an escape, after the backslash. -/
def readEscaped (text : List Char) : Except Fault (Char × List Char) := do
  match ← readEscape text with
  | (.char c, rest) => return (c, rest)
  | (.unit value, rest) =>
    if isTrailing value then throw .loneSurrogate
    else if isLeading value then readTrailing value rest
    else return (Char.ofNat value, rest)

/-- A unit takes four digits. -/
theorem readUnit_length {text rest : List Char} {value : Nat}
    (h : readUnit text = .ok (value, rest)) : rest.length < text.length := by
  unfold readUnit at h
  split at h
  case h_1 =>
    split at h
    case h_1 =>
      cases h
      simp only [List.length_cons]
      omega
    case h_2 => cases h
  case h_2 => split at h <;> cases h

/-- An escape has a character at least after its backslash. -/
theorem readEscape_length {text rest : List Char} {escape : Escape}
    (h : readEscape text = .ok (escape, rest)) : rest.length < text.length := by
  unfold readEscape at h
  split at h
  case h_1 => cases h
  case h_2 c text =>
    split at h
    case isTrue =>
      obtain ⟨⟨unit, after⟩, read, eq⟩ := Outcome.map_eq_ok_iff.mp h
      cases eq
      exact Nat.lt_succ_of_lt (readUnit_length read)
    case isFalse =>
      split at h
      case h_1 =>
        cases h
        exact Nat.lt_succ_self _
      case h_2 => cases h

/-- The second unit of a pair is an escape of its own. -/
theorem readTrailing_length {leading : Nat} {text rest : List Char} {c : Char}
    (h : readTrailing leading text = .ok (c, rest)) : rest.length < text.length := by
  unfold readTrailing at h
  split at h
  case h_1 => cases h
  case h_2 => cases h
  case h_3 text =>
    obtain ⟨⟨trailing, after⟩, read, eq⟩ := Outcome.bind_eq_ok_iff.mp h
    dsimp only at eq
    split at eq
    case isTrue =>
      obtain ⟨_, rfl⟩ := Prod.mk.inj (Except.ok.inj eq)
      exact Nat.lt_succ_of_lt (Nat.lt_succ_of_lt (readUnit_length read))
    case isFalse => cases eq
  case h_4 => cases h

/-- Reading an escape leaves less text. -/
theorem readEscaped_length {text rest : List Char} {c : Char}
    (h : readEscaped text = .ok (c, rest)) : rest.length < text.length := by
  obtain ⟨⟨escape, after⟩, read, eq⟩ := Outcome.bind_eq_ok_iff.mp h
  have shorter := readEscape_length read
  cases escape with
  | char d =>
    cases eq
    exact shorter
  | unit value =>
    dsimp only at eq
    split at eq
    case isTrue => cases eq
    case isFalse =>
      split at eq
      case isTrue => exact Nat.lt_trans (readTrailing_length eq) shorter
      case isFalse =>
        cases eq
        exact shorter

/-- Whether a character may not stand in a string as itself. -/
def isControl (c : Char) : Bool := c.toNat < 0x20

/-- Reads the rest of a string, after its first quote. -/
def readBody (text : List Char) : Except Fault (List Char × List Char) :=
  match text with
  | [] => .error (.ended .string)
  | c :: rest =>
    if c = '"' then .ok ([], rest)
    else if c = '\\' then
      match _ : readEscaped rest with
      | .error fault => .error fault
      | .ok (d, after) => (readBody after).map fun (cs, left) => (d :: cs, left)
    else if isControl c then .error .controlCharacter
    else (readBody rest).map fun (cs, left) => (c :: cs, left)
termination_by text.length
decreasing_by
  · have := readEscaped_length ‹readEscaped rest = _›
    simp only [List.length_cons]
    omega
  · simp

/-- Reading the rest of a string leaves less text. -/
theorem readBody_length {text rest cs : List Char}
    (h : readBody text = .ok (cs, rest)) : rest.length < text.length := by
  fun_induction readBody text generalizing cs rest with
  | case1 => cases h
  | case2 =>
    cases h
    exact Nat.lt_succ_self _
  | case3 => cases h
  | case4 _ _ after escaped _ ih =>
    obtain ⟨⟨_, left⟩, read, eq⟩ := Outcome.map_eq_ok_iff.mp h
    cases eq
    exact Nat.lt_succ_of_lt (Nat.lt_trans (ih read) (readEscaped_length escaped))
  | case5 => cases h
  | case6 _ _ _ _ _ ih =>
    obtain ⟨⟨_, left⟩, read, eq⟩ := Outcome.map_eq_ok_iff.mp h
    cases eq
    exact Nat.lt_succ_of_lt (ih read)

/-- Passes over the rest of a string, after its first quote. -/
def skipBody (text : List Char) : Except Fault (List Char) :=
  match text with
  | [] => .error (.ended .string)
  | c :: rest =>
    if c = '"' then .ok rest
    else if c = '\\' then
      match _ : readEscape rest with
      | .error fault => .error fault
      | .ok (_, after) => skipBody after
    else if isControl c then .error .controlCharacter
    else skipBody rest
termination_by text.length
decreasing_by
  · have := readEscape_length ‹readEscape rest = _›
    simp only [List.length_cons]
    omega
  · simp

/-- Passing over the rest of a string leaves less text. -/
theorem skipBody_length {text rest : List Char}
    (h : skipBody text = .ok rest) : rest.length < text.length := by
  fun_induction skipBody text with
  | case1 => cases h
  | case2 =>
    cases h
    exact Nat.lt_succ_self _
  | case3 => cases h
  | case4 _ _ after escape _ ih =>
    exact Nat.lt_succ_of_lt (Nat.lt_trans (ih h) (readEscape_length escape))
  | case5 => cases h
  | case6 _ _ _ _ _ ih => exact Nat.lt_succ_of_lt (ih h)

/-- The written form of a character within a string. -/
def escapeChar (c : Char) : List Char :=
  if c = '"' ∨ c = '\\' then ['\\', c]
  else if c = '\x08' then ['\\', 'b']
  else if c = '\x0c' then ['\\', 'f']
  else if c = '\n' then ['\\', 'n']
  else if c = '\r' then ['\\', 'r']
  else if c = '\t' then ['\\', 't']
  else if isControl c then ['\\', 'u', '0', '0'] ++ Hex.byteDigits c.toNat.toUInt8
  else [c]

/-- The written form of a string. -/
def quote (text : String) : List Char :=
  '"' :: text.toList.flatMap escapeChar ++ ['"']

end CoinAddress.Json
