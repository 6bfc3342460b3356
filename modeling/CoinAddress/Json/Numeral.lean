import CoinAddress.Json.Fault
import CoinAddress.Outcome

/-!
# JSON numbers

A number is read into a significand of 64 bits and a decimal exponent. Digits that no longer fit are
counted before the point and dropped after it. A number that is not an integer of 64 bits becomes a
double: the significand, rounded once, times or over a power of ten, rounded again.
-/

namespace CoinAddress.Json

/-- The value of a decimal digit. -/
def digit? (c : Char) : Option Nat :=
  if '0' ≤ c ∧ c ≤ '9' then some (c.toNat - '0'.toNat) else none

namespace Numeral

/-- The greatest significand. -/
def maxSignificand : Nat := 0xffffffffffffffff

/-- The greatest exponent that is told from all larger ones. -/
def maxExponent : Nat := 0x7fffffff

/-- The greatest power of ten that a double can hold. -/
def maxPower : Nat := 308

/-- Leading digits of a text, appended to a value. -/
structure DigitRun where
  /-- The value with the digits appended. -/
  value : Nat
  /-- How many digits were appended. -/
  count : Nat
  /-- What follows them. -/
  rest : List Char
deriving DecidableEq, Repr

/-- Appends leading digits of a text to a value as long as it stays within the limit. -/
def appendDigits (limit value count : Nat) : List Char → DigitRun
  | [] => ⟨value, count, []⟩
  | c :: text =>
    match digit? c with
    | none => ⟨value, count, c :: text⟩
    | some d =>
      if 10 * value + d ≤ limit then appendDigits limit (10 * value + d) (count + 1) text
      else ⟨value, count, c :: text⟩

/-- How many digits lead a text. -/
def countDigits (text : List Char) : Nat :=
  (text.takeWhile fun c => (digit? c).isSome).length

/-- The text after leading digits. -/
def skipDigits (text : List Char) : List Char :=
  text.dropWhile fun c => (digit? c).isSome

/-- The double nearest to a power of ten. -/
def powerOfTen (n : Nat) : Float :=
  Float.ofScientific 1 false n

/-- A double divided by a power of ten, in steps that a double can hold. -/
def divideByPower (value : Float) (n : Nat) : Float :=
  if n ≤ maxPower then value / powerOfTen n
  else if value == 0 then value
  else divideByPower (value / powerOfTen maxPower) (n - maxPower)
termination_by n
decreasing_by simp only [maxPower] at *; omega

/-- The size of a double times a power of ten. -/
def scale (value : Float) : Int → Except Fault Float
  | .ofNat n =>
    if n ≤ maxPower then
      let product := value * powerOfTen n
      if product.isInf then .error .numberOutOfRange else .ok product
    else if value == 0 then .ok value
    else .error .numberOutOfRange
  | .negSucc n => .ok (divideByPower value (n + 1))

/-- The double with a sign and a size. -/
def signed (negative : Bool) (size : Float) : Number :=
  .float (if negative then -size else size).toBits

/-- The double of a significand and an exponent. -/
def ofParts (negative : Bool) (significand : Nat) (exponent : Int) : Except Fault Number :=
  (scale significand.toUInt64.toFloat exponent).map (signed negative)

/-- The number without fraction and exponent. A negative one that is zero or below the least integer
of 64 bits is a double. -/
def ofInteger (negative : Bool) (significand : Nat) : Number :=
  if negative then
    if 0 < significand ∧ significand ≤ 0x8000000000000000 then .integer (-significand)
    else signed true significand.toUInt64.toFloat
  else .integer significand

/-- Reads the digits of an exponent, which goes up or down from the given one. -/
def readShift (negative down : Bool) (significand : Nat) (exponent : Int) :
    List Char → Except Fault (Number × List Char)
  | [] => .error (.ended .value)
  | c :: text =>
    match digit? c with
    | none => .error .badNumber
    | some d =>
      let shift := appendDigits maxExponent d 0 text
      if countDigits shift.rest = 0 then
        let exponent := if down then exponent - shift.value else exponent + shift.value
        (ofParts negative significand exponent).map (·, shift.rest)
      else if significand = 0 ∨ down then .ok (signed negative 0, skipDigits shift.rest)
      else .error .numberOutOfRange

/-- Reads what follows the mark of an exponent. -/
def readExponent (negative : Bool) (significand : Nat) (exponent : Int) :
    List Char → Except Fault (Number × List Char)
  | '+' :: text => readShift negative false significand exponent text
  | '-' :: text => readShift negative true significand exponent text
  | text => readShift negative false significand exponent text

/-- Reads an exponent, if there is one, after a significand that belongs to the given exponent. -/
def readMark (negative : Bool) (significand : Nat) (exponent : Int) :
    List Char → Except Fault (Number × List Char)
  | 'e' :: text => readExponent negative significand exponent text
  | 'E' :: text => readExponent negative significand exponent text
  | text => (ofParts negative significand exponent).map (·, text)

/-- Reads what follows the point. Digits that the significand cannot hold are dropped. -/
def readFraction (negative : Bool) (significand : Nat) (exponent : Int) (text : List Char) :
    Except Fault (Number × List Char) :=
  let run := appendDigits maxSignificand significand 0 text
  if run.count + countDigits run.rest = 0 then
    if run.rest.isEmpty then .error (.ended .value) else .error .badNumber
  else readMark negative run.value (exponent - run.count) (skipDigits run.rest)

/-- Reads what follows the whole part, of which so many digits did not fit the significand. -/
def readTail (negative : Bool) (significand excess : Nat) :
    List Char → Except Fault (Number × List Char)
  | '.' :: text => readFraction negative significand excess text
  | 'e' :: text => readExponent negative significand excess text
  | 'E' :: text => readExponent negative significand excess text
  | text =>
    if excess = 0 then .ok (ofInteger negative significand, text)
    else (ofParts negative significand excess).map (·, text)

/-- Reads a number without its sign. A leading zero is followed by no digit. -/
def readUnsigned (negative : Bool) : List Char → Except Fault (Number × List Char)
  | [] => .error (.ended .value)
  | c :: text =>
    match digit? c with
    | none => .error .badNumber
    | some 0 =>
      if countDigits text = 0 then readTail negative 0 0 text else .error .badNumber
    | some d =>
      let run := appendDigits maxSignificand d 0 text
      readTail negative run.value (countDigits run.rest) (skipDigits run.rest)

/-- Whether a character starts a number. -/
def starts (c : Char) : Bool :=
  c = '-' ∨ (digit? c).isSome

/-- Reads a number. -/
def read : List Char → Except Fault (Number × List Char)
  | '-' :: text => readUnsigned true text
  | text => readUnsigned false text

/-! ### Progress -/

/-- Digits are taken off the front of a text. -/
theorem appendDigits_length (limit value count : Nat) (text : List Char) :
    (appendDigits limit value count text).rest.length ≤ text.length := by
  fun_induction appendDigits limit value count text with
  | case1 => exact Nat.le_refl _
  | case2 => exact Nat.le_refl _
  | case3 _ _ _ _ _ _ _ ih => exact Nat.le_succ_of_le ih
  | case4 => exact Nat.le_refl _

/-- Passing over digits leaves no more text. -/
theorem skipDigits_length (text : List Char) : (skipDigits text).length ≤ text.length :=
  (List.dropWhile_sublist _).length_le

/-- Making a number of its parts reads nothing. -/
theorem ofParts_rest {negative : Bool} {significand : Nat} {exponent : Int} {text rest : List Char}
    {value : Number}
    (h : (ofParts negative significand exponent).map (·, text) = .ok (value, rest)) :
    rest = text := by
  obtain ⟨_, _, eq⟩ := Outcome.map_eq_ok_iff.mp h
  cases eq
  rfl

variable {negative down : Bool} {significand excess : Nat} {exponent : Int}
  {text rest : List Char} {value : Number}

/-- An exponent has a digit at least. -/
theorem readShift_length
    (h : readShift negative down significand exponent text = .ok (value, rest)) :
    rest.length < text.length := by
  unfold readShift at h
  split at h
  case h_1 => cases h
  case h_2 c text =>
    split at h
    case h_1 => cases h
    case h_2 d _ =>
      have kept := appendDigits_length maxExponent d 0 text
      have left := skipDigits_length (appendDigits maxExponent d 0 text).rest
      dsimp only at h
      apply Nat.lt_succ_of_le
      split at h
      case isTrue =>
        rw [ofParts_rest h]
        exact kept
      case isFalse =>
        -- the exponent does not matter any more, but its digits are passed over
        split at h
        case isTrue =>
          cases h
          exact Nat.le_trans left kept
        case isFalse => cases h

/-- Reading what follows the mark of an exponent leaves less text. -/
theorem readExponent_length
    (h : readExponent negative significand exponent text = .ok (value, rest)) :
    rest.length < text.length := by
  unfold readExponent at h
  split at h
  case h_1 => exact Nat.lt_succ_of_lt (readShift_length h)
  case h_2 => exact Nat.lt_succ_of_lt (readShift_length h)
  case h_3 => exact readShift_length h

/-- There may be no exponent to read. -/
theorem readMark_length
    (h : readMark negative significand exponent text = .ok (value, rest)) :
    rest.length ≤ text.length := by
  unfold readMark at h
  split at h
  case h_1 => exact Nat.le_of_lt (Nat.lt_succ_of_lt (readExponent_length h))
  case h_2 => exact Nat.le_of_lt (Nat.lt_succ_of_lt (readExponent_length h))
  case h_3 => exact Nat.le_of_eq (congrArg List.length (ofParts_rest h))

/-- Reading what follows the point leaves no more text. -/
theorem readFraction_length
    (h : readFraction negative significand exponent text = .ok (value, rest)) :
    rest.length ≤ text.length := by
  have kept := appendDigits_length maxSignificand significand 0 text
  have left := skipDigits_length (appendDigits maxSignificand significand 0 text).rest
  unfold readFraction at h
  dsimp only at h
  split at h
  case isTrue => split at h <;> cases h
  case isFalse => exact Nat.le_trans (readMark_length h) (Nat.le_trans left kept)

/-- Reading what follows the whole part leaves no more text. -/
theorem readTail_length
    (h : readTail negative significand excess text = .ok (value, rest)) :
    rest.length ≤ text.length := by
  unfold readTail at h
  split at h
  case h_1 => exact Nat.le_succ_of_le (readFraction_length h)
  case h_2 => exact Nat.le_of_lt (Nat.lt_succ_of_lt (readExponent_length h))
  case h_3 => exact Nat.le_of_lt (Nat.lt_succ_of_lt (readExponent_length h))
  case h_4 =>
    split at h
    case isTrue =>
      cases h
      exact Nat.le_refl _
    case isFalse => exact Nat.le_of_eq (congrArg List.length (ofParts_rest h))

/-- The whole part of a number has a digit at least. -/
theorem readUnsigned_length (h : readUnsigned negative text = .ok (value, rest)) :
    rest.length < text.length := by
  unfold readUnsigned at h
  split at h
  case h_1 => cases h
  case h_2 c text =>
    apply Nat.lt_succ_of_le
    split at h
    case h_1 => cases h
    case h_2 =>
      split at h
      case isTrue => exact readTail_length h
      case isFalse => cases h
    case h_3 d _ _ =>
      have kept := appendDigits_length maxSignificand d 0 text
      have left := skipDigits_length (appendDigits maxSignificand d 0 text).rest
      exact Nat.le_trans (readTail_length h) (Nat.le_trans left kept)

/-- Reading a number leaves less text. -/
theorem read_length (h : read text = .ok (value, rest)) : rest.length < text.length := by
  unfold read at h
  split at h
  case h_1 => exact Nat.lt_succ_of_lt (readUnsigned_length h)
  case h_2 => exact readUnsigned_length h

end Numeral

end CoinAddress.Json
