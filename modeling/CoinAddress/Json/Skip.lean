import CoinAddress.Json.Numeral
import CoinAddress.Json.Text

/-!
# Values that are passed over

A value that nobody asks for is held to the form of JSON and otherwise ignored, however deep it
nests. The machine keeps the open arrays and objects on a stack. It stands before a value, behind the
character that opens one, or after a value.
-/

namespace CoinAddress.Json

namespace Numeral

/-- Passes over at least one digit. -/
def skipSomeDigits : List Char → Except Fault (List Char)
  | [] => .error .badNumber
  | c :: text => if (digit? c).isSome then .ok (skipDigits text) else .error .badNumber

/-- Passes over what follows the mark of an exponent. -/
def skipExponent : List Char → Except Fault (List Char)
  | '+' :: text => skipSomeDigits text
  | '-' :: text => skipSomeDigits text
  | text => skipSomeDigits text

/-- Passes over an exponent, if there is one. -/
def skipMark : List Char → Except Fault (List Char)
  | 'e' :: text => skipExponent text
  | 'E' :: text => skipExponent text
  | text => .ok text

/-- Passes over a fraction and an exponent, as far as there are. -/
def skipTail : List Char → Except Fault (List Char)
  | '.' :: text => skipSomeDigits text >>= skipMark
  | text => skipMark text

/-- Passes over a number without its sign. -/
def skipUnsigned : List Char → Except Fault (List Char)
  | [] => .error .badNumber
  | c :: text =>
    match digit? c with
    | none => .error .badNumber
    | some 0 =>
      match text with
      | [] => .ok []
      | d :: _ => if (digit? d).isSome then .error .badNumber else skipTail text
    | some _ => skipTail (skipDigits text)

/-- Passing over digits of which one has to be there leaves no more text. -/
theorem skipSomeDigits_length {text rest : List Char} (h : skipSomeDigits text = .ok rest) :
    rest.length ≤ text.length := by
  unfold skipSomeDigits at h
  split at h
  case h_1 => cases h
  case h_2 c text =>
    split at h
    case isTrue =>
      cases h
      exact Nat.le_succ_of_le (skipDigits_length text)
    case isFalse => cases h

/-- The sign of an exponent is passed over with its digits. -/
theorem skipExponent_length {text rest : List Char} (h : skipExponent text = .ok rest) :
    rest.length ≤ text.length := by
  unfold skipExponent at h
  split at h
  case h_1 => exact Nat.le_succ_of_le (skipSomeDigits_length h)
  case h_2 => exact Nat.le_succ_of_le (skipSomeDigits_length h)
  case h_3 => exact skipSomeDigits_length h

/-- There may be no exponent to pass over. -/
theorem skipMark_length {text rest : List Char} (h : skipMark text = .ok rest) :
    rest.length ≤ text.length := by
  unfold skipMark at h
  split at h
  case h_1 => exact Nat.le_succ_of_le (skipExponent_length h)
  case h_2 => exact Nat.le_succ_of_le (skipExponent_length h)
  case h_3 =>
    cases h
    exact Nat.le_refl _

/-- Passing over what follows the whole part leaves no more text. -/
theorem skipTail_length {text rest : List Char} (h : skipTail text = .ok rest) :
    rest.length ≤ text.length := by
  unfold skipTail at h
  split at h
  case h_1 =>
    obtain ⟨left, digits, mark⟩ := Outcome.bind_eq_ok_iff.mp h
    have shorter := Nat.le_trans (skipMark_length mark) (skipSomeDigits_length digits)
    exact Nat.le_succ_of_le shorter
  case h_2 => exact skipMark_length h

/-- Passing over a number leaves no more text. -/
theorem skipUnsigned_length {text rest : List Char} (h : skipUnsigned text = .ok rest) :
    rest.length ≤ text.length := by
  unfold skipUnsigned at h
  split at h
  case h_1 => cases h
  case h_2 c text =>
    apply Nat.le_succ_of_le
    split at h
    case h_1 => cases h
    case h_2 =>
      split at h
      case h_1 =>
        cases h
        exact Nat.le_refl _
      case h_2 =>
        split at h
        case isTrue => cases h
        case isFalse => exact skipTail_length h
    case h_3 => exact Nat.le_trans (skipTail_length h) (skipDigits_length text)

end Numeral

/-- Passing over blanks leaves no more text. -/
theorem skipBlanks_length (text : List Char) : (skipBlanks text).length ≤ text.length :=
  (List.dropWhile_sublist _).length_le

/-- What follows the first character that is no blank is less text. -/
theorem length_of_skipBlanks {text rest : List Char} {c : Char} (h : skipBlanks text = c :: rest) :
    rest.length < text.length := by
  have shown := skipBlanks_length text
  rw [h] at shown
  exact shown

/-- Reading a word leaves no more text. -/
theorem readWord_length {word text rest : List Char} (h : readWord word text = .ok rest) :
    rest.length ≤ text.length := by
  fun_induction readWord word text with
  | case1 text =>
    cases h
    exact Nat.le_refl _
  | case2 => cases h
  | case3 _ _ _ ih => exact Nat.le_succ_of_le (ih h)
  | case4 => cases h

/-- Reads the colon after a key. -/
def readColon (text : List Char) : Except Fault (List Char) :=
  match skipBlanks text with
  | [] => .error (.ended .object)
  | c :: rest => if c = ':' then .ok rest else .error .expectedColon

/-- A colon takes a character. -/
theorem readColon_length {text rest : List Char} (h : readColon text = .ok rest) :
    rest.length < text.length := by
  unfold readColon at h
  split at h
  case h_1 => cases h
  case h_2 c rest found =>
    split at h
    case isTrue =>
      cases h
      exact length_of_skipBlanks found
    case isFalse => cases h

namespace Skip

/-- What the machine is inside of. -/
inductive Frame where
  /-- An array. -/
  | array
  /-- An object. -/
  | object
deriving DecidableEq, Repr

/-- The part of a document that a frame is. -/
def Frame.part : Frame → Part
  | array => .list
  | object => .object

/-- The character that opens a frame. -/
def Frame.opening : Frame → Char
  | array => '['
  | object => '\x7b'

/-- The character that closes a frame. -/
def Frame.closing : Frame → Char
  | array => ']'
  | object => '\x7d'

/-- The fault of a value in the frame that nothing proper follows. -/
def Frame.expectedEnd : Frame → Fault
  | array => .expectedListEnd
  | object => .expectedObjectEnd

/-- Passes over a value that is neither array nor object, from its first character on. -/
def scalar (c : Char) (text : List Char) : Except Fault (List Char) :=
  if c = 'n' then readWord ['u', 'l', 'l'] text
  else if c = 't' then readWord ['r', 'u', 'e'] text
  else if c = 'f' then readWord ['a', 'l', 's', 'e'] text
  else if c = '"' then skipBody text
  else if c = '-' then Numeral.skipUnsigned text
  else if (digit? c).isSome then Numeral.skipUnsigned (c :: text)
  else .error .expectedValue

/-- Passes over the key and the colon of a member; in an array there is nothing to pass over. -/
def label (frame : Frame) (text : List Char) : Except Fault (List Char) :=
  match frame with
  | .array => .ok text
  | .object =>
    match skipBlanks text with
    | [] => .error (.ended .object)
    | c :: rest => if c = '"' then skipBody rest >>= readColon else .error .keyNotString

/-- A value without a frame takes no less than its first character. -/
theorem scalar_length {c : Char} {text rest : List Char} (h : scalar c text = .ok rest) :
    rest.length ≤ text.length + 1 := by
  unfold scalar at h
  split at h
  case isTrue => exact Nat.le_succ_of_le (readWord_length h)
  split at h
  case isTrue => exact Nat.le_succ_of_le (readWord_length h)
  split at h
  case isTrue => exact Nat.le_succ_of_le (readWord_length h)
  split at h
  case isTrue => exact Nat.le_succ_of_le (Nat.le_of_lt (skipBody_length h))
  split at h
  case isTrue => exact Nat.le_succ_of_le (Numeral.skipUnsigned_length h)
  split at h
  case isTrue => exact Numeral.skipUnsigned_length h
  case isFalse => cases h

/-- Passing over a key and its colon leaves no more text. -/
theorem label_length {frame : Frame} {text rest : List Char} (h : label frame text = .ok rest) :
    rest.length ≤ text.length := by
  unfold label at h
  split at h
  case h_1 =>
    cases h
    exact Nat.le_refl _
  case h_2 =>
    split at h
    case h_1 => cases h
    case h_2 c after found =>
      have quoted := length_of_skipBlanks found
      split at h
      case isTrue =>
        obtain ⟨left, body, colon⟩ := Outcome.bind_eq_ok_iff.mp h
        have shorter := Nat.lt_trans (readColon_length colon) (skipBody_length body)
        exact Nat.le_of_lt (Nat.lt_trans shorter quoted)
      case isFalse => cases h

/-- The frame that a character opens. -/
def frame? (c : Char) : Option Frame :=
  if c = Frame.array.opening then some .array
  else if c = Frame.object.opening then some .object
  else none

/-- Where the machine stands. -/
inductive Phase where
  /-- Before a value. -/
  | before
  /-- Behind the character that opens a frame. -/
  | entered (frame : Frame)
  /-- Behind a value. -/
  | after
deriving DecidableEq, Repr

/-- Orders the phases in which the machine can stand at one place of the text. -/
def Phase.rank : Phase → Nat
  | after => 0
  | before => 1
  | entered _ => 2

/-- Passes over the rest of a value whose open frames are on the stack, innermost first. -/
def run (phase : Phase) (stack : List Frame) (text : List Char) : Except Fault (List Char) :=
  match phase with
  | .before =>
    match _ : skipBlanks text with
    | [] => .error (.ended .value)
    | c :: rest =>
      match frame? c with
      | some frame => run (.entered frame) stack rest
      | none =>
        match _ : scalar c rest with
        | .error fault => .error fault
        | .ok left => run .after stack left
  | .entered frame =>
    match _ : skipBlanks text with
    | [] => .error (.ended frame.part)
    | c :: rest =>
      if c = frame.closing then run .after stack rest
      else
        match _ : label frame (c :: rest) with
        | .error fault => .error fault
        | .ok left => run .before (frame :: stack) left
  | .after =>
    match stack with
    | [] => .ok text
    | frame :: outer =>
      match _ : skipBlanks text with
      | [] => .error (.ended frame.part)
      | c :: rest =>
        if c = ',' then
          match _ : label frame rest with
          | .error fault => .error fault
          | .ok left => run .before (frame :: outer) left
        else if c = frame.closing then run .after outer rest
        else .error frame.expectedEnd
termination_by (text.length, phase.rank)
decreasing_by
  all_goals
    have := length_of_skipBlanks ‹skipBlanks text = _›
  · exact Prod.Lex.left _ _ (by omega)
  · have := scalar_length ‹scalar c rest = _›
    rcases Nat.lt_or_ge left.length text.length with shorter | _
    · exact Prod.Lex.left _ _ shorter
    · rw [show left.length = text.length by omega]
      exact Prod.Lex.right _ (by decide)
  · exact Prod.Lex.left _ _ (by omega)
  · have := label_length ‹label frame (c :: rest) = _›
    rw [List.length_cons] at this
    rcases Nat.lt_or_ge left.length text.length with shorter | _
    · exact Prod.Lex.left _ _ shorter
    · rw [show left.length = text.length by omega]
      exact Prod.Lex.right _ (by simp only [Phase.rank]; omega)
  · have := label_length ‹label frame rest = _›
    exact Prod.Lex.left _ _ (by omega)
  · exact Prod.Lex.left _ _ (by omega)

/-- Passing over a value leaves no more text. -/
theorem run_length {phase : Phase} {stack : List Frame} {text rest : List Char}
    (h : run phase stack text = .ok rest) : rest.length ≤ text.length := by
  fun_induction run phase stack text with
  | case1 => cases h
  | case2 _ _ _ _ found _ _ ih =>
    exact Nat.le_of_lt (Nat.lt_of_le_of_lt (ih h) (length_of_skipBlanks found))
  | case3 => cases h
  | case4 _ _ _ _ found _ _ passed ih =>
    exact Nat.le_trans (ih h) (Nat.le_trans (scalar_length passed) (length_of_skipBlanks found))
  | case5 => cases h
  | case6 _ _ _ _ found ih =>
    exact Nat.le_of_lt (Nat.lt_of_le_of_lt (ih h) (length_of_skipBlanks found))
  | case7 => cases h
  | case8 _ _ _ _ _ found _ _ labelled ih =>
    -- what the label starts with is the first character that is no blank
    exact Nat.le_trans (ih h) (Nat.le_trans (label_length labelled) (length_of_skipBlanks found))
  | case9 text =>
    cases h
    exact Nat.le_refl _
  | case10 => cases h
  | case11 => cases h
  | case12 _ _ _ _ _ labelled found ih =>
    have shorter := Nat.le_trans (ih h) (label_length labelled)
    exact Nat.le_of_lt (Nat.lt_of_le_of_lt shorter (length_of_skipBlanks found))
  | case13 _ _ _ _ found _ ih =>
    exact Nat.le_of_lt (Nat.lt_of_le_of_lt (ih h) (length_of_skipBlanks found))
  | case14 => cases h

end Skip

/-- Passes over a value. -/
def skipValue (text : List Char) : Except Fault (List Char) :=
  Skip.run .before [] text

/-- Passing over a value leaves no more text, since nothing is on the stack before it. -/
theorem skipValue_length {text rest : List Char} (h : skipValue text = .ok rest) :
    rest.length ≤ text.length :=
  Skip.run_length h

end CoinAddress.Json
