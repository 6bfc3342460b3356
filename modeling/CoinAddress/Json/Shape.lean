import CoinAddress.Json.Reader

/-!
# Values with named fields

A shape describes how a value of several fields is read. The value is written either as an object,
with the fields in any order and members of other names passed over, or as an array of the fields in
the order of the shape. What has been read so far is kept in a draft, and at the end the draft
either makes a value or lacks a required field.
-/

namespace CoinAddress.Json

/-- A field of a shape, which is read into a draft. -/
structure Field (δ : Type) where
  /-- The name of the field. -/
  key : String
  /-- Whether a draft has the field already. -/
  isSet : δ → Bool
  /-- Reads a value and answers how to put it into a draft. -/
  reader : Reader (δ → δ)

/-- How a value of several fields is read. -/
structure Shape (δ α : Type) where
  /-- What a value of the shape is called. -/
  name : String
  /-- The fields in order. -/
  fields : List (Field δ)
  /-- The draft before any field is read. -/
  blank : δ
  /-- The value of a draft, or the key of the first field that it lacks. -/
  build : δ → Except String α

/-- Looks for the next key of an object, before which a comma stands unless it is the first, and
passes over its first quote. -/
def nextKey (first : Bool) (text : List Char) : Except Fault Next :=
  match skipBlanks text with
  | [] => .error (.ended .object)
  | c :: rest =>
    if c = '\x7d' then .ok (.closed rest)
    else if first then
      if c = '"' then .ok (.item rest) else .error .keyNotString
    else if c = ',' then
      match skipBlanks rest with
      | [] => .error (.ended .value)
      | d :: left =>
        if d = '"' then .ok (.item left)
        else if d = '\x7d' then .error .trailingComma
        else .error .keyNotString
    else .error .expectedObjectEnd

/-- Both a brace and the quote of a key take a character. -/
theorem nextKey_length {first : Bool} {text : List Char} {next : Next}
    (h : nextKey first text = .ok next) :
    match next with
    | .closed rest => rest.length < text.length
    | .item rest => rest.length < text.length := by
  unfold nextKey at h
  split at h
  case h_1 => cases h
  case h_2 c after found =>
    have shown := length_of_skipBlanks found
    split at h
    case isTrue =>
      cases h
      exact shown
    split at h
    case isTrue =>
      split at h
      case isTrue =>
        cases h
        exact shown
      case isFalse => cases h
    split at h
    case isFalse => cases h
    case isTrue =>
      split at h
      case h_1 => cases h
      case h_2 d left found' =>
        split at h
        case isTrue =>
          cases h
          exact Nat.lt_trans (length_of_skipBlanks found') shown
        case isFalse => split at h <;> cases h

/-- Checks that an array ends. -/
def readListEnd (text : List Char) : Except Fault (List Char) :=
  match skipBlanks text with
  | [] => .error (.ended .list)
  | c :: rest =>
    if c = ']' then .ok rest
    else if c = ',' ∧ (skipBlanks rest).head? = some ']' then .error .trailingComma
    else .error .trailingCharacters

/-- The end of an array takes a character. -/
theorem readListEnd_length {text rest : List Char} (h : readListEnd text = .ok rest) :
    rest.length < text.length := by
  unfold readListEnd at h
  split at h
  case h_1 => cases h
  case h_2 c after found =>
    split at h
    case isTrue =>
      cases h
      exact length_of_skipBlanks found
    case isFalse => split at h <;> cases h

namespace Shape

variable {δ α : Type}

/-- How to put the value of a key into a draft. A member of another name is passed over. -/
def readMember (shape : Shape δ α) (key : String) (draft : δ) (text : List Char) :
    Except Fault (δ × List Char) :=
  match shape.fields.find? (·.key = key) with
  | none => do
    let start ← readColon text
    let rest ← skipValue start
    return (draft, rest)
  | some field => do
    if field.isSet draft then throw (.duplicateField key)
    let start ← readColon text
    let (put, rest) ← field.reader.run start
    return (put draft, rest)

/-- A member has a colon, whether it is read or passed over. -/
theorem readMember_length {shape : Shape δ α} {key : String} {draft filled : δ}
    {text rest : List Char} (h : shape.readMember key draft text = .ok (filled, rest)) :
    rest.length < text.length := by
  unfold readMember at h
  split at h
  case h_1 =>
    obtain ⟨start, colon, eq⟩ := Outcome.bind_eq_ok_iff.mp h
    obtain ⟨left, skipped, eq⟩ := Outcome.bind_eq_ok_iff.mp eq
    cases eq
    exact Nat.lt_of_le_of_lt (skipValue_length skipped) (readColon_length colon)
  case h_2 field _ =>
    split at h
    case isTrue => cases h
    case isFalse =>
      obtain ⟨start, colon, eq⟩ := Outcome.bind_eq_ok_iff.mp h
      obtain ⟨⟨put, left⟩, read, eq⟩ := Outcome.bind_eq_ok_iff.mp eq
      cases eq
      exact Nat.lt_trans (field.reader.shortens read) (readColon_length colon)

/-- Reads the members of an object up to its closing brace. -/
def readMembers (shape : Shape δ α) (first : Bool) (draft : δ) (text : List Char) :
    Except Fault (δ × List Char) :=
  match _ : nextKey first text with
  | .error fault => .error fault
  | .ok (.closed rest) => .ok (draft, rest)
  | .ok (.item start) =>
    match _ : readBody start with
    | .error fault => .error fault
    | .ok (key, rest) =>
      match _ : shape.readMember (String.ofList key) draft rest with
      | .error fault => .error fault
      | .ok (filled, left) => shape.readMembers false filled left
termination_by text.length
decreasing_by
  have := nextKey_length ‹nextKey first text = _›
  have := readBody_length ‹readBody start = _›
  have := readMember_length ‹shape.readMember _ draft rest = _›
  simp only at *
  omega

/-- The members of an object end with a brace. -/
theorem readMembers_length {shape : Shape δ α} {first : Bool} {draft filled : δ}
    {text rest : List Char} (h : shape.readMembers first draft text = .ok (filled, rest)) :
    rest.length < text.length := by
  fun_induction readMembers shape first draft text with
  | case1 => cases h
  | case2 _ _ text left closed =>
    cases h
    exact nextKey_length closed
  | case3 => cases h
  | case4 => cases h
  | case5 _ _ text start item key after body put left member ih =>
    have shorter := Nat.lt_trans (ih h) (readMember_length member)
    exact Nat.lt_trans (Nat.lt_trans shorter (readBody_length body)) (nextKey_length item)

/-- Reads an object. -/
def readObject (shape : Shape δ α) (text : List Char) : Except Fault (α × List Char) := do
  let (draft, rest) ← shape.readMembers true shape.blank text
  match shape.build draft with
  | .ok a => return (a, rest)
  | .error key => throw (.missingField key)

/-- An object ends with a brace. -/
theorem readObject_length {shape : Shape δ α} {text rest : List Char} {a : α}
    (h : shape.readObject text = .ok (a, rest)) : rest.length < text.length := by
  obtain ⟨⟨draft, left⟩, members, eq⟩ := Outcome.bind_eq_ok_iff.mp h
  dsimp only at eq
  split at eq
  case h_1 =>
    cases eq
    exact readMembers_length members
  case h_2 => cases eq

/-- The fault of an array that ends before the field of the given key. -/
def tooShort (shape : Shape δ α) (key : String) : Fault :=
  let count := shape.fields.length
  let elements := if count = 1 then "element" else "elements"
  .wrongLength (shape.fields.findIdx (·.key = key)) s!"{shape.name} with {count} {elements}"

/-- Reads the fields of an array in order. The array may end before fields that are not required. -/
def readPositions (shape : Shape δ α) (first : Bool) (draft : δ) :
    List (Field δ) → List Char → Except Fault (α × List Char)
  | [], text =>
    match shape.build draft with
    | .ok a => (readListEnd text).map (a, ·)
    | .error key => .error (shape.tooShort key)
  | field :: fields, text =>
    match nextElement first text with
    | .error fault => .error fault
    | .ok (.closed rest) =>
      match shape.build draft with
      | .ok a => .ok (a, rest)
      | .error key => .error (shape.tooShort key)
    | .ok (.item start) =>
      match field.reader.run start with
      | .error fault => .error fault
      | .ok (put, rest) => shape.readPositions false (put draft) fields rest

/-- The fields of an array end with a bracket. -/
theorem readPositions_length {shape : Shape δ α} {first : Bool} {draft : δ}
    {fields : List (Field δ)} {text rest : List Char} {a : α}
    (h : shape.readPositions first draft fields text = .ok (a, rest)) :
    rest.length < text.length := by
  fun_induction readPositions shape first draft fields text with
  | case1 =>
    obtain ⟨left, ended, eq⟩ := Outcome.map_eq_ok_iff.mp h
    cases eq
    exact readListEnd_length ended
  | case2 => cases h
  | case3 => cases h
  | case4 _ _ _ _ text left closed =>
    cases h
    exact nextElement_length closed
  | case5 => cases h
  | case6 => cases h
  | case7 _ _ field _ text start item put left read ih =>
    have shorter := Nat.lt_trans (ih h) (field.reader.shortens read)
    exact Nat.lt_of_lt_of_le shorter (nextElement_length item)

/-- Reads a value of the shape, in either form. -/
def reader (shape : Shape δ α) : Reader α where
  run text :=
    match skipBlanks text with
    | [] => .error (.ended .value)
    | c :: rest =>
      if c = '[' then shape.readPositions true shape.blank shape.fields rest
      else if c = '\x7b' then shape.readObject rest
      else .error (misfit shape.name (c :: rest))
  shortens {text rest value} h := by
    split at h
    case h_1 => cases h
    case h_2 c after found =>
      have shown := length_of_skipBlanks found
      split at h
      case isTrue => exact Nat.lt_trans (readPositions_length h) shown
      split at h
      case isTrue => exact Nat.lt_trans (readObject_length h) shown
      case isFalse => cases h

end Shape

end CoinAddress.Json
