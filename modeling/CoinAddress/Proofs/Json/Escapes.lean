import CoinAddress.Proofs.Hex
import CoinAddress.Proofs.Json.Reads

/-!
# Spellings of strings

The body of a string is what stands between its quotes. It spells characters one after another: as
themselves, by a short escape, by the digits of a UTF-16 unit or by those of a pair of units
(`Spells`), and just such bodies are read (`readBody_eq_ok_iff`). A body may be well formed and still
spell nothing, since a surrogate may stand alone in it (`WellFormed`). Such a body is passed over.
-/

namespace CoinAddress.Json

/-- The character stands in a string for itself. -/
def Shown (c : Char) : Prop :=
  c ≠ '"' ∧ c ≠ '\\' ∧ isControl c = false

instance (c : Char) : Decidable (Shown c) :=
  inferInstanceAs (Decidable (c ≠ '"' ∧ c ≠ '\\' ∧ isControl c = false))

/-- The four digits of a UTF-16 unit. -/
inductive UnitDigits : List Char → Nat → Prop where
  | mk {a b c d : Char} {w x y z : Nat} :
    Hex.digit? a = some w → Hex.digit? b = some x → Hex.digit? c = some y → Hex.digit? d = some z →
    UnitDigits [a, b, c, d] (((w * 16 + x) * 16 + y) * 16 + z)

/-- What stands in a string for one character. -/
inductive SpellsChar : List Char → Char → Prop where
  | shown {c : Char} :
    Shown c → SpellsChar [c] c
  | short {mark c : Char} :
    shortEscape? mark = some c → SpellsChar ['\\', mark] c
  | unit {digits : List Char} {c : Char} :
    UnitDigits digits c.toNat → SpellsChar ('\\' :: 'u' :: digits) c
  | pair {digits digits' : List Char} {leading trailing : Nat} {c : Char} :
    UnitDigits digits leading → UnitDigits digits' trailing →
    isLeading leading = true → isTrailing trailing = true →
    c.toNat = 0x10000 + (leading - 0xd800) * 0x400 + (trailing - 0xdc00) →
    SpellsChar ('\\' :: 'u' :: (digits ++ '\\' :: 'u' :: digits')) c

/-- What stands between the quotes of a string for its characters. -/
inductive Spells : List Char → List Char → Prop where
  | nil : Spells [] []
  | cons {piece body cs : List Char} {c : Char} :
    SpellsChar piece c → Spells body cs → Spells (piece ++ body) (c :: cs)

/-- The rest of an escape, after the backslash. -/
inductive EscapeRest : List Char → Escape → Prop where
  | short {mark c : Char} :
    shortEscape? mark = some c → EscapeRest [mark] (.char c)
  | unit {digits : List Char} {value : Nat} :
    UnitDigits digits value → EscapeRest ('u' :: digits) (.unit value)

/-- What may stand between the quotes of a string. -/
inductive WellFormed : List Char → Prop where
  | nil : WellFormed []
  | shown {c : Char} {body : List Char} :
    Shown c → WellFormed body → WellFormed (c :: body)
  | escape {piece body : List Char} {escape : Escape} :
    EscapeRest piece escape → WellFormed body → WellFormed ('\\' :: (piece ++ body))

/-! ### Escapes -/

section
variable {text rest digits : List Char} {value : Nat} {c : Char}

/-- A unit is read from its four digits and from nothing else. -/
lemma readUnit_eq_ok_iff :
    readUnit text = .ok (value, rest) ↔ ∃ digits, UnitDigits digits value ∧ text = digits ++ rest := by
  constructor
  · intro read
    rw [readUnit.eq_def] at read
    split at read
    case h_1 a b c d after =>
      split at read
      case h_1 w x y z hw hx hy hz =>
        cases read
        exact ⟨[a, b, c, d], .mk hw hx hy hz, rfl⟩
      case h_2 => cases read
    case h_2 => split at read <;> cases read
  · rintro ⟨_, ⟨hw, hx, hy, hz⟩, rfl⟩
    simp only [List.cons_append, List.nil_append, readUnit, hw, hx, hy, hz]

/-- The digits of a unit are read, whatever follows them. -/
lemma UnitDigits.readUnit (spelled : UnitDigits digits value) (rest : List Char) :
    readUnit (digits ++ rest) = .ok (value, rest) :=
  readUnit_eq_ok_iff.mpr ⟨digits, spelled, rfl⟩

/-- A unit has sixteen bits. -/
lemma UnitDigits.lt (spelled : UnitDigits digits value) : value < 0x10000 := by
  obtain ⟨hw, hx, hy, hz⟩ := spelled
  have hw := (Hex.digit?_eq_some_iff.mp hw).1
  have hx := (Hex.digit?_eq_some_iff.mp hx).1
  have hy := (Hex.digit?_eq_some_iff.mp hy).1
  have hz := (Hex.digit?_eq_some_iff.mp hz).1
  omega

/-- An escape is read from the piece that it is spelled with and from nothing else. -/
lemma readEscape_eq_ok_iff {escape : Escape} :
    readEscape text = .ok (escape, rest)
      ↔ ∃ piece, EscapeRest piece escape ∧ text = piece ++ rest := by
  constructor
  · intro read
    rw [readEscape.eq_def] at read
    split at read
    case h_1 => cases read
    case h_2 mark after =>
      split at read
      case isTrue eq =>
        obtain ⟨⟨value, left⟩, unit, same⟩ := Outcome.map_eq_ok_iff.mp read
        obtain ⟨digits, spelled, rfl⟩ := readUnit_eq_ok_iff.mp unit
        cases same
        exact ⟨'u' :: digits, .unit spelled, by rw [eq, List.cons_append]⟩
      case isFalse =>
        split at read
        case h_1 c short =>
          cases read
          exact ⟨[mark], .short short, rfl⟩
        case h_2 => cases read
  · rintro ⟨_, spelled, rfl⟩
    cases spelled with
    | @short mark c short =>
      have other : mark ≠ 'u' := by
        rintro rfl
        cases short
      simp only [List.cons_append, List.nil_append, readEscape, if_neg other, short]
    | unit spelled => rw [List.cons_append, readEscape, if_pos rfl, spelled.readUnit]; rfl

/-- A valid code point is kept by its character. -/
lemma toNat_ofNat_of_isValidChar (valid : value.isValidChar) : (Char.ofNat value).toNat = value := by
  rw [Char.ofNat, dif_pos valid]
  rfl

/-- A unit that is no surrogate is the code of a character. -/
lemma toNat_ofNat_of_unit (lt : value < 0x10000) (leading : isLeading value = false)
    (trailing : isTrailing value = false) : (Char.ofNat value).toNat = value := by
  rw [isLeading, decide_eq_false_iff_not] at leading
  rw [isTrailing, decide_eq_false_iff_not] at trailing
  have valid : value.isValidChar := by
    rcases Nat.lt_or_ge value 0xd800 with low | high
    · exact .inl low
    · exact .inr ⟨by omega, by omega⟩
  exact toNat_ofNat_of_isValidChar valid

/-- The code of a character is no surrogate. -/
lemma isLeading_isTrailing_toNat (c : Char) :
    isLeading c.toNat = false ∧ isTrailing c.toNat = false := by
  have valid : c.toNat < 0xd800 ∨ 0xdfff < c.toNat ∧ c.toNat < 0x110000 := c.valid
  exact ⟨decide_eq_false (by omega), decide_eq_false (by omega)⟩

/-- Two surrogates together are the code of a character. -/
lemma toNat_pairChar {leading trailing : Nat} (high : isLeading leading = true)
    (low : isTrailing trailing = true) :
    (pairChar leading trailing).toNat = 0x10000 + (leading - 0xd800) * 0x400 + (trailing - 0xdc00) := by
  have high := of_decide_eq_true high
  have low := of_decide_eq_true low
  have valid : (0x10000 + (leading - 0xd800) * 0x400 + (trailing - 0xdc00)).isValidChar :=
    .inr ⟨by omega, by omega⟩
  exact toNat_ofNat_of_isValidChar valid

/-- A trailing surrogate is read behind the leading one exactly if it makes the character with it. -/
lemma readTrailing_eq_ok_iff {leading : Nat} (high : isLeading leading = true) :
    readTrailing leading text = .ok (c, rest)
      ↔ ∃ digits trailing, UnitDigits digits trailing ∧ isTrailing trailing = true ∧
          c.toNat = 0x10000 + (leading - 0xd800) * 0x400 + (trailing - 0xdc00) ∧
          text = '\\' :: 'u' :: (digits ++ rest) := by
  constructor
  · intro read
    rw [readTrailing.eq_def] at read
    split at read
    case h_1 => cases read
    case h_2 => cases read
    case h_3 after =>
      obtain ⟨⟨trailing, left⟩, unit, eq⟩ := Outcome.bind_eq_ok_iff.mp read
      obtain ⟨digits, spelled, rfl⟩ := readUnit_eq_ok_iff.mp unit
      dsimp only at eq
      split at eq
      case isTrue low =>
        obtain ⟨rfl, rfl⟩ := Prod.mk.inj (Except.ok.inj eq)
        exact ⟨digits, trailing, spelled, low, toNat_pairChar high low, rfl⟩
      case isFalse => cases eq
    case h_4 => cases read
  · rintro ⟨digits, trailing, spelled, low, code, rfl⟩
    have same : pairChar leading trailing = c := by
      rw [← Char.toNat_inj, toNat_pairChar high low, code]
    simp only [readTrailing, spelled.readUnit, bind, Except.bind, low, same]
    rfl

/-- A character is read after a backslash exactly if it is spelled there. -/
lemma readEscaped_eq_ok_iff :
    readEscaped text = .ok (c, rest)
      ↔ ∃ piece, SpellsChar ('\\' :: piece) c ∧ text = piece ++ rest := by
  constructor
  · intro read
    obtain ⟨⟨escape, after⟩, found, read⟩ := Outcome.bind_eq_ok_iff.mp read
    obtain ⟨piece, spelled, rfl⟩ := readEscape_eq_ok_iff.mp found
    cases spelled with
    | short short =>
      cases read
      exact ⟨_, .short short, rfl⟩
    | @unit digits value spelled =>
      dsimp only at read
      split at read
      case isTrue => cases read
      case isFalse trailing =>
        split at read
        case isTrue high =>
          obtain ⟨digits', low, spelled', trails, code, rfl⟩ := (readTrailing_eq_ok_iff high).mp read
          refine ⟨_, .pair spelled spelled' high trails code, ?_⟩
          simp only [List.cons_append, List.append_assoc]
        case isFalse leading =>
          cases read
          have code := toNat_ofNat_of_unit spelled.lt (Bool.eq_false_iff.mpr leading)
            (Bool.eq_false_iff.mpr trailing)
          exact ⟨_, .unit (code.symm ▸ spelled), rfl⟩
  · rintro ⟨piece, spelled, rfl⟩
    apply Outcome.bind_eq_ok_iff.mpr
    cases spelled with
    | shown shown => exact absurd rfl shown.2.1
    | @short mark _ short => exact ⟨_, readEscape_eq_ok_iff.mpr ⟨_, .short short, rfl⟩, rfl⟩
    | @unit digits _ spelled =>
      refine ⟨_, readEscape_eq_ok_iff.mpr ⟨_, .unit spelled, rfl⟩, ?_⟩
      obtain ⟨leading, trailing⟩ := isLeading_isTrailing_toNat c
      simp only [trailing, leading, Char.ofNat_toNat]
      rfl
    | @pair digits digits' leading trailing _ spelled spelled' high low code =>
      have trailing : isTrailing leading = false := decide_eq_false fun range => by
        have high := of_decide_eq_true high
        omega
      refine ⟨(.unit leading, '\\' :: 'u' :: (digits' ++ rest)),
        readEscape_eq_ok_iff.mpr ⟨_, .unit spelled, ?_⟩, ?_⟩
      · simp only [List.cons_append, List.append_assoc]
      · simp only [trailing, high]
        exact (readTrailing_eq_ok_iff high).mpr ⟨digits', _, spelled', low, code, rfl⟩

end

/-! ### Bodies -/

section
variable {text rest body cs : List Char} {c : Char}

/-- A character is read from each of its spellings. -/
lemma SpellsChar.readBody {piece : List Char} (spelled : SpellsChar piece c) (text : List Char) :
    readBody (piece ++ text) = (readBody text).map fun (cs, rest) => (c :: cs, rest) := by
  have escaped : ∀ {piece : List Char}, SpellsChar ('\\' :: piece) c →
      readEscaped (piece ++ text) = .ok (c, text) :=
    fun spelled => readEscaped_eq_ok_iff.mpr ⟨_, spelled, rfl⟩
  cases spelled with
  | shown shown => exact readBody_of_plain shown.1 shown.2.1 shown.2.2
  | short short => exact readBody_of_readEscaped (escaped (.short short))
  | unit unit => exact readBody_of_readEscaped (escaped (.unit unit))
  | pair unit unit' high low code =>
    exact readBody_of_readEscaped (escaped (.pair unit unit' high low code))

/-- A body is read as the characters that it spells. -/
lemma Spells.readBody (spelled : Spells body cs) (rest : List Char) :
    readBody (body ++ '"' :: rest) = .ok (cs, rest) := by
  induction spelled with
  | nil => rw [List.nil_append, Json.readBody, if_pos rfl]
  | cons char _ ih =>
    rw [List.append_assoc, char.readBody, ih]
    rfl

/-- Characters that stand for themselves are spelled by themselves. -/
lemma spells_of_shown (shown : cs.all fun c => Shown c) : Spells cs cs := by
  induction cs with
  | nil => exact .nil
  | cons c cs ih =>
    rw [List.all_cons, Bool.and_eq_true] at shown
    exact .cons (.shown (of_decide_eq_true shown.1)) (ih shown.2)

/-- What is read up to the closing quote is what the body before it spells. -/
lemma spells_of_readBody (read : readBody text = .ok (cs, rest)) :
    ∃ body, Spells body cs ∧ text = body ++ '"' :: rest := by
  fun_induction Json.readBody text generalizing cs rest with
  | case1 => cases read
  | case2 =>
    cases read
    exact ⟨[], .nil, rfl⟩
  | case3 => cases read
  | case4 text d after escaped _ ih =>
    obtain ⟨⟨cs, left⟩, read, eq⟩ := Outcome.map_eq_ok_iff.mp read
    cases eq
    obtain ⟨piece, char, rfl⟩ := readEscaped_eq_ok_iff.mp escaped
    obtain ⟨body, spelled, rfl⟩ := ih read
    refine ⟨'\\' :: piece ++ body, .cons char spelled, ?_⟩
    simp only [List.cons_append, List.append_assoc]
  | case5 => cases read
  | case6 c text quote backslash shown ih =>
    obtain ⟨⟨cs, left⟩, read, eq⟩ := Outcome.map_eq_ok_iff.mp read
    cases eq
    obtain ⟨body, spelled, rfl⟩ := ih read
    exact ⟨c :: body, .cons (.shown ⟨quote, backslash, Bool.eq_false_iff.mpr shown⟩) spelled, rfl⟩

/-- A string is read exactly if its body spells the characters. -/
theorem readBody_eq_ok_iff :
    readBody text = .ok (cs, rest) ↔ ∃ body, Spells body cs ∧ text = body ++ '"' :: rest := by
  constructor
  · exact spells_of_readBody
  · rintro ⟨body, spelled, rfl⟩
    exact spelled.readBody rest

/-- A body spells one list of characters. -/
lemma Spells.unique {cs' : List Char} (spelled : Spells body cs) (spelled' : Spells body cs') :
    cs = cs' := by
  have read := spelled.readBody []
  rw [spelled'.readBody] at read
  exact (Prod.mk.inj (Except.ok.inj read)).1.symm

/-! ### Bodies that are passed over -/

/-- An escape that can be read is passed over. -/
lemma skipBody_of_readEscape {escape : Escape} (read : readEscape text = .ok (escape, rest)) :
    skipBody ('\\' :: text) = skipBody rest := by
  rw [skipBody, if_neg (by decide), if_pos rfl]
  split
  case h_1 eq => cases read.symm.trans eq
  case h_2 eq =>
    cases read.symm.trans eq
    rfl

/-- A well-formed body is passed over up to its closing quote. -/
lemma WellFormed.skipBody (wellFormed : WellFormed body) (rest : List Char) :
    skipBody (body ++ '"' :: rest) = .ok rest := by
  induction wellFormed with
  | nil => rw [List.nil_append, Json.skipBody, if_pos rfl]
  | shown shown _ ih =>
    obtain ⟨quote, backslash, shown⟩ := shown
    rw [List.cons_append, Json.skipBody, if_neg quote, if_neg backslash, shown]
    exact ih
  | escape spelled _ ih =>
    rw [List.cons_append, List.append_assoc,
      skipBody_of_readEscape (readEscape_eq_ok_iff.mpr ⟨_, spelled, rfl⟩)]
    exact ih

/-- Well-formed bodies in a row are well-formed. -/
lemma WellFormed.append {body' : List Char} (wellFormed : WellFormed body)
    (wellFormed' : WellFormed body') : WellFormed (body ++ body') := by
  induction wellFormed with
  | nil => exact wellFormed'
  | shown shown _ ih => exact .shown shown ih
  | escape spelled _ ih =>
    rw [List.cons_append, List.append_assoc]
    exact .escape spelled ih

/-- What spells a character is well-formed. -/
lemma SpellsChar.wellFormed {piece : List Char} (spelled : SpellsChar piece c) :
    WellFormed piece := by
  have unit : ∀ {digits : List Char} {value : Nat}, UnitDigits digits value →
      WellFormed ('\\' :: 'u' :: digits) := by
    intro digits value unit
    have escape := WellFormed.escape (.unit unit) .nil
    rwa [List.append_nil] at escape
  cases spelled with
  | shown shown => exact .shown shown .nil
  | short short => exact .escape (.short short) .nil
  | unit digits => exact unit digits
  | pair digits digits' => exact (unit digits).append (unit digits')

/-- A body that spells characters is well formed. -/
lemma Spells.wellFormed (spelled : Spells body cs) : WellFormed body := by
  induction spelled with
  | nil => exact .nil
  | cons char _ ih => exact char.wellFormed.append ih

/-- The closing quote of a well-formed body is the first that can be one. -/
lemma WellFormed.unique {body' rest' : List Char} (wellFormed : WellFormed body)
    (wellFormed' : WellFormed body') (eq : body ++ '"' :: rest = body' ++ '"' :: rest') :
    body = body' ∧ rest = rest' := by
  have skipped := wellFormed.skipBody rest
  rw [eq, wellFormed'.skipBody rest'] at skipped
  cases skipped
  exact ⟨List.append_cancel_right eq, rfl⟩

/-- Of a well-formed body what it spells is read, if it spells anything. -/
lemma WellFormed.readBody_eq_ok_iff (wellFormed : WellFormed body) {left : List Char} :
    readBody (body ++ '"' :: rest) = .ok (cs, left) ↔ Spells body cs ∧ left = rest := by
  constructor
  · intro read
    obtain ⟨body', spelled, eq⟩ := spells_of_readBody read
    obtain ⟨rfl, rfl⟩ := wellFormed.unique spelled.wellFormed eq
    exact ⟨spelled, rfl⟩
  · rintro ⟨spelled, rfl⟩
    exact spelled.readBody left

end

/-! ### Strings -/

/-- A string is read where a body that spells it stands between quotes, after any blanks. -/
theorem readString_eq_ok_iff {text rest : List Char} {value : String} :
    Reader.readString text = .ok (value, rest)
      ↔ ∃ blanks body, Blank blanks ∧ Spells body value.toList ∧
          text = blanks ++ '"' :: (body ++ '"' :: rest) := by
  constructor
  · intro read
    obtain ⟨blanks, blank, split⟩ := exists_blank_append text
    rw [Reader.readString] at read
    split at read
    case h_1 => cases read
    case h_2 c after shown =>
      split at read
      case isTrue eq =>
        obtain ⟨⟨cs, left⟩, found, same⟩ := Outcome.map_eq_ok_iff.mp read
        cases same
        obtain ⟨body, spelled, rfl⟩ := readBody_eq_ok_iff.mp found
        rw [shown, eq] at split
        exact ⟨blanks, body, blank, String.toList_ofList.symm ▸ spelled, split⟩
      case isFalse => cases read
  · rintro ⟨blanks, body, blank, spelled, rfl⟩
    rw [Reader.readString, skipBlanks_append_cons blank (by decide)]
    dsimp only
    rw [if_pos rfl, spelled.readBody]
    exact congrArg (fun text => Except.ok (text, rest)) String.ofList_toList

end CoinAddress.Json
