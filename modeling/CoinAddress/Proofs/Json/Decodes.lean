import CoinAddress.Proofs.Json.Grammar

/-!
# What readers take values for

A reader decodes values if it takes the whole of every spelled value, and just for what the value
means (`Decodes`). So all spellings of a value are read alike, and a value without a meaning is
refused. Strings, bytes, values that may be null and arrays are decoded.
-/

namespace CoinAddress.Json

/-- The reader accepts just the values that have a meaning, however they are spelled. -/
structure Decodes {α : Type} (reader : Reader α) (means : Value → α → Prop) : Prop where
  run_eq_ok_iff : ∀ {value : Value} {text blanks rest left : List Char} {a : α},
    value.Spelled text → Blank blanks → Delimited rest →
    (reader.run (blanks ++ (text ++ rest)) = .ok (a, left) ↔ means value a ∧ left = rest)

/-- The value is a string of the text. -/
inductive IsText : Value → String → Prop where
  | mk {body : List Char} {text : String} :
    Spells body text.toList → IsText (.string body) text

/-- The value is the number of the byte, in digits. -/
inductive IsByte : Value → UInt8 → Prop where
  | mk {digits : List Char} {byte : UInt8} :
    Numeral.Plain digits → Nat.ofDigitChars 10 digits 0 = byte.toNat → IsByte (.number digits) byte

/-- The value is null, or else it has a meaning. -/
inductive IsNullable {α : Type} (means : Value → α → Prop) : Value → Option α → Prop where
  | none : IsNullable means .null none
  | some {value : Value} {a : α} :
    means value a → IsNullable means value (some a)

/-- The value is an array of what its elements mean. -/
inductive IsList {α : Type} (means : Value → α → Prop) : Value → List α → Prop where
  | mk {elements : List Value} {as : List α} :
    List.Forall₂ means elements as → IsList means (.array elements) as

section
variable {α β : Type} {reader : Reader α} {means : Value → α → Prop}

/-- A reader that changes what another reads decodes the same values. -/
lemma Decodes.map (decodes : Decodes reader means) (f : α → β) :
    Decodes (reader.map f) fun value b => ∃ a, means value a ∧ f a = b := by
  refine ⟨fun {value text blanks rest left b} spelled blank delimited => ?_⟩
  rw [Reader.map]
  dsimp only
  rw [Outcome.map_eq_ok_iff]
  constructor
  · rintro ⟨⟨a, left⟩, read, eq⟩
    obtain ⟨meant, rfl⟩ := (decodes.run_eq_ok_iff spelled blank delimited).mp read
    cases eq
    exact ⟨⟨a, meant, rfl⟩, rfl⟩
  · rintro ⟨⟨a, meant, rfl⟩, rfl⟩
    exact ⟨(a, left), (decodes.run_eq_ok_iff spelled blank delimited).mpr ⟨meant, rfl⟩, rfl⟩

/-- What a reader decodes may be described in other words. -/
lemma Decodes.of_iff {means' : Value → α → Prop} (decodes : Decodes reader means)
    (same : ∀ value a, means' value a ↔ means value a) : Decodes reader means' := by
  refine ⟨fun spelled blank delimited => ?_⟩
  rw [same, decodes.run_eq_ok_iff spelled blank delimited]

/-- A document is read exactly as what its value means. -/
lemma Decodes.document_eq_ok_iff (decodes : Decodes reader means) {value : Value}
    {document : String} (spelled : value.Document document) {a : α} :
    reader.document document = .ok a ↔ means value a := by
  obtain ⟨blanks, text, blanks', blank, blank', spelled, eq⟩ := spelled
  have delimited := blank'.delimited
  rw [Reader.document, eq, Outcome.bind_eq_ok_iff]
  constructor
  · rintro ⟨⟨a', rest⟩, read, last⟩
    obtain ⟨meant, rfl⟩ := (decodes.run_eq_ok_iff spelled blank delimited).mp read
    dsimp only at last
    rw [skipBlanks_eq_nil_iff.mpr blank'] at last
    cases last
    exact meant
  · intro meant
    refine ⟨(a, blanks'), (decodes.run_eq_ok_iff spelled blank delimited).mpr ⟨meant, rfl⟩, ?_⟩
    dsimp only
    rw [skipBlanks_eq_nil_iff.mpr blank']
    rfl

end

/-! ### Strings and bytes -/

/-- The reader of strings decodes texts. -/
theorem decodes_string : Decodes Reader.string IsText := by
  refine ⟨fun {value text blanks rest left a} spelled blank _ => ?_⟩
  obtain ⟨c, tail, rfl, head⟩ := spelled.head
  change Reader.readString _ = _ ↔ _
  rw [List.cons_append, Reader.readString, skipBlanks_append_cons blank head.opens.1]
  dsimp only
  split
  case isTrue quote =>
    obtain ⟨body, rfl⟩ := head.string.mp quote
    cases spelled with
    | string wellFormed =>
      rw [List.append_assoc, Outcome.map_eq_ok_iff]
      constructor
      · rintro ⟨⟨cs, left⟩, read, eq⟩
        obtain ⟨spelled, rfl⟩ := wellFormed.readBody_eq_ok_iff.mp read
        cases eq
        exact ⟨⟨String.toList_ofList.symm ▸ spelled⟩, rfl⟩
      · rintro ⟨⟨spelled⟩, rfl⟩
        refine ⟨(a.toList, left), wellFormed.readBody_eq_ok_iff.mpr ⟨spelled, rfl⟩, ?_⟩
        exact congrArg (·, left) String.ofList_toList
  case isFalse other =>
    constructor
    · intro read
      cases read
    · rintro ⟨⟨_⟩, _⟩
      exact absurd (head.string.mpr ⟨_, rfl⟩) other

/-- A number is a byte if it is the integer of the byte. -/
lemma toByte_eq_ok_iff {number : Number} {byte : UInt8} :
    Reader.toByte number = .ok byte ↔ number = .integer byte.toNat := by
  constructor
  · intro eq
    unfold Reader.toByte at eq
    split at eq
    case h_1 value =>
      split at eq
      case isTrue range =>
        cases eq
        have lt : value.toNat < UInt8.size := (Int.toNat_lt range.1).mpr (Int.lt_add_one_of_le range.2)
        have same : (value.toNat.toUInt8).toNat = value.toNat := UInt8.toNat_ofNat_of_lt' lt
        rw [same, Int.toNat_of_nonneg range.1]
      case isFalse => cases eq
    case h_2 => cases eq
  · rintro rfl
    have range : (0 : Int) ≤ byte.toNat ∧ (byte.toNat : Int) ≤ 255 := by
      have lt := byte.toNat_lt
      omega
    rw [Reader.toByte, if_pos range, Int.toNat_natCast]
    exact congrArg Except.ok (UInt8.ofNat_toNat)

/-- The reader of bytes decodes numbers in digits up to 255. -/
theorem decodes_byte : Decodes Reader.byte IsByte := by
  refine ⟨fun {value text blanks rest left byte} spelled blank delimited => ?_⟩
  obtain ⟨c, tail, rfl, head⟩ := spelled.head
  rw [List.cons_append, Reader.byte]
  dsimp only
  rw [skipBlanks_append_cons blank head.opens.1]
  dsimp only
  split
  case isTrue starts =>
    obtain ⟨literal, rfl⟩ := head.number.mp starts
    cases spelled with
    | number shape =>
      constructor
      · intro read
        obtain ⟨⟨number, left⟩, number_read, eq⟩ := Outcome.bind_eq_ok_iff.mp read
        obtain ⟨byte, fits, eq⟩ := Outcome.bind_eq_ok_iff.mp eq
        cases eq
        obtain ⟨rfl, whole⟩ := shape.read_cases delimited.ended number_read
        obtain ⟨plain, eq⟩ := whole _ (toByte_eq_ok_iff.mp fits) (Int.natCast_nonneg _)
        exact ⟨⟨plain, (Int.natCast_inj.mp eq).symm⟩, rfl⟩
      · rintro ⟨⟨plain, eq⟩, rfl⟩
        have fits : Nat.ofDigitChars 10 (c :: tail) 0 ≤ Numeral.maxSignificand := by
          have lt := byte.toNat_lt
          rw [eq, Numeral.maxSignificand]
          omega
        have read := plain.read delimited.ended fits
        rw [eq, List.cons_append] at read
        refine Outcome.bind_eq_ok_iff.mpr ⟨_, read, ?_⟩
        exact Outcome.bind_eq_ok_iff.mpr ⟨byte, toByte_eq_ok_iff.mpr rfl, rfl⟩
  case isFalse other =>
    constructor
    · intro read
      cases read
    · rintro ⟨⟨_⟩, _⟩
      exact absurd (head.number.mpr ⟨_, rfl⟩) other

/-! ### Values that may be null -/

section
variable {α : Type} {reader : Reader α} {means : Value → α → Prop}

/-- Where null means no value of its own, a reader may take it for the lack of one. -/
theorem Decodes.nullable (decodes : Decodes reader means) (other : ∀ a, ¬ means .null a) :
    Decodes reader.nullable (IsNullable means) := by
  refine ⟨fun {value text blanks rest left a} spelled blank delimited => ?_⟩
  have some : (reader.map Option.some).run (blanks ++ (text ++ rest)) = .ok (a, left)
      ↔ (∃ b, means value b ∧ Option.some b = a) ∧ left = rest :=
    (decodes.map Option.some).run_eq_ok_iff spelled blank delimited
  obtain ⟨c, tail, rfl, head⟩ := spelled.head
  have shown := skipBlanks_append_cons blank head.opens.1 (tail ++ rest)
  rw [← List.cons_append] at shown
  rw [Reader.nullable]
  dsimp only
  split
  case h_1 eq =>
    cases shown.symm.trans eq
    cases head.null.mp rfl
    cases spelled
    constructor
    · intro read
      cases read
      exact ⟨.none, rfl⟩
    · rintro ⟨meant, rfl⟩
      cases meant with
      | none => rfl
      | some meant => exact absurd meant (other _)
  case h_2 not =>
    rw [some]
    constructor
    · rintro ⟨⟨a, meant, rfl⟩, rfl⟩
      exact ⟨.some meant, rfl⟩
    · rintro ⟨meant, rfl⟩
      cases meant with
      | none =>
        obtain rfl := head.null.mpr rfl
        exact absurd shown (not _)
      | some meant => exact ⟨⟨_, meant, rfl⟩, rfl⟩

/-! ### Arrays -/

section
variable {value : Value} {values : List Value} {texts : List (List Char)} {as : List α}
  {text rest left : List Char} {first : Bool}

/-- Behind the last element comes the end of the array. -/
lemma Items.nextElement_nil (shape : Items ']' first [] text) (rest : List Char) :
    nextElement first (text ++ rest) = .ok (.closed rest) := by
  cases shape with
  | close blank =>
    rw [List.append_assoc]
    exact nextElement_closed blank first rest

/-- The reader comes to the next element, whether a comma stands before it or not. -/
lemma Items.nextElement_cons (shape : Items ']' first (text :: texts) left)
    (spelled : value.Spelled text) (rest : List Char) :
    ∃ more, Items ']' false texts more ∧ Delimited (more ++ rest) ∧
      nextElement first (left ++ rest) = .ok (.item (text ++ (more ++ rest))) := by
  obtain ⟨c, tail, rfl, head⟩ := spelled.head
  cases shape with
  | first blank shape =>
    refine ⟨_, shape, shape.delimited (.inl rfl) rest, ?_⟩
    simp only [List.append_assoc, List.cons_append]
    exact nextElement_first blank head.opens.1 head.opens.2 _
  | next blank blank' shape =>
    refine ⟨_, shape, shape.delimited (.inl rfl) rest, ?_⟩
    simp only [List.append_assoc, List.cons_append]
    exact nextElement_next blank blank' head.opens.1 head.opens.2 _

/-- The elements are decoded one after another, up to the bracket. -/
lemma Decodes.readElements_eq_ok_iff (decodes : Decodes reader means)
    (spelled : List.Forall₂ Value.Spelled values texts) (shape : Items ']' first texts text) :
    readElements reader first (text ++ rest) = .ok (as, left)
      ↔ List.Forall₂ means values as ∧ left = rest := by
  induction spelled generalizing first text as left with
  | nil =>
    rw [readElements_of_closed (shape.nextElement_nil rest), List.forall₂_nil_left_iff,
      Except.ok.injEq, Prod.mk.injEq, eq_comm, @eq_comm _ rest]
  | @cons value item values texts spelled _ ih =>
    obtain ⟨more, shape, delimited, next⟩ := shape.nextElement_cons spelled rest
    have read : ∀ {a : α} {left : List Char},
        reader.run (item ++ (more ++ rest)) = .ok (a, left) ↔ means value a ∧ left = more ++ rest :=
      decodes.run_eq_ok_iff spelled blank_nil delimited
    rw [readElements_of_item next, Outcome.bind_eq_ok_iff]
    constructor
    · rintro ⟨⟨a, after⟩, element, elements⟩
      obtain ⟨meant, rfl⟩ := read.mp element
      obtain ⟨⟨as, left⟩, others, eq⟩ := Outcome.map_eq_ok_iff.mp elements
      obtain ⟨meanings, rfl⟩ := (ih shape).mp others
      cases eq
      exact ⟨.cons meant meanings, rfl⟩
    · rintro ⟨meanings, rfl⟩
      cases meanings with
      | cons meant meanings =>
        refine ⟨_, read.mpr ⟨meant, rfl⟩, ?_⟩
        exact Outcome.map_eq_ok_iff.mpr ⟨_, (ih shape).mpr ⟨meanings, rfl⟩, rfl⟩

/-- The reader of a list decodes arrays, element by element. -/
theorem Decodes.list (decodes : Decodes reader means) : Decodes reader.list (IsList means) := by
  refine ⟨fun {value text blanks rest left as} spelled blank _ => ?_⟩
  obtain ⟨c, tail, rfl, head⟩ := spelled.head
  rw [List.cons_append, Reader.list]
  dsimp only
  rw [skipBlanks_append_cons blank head.opens.1]
  dsimp only
  split
  case isTrue bracket =>
    obtain ⟨elements, rfl⟩ := head.array.mp bracket
    cases spelled with
    | array spelled shape =>
      rw [decodes.readElements_eq_ok_iff spelled shape]
      constructor
      · rintro ⟨all, rfl⟩
        exact ⟨.mk all, rfl⟩
      · rintro ⟨⟨all⟩, rfl⟩
        exact ⟨all, rfl⟩
  case isFalse other =>
    constructor
    · intro read
      cases read
    · rintro ⟨⟨_⟩, _⟩
      exact absurd (head.array.mpr ⟨_, rfl⟩) other

end

end

end CoinAddress.Json
