import CoinAddress.Proofs.Json.Decodes

/-!
# Values with named fields

A shape decodes a value in two forms, an object whose members are collected one after another
(`Shape.Collects`) and an array whose elements fill the fields in order (`Shape.Positions`). What the
value means is what the filled draft makes (`Shape.Means`), and if each field is decoded, so is the
whole (`Shape.decodes_reader`).
-/

namespace CoinAddress.Json.Shape

variable {δ α : Type}

/-- A member of the name and value turns one draft into another. One of another name than those of the
fields leaves the draft as it is, and a field that the draft has already is not taken again. -/
inductive Takes (shape : Shape δ α) (means : String → Value → (δ → δ) → Prop) (name : String)
    (value : Value) (draft : δ) : δ → Prop where
  | other :
    shape.fields.find? (·.key = name) = none → Takes shape means name value draft draft
  | field {field : Field δ} {put : δ → δ} :
    shape.fields.find? (·.key = name) = some field → field.isSet draft = false →
    means name value put → Takes shape means name value draft (put draft)

/-- The members turn one draft into another, one after another. -/
inductive Collects (shape : Shape δ α) (means : String → Value → (δ → δ) → Prop) :
    δ → List (List Char × Value) → δ → Prop where
  | nil {draft : δ} :
    Collects shape means draft [] draft
  | cons {draft taken filled : δ} {key : List Char} {name : String} {value : Value}
      {members : List (List Char × Value)} :
    Spells key name.toList → Takes shape means name value draft taken →
    Collects shape means taken members filled →
    Collects shape means draft ((key, value) :: members) filled

/-- The values are put into the draft as the first of the fields, in order. -/
inductive Positions (means : String → Value → (δ → δ) → Prop) :
    List (Field δ) → List Value → δ → δ → Prop where
  | nil {fields : List (Field δ)} {draft : δ} :
    Positions means fields [] draft draft
  | cons {field : Field δ} {fields : List (Field δ)} {value : Value} {values : List Value}
      {put : δ → δ} {draft filled : δ} :
    means field.key value put → Positions means fields values (put draft) filled →
    Positions means (field :: fields) (value :: values) draft filled

/-- What a value of the shape means, by what the values of its fields put into a draft. -/
inductive Means (shape : Shape δ α) (means : String → Value → (δ → δ) → Prop) :
    Value → α → Prop where
  | object {members : List (List Char × Value)} {filled : δ} {a : α} :
    Collects shape means shape.blank members filled → shape.build filled = .ok a →
    Means shape means (.object members) a
  | array {values : List Value} {filled : δ} {a : α} :
    Positions means shape.fields values shape.blank filled → shape.build filled = .ok a →
    Means shape means (.array values) a

variable {shape : Shape δ α} {means : String → Value → (δ → δ) → Prop} {name : String}
  {value : Value} {text start rest left : List Char} {draft filled : δ} {first : Bool}

/-- The field that a name leads to is one of the shape and has the name. -/
lemma key_of_find? {field : Field δ} (found : shape.fields.find? (·.key = name) = some field) :
    field ∈ shape.fields ∧ field.key = name := by
  have same := List.find?_some found
  exact ⟨List.mem_of_find?_eq_some found, of_decide_eq_true same⟩

/-! ### Objects -/

/-- Behind its key, a member is read exactly as it is taken. -/
lemma readMember_eq_ok_iff
    (decodes : ∀ field ∈ shape.fields, Decodes field.reader (means field.key))
    {blanks blanks' : List Char} (blank : Blank blanks) (blank' : Blank blanks')
    (spelled : value.Spelled text) (delimited : Delimited rest) :
    shape.readMember name draft (blanks ++ ':' :: (blanks' ++ (text ++ rest))) = .ok (filled, left)
      ↔ Takes shape means name value draft filled ∧ left = rest := by
  have colon := readColon_append blank (blanks' ++ (text ++ rest))
  rw [readMember]
  split
  case h_1 none =>
    simp only [colon, bind, Except.bind, spelled.skipValue blank' delimited]
    constructor
    · intro read
      cases read
      exact ⟨.other none, rfl⟩
    · rintro ⟨takes, rfl⟩
      cases takes with
      | other => rfl
      | field found => cases none.symm.trans found
  case h_2 field found =>
    obtain ⟨mem, rfl⟩ := key_of_find? found
    have read : ∀ {put : δ → δ} {left : List Char},
        field.reader.run (blanks' ++ (text ++ rest)) = .ok (put, left)
          ↔ means field.key value put ∧ left = rest :=
      (decodes field mem).run_eq_ok_iff spelled blank' delimited
    rw [colon]
    constructor
    · intro member
      split at member
      case isTrue => cases member
      case isFalse unset =>
        obtain ⟨_, same, more⟩ := Outcome.bind_eq_ok_iff.mp member
        cases same
        obtain ⟨⟨put, left⟩, taken, eq⟩ := Outcome.bind_eq_ok_iff.mp more
        obtain ⟨meant, rfl⟩ := read.mp taken
        cases eq
        exact ⟨.field found (Bool.eq_false_iff.mpr unset) meant, rfl⟩
    · rintro ⟨takes, rfl⟩
      cases takes with
      | other none => cases none.symm.trans found
      | @field field' put found' unset meant =>
        cases found.symm.trans found'
        simp only [unset, bind, Except.bind, read.mpr ⟨meant, rfl⟩]
        rfl

/-- Behind the last member comes the end of the object. -/
lemma nextKey_nil (shape : Items '\x7d' first [] text) (rest : List Char) :
    nextKey first (text ++ rest) = .ok (.closed rest) := by
  cases shape with
  | close blank =>
    rw [List.append_assoc]
    exact nextKey_closed blank first rest

/-- The reader comes to the next key, whether a comma stands before it or not. -/
lemma nextKey_cons {item : List Char} {texts : List (List Char)}
    (shape : Items '\x7d' first (('"' :: item) :: texts) left) (rest : List Char) :
    ∃ more, Items '\x7d' false texts more ∧ Delimited (more ++ rest) ∧
      nextKey first (left ++ rest) = .ok (.item (item ++ (more ++ rest))) := by
  cases shape with
  | first blank shape =>
    refine ⟨_, shape, shape.delimited (.inr rfl) rest, ?_⟩
    simp only [List.append_assoc, List.cons_append]
    exact nextKey_first blank _
  | next blank blank' shape =>
    refine ⟨_, shape, shape.delimited (.inr rfl) rest, ?_⟩
    simp only [List.append_assoc, List.cons_append]
    exact nextKey_next blank blank' _

/-- The members are collected one after another, up to the brace. -/
lemma readMembers_eq_ok_iff
    (decodes : ∀ field ∈ shape.fields, Decodes field.reader (means field.key))
    {members : List (List Char × Value)} {texts : List (List Char)}
    (spelled : List.Forall₂ (MemberSpelled Value.Spelled) members texts)
    (items : Items '\x7d' first texts text) :
    shape.readMembers first draft (text ++ rest) = .ok (filled, left)
      ↔ Collects shape means draft members filled ∧ left = rest := by
  induction spelled generalizing first text draft left with
  | nil =>
    rw [readMembers_of_closed (nextKey_nil items rest)]
    constructor
    · intro read
      cases read
      exact ⟨.nil, rfl⟩
    · rintro ⟨collects, rfl⟩
      cases collects
      rfl
  | cons spelled _ ih =>
    obtain ⟨wellFormed, blank, blank', spelled⟩ := spelled
    obtain ⟨more, items, delimited, next⟩ := nextKey_cons items rest
    simp only [List.append_assoc, List.cons_append] at next
    rw [readMembers_of_next next, Outcome.bind_eq_ok_iff]
    constructor
    · rintro ⟨⟨cs, after⟩, body, read⟩
      obtain ⟨named, rfl⟩ := wellFormed.readBody_eq_ok_iff.mp body
      obtain ⟨⟨taken, after⟩, member, others⟩ := Outcome.bind_eq_ok_iff.mp read
      obtain ⟨takes, rfl⟩ := (readMember_eq_ok_iff decodes blank blank' spelled delimited).mp member
      obtain ⟨collects, rfl⟩ := (ih items).mp others
      exact ⟨.cons (String.toList_ofList.symm ▸ named) takes collects, rfl⟩
    · rintro ⟨collects, rfl⟩
      cases collects with
      | @cons _ taken _ _ name _ _ named takes collects =>
        refine ⟨_, wellFormed.readBody_eq_ok_iff.mpr ⟨named, rfl⟩, ?_⟩
        refine Outcome.bind_eq_ok_iff.mpr
          ⟨(taken, more ++ left), ?_, (ih items).mpr ⟨collects, rfl⟩⟩
        rw [String.ofList_toList]
        exact (readMember_eq_ok_iff decodes blank blank' spelled delimited).mpr ⟨takes, rfl⟩

/-! ### Arrays -/

section
variable {fields : List (Field δ)} {texts : List (List Char)} {a : α}

/-- At the bracket the draft has to make a value, whatever fields are left. -/
lemma readPositions_closed (items : Items ']' first [] text) :
    shape.readPositions first draft fields (text ++ rest) = .ok (a, left)
      ↔ shape.build draft = .ok a ∧ left = rest := by
  cases fields with
  | nil =>
    have last : readListEnd (text ++ rest) = .ok rest := by
      cases items with
      | close blank =>
        rw [List.append_assoc, readListEnd, List.singleton_append,
          skipBlanks_append_cons blank (by decide)]
        rfl
    rw [readPositions, last]
    cases shape.build draft with
    | error key => exact ⟨nofun, nofun⟩
    | ok b => simp [Except.map, eq_comm]
  | cons field fields =>
    rw [readPositions, items.nextElement_nil]
    dsimp only
    cases shape.build draft with
    | error key => exact ⟨nofun, nofun⟩
    | ok b => simp [eq_comm]

/-- An array does not end where something else stands. -/
lemma readListEnd_of_ne {blanks : List Char} {c : Char} (blank : Blank blanks)
    (shown : ¬ IsBlank c) (other : c ≠ ']') (text : List Char) :
    ∃ fault, readListEnd (blanks ++ c :: text) = .error fault := by
  rw [readListEnd, skipBlanks_append_cons blank shown]
  dsimp only
  rw [if_neg other]
  split
  case isTrue => exact ⟨_, rfl⟩
  case isFalse => exact ⟨_, rfl⟩

/-- No value may follow the one of the last field. -/
lemma readPositions_nil (items : Items ']' first (start :: texts) text)
    (spelled : value.Spelled start) :
    shape.readPositions first draft [] (text ++ rest) ≠ .ok (a, left) := by
  have refused : ∃ fault, readListEnd (text ++ rest) = .error fault := by
    obtain ⟨c, tail, rfl, head⟩ := spelled.head
    cases items with
    | first blank =>
      simp only [List.append_assoc, List.cons_append]
      exact readListEnd_of_ne blank head.opens.1 head.opens.2 _
    | next blank =>
      rw [List.append_assoc]
      exact readListEnd_of_ne blank (by decide) (by decide) _
  obtain ⟨fault, failure⟩ := refused
  rw [readPositions, failure]
  cases shape.build draft with
  | error key => exact nofun
  | ok b => exact nofun

/-- The values are put into the draft one after another, up to the bracket. -/
lemma readPositions_eq_ok_iff {values : List Value}
    (decodes : ∀ field ∈ fields, Decodes field.reader (means field.key))
    (spelled : List.Forall₂ Value.Spelled values texts) (items : Items ']' first texts text) :
    shape.readPositions first draft fields (text ++ rest) = .ok (a, left)
      ↔ ∃ filled, Positions means fields values draft filled ∧ shape.build filled = .ok a ∧
          left = rest := by
  induction spelled generalizing first text fields draft with
  | nil =>
    rw [readPositions_closed items]
    constructor
    · exact fun built => ⟨draft, .nil, built⟩
    · rintro ⟨filled, put, built⟩
      cases put
      exact built
  | @cons value item values texts spelled _ ih =>
    cases fields with
    | nil =>
      constructor
      · intro positions
        exact absurd positions (readPositions_nil items spelled)
      · rintro ⟨filled, put, built⟩
        cases put
    | cons field fields =>
      obtain ⟨decodes, others⟩ := List.forall_mem_cons.mp decodes
      obtain ⟨more, items, delimited, next⟩ := items.nextElement_cons spelled rest
      have read : ∀ {put : δ → δ} {left : List Char},
          field.reader.run (item ++ (more ++ rest)) = .ok (put, left)
            ↔ means field.key value put ∧ left = more ++ rest :=
        decodes.run_eq_ok_iff spelled blank_nil delimited
      rw [readPositions, next]
      dsimp only
      constructor
      · intro positions
        split at positions
        case h_1 => cases positions
        case h_2 put after taken =>
          obtain ⟨meant, rfl⟩ := read.mp taken
          obtain ⟨filled, put, built⟩ := (ih others items).mp positions
          exact ⟨filled, .cons meant put, built⟩
      · rintro ⟨filled, put, built⟩
        cases put with
        | cons meant put =>
          rw [read.mpr ⟨meant, rfl⟩]
          exact (ih others items).mpr ⟨filled, put, built⟩

end

/-- If each field is decoded, so is the whole, in both of its forms. -/
theorem decodes_reader (decodes : ∀ field ∈ shape.fields, Decodes field.reader (means field.key)) :
    Decodes shape.reader (shape.Means means) := by
  refine ⟨fun {value text blanks rest left a} spelled blank _ => ?_⟩
  obtain ⟨c, tail, rfl, head⟩ := spelled.head
  rw [List.cons_append, reader]
  dsimp only
  rw [skipBlanks_append_cons blank head.opens.1]
  dsimp only
  split
  case isTrue bracket =>
    obtain ⟨elements, rfl⟩ := head.array.mp bracket
    cases spelled with
    | array spelled items =>
      rw [readPositions_eq_ok_iff decodes spelled items]
      constructor
      · rintro ⟨filled, put, built, rfl⟩
        exact ⟨.array put built, rfl⟩
      · rintro ⟨meant, rfl⟩
        cases meant with
        | array put built => exact ⟨_, put, built, rfl⟩
  case isFalse bracket =>
    split
    case isTrue brace =>
      obtain ⟨members, rfl⟩ := head.object.mp brace
      cases spelled with
      | object spelled items =>
        rw [readObject, Outcome.bind_eq_ok_iff]
        constructor
        · rintro ⟨⟨filled, after⟩, read, eq⟩
          obtain ⟨collects, rfl⟩ := (readMembers_eq_ok_iff decodes spelled items).mp read
          dsimp only at eq
          split at eq
          case h_1 built =>
            cases eq
            exact ⟨.object collects built, rfl⟩
          case h_2 => cases eq
        · rintro ⟨meant, rfl⟩
          cases meant with
          | object collects built =>
            refine ⟨_, (readMembers_eq_ok_iff decodes spelled items).mpr ⟨collects, rfl⟩, ?_⟩
            dsimp only
            rw [built]
            rfl
    case isFalse brace =>
      constructor
      · intro read
        cases read
      · rintro ⟨meant, _⟩
        cases meant with
        | object => exact absurd (head.object.mpr ⟨_, rfl⟩) brace
        | array => exact absurd (head.array.mpr ⟨_, rfl⟩) bracket

end CoinAddress.Json.Shape
