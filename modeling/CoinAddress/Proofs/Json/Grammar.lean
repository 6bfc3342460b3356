import CoinAddress.Proofs.Json.Escapes
import CoinAddress.Proofs.Json.Literal
import CoinAddress.Proofs.Json.Members

/-!
# The grammar of documents

A value is a tree whose leaves are kept as they are written: numbers by their literals and strings by
what stands between their quotes. A text spells a value with any blanks around the commas, colons and
brackets (`Value.Spelled`). Every spelled value is passed over up to its end, however deep it nests
(`Value.Spelled.skipValue`).
-/

namespace CoinAddress.Json

/-- A value of a document, with its literals and the bodies of its strings as they are written. -/
inductive Value where
  | null
  | boolean (value : Bool)
  | number (literal : List Char)
  | string (body : List Char)
  | array (elements : List Value)
  | object (members : List (List Char × Value))

/-- Items up to the closing character, with a comma before each but the first. -/
inductive Items (closing : Char) : Bool → List (List Char) → List Char → Prop where
  | close {first : Bool} {blanks : List Char} :
    Blank blanks → Items closing first [] (blanks ++ [closing])
  | first {blanks item text : List Char} {items : List (List Char)} :
    Blank blanks → Items closing false items text →
    Items closing true (item :: items) (blanks ++ (item ++ text))
  | next {blanks blanks' item text : List Char} {items : List (List Char)} :
    Blank blanks → Blank blanks' → Items closing false items text →
    Items closing false (item :: items) (blanks ++ ',' :: (blanks' ++ (item ++ text)))

/-- A key and a value as a member of an object. -/
inductive MemberSpelled (spelled : Value → List Char → Prop) :
    List Char × Value → List Char → Prop where
  | mk {key blanks blanks' text : List Char} {value : Value} :
    WellFormed key → Blank blanks → Blank blanks' → spelled value text →
    MemberSpelled spelled (key, value) ('"' :: (key ++ '"' :: (blanks ++ ':' :: (blanks' ++ text))))

/-- The text is a spelling of the value, without blanks around it. -/
inductive Value.Spelled : Value → List Char → Prop where
  | null : Spelled .null ['n', 'u', 'l', 'l']
  | true : Spelled (.boolean true) ['t', 'r', 'u', 'e']
  | false : Spelled (.boolean false) ['f', 'a', 'l', 's', 'e']
  | number {literal : List Char} :
    Numeral.Literal literal → Spelled (.number literal) literal
  | string {body : List Char} :
    WellFormed body → Spelled (.string body) ('"' :: (body ++ ['"']))
  | array {elements : List Value} {texts : List (List Char)} {text : List Char} :
    List.Forall₂ Spelled elements texts → Items ']' true texts text →
    Spelled (.array elements) ('[' :: text)
  | object {members : List (List Char × Value)} {texts : List (List Char)} {text : List Char} :
    List.Forall₂ (MemberSpelled Spelled) members texts → Items '\x7d' true texts text →
    Spelled (.object members) ('\x7b' :: text)

/-- The document holds the value and nothing else but blanks. -/
def Value.Document (value : Value) (document : String) : Prop :=
  ∃ blanks text blanks', Blank blanks ∧ Blank blanks' ∧ value.Spelled text ∧
    document.toList = blanks ++ (text ++ blanks')

/-- What holds of an array if it holds of its elements, and of an object if it holds of the values of
its members, holds of every value. -/
@[elab_as_elim, induction_eliminator]
theorem Value.nested {motive : Value → Prop} (null : motive .null)
    (boolean : ∀ value, motive (.boolean value)) (number : ∀ literal, motive (.number literal))
    (string : ∀ body, motive (.string body))
    (array : ∀ elements, (∀ element ∈ elements, motive element) → motive (.array elements))
    (object : ∀ members, (∀ member ∈ members, motive member.2) → motive (.object members))
    (value : Value) : motive value :=
  match value with
  | .null => null
  | .boolean value => boolean value
  | .number literal => number literal
  | .string body => string body
  | .array elements => array elements fun element _ =>
    nested null boolean number string array object element
  | .object members => object members fun member _ =>
    nested null boolean number string array object member.2
termination_by sizeOf value
decreasing_by
  · have := List.sizeOf_lt_of_mem ‹element ∈ elements›
    simp only [Value.array.sizeOf_spec]
    omega
  · have := List.sizeOf_lt_of_mem ‹member ∈ members›
    obtain ⟨key, value⟩ := member
    simp only [Value.object.sizeOf_spec, Prod.mk.sizeOf_spec] at *
    omega

/-! ### Layout -/

/-- A comma or the closing bracket comes behind an item. -/
lemma Items.delimited {closing : Char} {items : List (List Char)} {text : List Char}
    (shape : Items closing false items text) (bracket : closing = ']' ∨ closing = '\x7d')
    (rest : List Char) : Delimited (text ++ rest) := by
  cases shape with
  | close blank =>
    rw [List.append_assoc]
    exact delimited_of_blank blank (delimited_cons (.inr (.inr bracket)) rest)
  | next blank =>
    rw [List.append_assoc]
    exact delimited_of_blank blank (delimited_cons (.inr (.inl rfl)) _)

/-- A character that may start a value: it is no blank and closes no array. -/
def Opens (c : Char) : Prop :=
  ¬ IsBlank c ∧ c ≠ ']'

/-- A digit opens a value. -/
lemma opens_of_isDigit {c : Char} (digit : c.isDigit) : Opens c := by
  constructor
  · rintro (rfl | rfl | rfl | rfl) <;> cases digit
  · rintro rfl
    cases digit

/-- A number literal starts with its sign or a digit. -/
lemma Numeral.Literal.exists_eq_cons {literal : List Char} (shape : Literal literal) :
    ∃ c tail, literal = c :: tail ∧ (c = '-' ∨ c.isDigit) := by
  cases shape with
  | unsigned plain =>
    obtain ⟨c, digits, rfl⟩ := List.exists_cons_of_ne_nil plain.nonempty
    have digit : c.isDigit := plain.all c (List.mem_cons_self ..)
    exact ⟨c, _, rfl, .inr digit⟩
  | negative => exact ⟨'-', _, rfl, .inl rfl⟩

/-- The first character of a value, which tells what the value is. -/
structure Value.Head (value : Value) (c : Char) : Prop where
  opens : Opens c
  null : c = 'n' ↔ value = .null
  string : c = '"' ↔ ∃ body, value = .string body
  number : Numeral.starts c = true ↔ ∃ literal, value = .number literal
  array : c = '[' ↔ ∃ elements, value = .array elements
  object : c = '\x7b' ↔ ∃ members, value = .object members

/-- The head of a number is its sign or a digit. -/
lemma Value.head_number {c : Char} (literal : List Char) (start : c = '-' ∨ c.isDigit) :
    (Value.number literal).Head c := by
  have opens : Opens c := by
    rcases start with rfl | digit
    · exact ⟨by decide, by decide⟩
    · exact opens_of_isDigit digit
  have starts : Numeral.starts c = true := by
    rcases start with rfl | digit
    · rfl
    · simp [Numeral.starts, Numeral.digit?_of_isDigit digit]
  have other : ∀ {d : Char}, Numeral.starts d = false → c ≠ d := by
    rintro d not rfl
    cases not.symm.trans starts
  exact
    { opens := opens
      null := iff_of_false (other rfl) (by simp)
      string := iff_of_false (other rfl) (by simp)
      number := ⟨fun _ => ⟨literal, rfl⟩, fun _ => starts⟩
      array := iff_of_false (other rfl) (by simp)
      object := iff_of_false (other rfl) (by simp) }

/-- The first character of a value tells what kind of value it is. -/
lemma Value.Spelled.head {value : Value} {text : List Char} (spelled : value.Spelled text) :
    ∃ c tail, text = c :: tail ∧ value.Head c := by
  cases spelled with
  | number shape =>
    obtain ⟨c, tail, eq, start⟩ := shape.exists_eq_cons
    exact ⟨c, tail, eq, head_number text start⟩
  | _ =>
    refine ⟨_, _, rfl, ⟨by decide, by decide⟩, ?_, ?_, ?_, ?_, ?_⟩
    all_goals simp [Numeral.starts, digit?]

/-! ### Passing over -/

namespace Skip

section
variable {frame : Frame} {stack : List Frame} {text rest left : List Char} {c : Char}

/-- Before a value the machine enters the frame that is opened. -/
lemma run_opening (frame : Frame) {blanks : List Char} (blank : Blank blanks)
    (stack : List Frame) (rest : List Char) :
    run .before stack (blanks ++ frame.opening :: rest) = run (.entered frame) stack rest := by
  have shown : skipBlanks (blanks ++ frame.opening :: rest) = frame.opening :: rest :=
    skipBlanks_append_cons blank (by cases frame <;> decide) rest
  have opening : frame? frame.opening = some frame := by cases frame <;> rfl
  conv_lhs => rw [run]
  split
  case h_1 eq => cases shown.symm.trans eq
  case h_2 eq =>
    cases shown.symm.trans eq
    rw [opening]

/-- Before a value the machine passes over one that opens no frame. -/
lemma run_scalar (shown : skipBlanks text = c :: rest) (none : frame? c = none)
    (passed : scalar c rest = .ok left) : run .before stack text = run .after stack left := by
  conv_lhs => rw [run]
  split
  case h_1 eq => cases shown.symm.trans eq
  case h_2 eq =>
    cases shown.symm.trans eq
    rw [none]
    dsimp only
    split
    case h_1 eq => cases passed.symm.trans eq
    case h_2 eq =>
      cases passed.symm.trans eq
      rfl

/-- A frame may be closed where it is entered. -/
lemma run_entered_closed (shown : skipBlanks text = frame.closing :: rest) :
    run (.entered frame) stack text = run .after stack rest := by
  conv_lhs => rw [run]
  split
  case h_1 eq => cases shown.symm.trans eq
  case h_2 eq =>
    cases shown.symm.trans eq
    rw [if_pos rfl]

/-- Where a frame is entered, the machine goes on with the first item. -/
lemma run_entered_item (shown : skipBlanks text = c :: rest) (other : c ≠ frame.closing)
    (labelled : label frame (c :: rest) = .ok left) :
    run (.entered frame) stack text = run .before (frame :: stack) left := by
  conv_lhs => rw [run]
  split
  case h_1 eq => cases shown.symm.trans eq
  case h_2 eq =>
    cases shown.symm.trans eq
    rw [if_neg other]
    split
    case h_1 eq => cases labelled.symm.trans eq
    case h_2 eq =>
      cases labelled.symm.trans eq
      rfl

/-- Behind a value the innermost frame may be closed. -/
lemma run_after_closed (shown : skipBlanks text = frame.closing :: rest) :
    run .after (frame :: stack) text = run .after stack rest := by
  conv_lhs => rw [run]
  split
  case h_1 eq => cases shown.symm.trans eq
  case h_2 eq =>
    cases shown.symm.trans eq
    rw [if_neg (by cases frame <;> decide), if_pos rfl]

/-- Behind a value and a comma the machine goes on with the next item. -/
lemma run_after_comma (shown : skipBlanks text = ',' :: rest)
    (labelled : label frame rest = .ok left) :
    run .after (frame :: stack) text = run .before (frame :: stack) left := by
  conv_lhs => rw [run]
  split
  case h_1 eq => cases shown.symm.trans eq
  case h_2 eq =>
    cases shown.symm.trans eq
    rw [if_pos rfl]
    split
    case h_1 eq => cases labelled.symm.trans eq
    case h_2 eq =>
      cases labelled.symm.trans eq
      rfl

/-- In the frame, the item is passed over together with its label. -/
structure Passed (frame : Frame) (item : List Char) : Prop where
  start : ∃ c tail, item = c :: tail ∧ ¬ IsBlank c ∧ c ≠ frame.closing
  run : ∀ {blanks rest : List Char} (stack : List Frame), Blank blanks → Delimited rest →
    ∃ left, label frame (blanks ++ (item ++ rest)) = .ok left ∧
      run .before (frame :: stack) left = run .after (frame :: stack) rest

/-- What closes a frame is no blank. -/
lemma shown_closing (frame : Frame) : ¬ IsBlank frame.closing := by
  cases frame <;> decide

/-- A frame is closed by a bracket or by a brace. -/
lemma closing_cases (frame : Frame) : frame.closing = ']' ∨ frame.closing = '\x7d' := by
  cases frame <;> decide

/-- Behind the opening character, and behind an item, what is left of the frame is passed over. -/
lemma run_items (frame : Frame) {items : List (List Char)} {first : Bool}
    (shape : Items frame.closing first items text) (passed : ∀ item ∈ items, Passed frame item)
    (stack : List Frame) (rest : List Char) :
    (if first then run (.entered frame) stack (text ++ rest)
      else run .after (frame :: stack) (text ++ rest)) = run .after stack rest := by
  generalize eq : frame.closing = closing at shape
  have bracket := eq ▸ closing_cases frame
  induction shape with
  | @close first blanks blank =>
    have shown := skipBlanks_append_cons blank (shown_closing frame) rest
    rw [List.append_assoc, List.singleton_append, ← eq]
    cases first with
    | true => exact run_entered_closed shown
    | false => exact run_after_closed shown
  | @first blanks item text items blank shape ih =>
    obtain ⟨first, others⟩ := List.forall_mem_cons.mp passed
    obtain ⟨left, labelled, passes⟩ := first.run stack blank_nil (shape.delimited bracket rest)
    obtain ⟨c, after, rfl, shown, other⟩ := first.start
    rw [List.nil_append, List.cons_append] at labelled
    rw [if_pos rfl, List.append_assoc, List.append_assoc, List.cons_append,
      run_entered_item (skipBlanks_append_cons blank shown _) other labelled, passes]
    exact ih others
  | @next blanks blanks' item text items blank blank' shape ih =>
    obtain ⟨first, others⟩ := List.forall_mem_cons.mp passed
    obtain ⟨left, labelled, passes⟩ := first.run stack blank' (shape.delimited bracket rest)
    have comma := skipBlanks_append_cons blank (by decide : ¬ IsBlank ',')
      (blanks' ++ (item ++ (text ++ rest)))
    simp only [List.append_assoc, List.cons_append]
    rw [if_neg (by decide), run_after_comma comma labelled, passes]
    exact ih others

end

/-- A number is told by its first digit. -/
lemma frame?_scalar_of_isDigit {c : Char} (digit : c.isDigit) (text : List Char) :
    frame? c = none ∧ scalar c text = Numeral.skipUnsigned (c :: text) := by
  have other : ∀ {d : Char}, d.isDigit = false → c ≠ d := by
    rintro d not rfl
    cases not.symm.trans digit
  constructor
  · rw [frame?, if_neg (other rfl), if_neg (other rfl)]
  · rw [scalar, if_neg (other rfl), if_neg (other rfl), if_neg (other rfl), if_neg (other rfl),
      if_neg (other rfl), if_pos (Numeral.isSome_digit?_of_isDigit digit)]

/-- A number is passed over with the blanks before it. -/
lemma run_number {literal blanks rest : List Char} (shape : Numeral.Literal literal)
    (blank : Blank blanks) (delimited : Delimited rest) (stack : List Frame) :
    run .before stack (blanks ++ (literal ++ rest)) = run .after stack rest := by
  cases shape with
  | unsigned plain fraction exponent =>
    have passed := Numeral.skipUnsigned_append plain fraction exponent delimited.ended
    obtain ⟨c, digits, rfl⟩ := List.exists_cons_of_ne_nil plain.nonempty
    have digit : c.isDigit := plain.all c (List.mem_cons_self ..)
    obtain ⟨none, number⟩ := frame?_scalar_of_isDigit digit _
    simp only [List.cons_append, List.append_assoc] at passed ⊢
    exact run_scalar (skipBlanks_append_cons blank (opens_of_isDigit digit).1 _) none
      (number.trans passed)
  | negative plain fraction exponent =>
    have passed := Numeral.skipUnsigned_append plain fraction exponent delimited.ended
    simp only [List.cons_append, List.append_assoc]
    exact run_scalar (skipBlanks_append_cons blank (by decide) _) rfl passed

end Skip

/-- What holds of the second member of each pair holds of all second members. -/
lemma forall_mem_of_forall₂ {α β : Type} {P : β → Prop} {as : List α} {bs : List β}
    (all : List.Forall₂ (fun _ b => P b) as bs) : ∀ b ∈ bs, P b := by
  induction all with
  | nil => exact nofun
  | cons first _ ih => exact List.forall_mem_cons.mpr ⟨first, ih⟩

/-- The machine passes over every spelled value, and the frames around the value stay open. -/
lemma Value.Spelled.run {value : Value} {text blanks rest : List Char} (spelled : value.Spelled text)
    (stack : List Skip.Frame) (blank : Blank blanks) (delimited : Delimited rest) :
    Skip.run .before stack (blanks ++ (text ++ rest)) = Skip.run .after stack rest := by
  induction value generalizing text blanks rest stack with
  | null =>
    cases spelled
    exact Skip.run_scalar (skipBlanks_append_cons blank (by decide) _) rfl rfl
  | boolean =>
    cases spelled with
    | true => exact Skip.run_scalar (skipBlanks_append_cons blank (by decide) _) rfl rfl
    | false => exact Skip.run_scalar (skipBlanks_append_cons blank (by decide) _) rfl rfl
  | number =>
    cases spelled with
    | number shape => exact Skip.run_number shape blank delimited stack
  | string =>
    cases spelled with
    | string wellFormed =>
      have passed := wellFormed.skipBody rest
      simp only [List.cons_append, List.append_assoc]
      exact Skip.run_scalar (skipBlanks_append_cons blank (by decide) _) rfl passed
  | array elements ih =>
    cases spelled with
    | @array _ texts _ spelled shape =>
      have passed : List.Forall₂ (fun _ item => Skip.Passed .array item) elements texts := by
        refine ((List.forall₂_and_left ..).mpr ⟨ih, spelled⟩).imp ?_
        rintro element item ⟨ih, spelled⟩
        obtain ⟨c, tail, eq, head⟩ := spelled.head
        refine ⟨⟨c, tail, eq, head.opens⟩, fun stack blank delimited => ⟨_, rfl, ?_⟩⟩
        exact ih spelled (.array :: stack) blank delimited
      exact (Skip.run_opening .array blank stack _).trans
        (Skip.run_items .array shape (forall_mem_of_forall₂ passed) stack rest)
  | object members ih =>
    cases spelled with
    | @object _ texts _ spelled shape =>
      have passed : List.Forall₂ (fun _ item => Skip.Passed .object item) members texts := by
        refine ((List.forall₂_and_left ..).mpr ⟨ih, spelled⟩).imp ?_
        rintro _ _ ⟨ih, @⟨key, blanks, blanks', text, value, wellFormed, blank, blank', spelled⟩⟩
        refine ⟨⟨'"', _, rfl, by decide, by decide⟩, fun {outer rest} stack blank'' delimited => ?_⟩
        refine ⟨blanks' ++ (text ++ rest), ?_, ih spelled (.object :: stack) blank' delimited⟩
        simp only [List.cons_append, List.append_assoc]
        rw [Skip.label, skipBlanks_append_cons blank'' (by decide)]
        dsimp only
        rw [if_pos rfl, wellFormed.skipBody]
        exact readColon_append blank _
      exact (Skip.run_opening .object blank stack _).trans
        (Skip.run_items .object shape (forall_mem_of_forall₂ passed) stack rest)

/-- A spelled value is passed over up to its end, whatever it holds. -/
theorem Value.Spelled.skipValue {value : Value} {text blanks rest : List Char}
    (spelled : value.Spelled text) (blank : Blank blanks) (delimited : Delimited rest) :
    skipValue (blanks ++ (text ++ rest)) = .ok rest := by
  have passes := spelled.run [] blank delimited
  rw [Json.skipValue, passes, Skip.run]

end CoinAddress.Json
