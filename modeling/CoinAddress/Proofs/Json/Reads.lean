import CoinAddress.Json.Reader
import CoinAddress.Proofs.Json.Numeral
import CoinAddress.Proofs.Json.Text
import CoinAddress.Proofs.Outcome
import Mathlib.Data.List.TakeWhile

/-!
# Texts that are read as values

A text is read as a value if the reader takes exactly this text, after any blanks and before
anything that ends a value (`Reads`). Written strings and bytes are read as themselves, and an array
is read as the list of what its elements are read as (`Reads.array`).
-/

namespace CoinAddress.Json

/-- A character that separates values without a meaning of its own. -/
def IsBlank (c : Char) : Prop :=
  c = ' ' ∨ c = '\n' ∨ c = '\t' ∨ c = '\r'

instance (c : Char) : Decidable (IsBlank c) :=
  inferInstanceAs (Decidable (c = ' ' ∨ c = '\n' ∨ c = '\t' ∨ c = '\r'))

/-- The text is nothing but blanks. -/
def Blank (text : List Char) : Prop :=
  ∀ c ∈ text, IsBlank c

instance (text : List Char) : Decidable (Blank text) :=
  List.decidableBAll IsBlank text

/-- The text is empty or starts with a character that ends the value before it. -/
def Delimited (rest : List Char) : Prop :=
  ∀ c ∈ rest.head?, IsBlank c ∨ c = ',' ∨ c = ']' ∨ c = '\x7d'

/-- The reader takes the text for the value wherever it stands. -/
structure Reads {α : Type} (reader : Reader α) (text : List Char) (a : α) : Prop where
  /-- The text starts with a character of its own. -/
  start : ∃ c tail, text = c :: tail ∧ ¬ IsBlank c ∧ c ≠ ']'
  /-- Blanks may stand before the text and a delimiter after it. -/
  run : ∀ {blanks rest : List Char}, Blank blanks → Delimited rest →
    reader.run (blanks ++ (text ++ rest)) = .ok (a, rest)

/-- Blanks in front are passed over. -/
lemma skipBlanks_append {blanks : List Char} (blank : Blank blanks)
    (text : List Char) : skipBlanks (blanks ++ text) = skipBlanks text := by
  apply List.dropWhile_append_of_pos
  intro c mem
  exact decide_eq_true (blank c mem)

/-- Nothing is passed over before a character that is no blank. -/
lemma skipBlanks_cons {c : Char} (shown : ¬ IsBlank c) (text : List Char) :
    skipBlanks (c :: text) = c :: text :=
  List.dropWhile_cons_of_neg fun blank => shown (of_decide_eq_true blank)

/-- Blanks are passed over up to the first character that is none. -/
lemma skipBlanks_append_cons {blanks : List Char} (blank : Blank blanks) {c : Char}
    (shown : ¬ IsBlank c) (text : List Char) : skipBlanks (blanks ++ c :: text) = c :: text := by
  rw [skipBlanks_append blank, skipBlanks_cons shown]

/-- A text falls into the blanks in front and what follows them. -/
lemma exists_blank_append (text : List Char) :
    ∃ blanks, Blank blanks ∧ text = blanks ++ skipBlanks text := by
  refine ⟨text.takeWhile fun c => c = ' ' ∨ c = '\n' ∨ c = '\t' ∨ c = '\r', ?_, ?_⟩
  · intro c mem
    have test := List.mem_takeWhile_imp mem
    exact of_decide_eq_true test
  · exact List.takeWhile_append_dropWhile.symm

/-- Nothing is left of a text exactly if it is blank. -/
lemma skipBlanks_eq_nil_iff {text : List Char} : skipBlanks text = [] ↔ Blank text := by
  constructor
  · intro eq
    obtain ⟨blanks, blank, split⟩ := exists_blank_append text
    rw [eq, List.append_nil] at split
    rwa [split]
  · intro blank
    have eq := skipBlanks_append blank []
    rwa [List.append_nil] at eq

/-- No text at all is blank. -/
lemma blank_nil : Blank [] := nofun

/-- A space is blank. -/
lemma blank_space : Blank [' '] := List.forall_mem_singleton.mpr (.inl rfl)

/-- A line break with its indentation is blank. -/
lemma blank_lineBreak (depth : Nat) : Blank (lineBreak depth) := by
  intro c mem
  rcases List.mem_cons.mp mem with rfl | mem
  · exact .inr (.inl rfl)
  · exact .inl (List.eq_of_mem_replicate mem)

/-- The end of the text delimits a value. -/
lemma delimited_nil : Delimited [] := nofun

/-- A blank, a comma and a closing bracket or brace delimit a value. -/
lemma delimited_cons {c : Char} (delimiter : IsBlank c ∨ c = ',' ∨ c = ']' ∨ c = '\x7d')
    (text : List Char) : Delimited (c :: text) := by
  intro d head
  cases head
  exact delimiter

/-- Blanks may come before what delimits a value. -/
lemma delimited_of_blank {blanks rest : List Char} (blank : Blank blanks)
    (delimited : Delimited rest) : Delimited (blanks ++ rest) := by
  cases blanks with
  | nil => exact delimited
  | cons c blanks => exact delimited_cons (.inl (blank c (List.mem_cons_self ..))) _

/-- Blanks delimit a value. -/
lemma Blank.delimited {blanks : List Char} (blank : Blank blanks) : Delimited blanks := by
  have delimited := delimited_of_blank blank delimited_nil
  rwa [List.append_nil] at delimited

/-- What ends a value ends a number. -/
lemma Delimited.ended {rest : List Char} (delimited : Delimited rest) : Numeral.Ended rest := by
  intro c head
  rcases delimited c head with (rfl | rfl | rfl | rfl) | rfl | rfl | rfl <;> decide

section
variable {α β : Type} {reader : Reader α} {text : List Char} {a : α}

/-- A reader that changes what another reads reads the same texts. -/
lemma Reads.map (reads : Reads reader text a) (f : α → β) : Reads (reader.map f) text (f a) := by
  refine ⟨reads.start, ?_⟩
  intro blanks rest blank delimited
  rw [Reader.map]
  dsimp only
  rw [reads.run blank delimited]
  rfl

/-- A text that is no `null` is read by a nullable reader as by the reader. -/
lemma Reads.nullable (reads : Reads reader text a) (head : text.head? ≠ some 'n') :
    Reads reader.nullable text (some a) := by
  refine ⟨reads.start, ?_⟩
  intro blanks rest blank delimited
  have some := (reads.map some).run blank delimited
  obtain ⟨c, tail, rfl, shown, _⟩ := reads.start
  rw [Reader.nullable]
  dsimp only
  -- `null` is told by its first letter alone, which is not the first of this text
  split
  case h_1 left eq =>
    rw [List.cons_append, skipBlanks_append_cons blank shown] at eq
    exact absurd (congrArg _ (List.cons.inj eq).1) head
  case h_2 => exact some

end

/-- A quoted string is read back. -/
lemma reads_string (value : String) : Reads Reader.string (quote value) value := by
  refine ⟨⟨'"', _, rfl, by decide, by decide⟩, ?_⟩
  intro blanks rest blank _
  have body := readBody_flatMap_escapeChar value.toList rest
  have form : quote value ++ rest
      = '"' :: (value.toList.flatMap escapeChar ++ '"' :: rest) := by
    simp only [quote, List.cons_append, List.append_assoc, List.nil_append]
  rw [form]
  change Reader.readString _ = _
  rw [Reader.readString, skipBlanks_append_cons blank (by decide)]
  dsimp only
  rw [if_pos rfl, body]
  exact congrArg (fun text => Except.ok (text, rest)) String.ofList_toList

/-- Digits that denote at most 255 are read as the byte that they denote. -/
lemma Numeral.Plain.reads {digits : List Char} (plain : Plain digits)
    (le : Nat.ofDigitChars 10 digits 0 ≤ 255) :
    Reads Reader.byte digits (Nat.ofDigitChars 10 digits 0).toUInt8 := by
  obtain ⟨c, tail, rfl⟩ := List.exists_cons_of_ne_nil plain.nonempty
  have digit : c.isDigit := plain.all c (List.mem_cons_self ..)
  have shown : ¬ IsBlank c := by
    rintro (rfl | rfl | rfl | rfl) <;> cases digit
  refine ⟨⟨c, tail, rfl, shown, ?_⟩, ?_⟩
  · rintro rfl
    cases digit
  · intro blanks rest blank delimited
    have starts : starts c = true := by
      simp [starts, digit?_of_isDigit digit]
    have number := plain.read delimited.ended (Nat.le_trans le (by decide))
    generalize Nat.ofDigitChars 10 (c :: tail) 0 = n at le number
    have byte : Reader.toByte (.integer n) = .ok n.toUInt8 :=
      if_pos ⟨Int.natCast_nonneg n, by omega⟩
    rw [List.cons_append] at number ⊢
    simp only [Reader.byte, skipBlanks_append_cons blank shown, starts, if_true, number, byte,
      bind, Except.bind]
    rfl

/-- A written byte is read back. -/
lemma reads_byte (byte : UInt8) : Reads Reader.byte (natural byte.toNat) byte := by
  have le : byte.toNat ≤ 255 := Nat.le_of_lt_succ byte.toNat_lt
  have reads := (Numeral.plain_natural byte.toNat).reads
  rw [Numeral.ofDigitChars_natural, Nat.toUInt8, UInt8.ofNat_toNat] at reads
  exact reads le

/-! ### Arrays -/

section
variable {α : Type} {reader : Reader α} {first : Bool} {text start rest : List Char} {a : α}
  {blanks blanks' : List Char}

/-- A bracket behind blanks closes the array. -/
lemma nextElement_closed (blank : Blank blanks) (first : Bool) (rest : List Char) :
    nextElement first (blanks ++ ']' :: rest) = .ok (.closed rest) := by
  rw [nextElement, skipBlanks_append_cons blank (by decide)]
  rfl

/-- The first element needs no comma. -/
lemma nextElement_first {c : Char} (blank : Blank blanks) (shown : ¬ IsBlank c) (other : c ≠ ']')
    (rest : List Char) : nextElement true (blanks ++ c :: rest) = .ok (.item (c :: rest)) := by
  rw [nextElement, skipBlanks_append_cons blank shown]
  dsimp only
  rw [if_neg other]
  rfl

/-- A later element comes behind a comma. -/
lemma nextElement_next {c : Char} (blank : Blank blanks) (blank' : Blank blanks')
    (shown : ¬ IsBlank c) (other : c ≠ ']') (rest : List Char) :
    nextElement false (blanks ++ ',' :: (blanks' ++ c :: rest)) = .ok (.item (c :: rest)) := by
  rw [nextElement, skipBlanks_append_cons blank (by decide)]
  dsimp only
  rw [if_neg (by decide), if_neg (by decide), if_pos rfl, skipBlanks_append_cons blank' shown]
  dsimp only
  rw [if_neg other]

/-- A text that is read as a value can be the first element. -/
lemma Reads.nextElement_first (reads : Reads reader text a) (blank : Blank blanks)
    (rest : List Char) :
    nextElement true (blanks ++ (text ++ rest)) = .ok (.item (text ++ rest)) := by
  obtain ⟨c, tail, rfl, shown, other⟩ := reads.start
  exact Json.nextElement_first blank shown other _

/-- A text that is read as a value can be a later element. -/
lemma Reads.nextElement_next (reads : Reads reader text a) (blank : Blank blanks)
    (blank' : Blank blanks') (rest : List Char) :
    nextElement false (blanks ++ ',' :: (blanks' ++ (text ++ rest)))
      = .ok (.item (text ++ rest)) := by
  obtain ⟨c, tail, rfl, shown, other⟩ := reads.start
  exact Json.nextElement_next blank blank' shown other _

/-- Where the array is closed there are no more elements. -/
lemma readElements_of_closed (next : nextElement first text = .ok (.closed rest)) :
    readElements reader first text = .ok ([], rest) := by
  rw [readElements]
  split
  case h_1 eq => cases next.symm.trans eq
  case h_2 eq =>
    cases next.symm.trans eq
    rfl
  case h_3 eq => cases next.symm.trans eq

/-- Where an element starts, it is read and then those that follow. -/
lemma readElements_of_item (next : nextElement first text = .ok (.item start)) :
    readElements reader first text = reader.run start >>= fun (a, rest) =>
      (readElements reader false rest).map fun (as, left) => (a :: as, left) := by
  rw [readElements]
  split
  case h_1 eq => cases next.symm.trans eq
  case h_2 eq => cases next.symm.trans eq
  case h_3 eq =>
    cases next.symm.trans eq
    split
    case h_1 eq =>
      rw [eq]
      rfl
    case h_2 eq =>
      rw [eq]
      rfl

/-- Once its text is come to, an element is read and the other elements after it. -/
lemma readElements_of_reads (reads : Reads reader text a) (delimited : Delimited rest)
    (next : nextElement first start = .ok (.item (text ++ rest))) :
    readElements reader first start
      = (readElements reader false rest).map fun (as, left) => (a :: as, left) := by
  have read : reader.run (text ++ rest) = .ok (a, rest) := reads.run blank_nil delimited
  rw [readElements_of_item next, read]
  rfl

/-- What follows the first item of a laid-out block. -/
def blockTail (closing : Char) (depth : Nat) (items : List (List Char)) (rest : List Char) :
    List Char :=
  items.flatMap (fun item => ',' :: lineBreak (depth + 1) ++ item)
    ++ (lineBreak depth ++ closing :: rest)

/-- Behind an item of a block come a comma and a line of its own for the next. -/
lemma blockTail_cons (closing : Char) (depth : Nat) (item : List Char) (items : List (List Char))
    (rest : List Char) :
    blockTail closing depth (item :: items) rest
      = ',' :: (lineBreak (depth + 1) ++ (item ++ blockTail closing depth items rest)) := by
  simp only [blockTail, List.flatMap_cons, List.cons_append, List.append_assoc]

/-- A block starts with what opens it and a line of its own for the first item. -/
lemma block_cons_append (opening closing : Char) (depth : Nat) (item : List Char)
    (items : List (List Char)) (rest : List Char) :
    block opening closing depth (item :: items) ++ rest
      = opening :: (lineBreak (depth + 1) ++ (item ++ blockTail closing depth items rest)) := by
  simp only [block, blockTail, List.cons_append, List.append_assoc, List.nil_append]

/-- What follows an item of a block delimits it. -/
lemma delimited_blockTail (closing : Char) (depth : Nat) (items : List (List Char))
    (rest : List Char) : Delimited (blockTail closing depth items rest) := by
  cases items with
  | nil => exact delimited_cons (.inl (.inr (.inl rfl))) _
  | cons item items => exact delimited_cons (.inr (.inl rfl)) _

/-- The elements after the first one are read up to the bracket. -/
lemma readElements_blockTail {texts : List (List Char)} {as : List α}
    (reads : List.Forall₂ (Reads reader) texts as) (depth : Nat) (rest : List Char) :
    readElements reader false (blockTail ']' depth texts rest) = .ok (as, rest) := by
  induction reads with
  | nil => exact readElements_of_closed (nextElement_closed (blank_lineBreak depth) false rest)
  | @cons text a texts as reads _ ih =>
    have delimited := delimited_blockTail ']' depth texts rest
    have next := reads.nextElement_next blank_nil (blank_lineBreak (depth + 1))
      (blockTail ']' depth texts rest)
    rw [List.nil_append] at next
    rw [blockTail_cons, readElements_of_reads reads delimited next, ih]
    rfl

/-- A block starts with the character that opens it. -/
lemma exists_block_eq_cons (opening closing : Char) (depth : Nat) (items : List (List Char)) :
    ∃ tail, block opening closing depth items = opening :: tail := by
  cases items with
  | nil => exact ⟨_, rfl⟩
  | cons item items => exact ⟨_, rfl⟩

/-- The reader of a list passes over the bracket and reads the elements. -/
lemma run_list (blank : Blank blanks) (text : List Char) :
    reader.list.run (blanks ++ '[' :: text) = readElements reader true text := by
  simp only [Reader.list, skipBlanks_append_cons blank (by decide : ¬ IsBlank '['), if_true]

/-- An array is read as the list of what its elements are read as. -/
lemma Reads.array {texts : List (List Char)} {as : List α}
    (reads : List.Forall₂ (Reads reader) texts as) (depth : Nat) :
    Reads reader.list (array depth texts) as := by
  obtain ⟨tail, form⟩ := exists_block_eq_cons '[' ']' depth texts
  refine ⟨⟨'[', tail, form, by decide, by decide⟩, ?_⟩
  intro blanks rest blank _
  cases reads with
  | nil =>
    have closed := nextElement_closed blank_nil true rest
    exact (run_list blank (']' :: rest)).trans (readElements_of_closed closed)
  | @cons text a texts as reads others =>
    have delimited := delimited_blockTail ']' depth texts rest
    have next := reads.nextElement_first (blank_lineBreak (depth + 1))
      (blockTail ']' depth texts rest)
    rw [Json.array, block_cons_append, run_list blank, readElements_of_reads reads delimited next,
      readElements_blockTail others depth rest]
    rfl

end

/-- A document that holds a read text between blanks is read as its value. -/
lemma Reads.document {α : Type} {reader : Reader α} {text blanks blanks' : List Char} {a : α}
    (reads : Reads reader text a) (blank : Blank blanks) (blank' : Blank blanks') :
    reader.document (String.ofList (blanks ++ (text ++ blanks'))) = .ok a := by
  apply Outcome.bind_eq_ok_iff.mpr
  refine ⟨(a, blanks'), ?_, ?_⟩
  · rw [String.toList_ofList]
    exact reads.run blank blank'.delimited
  · dsimp only
    rw [skipBlanks_eq_nil_iff.mpr blank']
    rfl

end CoinAddress.Json
