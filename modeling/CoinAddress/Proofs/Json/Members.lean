import CoinAddress.Json.Shape
import CoinAddress.Proofs.Json.Reads

/-!
# Objects that are read by a shape

Members that name different fields of a shape fill a draft one after another (`Fills`). If the draft
makes a value in the end, the object of these members is read as the value (`Fills.reads_object`).
-/

namespace CoinAddress.Json

section
variable {blanks blanks' : List Char}

/-- A brace behind blanks closes the object. -/
lemma nextKey_closed (blank : Blank blanks) (first : Bool) (rest : List Char) :
    nextKey first (blanks ++ '\x7d' :: rest) = .ok (.closed rest) := by
  rw [nextKey, skipBlanks_append_cons blank (by decide)]
  rfl

/-- The first key needs no comma. -/
lemma nextKey_first (blank : Blank blanks) (text : List Char) :
    nextKey true (blanks ++ '"' :: text) = .ok (.item text) := by
  rw [nextKey, skipBlanks_append_cons blank (by decide)]
  rfl

/-- A later key comes behind a comma. -/
lemma nextKey_next (blank : Blank blanks) (blank' : Blank blanks') (text : List Char) :
    nextKey false (blanks ++ ',' :: (blanks' ++ '"' :: text)) = .ok (.item text) := by
  rw [nextKey, skipBlanks_append_cons blank (by decide)]
  dsimp only
  rw [if_neg (by decide), if_neg (by decide), if_pos rfl,
    skipBlanks_append_cons blank' (by decide)]
  rfl

/-- The colon may stand behind blanks. -/
lemma readColon_append (blank : Blank blanks) (text : List Char) :
    readColon (blanks ++ ':' :: text) = .ok text := by
  rw [readColon, skipBlanks_append_cons blank (by decide)]
  rfl

end

namespace Shape

variable {δ α : Type} {shape : Shape δ α} {first : Bool} {draft filled : δ}
  {text start rest left : List Char}

/-- The member of a field that is not set yet puts its value into the draft. -/
lemma readMember_of_reads {key : String} {field : Field δ} {value : List Char} {put : δ → δ}
    {blanks blanks' : List Char} (found : shape.fields.find? (·.key = key) = some field)
    (unset : field.isSet draft = false) (reads : Reads field.reader value put)
    (blank : Blank blanks) (blank' : Blank blanks')
    (delimited : Delimited rest) :
    shape.readMember key draft (blanks ++ ':' :: (blanks' ++ (value ++ rest)))
      = .ok (put draft, rest) := by
  rw [readMember, found]
  dsimp only
  rw [unset, readColon_append blank]
  simp only [bind, Except.bind, reads.run blank' delimited]
  rfl

/-- Where the object is closed, the draft is complete. -/
lemma readMembers_of_closed (next : nextKey first text = .ok (.closed rest)) :
    shape.readMembers first draft text = .ok (draft, rest) := by
  rw [readMembers]
  split
  case h_1 eq => cases next.symm.trans eq
  case h_2 eq =>
    cases next.symm.trans eq
    rfl
  case h_3 eq => cases next.symm.trans eq

/-- Where a key starts, the member is read and then those that follow. -/
lemma readMembers_of_next (next : nextKey first text = .ok (.item start)) :
    shape.readMembers first draft text = readBody start >>= fun (key, rest) =>
      shape.readMember (String.ofList key) draft rest >>= fun (filled, left) =>
        shape.readMembers false filled left := by
  rw [readMembers]
  split
  case h_1 eq => cases next.symm.trans eq
  case h_2 eq => cases next.symm.trans eq
  case h_3 eq =>
    cases next.symm.trans eq
    split
    case h_1 eq =>
      rw [eq]
      rfl
    case h_2 body =>
      split
      case h_1 eq =>
        rw [body]
        simp only [bind, Except.bind, eq]
      case h_2 eq =>
        rw [body]
        simp only [bind, Except.bind, eq]

/-- A member that is read leaves its draft to those that follow. -/
lemma readMembers_of_item {key : List Char} (next : nextKey first text = .ok (.item start))
    (body : readBody start = .ok (key, rest))
    (member : shape.readMember (String.ofList key) draft rest = .ok (filled, left)) :
    shape.readMembers first draft text = shape.readMembers false filled left := by
  rw [readMembers_of_next next, body]
  simp only [bind, Except.bind, member]

/-- Members, each with the name of a field that is not set yet and a text that is read as a value of
the field, turn one draft into another. -/
inductive Fills (shape : Shape δ α) : δ → List (String × List Char) → δ → Prop where
  | nil {draft : δ} :
    Fills shape draft [] draft
  | cons {draft filled : δ} {key : String} {value : List Char} {field : Field δ} {put : δ → δ}
      {members : List (String × List Char)} :
    shape.fields.find? (·.key = key) = some field →
    field.isSet draft = false →
    Reads field.reader value put →
    Fills shape (put draft) members filled →
    Fills shape draft ((key, value) :: members) filled

/-- Once its key is come to, a laid-out member is read up to what ends its value. -/
lemma readMembers_of_reads {key : String} {field : Field δ} {value : List Char} {put : δ → δ}
    (found : shape.fields.find? (·.key = key) = some field)
    (unset : field.isSet draft = false) (reads : Reads field.reader value put)
    (delimited : Delimited rest)
    (next : nextKey first text
      = .ok (.item (key.toList.flatMap escapeChar ++ '"' :: ':' :: ' ' :: (value ++ rest)))) :
    shape.readMembers first draft text = shape.readMembers false (put draft) rest := by
  apply readMembers_of_item next (readBody_flatMap_escapeChar key.toList _)
  rw [String.ofList_toList]
  exact readMember_of_reads found unset reads blank_nil blank_space delimited

/-- A written member is its quoted key, a colon, a space and the value. -/
lemma member_append (key : String) (value rest : List Char) :
    member key value ++ rest
      = '"' :: (key.toList.flatMap escapeChar ++ '"' :: ':' :: ' ' :: (value ++ rest)) := by
  simp only [member, quote, List.cons_append, List.append_assoc, List.nil_append]

section
variable {members : List (String × List Char)}

/-- The members after the first one are read up to the brace. -/
lemma Fills.readMembers_eq (fills : Fills shape draft members filled) (depth : Nat)
    (rest : List Char) :
    shape.readMembers false draft
      (blockTail '\x7d' depth (members.map fun (key, value) => member key value) rest)
        = .ok (filled, rest) := by
  -- each member leaves another draft for the members after it, so the induction is on the filling
  induction fills with
  | nil => exact readMembers_of_closed (nextKey_closed (blank_lineBreak depth) false rest)
  | @cons draft filled key value field put members found unset reads _ ih =>
    have delimited := delimited_blockTail '\x7d' depth
      (members.map fun (key, value) => member key value) rest
    rw [List.map_cons, blockTail_cons, member_append, ← ih]
    apply readMembers_of_reads found unset reads delimited
    exact nextKey_next blank_nil (blank_lineBreak (depth + 1)) _

/-- An object is read as the value of the draft that its members make of the blank one. -/
lemma run_object {a : α} {blanks : List Char} (blank : Blank blanks)
    (read : shape.readMembers true shape.blank text = .ok (filled, rest))
    (built : shape.build filled = .ok a) :
    shape.reader.run (blanks ++ '\x7b' :: text) = .ok (a, rest) := by
  have object : shape.readObject text = .ok (a, rest) := by
    simp only [readObject, read, built, bind, Except.bind]
    rfl
  rw [reader]
  dsimp only
  rw [skipBlanks_append_cons blank (by decide)]
  dsimp only
  rw [if_neg (by decide), if_pos rfl, object]

/-- The object of members that fill a draft is read as the value of the draft. -/
lemma Fills.reads_object {a : α} (fills : Fills shape shape.blank members filled)
    (built : shape.build filled = .ok a) (depth : Nat) :
    Reads shape.reader (object depth (members.map fun (key, value) => member key value)) a := by
  obtain ⟨tail, form⟩ := exists_block_eq_cons '\x7b' '\x7d' depth
    (members.map fun (key, value) => member key value)
  refine ⟨⟨'\x7b', tail, form, by decide, by decide⟩, ?_⟩
  intro blanks rest blank _
  cases fills with
  | nil => exact run_object blank (readMembers_of_closed (nextKey_closed blank_nil true rest)) built
  | @cons _ _ key value field put members found unset reads others =>
    have delimited := delimited_blockTail '\x7d' depth
      (members.map fun (key, value) => member key value) rest
    rw [List.map_cons, object, block_cons_append, member_append]
    apply run_object blank _ built
    rw [← others.readMembers_eq depth rest]
    apply readMembers_of_reads found unset reads delimited
    exact nextKey_first (blank_lineBreak (depth + 1)) _

end

end Shape

end CoinAddress.Json
