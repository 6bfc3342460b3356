import CoinAddress.Proofs.Json.Fields
import Mathlib.Data.List.Nodup

/-!
# Fields in any order

Of a lawful shape, where each value is put into a place of its own, the members of an object may stand
in any order (`Shape.Collects.perm`). A field is not taken twice, and one that the value needs has to be
there. So the two forms of a value mean the same, with members of other names or without
(`Struct.meant`), and the value of one field can be replaced without a change to the others
(`Hole.replace`).
-/

namespace CoinAddress.Json

/-- The values as members with the keys, as far as there are values. -/
inductive Labelled : List String → List Value → List (List Char × Value) → Prop where
  | nil {names : List String} :
    Labelled names [] []
  | cons {name : String} {names : List String} {key : List Char} {value : Value}
      {values : List Value} {members : List (List Char × Value)} :
    Spells key name.toList → Labelled names values members →
    Labelled (name :: names) (value :: values) ((key, value) :: members)

/-- A value with named fields, given by a row of the values of its fields: as an array, or as an object
with its members in any order and among members of other names. A name is a text, so no surrogate may
stand alone in a key. -/
inductive Struct (names : List String) (row : List Value → Prop) : Value → Prop where
  | array {values : List Value} :
    row values → Struct names row (.array values)
  | object {values : List Value} {known others members : List (List Char × Value)} :
    row values → Labelled names values known →
    (∀ member ∈ others, ∃ name : String, Spells member.1 name.toList ∧ name ∉ names) →
    members.Perm (known ++ others) →
    Struct names row (.object members)

/-- An object has two members of the name. -/
inductive Repeats (name : String) : Value → Prop where
  | object {key key' : List Char} {value value' : Value} {members : List (List Char × Value)} :
    Spells key name.toList → Spells key' name.toList →
    [(key, value), (key', value')].Sublist members →
    Repeats name (.object members)

/-- There is a value for the field of the name. -/
inductive Has (names : List String) (name : String) : Value → Prop where
  | array {values : List Value} :
    names.idxOf name < values.length → Has names name (.array values)
  | object {key : List Char} {value : Value} {members : List (List Char × Value)} :
    Spells key name.toList → (key, value) ∈ members → Has names name (.object members)

/-- A value with a hole in place of the value for the field of the name. -/
inductive Hole (names : List String) (name : String) : (Value → Value) → Prop where
  | array {before after : List Value} :
    before.length = names.idxOf name →
    Hole names name fun value => .array (before ++ value :: after)
  | object {key : List Char} {before after : List (List Char × Value)} :
    Spells key name.toList →
    Hole names name fun value => .object (before ++ (key, value) :: after)

/-- An array with a hole in place of one of its elements. -/
inductive ElementHole (index : Nat) : (Value → Value) → Prop where
  | mk {before after : List Value} :
    before.length = index → ElementHole index fun value => .array (before ++ value :: after)

/-- One member of related lists can be replaced by another pair that is related. -/
lemma forall₂_replace {α β : Type} {R : α → β → Prop} {before after : List α} {a : α}
    {bs : List β} (all : List.Forall₂ R (before ++ a :: after) bs) :
    ∃ b, bs[before.length]? = some b ∧ R a b ∧
      ∀ {a' : α} {b' : β}, R a' b' →
        List.Forall₂ R (before ++ a' :: after) (bs.set before.length b') := by
  induction before generalizing bs with
  | nil =>
    cases all with
    | cons first others => exact ⟨_, rfl, first, fun other => .cons other others⟩
  | cons c before ih =>
    cases all with
    | cons first others =>
      obtain ⟨b, found, related, replace⟩ := ih others
      exact ⟨b, found, related, fun other => .cons first (replace other)⟩

/-- An element can be replaced without a change to the other elements. -/
lemma ElementHole.replace {α : Type} {means : Value → α → Prop} {index : Nat}
    {hole : Value → Value} (place : ElementHole index hole) {value : Value} {as : List α}
    (meant : IsList means (hole value) as) :
    ∃ a, as[index]? = some a ∧ means value a ∧
      ∀ {value' : Value} {a' : α}, means value' a' → IsList means (hole value') (as.set index a') := by
  obtain ⟨rfl⟩ := place
  obtain ⟨all⟩ := meant
  obtain ⟨a, found, meant, replace⟩ := forall₂_replace all
  exact ⟨a, found, meant, fun other => .mk (replace other)⟩

namespace Shape

variable {δ α : Type}

/-- The shape decodes its fields and keeps them apart. -/
structure Lawful (shape : Shape δ α) (means : String → Value → (δ → δ) → Prop) : Prop where
  decodes : ∀ field ∈ shape.fields, Decodes field.reader (means field.key)
  nodup : (shape.fields.map (·.key)).Nodup
  blank : ∀ field ∈ shape.fields, field.isSet shape.blank = false
  isSet_put : ∀ field ∈ shape.fields, ∀ {name : String} {value : Value} {put : δ → δ},
    means name value put →
    ∀ draft, field.isSet (put draft) = (decide (name = field.key) || field.isSet draft)
  commute : ∀ {name name' : String} {value value' : Value} {put put' : δ → δ},
    means name value put → means name' value' put' → name ≠ name' →
    ∀ draft, put (put' draft) = put' (put draft)

variable {shape : Shape δ α} {means : String → Value → (δ → δ) → Prop} {name name' : String}
  {key : List Char} {value value' : Value} {draft mid filled : δ} {field : Field δ} {a : α}
  {members members' : List (List Char × Value)}

/-! ### Members -/

/-- The key of a field leads to the field, since no other has it. -/
lemma Lawful.find?_eq_some (lawful : shape.Lawful means) (mem : field ∈ shape.fields) :
    shape.fields.find? (·.key = field.key) = some field := by
  have found : (shape.fields.find? (·.key = field.key)).isSome :=
    List.find?_isSome.mpr ⟨field, mem, decide_eq_true rfl⟩
  obtain ⟨field', found⟩ := Option.isSome_iff_exists.mp found
  obtain ⟨mem', same⟩ := key_of_find? found
  rw [found, List.inj_on_of_nodup_map lawful.nodup mem' mem same]

/-- Putting the value of a field into a draft sets the field. -/
lemma Lawful.sets (lawful : shape.Lawful means) (mem : field ∈ shape.fields) {put : δ → δ}
    (meant : means field.key value put) (draft : δ) : field.isSet (put draft) = true := by
  rw [lawful.isSet_put field mem meant, decide_eq_true rfl, Bool.true_or]

/-- Putting the value of another field into a draft leaves the field as it is. -/
lemma Lawful.keeps (lawful : shape.Lawful means) (mem : field ∈ shape.fields) {put : δ → δ}
    (meant : means name value put) (other : name ≠ field.key) (draft : δ) :
    field.isSet (put draft) = field.isSet draft := by
  rw [lawful.isSet_put field mem meant, decide_eq_false other, Bool.false_or]

/-- A field is not taken twice. -/
lemma Lawful.not_takes_twice (lawful : shape.Lawful means) (mem : field ∈ shape.fields)
    (takes : shape.Takes means field.key value draft mid) :
    ¬ shape.Takes means field.key value' mid filled := by
  have found := lawful.find?_eq_some mem
  intro takes'
  cases takes with
  | other none => cases found.symm.trans none
  | field found' _ meant =>
    have set := lawful.sets mem meant draft
    cases takes' with
    | other none => cases found.symm.trans none
    | field found'' unset _ =>
      cases found.symm.trans found''
      exact Bool.false_ne_true (unset.symm.trans set)

/-- Two members may be taken in either order. -/
lemma Lawful.takes_swap (lawful : shape.Lawful means)
    (takes : shape.Takes means name value draft mid)
    (takes' : shape.Takes means name' value' mid filled) :
    ∃ mid', shape.Takes means name' value' draft mid' ∧
      shape.Takes means name value mid' filled := by
  cases takes with
  | other none => exact ⟨_, takes', .other none⟩
  | @field first put found unset meant =>
    cases takes' with
    | other none => exact ⟨_, .other none, .field found unset meant⟩
    | @field second put' found' unset' meant' =>
      obtain ⟨mem, rfl⟩ := key_of_find? found
      obtain ⟨mem', rfl⟩ := key_of_find? found'
      by_cases same : first.key = second.key
      · have again : shape.Takes means second.key value draft (put draft) :=
          same ▸ .field found unset meant
        exact absurd (.field found' unset' meant') (lawful.not_takes_twice mem' again)
      · rw [lawful.keeps mem' meant same] at unset'
        refine ⟨put' draft, .field found' unset' meant', ?_⟩
        rw [lawful.commute meant' meant (Ne.symm same)]
        refine .field found ?_ meant
        rw [lawful.keeps mem meant' (Ne.symm same)]
        exact unset

/-- The members may stand in any order. -/
lemma Collects.perm (lawful : shape.Lawful means) (perm : members.Perm members')
    (collects : shape.Collects means draft members filled) :
    shape.Collects means draft members' filled := by
  induction perm generalizing draft with
  | nil => exact collects
  | cons member _ ih =>
    cases collects with
    | cons named takes collects => exact .cons named takes (ih collects)
  | swap member member' =>
    cases collects with
    | cons named takes collects =>
      cases collects with
      | cons named' takes' collects =>
        obtain ⟨mid, takes', takes⟩ := lawful.takes_swap takes takes'
        exact .cons named' takes' (.cons named takes collects)
  | trans _ _ ih ih' => exact ih' (ih collects)

/-- Members are collected one part after the other. -/
lemma collects_append {members' : List (List Char × Value)} :
    shape.Collects means draft (members ++ members') filled
      ↔ ∃ mid, shape.Collects means draft members mid ∧ shape.Collects means mid members' filled := by
  induction members generalizing draft with
  | nil =>
    constructor
    · exact fun collects => ⟨draft, .nil, collects⟩
    · rintro ⟨mid, none, collects⟩
      cases none
      exact collects
  | cons member members ih =>
    constructor
    · intro collects
      cases collects with
      | cons named takes collects =>
        obtain ⟨mid, collects, collects'⟩ := ih.mp collects
        exact ⟨mid, .cons named takes collects, collects'⟩
    · rintro ⟨mid, collects, collects'⟩
      cases collects with
      | cons named takes collects => exact .cons named takes (ih.mpr ⟨mid, collects, collects'⟩)

/-- Names are read off keys, so a key has one name. -/
lemma name_unique (named : Spells key name.toList) (named' : Spells key name'.toList) :
    name = name' :=
  String.toList_inj.mp (named.unique named')

/-- Members of one more name are collected if they are taken in the end. -/
lemma Collects.of_last (lawful : shape.Lawful means) (named : Spells key name.toList)
    {before after : List (List Char × Value)} :
    shape.Collects means draft (before ++ (key, value) :: after) filled
      ↔ ∃ mid, shape.Collects means draft (before ++ after) mid ∧
          shape.Takes means name value mid filled := by
  have perm : (before ++ (key, value) :: after).Perm (before ++ after ++ [(key, value)]) :=
    List.perm_middle.trans (List.perm_append_singleton _ _).symm
  constructor
  · intro collects
    obtain ⟨mid, collects, last⟩ := collects_append.mp (collects.perm lawful perm)
    cases last with
    | cons named' takes none =>
      cases none
      obtain rfl := name_unique named named'
      exact ⟨mid, collects, takes⟩
  · rintro ⟨mid, collects, takes⟩
    have all := collects_append.mpr ⟨mid, collects, .cons named takes .nil⟩
    exact all.perm lawful perm.symm

/-- A field that is set in the end has a member, unless it was set before. -/
lemma Collects.exists_of_isSet (lawful : shape.Lawful means) (mem : field ∈ shape.fields)
    (collects : shape.Collects means draft members filled) (unset : field.isSet draft = false)
    (set : field.isSet filled = true) :
    ∃ key value, Spells key field.key.toList ∧ (key, value) ∈ members := by
  induction collects with
  | nil => exact absurd (unset.symm.trans set) Bool.false_ne_true
  | @cons draft taken filled key name value members named takes _ ih =>
    by_cases same : name = field.key
    · exact ⟨key, value, same ▸ named, List.mem_cons_self ..⟩
    · have kept : field.isSet taken = false := by
        cases takes with
        | other => exact unset
        | field _ _ meant => exact (lawful.keeps mem meant same draft).trans unset
      obtain ⟨key', value', named', mem'⟩ := ih kept set
      exact ⟨key', value', named', List.mem_cons_of_mem _ mem'⟩

/-! ### Elements -/

section
variable {fields : List (Field δ)} {values before after : List Value}

/-- A field that is set by values in order has a value among them. -/
lemma Positions.exists_of_isSet (lawful : shape.Lawful means) (mem : field ∈ shape.fields)
    (positions : Positions means fields values draft filled) (unset : field.isSet draft = false)
    (set : field.isSet filled = true) :
    (fields.map (·.key)).idxOf field.key < values.length := by
  induction positions with
  | nil => exact absurd (unset.symm.trans set) Bool.false_ne_true
  | @cons first fields value values put draft filled meant _ ih =>
    rw [List.map_cons, List.length_cons]
    by_cases same : first.key = field.key
    · rw [List.idxOf_cons_eq _ same]
      exact Nat.zero_lt_succ _
    · rw [List.idxOf_cons_ne _ same]
      exact Nat.succ_lt_succ (ih ((lawful.keeps mem meant same draft).trans unset) set)

/-- The values of further fields do not meet the one of another field. -/
lemma Positions.put (lawful : shape.Lawful means) {put : δ → δ} (meant : means name value put)
    (other : name ∉ fields.map (·.key)) (positions : Positions means fields values draft filled) :
    Positions means fields values (put draft) (put filled) := by
  induction positions with
  | nil => exact .nil
  | @cons first fields value' values put' draft filled meant' _ ih =>
    rw [List.map_cons, List.mem_cons, not_or] at other
    refine .cons meant' ?_
    rw [lawful.commute meant' meant (Ne.symm other.1)]
    exact ih other.2

/-- What is put for a field that comes no more can be put after all others. -/
lemma Positions.exists_of_put (lawful : shape.Lawful means) {put : δ → δ}
    (meant : means name value put) (other : name ∉ fields.map (·.key))
    (positions : Positions means fields values (put draft) filled) :
    ∃ mid, Positions means fields values draft mid ∧ filled = put mid := by
  induction values generalizing fields draft with
  | nil =>
    cases positions
    exact ⟨draft, .nil, rfl⟩
  | cons value' values ih =>
    cases positions with
    | cons meant' positions =>
      rw [List.map_cons, List.mem_cons, not_or] at other
      rw [lawful.commute meant' meant (Ne.symm other.1)] at positions
      obtain ⟨mid, positions, eq⟩ := ih other.2 positions
      exact ⟨mid, .cons meant' positions, eq⟩

/-- The value of one field can be put into the draft after all others. -/
lemma Positions.replace (lawful : shape.Lawful means) (nodup : (fields.map (·.key)).Nodup)
    (mem : name ∈ fields.map (·.key)) (index : before.length = (fields.map (·.key)).idxOf name)
    (positions : Positions means fields (before ++ value :: after) draft filled) :
    ∃ mid put, means name value put ∧ filled = put mid ∧
      ∀ {value' : Value} {put' : δ → δ}, means name value' put' →
        Positions means fields (before ++ value' :: after) draft (put' mid) := by
  induction before generalizing fields draft with
  | nil =>
    cases positions with
    | @cons first fields _ _ put _ _ meant positions =>
      rw [List.map_cons] at nodup index
      have here : first.key = name := by
        by_contra other
        rw [List.idxOf_cons_ne _ other] at index
        cases index
      obtain ⟨fresh, nodup⟩ := List.nodup_cons.mp nodup
      rw [here] at meant fresh
      obtain ⟨mid, positions, eq⟩ := positions.exists_of_put lawful meant fresh
      refine ⟨mid, put, meant, eq, fun meant' => ?_⟩
      exact .cons (here.symm ▸ meant') (positions.put lawful meant' fresh)
  | cons value' before ih =>
    cases positions with
    | @cons first fields _ _ put _ _ meant positions =>
      rw [List.map_cons] at nodup index mem
      have other : first.key ≠ name := by
        intro here
        rw [List.idxOf_cons_eq _ here] at index
        cases index
      rw [List.idxOf_cons_ne _ other, List.length_cons] at index
      have mem := (List.mem_cons.mp mem).resolve_left (Ne.symm other)
      obtain ⟨mid, put, meant', eq, replace⟩ :=
        ih (List.nodup_cons.mp nodup).2 mem (Nat.succ.inj index) positions
      exact ⟨mid, put, meant', eq, fun meant'' => .cons meant (replace meant'')⟩

/-- Values that are put into a draft in order are collected from members with their names. -/
lemma Positions.collects (lawful : shape.Lawful means) (sub : fields ⊆ shape.fields)
    (nodup : (fields.map (·.key)).Nodup) (unset : ∀ field ∈ fields, field.isSet draft = false)
    (positions : Positions means fields values draft filled)
    (labelled : Labelled (fields.map (·.key)) values members) :
    shape.Collects means draft members filled := by
  induction positions generalizing members with
  | @nil fields =>
    generalize fields.map (·.key) = names at labelled
    cases labelled
    exact .nil
  | @cons first fields value values put draft filled meant positions ih =>
    rw [List.map_cons] at labelled nodup
    obtain ⟨fresh, nodup⟩ := List.nodup_cons.mp nodup
    obtain ⟨mem, sub⟩ := List.cons_subset.mp sub
    obtain ⟨unset, others⟩ := List.forall_mem_cons.mp unset
    cases labelled with
    | cons named labelled =>
      refine .cons named (.field (lawful.find?_eq_some mem) unset meant) (ih sub nodup ?_ labelled)
      intro field mem'
      have other : first.key ≠ field.key := fun same =>
        fresh (List.mem_map.mpr ⟨field, mem', same.symm⟩)
      rw [lawful.keeps (sub mem') meant other]
      exact others field mem'

end

/-! ### Values -/

/-- Members of other names are passed over. -/
lemma collects_others
    (other : ∀ member ∈ members, ∃ name : String, Spells member.1 name.toList ∧
      name ∉ shape.fields.map (·.key)) (draft : δ) :
    shape.Collects means draft members draft := by
  induction members with
  | nil => exact .nil
  | cons member members ih =>
    obtain ⟨⟨name, named, fresh⟩, others⟩ := List.forall_mem_cons.mp other
    refine .cons named (.other ?_) (ih others)
    rw [List.find?_eq_none]
    intro field mem same
    exact fresh (List.mem_map.mpr ⟨field, mem, of_decide_eq_true same⟩)

end Shape

section
variable {δ α : Type} {shape : Shape δ α} {means : String → Value → (δ → δ) → Prop}
  {names : List String} {value : Value} {a : α}

/-- A value means the same in either form and with any members of other names. -/
theorem Struct.meant (lawful : shape.Lawful means) (keys : shape.fields.map (·.key) = names)
    {row : List Value → Prop}
    (meant : ∀ values, row values → ∃ filled,
      Shape.Positions means shape.fields values shape.blank filled ∧ shape.build filled = .ok a)
    (struct : Struct names row value) : shape.Means means value a := by
  subst keys
  cases struct with
  | array values =>
    obtain ⟨filled, positions, built⟩ := meant _ values
    exact .array positions built
  | object values labelled others perm =>
    obtain ⟨filled, positions, built⟩ := meant _ values
    have known := positions.collects lawful (List.Subset.refl _) lawful.nodup lawful.blank labelled
    have all := Shape.collects_append.mpr ⟨filled, known, Shape.collects_others others filled⟩
    exact .object (all.perm lawful perm.symm) built

/-- A field without which no value can be made is there. -/
theorem Shape.Lawful.has (lawful : shape.Lawful means) {field : Field δ} (mem : field ∈ shape.fields)
    (required : ∀ {draft : δ} {a : α}, shape.build draft = .ok a → field.isSet draft = true)
    (keys : shape.fields.map (·.key) = names) (meant : shape.Means means value a) :
    Has names field.key value := by
  subst keys
  have unset := lawful.blank field mem
  cases meant with
  | object collects built =>
    obtain ⟨key, value, named, member⟩ := collects.exists_of_isSet lawful mem unset (required built)
    exact .object named member
  | array positions built =>
    exact .array (positions.exists_of_isSet lawful mem unset (required built))

/-- The value of one field can be replaced without a change to the others: with it there belongs a
draft that is filled but for this field. -/
theorem Hole.replace (lawful : shape.Lawful means) (keys : shape.fields.map (·.key) = names)
    {name : String} (mem : name ∈ names) {hole : Value → Value} (place : Hole names name hole)
    (meant : shape.Means means (hole value) a) :
    ∃ draft put, means name value put ∧ shape.build (put draft) = .ok a ∧
      ∀ {value' : Value} {put' : δ → δ} {a' : α}, means name value' put' →
        shape.build (put' draft) = .ok a' → shape.Means means (hole value') a' := by
  subst keys
  cases place with
  | array index =>
    cases meant with
    | array positions built =>
      obtain ⟨mid, put, meant, rfl, replace⟩ := positions.replace lawful lawful.nodup mem index
      exact ⟨mid, put, meant, built, fun meant' built' => .array (replace meant') built'⟩
  | object named =>
    cases meant with
    | object collects built =>
      obtain ⟨mid, others, takes⟩ := (Shape.Collects.of_last lawful named).mp collects
      cases takes with
      | other none =>
        obtain ⟨field, mem', rfl⟩ := List.mem_map.mp mem
        cases (lawful.find?_eq_some mem').symm.trans none
      | @field field put found unset meant =>
        refine ⟨mid, put, meant, built, fun meant' built' => .object ?_ built'⟩
        exact (Shape.Collects.of_last lawful named).mpr ⟨mid, others, .field found unset meant'⟩

end

end CoinAddress.Json
