import DebugRecovery.Proofs.Json.Token
import DebugRecovery.Text.Newline
import DebugRecovery.Proofs.Each

/-!
# JSON values read back

Reading inverts writing on the values that a document is made of: those without
numbers in a written form of their own, and whose objects give each name one
value. Numbers, strings and words are read back one by one; an array or an
object is read back when its parts are, at every depth. What is written is
printable ASCII and line ends, so that no line end or byte order mark in a
string is taken for one of the text. A writer that ends before a value is written
has written a beginning of its text.
-/

set_option autoImplicit false

namespace DebugRecovery.Json

/-- No number has a fraction or an exponent, and no object has two members of one name. -/
inductive Plain : Json → Prop where
  | null : Plain .null
  | boolean (value : Bool) : Plain (.boolean value)
  | integer (value : Int) : Plain (.integer value)
  | string (value : String) : Plain (.string value)
  | array (items : List Json) (plain : ∀ item ∈ items, Plain item) : Plain (.array items)
  | object (members : List (String × Json)) (distinct : (members.map Prod.fst).Nodup)
      (plain : ∀ member ∈ members, Plain member.2) : Plain (.object members)

/-- Every integer has as many digits as the limits allow, and so does every depth of nesting. -/
inductive Fits : Limits → Json → Prop where
  | null (limits : Limits) : Fits limits .null
  | boolean (limits : Limits) (value : Bool) : Fits limits (.boolean value)
  | integer (limits : Limits) (value : Int)
      (short : limits.exceeded? (Text.decimalDigits value.natAbs).length = none) :
      Fits limits (.integer value)
  | real (limits : Limits) (written : String) : Fits limits (.real written)
  | string (limits : Limits) (value : String) : Fits limits (.string value)
  | array (limits inner : Limits) (items : List Json) (entered : limits.inner? = some inner)
      (fits : ∀ item ∈ items, Fits inner item) : Fits limits (.array items)
  | object (limits inner : Limits) (members : List (String × Json))
      (entered : limits.inner? = some inner)
      (fits : ∀ member ∈ members, Fits inner member.2) : Fits limits (.object members)

variable {limits inner : Limits} {value : Json} {level : Nat} {rest : List Char}
  {position fuel : Nat}

/-- Every value fits where there are no limits. -/
theorem fits_unlimited (plain : Plain value) : Fits {} value := by
  induction plain with
  | null => exact .null _
  | boolean value => exact .boolean _ value
  | integer value => exact .integer _ value rfl
  | string value => exact .string _ value
  | array items plain fits => exact .array _ _ items rfl fits
  | object members distinct plain fits => exact .object _ _ members rfl fits

def itemCharacters (level : Nat) (items : List Json) : List Char := joined (itemPieces level items)

def memberCharacters (level : Nat) (members : List (String × Json)) : List Char :=
  joined (memberPieces level members)

@[simp] theorem joined_nil : joined [] = [] := rfl

@[simp] theorem joined_cons (piece : Nat × List Char) (pieces : List (Nat × List Char)) :
    joined (piece :: pieces) = piece.2 ++ joined pieces := rfl

@[simp] theorem joined_append (front back : List (Nat × List Char)) :
    joined (front ++ back) = joined front ++ joined back := List.flatMap_append

theorem integer_characters (level : Nat) (value : Int) :
    characters level (.integer value) = (Text.decimal value).toList := by
  simp [characters, pieces]

theorem string_characters (level : Nat) (text : String) :
    characters level (.string text) = writtenString text := by
  simp [characters, pieces]

theorem array_characters (level : Nat) (item : Json) (items : List Json) :
    characters level (.array (item :: items)) =
      '[' :: (newLine (level + 1) ++ characters (level + 1) item ++
        itemCharacters (level + 1) items ++ newLine level ++ [']']) := by
  simp [characters, itemCharacters, pieces]

theorem object_characters (level : Nat) (name : String) (value : Json)
    (members : List (String × Json)) :
    characters level (.object ((name, value) :: members)) =
      '{' :: (newLine (level + 1) ++ writtenString name ++ [':', ' '] ++
        characters (level + 1) value ++ memberCharacters (level + 1) members ++
        newLine level ++ ['}']) := by
  simp [characters, memberCharacters, pieces]

theorem item_characters_nil (level : Nat) : itemCharacters level [] = [] := rfl

theorem item_characters_cons (level : Nat) (item : Json) (items : List Json) :
    itemCharacters level (item :: items) =
      ',' :: (newLine level ++ characters level item ++ itemCharacters level items) := by
  simp [itemCharacters, characters, itemPieces]

theorem member_characters_nil (level : Nat) : memberCharacters level [] = [] := rfl

theorem member_characters_cons (level : Nat) (name : String) (value : Json)
    (members : List (String × Json)) :
    memberCharacters level ((name, value) :: members) =
      ',' :: (newLine level ++ writtenString name ++ [':', ' '] ++ characters level value ++
        memberCharacters level members) := by
  simp [memberCharacters, characters, memberPieces]

/-- No space, and no end of an array, stands where a value starts. -/
def Opens (first : Char) : Prop := isSpace first = false ∧ first ≠ ']'

theorem opens_digit {digit : Char} (decimal : isDigit digit = true) : Opens digit := by
  have other : ∀ letter, isDigit letter = false → digit ≠ letter := fun _ => digit_ne decimal
  constructor
  · simp [isSpace, other ' ' rfl, other '\t' rfl, other '\n' rfl, other '\r' rfl]
  · exact other ']' rfl

theorem characters_open (plain : Plain value) (level : Nat) :
    ∃ first others, characters level value = first :: others ∧ Opens first := by
  cases plain with
  | null => exact ⟨'n', _, rfl, rfl, by decide⟩
  | boolean value =>
      cases value with
      | false => exact ⟨'f', _, rfl, rfl, by decide⟩
      | true => exact ⟨'t', _, rfl, rfl, by decide⟩
  | integer value =>
      cases value with
      | ofNat value =>
          obtain ⟨first, others, digits, decimal⟩ := decimal_digits_first value
          refine ⟨first, others, ?_, opens_digit decimal⟩
          simp [integer_characters, Text.decimal, digits]
      | negSucc value =>
          refine ⟨'-', Text.decimalDigits (value + 1), ?_, rfl, by decide⟩
          simp [integer_characters, Text.decimal]
  | string value => exact ⟨'"', _, rfl, rfl, by decide⟩
  | array items plain =>
      cases items with
      | nil => exact ⟨'[', _, rfl, rfl, by decide⟩
      | cons item items => exact ⟨'[', _, rfl, rfl, by decide⟩
  | object members distinct plain =>
      cases members with
      | nil => exact ⟨'{', _, rfl, rfl, by decide⟩
      | cons member members => exact ⟨'{', _, rfl, rfl, by decide⟩

theorem value_solid (plain : Plain value) (level : Nat) (rest : List Char) :
    ∀ next ∈ (characters level value ++ rest).head?, isSpace next = false := by
  obtain ⟨first, others, written, solid, _⟩ := characters_open plain level
  rw [written]
  exact solid_cons solid (others ++ rest)

theorem name_solid (name : String) (rest : List Char) :
    ∀ next ∈ (writtenString name ++ rest).head?, isSpace next = false :=
  solid_cons rfl _

theorem skip_spaces_comma :
    (Cursor.mk (',' :: rest) position).skipSpaces = ⟨',' :: rest, position⟩ :=
  skip_spaces_solid position (solid_cons rfl rest)

theorem parted_nil : Parted [] := by
  intro next head
  contradiction

theorem parted_comma : Parted (',' :: rest) := by
  intro next head
  exact Or.inl (Option.some.inj head).symm

theorem parted_new_line : Parted (newLine level ++ rest) := by
  intro next head
  exact Or.inr (Option.some.inj head).symm

theorem parted_items (level : Nat) (items : List Json) (outer : Nat) (rest : List Char) :
    Parted (itemCharacters level items ++ (newLine outer ++ rest)) := by
  cases items with
  | nil => exact parted_new_line
  | cons item items => exact parted_comma

theorem parted_members (level : Nat) (members : List (String × Json)) (outer : Nat)
    (rest : List Char) :
    Parted (memberCharacters level members ++ (newLine outer ++ rest)) := by
  cases members with
  | nil => exact parted_new_line
  | cons member members => exact parted_comma

/-- Written at any level and read with steps for all of its text, a value is read back. -/
def ReadsBack (limits : Limits) (value : Json) : Prop :=
  ∀ level rest position fuel, Parted rest → (characters level value).length ≤ fuel →
    ∃ last, scanValue limits fuel ⟨characters level value ++ rest, position⟩ =
      .ok (value, ⟨rest, last⟩)

/-- What has a text takes a step at least. -/
theorem reads_back_of_step
    (step : ∀ level rest position fuel, Parted rest →
      (characters level value).length ≤ fuel + 1 →
        ∃ last, scanValue limits (fuel + 1) ⟨characters level value ++ rest, position⟩ =
          .ok (value, ⟨rest, last⟩))
    (plain : Plain value) : ReadsBack limits value := by
  intro level rest position fuel parted enough
  obtain ⟨first, others, written, _⟩ := characters_open plain level
  cases fuel with
  | zero =>
      rw [written] at enough
      contradiction
  | succ fuel => exact step level rest position fuel parted enough

theorem reads_back_null : ReadsBack limits .null := by
  apply reads_back_of_step _ .null
  intro level rest position fuel parted enough
  exact ⟨position + 4, rfl⟩

theorem reads_back_boolean (value : Bool) : ReadsBack limits (.boolean value) := by
  apply reads_back_of_step _ (.boolean value)
  intro level rest position fuel parted enough
  cases value with
  | false => exact ⟨position + 5, rfl⟩
  | true => exact ⟨position + 4, rfl⟩

theorem scan_value_number {first : Char} (quote : first ≠ '"') (brace : first ≠ '{')
    (bracket : first ≠ '[') (wordless : literal? ⟨first :: rest, position⟩ = none) :
    scanValue limits (fuel + 1) ⟨first :: rest, position⟩ =
      scanNumber limits ⟨first :: rest, position⟩ := by
  unfold scanValue
  dsimp only
  split
  · simp_all
  · simp_all
  · simp_all
  · rw [wordless]

theorem reads_back_integer (value : Int)
    (short : limits.exceeded? (Text.decimalDigits value.natAbs).length = none) :
    ReadsBack limits (.integer value) := by
  apply reads_back_of_step _ (.integer value)
  intro level rest position fuel parted enough
  cases value with
  | ofNat value =>
      obtain ⟨first, others, digits, decimal⟩ := decimal_digits_first value
      obtain ⟨last, scanned⟩ := scan_natural position value parted short
      have written : characters level (.integer (.ofNat value)) = first :: others := by
        simp [integer_characters, Text.decimal, digits]
      have wordless := (literal_of_digit (others ++ rest) position decimal).1
      refine ⟨last, ?_⟩
      rw [digits] at scanned
      rw [written, List.cons_append]
      rw [scan_value_number (digit_ne decimal rfl) (digit_ne decimal rfl) (digit_ne decimal rfl)
        wordless]
      exact scanned
  | negSucc value =>
      obtain ⟨first, others, digits, decimal⟩ := decimal_digits_first (value + 1)
      obtain ⟨last, scanned⟩ := scan_negative position (value + 1) parted short
      have written : characters level (.integer (.negSucc value)) = '-' :: first :: others := by
        simp [integer_characters, Text.decimal, digits]
      have wordless := (literal_of_digit (others ++ rest) position decimal).2
      refine ⟨last, ?_⟩
      rw [digits] at scanned
      rw [written, List.cons_append, List.cons_append]
      rw [scan_value_number (by decide) (by decide) (by decide) wordless]
      exact scanned

theorem reads_back_string (text : String) : ReadsBack limits (.string text) := by
  apply reads_back_of_step _ (.string text)
  intro level rest position fuel parted enough
  obtain ⟨last, scanned⟩ := scan_written_string position rest (position + 1) text
  refine ⟨last, ?_⟩
  simp only [string_characters, writtenString, List.cons_append, List.append_assoc, List.nil_append,
    scanValue, scanned, except_ok_bind]

/-- From an item on, the array is read up to its closing bracket. Each item takes one step more than
its own. -/
theorem scan_items (rest : List Char) (position : Nat) (items : List Json) (item : Json)
    (outer : Nat) (plain : ∀ part ∈ item :: items, Plain part)
    (back : ∀ part ∈ item :: items, ReadsBack limits part)
    (enough : (characters level item ++ itemCharacters level items).length ≤ fuel) :
    ∃ last, scanItems limits (fuel + 1) ⟨characters level item ++ (itemCharacters level items ++
        (newLine outer ++ ']' :: rest)), position⟩ = .ok (item :: items, ⟨rest, last⟩) := by
  rw [List.length_append] at enough
  -- On the items that follow: the reader decides after each item whether another one comes.
  induction items generalizing item position fuel with
  | nil =>
      have parted : Parted (newLine outer ++ ']' :: rest) := parted_new_line
      obtain ⟨place, scanned⟩ := back item (by simp) level _ position fuel parted (by omega)
      have closing : isSpace ']' = false := rfl
      have skipped := skip_spaces_new_line outer place (solid_cons closing rest)
      refine ⟨place + (newLine outer).length + 1, ?_⟩
      simp only [item_characters_nil, List.nil_append, scanItems, scanned, except_ok_bind, skipped]
      rfl
  | cons next items induction =>
      have parted := parted_items level (next :: items) outer (']' :: rest)
      obtain ⟨place, scanned⟩ := back item (by simp) level _ position fuel parted (by omega)
      have solid := value_solid (plain next (by simp)) level
        (itemCharacters level items ++ (newLine outer ++ ']' :: rest))
      have skipped := skip_spaces_new_line level (place + 1) solid
      simp only [item_characters_cons, List.length_cons, List.length_append] at enough
      obtain ⟨fewer, rfl⟩ : ∃ fewer, fuel = fewer + 1 := ⟨fuel - 1, by omega⟩
      have later : ∀ part ∈ next :: items, part ∈ item :: next :: items := by
        intro part inside
        exact List.mem_cons_of_mem item inside
      have steps : (characters level next).length + (itemCharacters level items).length ≤
          fewer := by
        omega
      obtain ⟨last, finished⟩ := induction (place + 1 + (newLine level).length) next
        (fun part inside => plain part (later part inside))
        (fun part inside => back part (later part inside)) steps
      refine ⟨last, ?_⟩
      rw [scanItems, scanned, except_ok_bind]
      simp only [item_characters_cons, List.cons_append, List.append_assoc, skip_spaces_comma,
        Cursor.take, List.drop_succ_cons, List.drop_zero, skipped, finished, except_ok_bind]

/-- How reading goes on after a member: it ends at the closing brace and reads the next member after
a comma. -/
def afterMember (limits : Limits) (fuel : Nat) (members : List (String × Json)) (next : Cursor) :
    Except Misreading (List (String × Json) × Cursor) :=
  match next.rest with
  | '}' :: _ => .ok (members, next.take 1)
  | ',' :: _ => scanMembers limits fuel members (next.take 1).skipSpaces
  | _ => next.misread .comma

theorem scan_member {done : List (String × Json)} {name : String} (position : Nat)
    (plain : Plain value) (back : ReadsBack limits value) (parted : Parted rest)
    (fresh : ∀ member ∈ done, member.1 ≠ name)
    (enough : (characters level value).length ≤ fuel) :
    ∃ place, scanMembers limits (fuel + 1) done
        ⟨writtenString name ++ (':' :: ' ' :: (characters level value ++ rest)), position⟩ =
      afterMember limits fuel (done ++ [(name, value)]) (Cursor.mk rest place).skipSpaces := by
  obtain ⟨colon, named⟩ := scan_written_string position
    (':' :: ' ' :: (characters level value ++ rest)) (position + 1) name
  have mark : isSpace ':' = false := rfl
  have reached := skip_spaces_solid colon
    (solid_cons mark (' ' :: (characters level value ++ rest)))
  have blank : ∀ character ∈ [' '], isSpace character = true := by simp [isSpace]
  have skipped := skip_spaces_gap (colon + 1) blank (value_solid plain level rest)
  obtain ⟨place, scanned⟩ := back level rest (colon + 1 + 1) fuel parted enough
  refine ⟨place, ?_⟩
  rw [scanMembers]
  simp only [writtenString, List.cons_append, List.append_assoc, List.nil_append, named,
    except_ok_bind, reached, Cursor.take, List.drop_succ_cons, List.drop_zero]
  rw [List.singleton_append] at skipped
  have entered := Association.put_fresh name value done fresh
  simp only [skipped, List.length_singleton, scanned, except_ok_bind, entered]
  rfl

theorem fresh_of_distinct {done members : List (String × Json)} {name : String}
    (distinct : ((done ++ (name, value) :: members).map Prod.fst).Nodup) :
    ∀ member ∈ done, member.1 ≠ name := by
  intro member inside same
  rw [List.map_append, List.nodup_append] at distinct
  exact distinct.2.2 member.1 (List.mem_map_of_mem inside) name (by simp) same

/-- From a member on, the object is read up to its closing brace. The members read so far have other
names. -/
theorem scan_members (rest : List Char) (position : Nat) (members : List (String × Json))
    (name : String) (value : Json) (done : List (String × Json)) (outer : Nat)
    (distinct : ((done ++ (name, value) :: members).map Prod.fst).Nodup)
    (plain : ∀ member ∈ (name, value) :: members, Plain member.2)
    (back : ∀ member ∈ (name, value) :: members, ReadsBack limits member.2)
    (enough : (characters level value ++ memberCharacters level members).length ≤ fuel) :
    ∃ last, scanMembers limits (fuel + 1) done ⟨writtenString name ++ (':' :: ' ' ::
        (characters level value ++ (memberCharacters level members ++
          (newLine outer ++ '}' :: rest)))), position⟩ =
      .ok (done ++ (name, value) :: members, ⟨rest, last⟩) := by
  rw [List.length_append] at enough
  induction members generalizing name value done position fuel with
  | nil =>
      have parted : Parted (newLine outer ++ '}' :: rest) := parted_new_line
      have steps : (characters level value).length ≤ fuel := by omega
      obtain ⟨place, entered⟩ := scan_member position
        (plain (name, value) (by simp)) (back (name, value) (by simp)) parted
        (fresh_of_distinct distinct) steps
      have closing : isSpace '}' = false := rfl
      have skipped := skip_spaces_new_line outer place (solid_cons closing rest)
      refine ⟨place + (newLine outer).length + 1, ?_⟩
      rw [member_characters_nil, List.nil_append, entered, skipped]
      rfl
  | cons next members induction =>
      obtain ⟨nextName, nextValue⟩ := next
      have parted := parted_members level ((nextName, nextValue) :: members) outer ('}' :: rest)
      have steps : (characters level value).length ≤ fuel := by omega
      obtain ⟨place, entered⟩ := scan_member position
        (plain (name, value) (by simp)) (back (name, value) (by simp)) parted
        (fresh_of_distinct distinct) steps
      have solid := name_solid nextName (':' :: ' ' :: (characters level nextValue ++
        (memberCharacters level members ++ (newLine outer ++ '}' :: rest))))
      have skipped := skip_spaces_new_line level (place + 1) solid
      simp only [member_characters_cons, List.length_cons, List.length_append] at enough
      obtain ⟨fewer, rfl⟩ : ∃ fewer, fuel = fewer + 1 := ⟨fuel - 1, by omega⟩
      have later : ∀ member ∈ (nextName, nextValue) :: members,
          member ∈ (name, value) :: (nextName, nextValue) :: members := by
        intro member inside
        exact List.mem_cons_of_mem (name, value) inside
      have further : (characters level nextValue).length +
          (memberCharacters level members).length ≤ fewer := by
        omega
      obtain ⟨last, finished⟩ := induction (place + 1 + (newLine level).length)
        nextName nextValue (done ++ [(name, value)])
        (by simpa using distinct)
        (fun member inside => plain member (later member inside))
        (fun member inside => back member (later member inside)) further
      refine ⟨last, ?_⟩
      rw [entered]
      simp only [member_characters_cons, List.cons_append, List.append_assoc, List.nil_append,
        skip_spaces_comma, afterMember, Cursor.take, List.drop_succ_cons, List.drop_zero, skipped,
        finished]

theorem reads_back_array (items : List Json) (entered : limits.inner? = some inner)
    (plain : ∀ item ∈ items, Plain item) (back : ∀ item ∈ items, ReadsBack inner item) :
    ReadsBack limits (.array items) := by
  apply reads_back_of_step _ (.array items plain)
  intro level rest position fuel parted enough
  cases items with
  | nil =>
      refine ⟨position + 1 + 1, ?_⟩
      rw [show characters level (.array []) = ['[', ']'] from rfl]
      simp only [List.cons_append, scanValue, entered]
      rfl
  | cons item items =>
      simp only [array_characters, List.length_cons, List.length_append, List.length_nil] at enough
      obtain ⟨fewer, rfl⟩ : ∃ fewer, fuel = fewer + 1 := ⟨fuel - 1, by omega⟩
      have steps : (characters (level + 1) item ++ itemCharacters (level + 1) items).length ≤
          fewer := by
        rw [List.length_append]
        omega
      have solid := value_solid (plain item (by simp)) (level + 1)
        (itemCharacters (level + 1) items ++ (newLine level ++ ']' :: rest))
      have skipped := skip_spaces_new_line (level + 1) (position + 1) solid
      obtain ⟨last, scanned⟩ := scan_items rest (position + 1 + (newLine (level + 1)).length)
        items item level plain back steps
      obtain ⟨first, others, written, _, inside⟩ :=
        characters_open (plain item (by simp)) (level + 1)
      refine ⟨last, ?_⟩
      simp only [array_characters, List.cons_append, List.append_assoc, List.nil_append, scanValue,
        entered, Cursor.take, List.drop_succ_cons, List.drop_zero, skipped, scanned, except_ok_bind]
      rw [written, List.cons_append]
      split
      · rename_i same
        exact absurd (List.cons.inj same).1 inside
      · rfl

theorem reads_back_object (members : List (String × Json))
    (entered : limits.inner? = some inner) (distinct : (members.map Prod.fst).Nodup)
    (plain : ∀ member ∈ members, Plain member.2)
    (back : ∀ member ∈ members, ReadsBack inner member.2) :
    ReadsBack limits (.object members) := by
  apply reads_back_of_step _ (.object members distinct plain)
  intro level rest position fuel parted enough
  cases members with
  | nil =>
      refine ⟨position + 1 + 1, ?_⟩
      rw [show characters level (.object []) = ['{', '}'] from rfl]
      simp only [List.cons_append, scanValue, entered]
      rfl
  | cons member members =>
      obtain ⟨name, value⟩ := member
      simp only [object_characters, List.length_cons, List.length_append, List.length_nil] at enough
      obtain ⟨fewer, rfl⟩ : ∃ fewer, fuel = fewer + 1 := ⟨fuel - 1, by omega⟩
      have steps : (characters (level + 1) value ++ memberCharacters (level + 1) members).length ≤
          fewer := by
        rw [List.length_append]
        omega
      have solid := name_solid name (':' :: ' ' :: (characters (level + 1) value ++
        (memberCharacters (level + 1) members ++ (newLine level ++ '}' :: rest))))
      have skipped := skip_spaces_new_line (level + 1) (position + 1) solid
      obtain ⟨last, scanned⟩ := scan_members rest (position + 1 + (newLine (level + 1)).length)
        members name value [] level
        distinct plain back steps
      refine ⟨last, ?_⟩
      simp only [object_characters, List.cons_append, List.append_assoc, List.nil_append, scanValue,
        entered, Cursor.take, List.drop_succ_cons, List.drop_zero, skipped, scanned, except_ok_bind]
      rfl

/-- By the parts of the value. -/
theorem reads_back (plain : Plain value) (fits : Fits limits value) : ReadsBack limits value := by
  induction plain generalizing limits with
  | null => exact reads_back_null
  | boolean value => exact reads_back_boolean value
  | integer value =>
      cases fits with
      | integer _ _ short => exact reads_back_integer value short
  | string text => exact reads_back_string text
  | array items plain back =>
      cases fits with
      | array _ inner _ entered fits =>
          exact reads_back_array items entered plain fun item inside =>
            back item inside (fits item inside)
  | object members distinct plain back =>
      cases fits with
      | object _ inner _ entered fits =>
          exact reads_back_object members entered distinct plain fun member inside =>
            back member inside (fits member inside)

/-- A line end or a printable ASCII character. -/
def Printed (character : Char) : Prop :=
  character = '\n' ∨ 32 ≤ character.toNat ∧ character.toNat ≤ 126

instance (character : Char) : Decidable (Printed character) := inferInstanceAs (Decidable (_ ∨ _))

def AllPrinted (text : List Char) : Prop := ∀ character ∈ text, Printed character

@[simp] theorem all_printed_nil : AllPrinted [] := by simp [AllPrinted]

@[simp] theorem all_printed_cons {character : Char} {text : List Char} :
    AllPrinted (character :: text) ↔ Printed character ∧ AllPrinted text := List.forall_mem_cons

@[simp] theorem all_printed_append {front back : List Char} :
    AllPrinted (front ++ back) ↔ AllPrinted front ∧ AllPrinted back := List.forall_mem_append

theorem hex_digit_printed (value : Nat) : Printed (Text.hexDigit (value % 16)) := by
  have all : ∀ digit : Fin 16, Printed (Text.hexDigit digit.val) := by decide
  exact all ⟨value % 16, Nat.mod_lt value (by decide)⟩

theorem unit_escape_printed (code : Nat) : AllPrinted (unitEscape code) := by
  rw [unit_escape_eq]
  simp [hex_digit_printed, show Printed '\\' by decide, show Printed 'u' by decide]

theorem code_units_printed (code : Nat) : AllPrinted (codeUnits code) := by
  unfold codeUnits
  split
  · exact unit_escape_printed code
  · exact all_printed_append.mpr ⟨unit_escape_printed _, unit_escape_printed _⟩

theorem written_character_printed (character : Char) :
    AllPrinted (writtenCharacter character) := by
  unfold writtenCharacter
  split
  case h_8 =>
    dsimp only
    split
    · rename_i printable
      simp only [Bool.and_eq_true, decide_eq_true_eq] at printable
      exact all_printed_cons.mpr ⟨Or.inr printable, all_printed_nil⟩
    · exact code_units_printed character.toNat
  all_goals simp [Printed]

@[simp] theorem written_string_printed (text : String) : AllPrinted (writtenString text) := by
  have inner : AllPrinted (text.toList.flatMap writtenCharacter) := by
    intro character inside
    obtain ⟨source, _, written⟩ := List.mem_flatMap.mp inside
    exact written_character_printed source character written
  simp [writtenString, inner, Printed]

@[simp] theorem new_line_printed (level : Nat) : AllPrinted (newLine level) := by
  have gap : AllPrinted (List.replicate (2 * level) ' ') := by
    intro character inside
    rw [List.eq_of_mem_replicate inside]
    decide
  simp [newLine, gap, Printed]

theorem digit_printed {digit : Char} (decimal : isDigit digit = true) : Printed digit := by
  unfold isDigit Text.digit? at decimal
  dsimp only at decimal
  split at decimal
  · right
    simp_all only [Bool.and_eq_true, decide_eq_true_eq]
    omega
  · contradiction

theorem decimal_printed (value : Int) : AllPrinted (Text.decimal value).toList := by
  have digits : ∀ whole, AllPrinted (Text.decimalDigits whole) := by
    intro whole digit inside
    exact digit_printed (decimal_digits_digit whole digit inside)
  cases value with
  | ofNat value => simp [Text.decimal, digits]
  | negSucc value => simp [Text.decimal, digits, Printed]

theorem item_characters_printed {items : List Json}
    (printed : ∀ item ∈ items, AllPrinted (characters level item)) :
    AllPrinted (itemCharacters level items) := by
  induction items with
  | nil => exact all_printed_nil
  | cons item items induction =>
      rw [List.forall_mem_cons] at printed
      simp [item_characters_cons, printed.1, induction printed.2, Printed]

theorem member_characters_printed {members : List (String × Json)}
    (printed : ∀ member ∈ members, AllPrinted (characters level member.2)) :
    AllPrinted (memberCharacters level members) := by
  induction members with
  | nil => exact all_printed_nil
  | cons member members induction =>
      obtain ⟨name, value⟩ := member
      rw [List.forall_mem_cons] at printed
      simp [member_characters_cons, printed.1, induction printed.2, Printed]

/-- By the parts of the value. -/
theorem characters_printed (plain : Plain value) (level : Nat) :
    AllPrinted (characters level value) := by
  induction plain generalizing level with
  | null => simp [characters, pieces, Printed]
  | boolean value => cases value <;> simp [characters, pieces, Printed]
  | integer value =>
      rw [integer_characters]
      exact decimal_printed value
  | string text =>
      rw [string_characters]
      exact written_string_printed text
  | array items plain printed =>
      cases items with
      | nil => simp [characters, pieces, Printed]
      | cons item items =>
          have first := printed item (by simp) (level + 1)
          have others : AllPrinted (itemCharacters (level + 1) items) := by
            apply item_characters_printed
            intro part inside
            exact printed part (by simp [inside]) (level + 1)
          simp [array_characters, first, others, Printed]
  | object members distinct plain printed =>
      cases members with
      | nil => simp [characters, pieces, Printed]
      | cons member members =>
          obtain ⟨name, value⟩ := member
          have first := printed (name, value) (by simp) (level + 1)
          have others : AllPrinted (memberCharacters (level + 1) members) := by
            apply member_characters_printed
            intro part inside
            exact printed part (by simp [inside]) (level + 1)
          simp [object_characters, first, others, Printed]

theorem read_write (plain : Plain value) (fits : Fits limits value) :
    read (write value) limits = .ok value := by
  obtain ⟨first, others, written, _⟩ := characters_open plain 0
  have unmarked : first ≠ byteOrderMark := by
    rintro rfl
    have printed := characters_printed plain 0
    rw [written, all_printed_cons] at printed
    exact absurd printed.1 (by decide)
  have start := skip_spaces_solid 0 (value_solid plain 0 [])
  obtain ⟨last, scanned⟩ := reads_back plain fits 0 [] 0 (2 * (characters 0 value).length + 1)
    parted_nil (by omega)
  rw [List.append_nil] at start scanned
  have unmarkedText : ((characters 0 value).head? == some byteOrderMark) = false := by
    simpa [written] using unmarked
  simp only [read, write, String.toList_ofList, readCharacters, unmarkedText, start, scanned]
  rfl

theorem item_pieces_filled {items : List Json}
    (filled : ∀ item ∈ items, ∀ piece ∈ pieces level item, piece.2 ≠ []) :
    ∀ piece ∈ itemPieces level items, piece.2 ≠ [] := by
  induction items with
  | nil => simp [itemPieces]
  | cons item items induction =>
      rw [List.forall_mem_cons] at filled
      simp only [itemPieces, List.forall_mem_cons, List.forall_mem_append]
      exact ⟨by simp, filled.1, induction filled.2⟩

theorem member_pieces_filled {members : List (String × Json)}
    (filled : ∀ member ∈ members, ∀ piece ∈ pieces level member.2, piece.2 ≠ []) :
    ∀ piece ∈ memberPieces level members, piece.2 ≠ [] := by
  induction members with
  | nil => simp [memberPieces]
  | cons member members induction =>
      obtain ⟨name, value⟩ := member
      rw [List.forall_mem_cons] at filled
      simp only [memberPieces, List.forall_mem_cons, List.forall_mem_append]
      exact ⟨by simp, filled.1, induction filled.2⟩

/-- By the parts of the value. -/
theorem pieces_filled (plain : Plain value) (level : Nat) :
    ∀ piece ∈ pieces level value, piece.2 ≠ [] := by
  induction plain generalizing level with
  | null => simp [pieces]
  | boolean value => cases value <;> simp [pieces]
  | integer value =>
      obtain ⟨first, others, written, _⟩ := characters_open (.integer value) level
      rw [integer_characters] at written
      simp [pieces, written]
  | string text => simp [pieces, writtenString]
  | array items plain filled =>
      cases items with
      | nil => simp [pieces]
      | cons item items =>
          have others := item_pieces_filled fun part inside =>
            filled part (List.mem_cons_of_mem item inside) (level + 1)
          simp only [pieces, List.forall_mem_cons, List.forall_mem_append]
          exact ⟨by simp, ⟨filled item (by simp) (level + 1), others⟩, by simp⟩
  | object members distinct plain filled =>
      cases members with
      | nil => simp [pieces]
      | cons member members =>
          obtain ⟨name, value⟩ := member
          have others := member_pieces_filled fun part inside =>
            filled part (List.mem_cons_of_mem (name, value) inside) (level + 1)
          simp only [pieces, List.forall_mem_cons, List.forall_mem_append]
          exact ⟨by simp, ⟨filled (name, value) (by simp) (level + 1), others⟩, by simp⟩

theorem joined_filled {pieces : List (Nat × List Char)} (filled : ∀ piece ∈ pieces, piece.2 ≠ [])
    (some : pieces ≠ []) : joined pieces ≠ [] := by
  cases pieces with
  | nil => contradiction
  | cons piece pieces =>
      have first := filled piece (by simp)
      simp [first]

/-- All of a value is written, or its text goes on where the writer has to end. -/
theorem write_within_cases (plain : Plain value) (depth : Option Nat) :
    writeWithin depth value = (value.write, true) ∨
      (∃ deepest, depth = some deepest) ∧ ∃ text more, writeWithin depth value = (text, false) ∧
        more ≠ "" ∧ value.write = text ++ more := by
  cases depth with
  | none => exact Or.inl rfl
  | some deepest =>
      have split := List.takeWhile_append_dropWhile
        (p := fun piece : Nat × List Char => decide (piece.1 ≤ deepest)) (l := pieces 0 value)
      simp only [writeWithin]
      generalize List.takeWhile (fun piece : Nat × List Char => decide (piece.1 ≤ deepest))
        (pieces 0 value) = front at split ⊢
      generalize List.dropWhile (fun piece : Nat × List Char => decide (piece.1 ≤ deepest))
        (pieces 0 value) = back at split
      by_cases ended : back = []
      · left
        rw [ended, List.append_nil] at split
        simp [split, write, characters]
      · have filled : ∀ piece ∈ back, piece.2 ≠ [] := fun piece inside =>
          pieces_filled plain 0 piece (split ▸ List.mem_append_right front inside)
        refine Or.inr ⟨⟨deepest, rfl⟩, String.ofList (joined front), String.ofList (joined back),
          ?_, ?_, ?_⟩
        · simp [← split, ended]
        · simpa using joined_filled filled ended
        · simp [write, characters, ← split]

end DebugRecovery.Json
