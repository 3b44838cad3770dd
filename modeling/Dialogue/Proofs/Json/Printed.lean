import Dialogue.Json.Decoder

set_option autoImplicit false

namespace Dialogue.Json

section Strings

theorem hex_digit_value (n : Nat) : hexValue? (hexDigit n) = some (n % 16) := by
  have digits : ∀ m < 16, hexValue? (Nat.digitChar m) = some m := by decide
  exact digits (n % 16) (Nat.mod_lt n (by decide))

theorem escape_control (c : Char) (rest : List Char) (control : c.toNat < 0x20) :
    escape ('u' :: '0' :: '0' :: hexDigit (c.toNat / 16) :: hexDigit c.toNat :: rest) =
      .ok (c, rest) := by
  have zero : hexValue? '0' = some 0 := by decide
  have number : ((0 * 16 + 0) * 16 + c.toNat / 16 % 16) * 16 + c.toNat % 16 = c.toNat := by omega
  have whole : hexEscape ('0' :: '0' :: hexDigit (c.toNat / 16) :: hexDigit c.toNat :: rest) =
      .ok (c.toNat, rest) := by
    simp only [hexEscape, zero, hex_digit_value, number]
  have low : ¬ (0xDC00 ≤ c.toNat ∧ c.toNat ≤ 0xDFFF) := by omega
  have high : ¬ (0xD800 ≤ c.toNat ∧ c.toNat ≤ 0xDBFF) := by omega
  simp only [escape, whole, bind, Except.bind, if_neg low, if_neg high, Char.ofNat_toNat]

theorem string_tail_escaped (fuel : Nat) (c : Char) (rest : List Char) :
    stringTail (fuel + 1) (escapeChar c ++ rest) =
      (do let (chars, rest) ← stringTail fuel rest; .ok (c :: chars, rest)) := by
  have behind (tail : List Char) (letter : escape tail = .ok (c, rest)) :
      stringTail (fuel + 1) ('\\' :: tail) =
        (do let (chars, rest) ← stringTail fuel rest; .ok (c :: chars, rest)) := by
    simp [stringTail, letter, bind, Except.bind]
  by_cases quote : c = '"'
  · subst quote
    exact behind ('"' :: rest) rfl
  by_cases backslash : c = '\\'
  · subst backslash
    exact behind ('\\' :: rest) rfl
  by_cases back : c = '\x08'
  · subst back
    exact behind ('b' :: rest) rfl
  by_cases tab : c = '\t'
  · subst tab
    exact behind ('t' :: rest) rfl
  by_cases line : c = '\n'
  · subst line
    exact behind ('n' :: rest) rfl
  by_cases page : c = '\x0c'
  · subst page
    exact behind ('f' :: rest) rfl
  by_cases carriage : c = '\r'
  · subst carriage
    exact behind ('r' :: rest) rfl
  rw [escapeChar, if_neg quote, if_neg backslash, if_neg back, if_neg tab, if_neg line,
    if_neg page, if_neg carriage]
  by_cases control : c.toNat < 0x20
  · rw [if_pos control]
    exact behind _ (escape_control c rest control)
  · simp [stringTail, quote, backslash, control]

theorem string_tail_quoted (chars rest : List Char) (fuel : Nat) (enough : chars.length < fuel) :
    stringTail fuel (chars.flatMap escapeChar ++ '"' :: rest) = .ok (chars, rest) := by
  induction chars generalizing fuel with
  | nil =>
      cases fuel with
      | zero => exact absurd enough (Nat.not_lt_zero _)
      | succ fuel => rfl
  | cons c chars ih =>
      cases fuel with
      | zero => exact absurd enough (Nat.not_lt_zero _)
      | succ fuel =>
          rw [List.flatMap_cons, List.append_assoc, string_tail_escaped,
            ih fuel (Nat.lt_of_succ_lt_succ enough)]
          rfl

theorem escape_char_positive (c : Char) : 0 < (escapeChar c).length := by
  rw [escapeChar]
  repeat' split
  all_goals exact Nat.succ_pos _

theorem escaped_length (chars : List Char) : chars.length ≤ (chars.flatMap escapeChar).length := by
  induction chars with
  | nil => exact Nat.le_refl 0
  | cons c chars ih =>
      have positive := escape_char_positive c
      rw [List.flatMap_cons, List.length_append, List.length_cons]
      omega

theorem quote_append (chars rest : List Char) :
    quote chars ++ rest = '"' :: (chars.flatMap escapeChar ++ '"' :: rest) := by
  simp [quote]

theorem string_tail_text (chars rest : List Char) :
    stringTail ((chars.flatMap escapeChar ++ '"' :: rest).length + 1)
      (chars.flatMap escapeChar ++ '"' :: rest) = .ok (chars, rest) := by
  apply string_tail_quoted
  have length := escaped_length chars
  rw [List.length_append]
  omega

theorem read_string_quoted (text : String) (rest : List Char) :
    readString (text.toList.flatMap escapeChar ++ '"' :: rest) = .ok (text, rest) := by
  rw [readString, string_tail_text]
  simp [bind, Except.bind]

end Strings

-- The text `printed` reads as `value`, `levels` of nesting deep, whatever stands behind it.
def Reads {α : Type} (decoder : Decoder α) (levels : Nat) (printed : List Char) (value : α) :
    Prop :=
  ∀ depth rest, levels ≤ depth → decoder depth (printed ++ rest) = .ok (value, rest)

inductive Opens : List Char → Prop
  | quote (rest : List Char) : Opens ('"' :: rest)
  | brace (rest : List Char) : Opens ('\x7b' :: rest)

theorem skip_space_quote (rest : List Char) : skipSpace ('"' :: rest) = '"' :: rest := rfl

theorem skip_space_brace (rest : List Char) : skipSpace ('\x7b' :: rest) = '\x7b' :: rest := rfl

theorem opens_quote (chars : List Char) : Opens (quote chars) := .quote _

theorem opens_object (members : List (String × Json)) : Opens (render (.object members)) := by
  cases members with
  | nil => exact .brace _
  | cons entry rest => exact .brace _

theorem decode_reads {α : Type} (decoder : Decoder α) (levels : Nat) (printed : List Char)
    (value : α) (reads : Reads decoder levels printed value) (shallow : levels ≤ maxDepth) :
    decode decoder printed = .ok value := by
  have whole := reads maxDepth [] shallow
  rw [List.append_nil] at whole
  rw [decode, whole]
  rfl

section Values

variable {α : Type} {decoder : Decoder α}

theorem string_reads (levels : Nat) (text : String) :
    Reads Decoder.string levels (quote text.toList) text := by
  intro depth rest _
  rw [quote_append]
  exact read_string_quoted text rest

theorem variant_reads (levels : Nat) (variants : List (String × α)) (name : String) (value : α)
    (known : variants.lookup name = some value) :
    Reads (Decoder.variant variants) levels (quote name.toList) value := by
  intro depth rest _
  rw [quote_append, Decoder.variant, skip_space_quote]
  simp only [read_string_quoted, Decoder.variantOf, known, bind, Except.bind]

theorem option_reads (levels : Nat) (printed : List Char) (value : α)
    (reads : Reads decoder levels printed value) (opens : Opens printed) :
    Reads decoder.option levels printed (some value) := by
  intro depth rest deep
  have inner := reads depth rest deep
  cases opens with
  | quote tail =>
      rw [List.cons_append] at inner ⊢
      simp [Decoder.option, skip_space_quote, inner, bind, Except.bind]
  | brace tail =>
      rw [List.cons_append] at inner ⊢
      simp [Decoder.option, skip_space_brace, inner, bind, Except.bind]

theorem item_first (printed rest : List Char) (opens : Opens printed) :
    anotherItem true (printed ++ rest) = .ok (true, printed ++ rest) := by
  cases opens <;> rfl

theorem item_next (printed rest : List Char) (opens : Opens printed) :
    anotherItem false (',' :: (printed ++ rest)) = .ok (true, printed ++ rest) := by
  cases opens <;> rfl

variable {levels : Nat} {encode : α → Json} {values : List α}

theorem items_read
    (reads : ∀ value ∈ values, Reads decoder levels (render (encode value)) value)
    (opens : ∀ value ∈ values, Opens (render (encode value)))
    (depth fuel : Nat) (rest : List Char) (deep : levels ≤ depth) (enough : values.length < fuel) :
    Decoder.items decoder depth fuel false (renderItems (values.map encode) ++ rest) =
      .ok (values, rest) := by
  induction values generalizing fuel with
  | nil =>
      cases fuel with
      | zero => exact absurd enough (Nat.not_lt_zero _)
      | succ fuel => rfl
  | cons value values ih =>
      cases fuel with
      | zero => exact absurd enough (Nat.not_lt_zero _)
      | succ fuel =>
          rw [List.forall_mem_cons] at reads opens
          have later := ih reads.2 opens.2 fuel (Nat.lt_of_succ_lt_succ enough)
          rw [List.map_cons, renderItems, List.cons_append, List.cons_append, List.append_assoc,
            Decoder.items, item_next _ _ opens.1]
          simp only [bind, Except.bind, reads.1 depth _ deep, later, if_true]

theorem render_items_length (items : List Json) : items.length < (renderItems items).length := by
  induction items with
  | nil => exact Nat.zero_lt_one
  | cons item items ih =>
      rw [renderItems, List.length_cons, List.length_append, List.length_cons]
      omega

theorem list_opened (depth : Nat) (rest : List Char) :
    decoder.list (depth + 1) ('[' :: rest) =
      Decoder.items decoder depth (rest.length + 1) true rest :=
  rfl

theorem list_reads
    (reads : ∀ value ∈ values, Reads decoder levels (render (encode value)) value)
    (opens : ∀ value ∈ values, Opens (render (encode value))) :
    Reads decoder.list (levels + 1) (render (.array (values.map encode))) values := by
  intro depth rest deep
  cases depth with
  | zero => exact absurd deep (Nat.not_succ_le_zero _)
  | succ depth =>
      have within := Nat.le_of_succ_le_succ deep
      cases values with
      | nil => rfl
      | cons value values =>
          rw [List.forall_mem_cons] at reads opens
          have enough : values.length <
              (render (encode value) ++ (renderItems (values.map encode) ++ rest)).length := by
            have items := render_items_length (values.map encode)
            rw [List.length_map] at items
            rw [List.length_append, List.length_append]
            omega
          rw [List.map_cons, render, List.cons_append, List.cons_append, List.append_assoc,
            list_opened, Decoder.items, item_first _ _ opens.1]
          simp only [bind, Except.bind, reads.1 depth _ within,
            items_read reads.2 opens.2 depth _ rest within enough, if_true]

end Values

section Records

variable {δ α : Type}

-- Reading the members one by one leads from the first draft to the last, each member being of a
-- field that the draft does not have yet.
inductive Fills (fields : List (Field δ)) (levels : Nat) : List (String × Json) → δ → δ → Prop
  | nil (draft : δ) : Fills fields levels [] draft draft
  | cons {key : String} {value : Json} {members : List (String × Json)} {draft next last : δ}
      (field : Field δ) (found : fields.find? (fun field => field.name = key) = some field)
      (absent : field.present draft = false)
      (reads : Reads (field.read draft) levels (render value) next)
      (later : Fills fields levels members next last) :
      Fills fields levels ((key, value) :: members) draft last

variable {fields : List (Field δ)} {levels : Nat}

theorem Fills.append {members more : List (String × Json)} {draft next last : δ}
    (first : Fills fields levels members draft next) (later : Fills fields levels more next last) :
    Fills fields levels (members ++ more) draft last := by
  induction first with
  | nil draft => exact later
  | cons field found absent reads _ ih => exact .cons field found absent reads (ih later)

theorem field_reads {decoder : Decoder α} {printed : List Char} {value : α} (name : String)
    (required : Bool) (get : δ → Option α) (set : δ → α → δ) (draft : δ)
    (reads : Reads decoder levels printed value) :
    Reads ((field name required decoder get set).read draft) levels printed (set draft value) := by
  intro depth rest deep
  simp only [field, reads depth rest deep, bind, Except.bind]

theorem member_read {key : String} {value : Json} {draft next : δ} (field : Field δ)
    (found : fields.find? (fun field => field.name = key) = some field)
    (absent : field.present draft = false)
    (reads : Reads (field.read draft) levels (render value) next)
    (depth fuel : Nat) (first : Bool) (chars rest : List Char) (deep : levels ≤ depth)
    (begins : anotherKey first chars =
      .ok (true, key.toList.flatMap escapeChar ++ '"' :: ':' :: (render value ++ rest))) :
    Record.members fields depth (fuel + 1) first draft chars =
      Record.members fields depth fuel false next rest := by
  have colon_read : colon (':' :: (render value ++ rest)) = .ok (render value ++ rest) := rfl
  rw [Record.members, begins]
  simp only [bind, Except.bind, if_true, read_string_quoted, found, absent, colon_read,
    reads depth rest deep, Bool.false_eq_true, if_false]

theorem render_member_append (entry : String × Json) (rest : List Char) :
    renderMember entry ++ rest =
      '"' :: (entry.1.toList.flatMap escapeChar ++ '"' :: ':' :: (render entry.2 ++ rest)) := by
  rw [renderMember, List.append_assoc, quote_append]
  rfl

theorem members_read {members : List (String × Json)} {draft last : δ}
    (fills : Fills fields levels members draft last) (depth fuel : Nat) (rest : List Char)
    (deep : levels ≤ depth) (enough : members.length < fuel) :
    Record.members fields depth fuel false draft (renderMembers members ++ rest) =
      .ok (last, rest) := by
  induction fills generalizing fuel with
  | nil draft =>
      cases fuel with
      | zero => exact absurd enough (Nat.not_lt_zero _)
      | succ fuel => rfl
  | cons field found absent reads later ih =>
      cases fuel with
      | zero => exact absurd enough (Nat.not_lt_zero _)
      | succ fuel =>
          rw [renderMembers, List.cons_append, List.cons_append, List.append_assoc,
            render_member_append,
            member_read field found absent reads depth fuel false _ _ deep rfl]
          exact ih fuel (Nat.lt_of_succ_lt_succ enough)

theorem render_members_length (members : List (String × Json)) :
    members.length < (renderMembers members).length := by
  induction members with
  | nil => exact Nat.zero_lt_one
  | cons entry members ih =>
      rw [renderMembers, List.length_cons, List.length_append, List.length_cons]
      omega

theorem first_member_read {entry : String × Json} {members : List (String × Json)}
    {draft last : δ} (fills : Fills fields levels (entry :: members) draft last)
    (depth fuel : Nat) (rest : List Char) (deep : levels ≤ depth)
    (enough : members.length < fuel) :
    Record.members fields depth (fuel + 1) true draft
      (renderMember entry ++ (renderMembers members ++ rest)) = .ok (last, rest) := by
  cases fills with
  | cons field found absent reads later =>
      rw [render_member_append, member_read field found absent reads depth fuel true _ _ deep rfl]
      exact members_read later depth fuel rest deep enough

theorem finish_complete (record : Record δ α) (missing : Field δ → Nat → String) (draft : δ)
    (value : α) (rest : List Char)
    (complete : ∀ field ∈ record.fields, field.required = true → field.present draft = true)
    (built : record.build draft = some value) : record.finish missing draft rest = .ok value := by
  have none_missing : record.fields.zipIdx.find?
      (fun entry => entry.1.required && !entry.1.present draft) = none := by
    rw [List.find?_eq_none]
    intro entry member
    have present := complete entry.1 (List.fst_mem_of_mem_zipIdx member)
    cases required : entry.1.required with
    | false => simp
    | true => simp [present required]
  rw [Record.finish, none_missing, built]

theorem record_opened (record : Record δ α) (depth : Nat) (rest : List Char) :
    record.decoder (depth + 1) ('\x7b' :: rest) = (do
      let (draft, rest) ←
        Record.members record.fields depth (rest.length + 1) true record.draft rest
      let value ← record.finish (fun field _ => "missing field `" ++ field.name ++ "`") draft rest
      .ok (value, rest)) :=
  rfl

theorem object_reads (record : Record δ α) {entry : String × Json}
    {members : List (String × Json)} {last : δ} {value : α}
    (fills : Fills record.fields levels (entry :: members) record.draft last)
    (complete : ∀ field ∈ record.fields, field.required = true → field.present last = true)
    (built : record.build last = some value) :
    Reads record.decoder (levels + 1) (render (.object (entry :: members))) value := by
  intro depth rest deep
  cases depth with
  | zero => exact absurd deep (Nat.not_succ_le_zero _)
  | succ depth =>
      have enough : members.length <
          (renderMember entry ++ (renderMembers members ++ rest)).length := by
        have length := render_members_length members
        rw [List.length_append, List.length_append]
        omega
      rw [render, List.cons_append, List.cons_append, List.append_assoc, record_opened,
        first_member_read fills depth _ rest (Nat.le_of_succ_le_succ deep) enough]
      simp only [bind, Except.bind, finish_complete record _ last value rest complete built]

end Records

end Dialogue.Json
