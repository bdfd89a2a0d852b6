import Mathlib.Data.List.DropRight
import StartStep.Proofs.Literals

/-!
# A written document is read as itself

The compact and the indented text of a document differ in nothing but the blanks
between its parts, so both are instances of one writer (`spacedChars`), and what
holds of every `Spacing` holds of both. The draft that such a text is read as is
known beforehand: it is `Json.draft`, worked out from the document without any
text. `readDraft_spacedChars` shows that the reader finds this draft, and that it
leaves what follows the text untouched. The second part is what makes the
induction go through, since an item of an array is followed by the other items;
and it needs that what follows cannot go on with a numeral, which is so of a
comma, of a bracket and of blanks.
-/

namespace StartStep.Json

/-! ## The draft of a document -/

mutual

/-- The draft that a document's own text is read as. -/
def draft : Json → Draft
  | .null => .null
  | .bool b => .bool b
  | .number n => (readNumber n.chars).1
  | .string s => .text ⟨.ok s, none⟩
  | .array items => .array (draftItems items)
  | .object fields => .object (draftFields fields)

def draftItems : List Json → DraftItems
  | [] => .closed
  | j :: rest => .item (draft j) (draftItems rest)

def draftFields : List (String × Json) → DraftFields
  | [] => .closed
  | (key, j) :: rest => .field ⟨.ok key, none⟩ (draft j) (draftFields rest)

end

mutual

def numbers : Json → List Number
  | .number n => [n]
  | .array items => itemNumbers items
  | .object fields => fieldNumbers fields
  | _ => []

def itemNumbers : List Json → List Number
  | [] => []
  | j :: rest => numbers j ++ itemNumbers rest

def fieldNumbers : List (String × Json) → List Number
  | [] => []
  | (_, j) :: rest => numbers j ++ fieldNumbers rest

end

theorem skipBlanks_append {blanks : List Char} (h : ∀ c ∈ blanks, isBlank c = true)
    (cs : List Char) : skipBlanks (blanks ++ cs) = skipBlanks cs :=
  List.dropWhile_append_of_pos h

theorem readDraft_skipBlanks (fuel : Nat) (cs : List Char) :
    readDraft fuel (skipBlanks cs) = readDraft fuel cs := by
  have hskip : skipBlanks (skipBlanks cs) = skipBlanks cs := List.dropWhile_idempotent ..
  cases fuel with
  | zero => rfl
  | succ fuel => simp only [readDraft, hskip]

theorem readDraft_string (fuel : Nat) (s : String) (rest : List Char) :
    readDraft (fuel + 1) (stringChars s ++ rest) = (.text ⟨.ok s, none⟩, some rest) := by
  have hskip : skipBlanks (stringChars s ++ rest) =
      '"' :: (s.toList.flatMap escapedChar ++ '"' :: rest) := by
    simp [stringChars, skipBlanks, isBlank]
  simp only [readDraft, hskip, read_literal]

theorem Number.ReadsBack.draft_eq {n : Number} (h : n.ReadsBack) :
    ∃ numeral, (Json.number n).draft = .number numeral ∧ numeral.number = .ok n := by
  obtain ⟨numeral, hread, hnumber⟩ := Number.readsBack_iff.mp h
  exact ⟨numeral, by rw [draft, readNumber, hread], hnumber⟩

theorem readDraft_numeral {c : Char} (hc : (c == '-' || c.isDigit) = true) (fuel : Nat)
    (cs : List Char) : readDraft (fuel + 1) (c :: cs) = readNumber (c :: cs) := by
  have hblank : isBlank c = false := by
    unfold isBlank
    by_contra h
    simp only [Bool.not_eq_false, Bool.or_eq_true, beq_iff_eq] at h
    obtain ((rfl | rfl) | rfl) | rfl := h <;> cases hc
  have hskip : skipBlanks (c :: cs) = c :: cs := List.dropWhile_cons_of_neg (by simp [hblank])
  simp only [readDraft, hskip]
  split
  case h_7 => rw [if_pos hc]
  all_goals cases hc

theorem Numeral.exists_cons_of_read {cs after : List Char} {n : Numeral}
    (h : Numeral.read cs = .ok (n, after)) :
    ∃ c cs', cs = c :: cs' ∧ (c == '-' || c.isDigit) = true := by
  obtain ⟨cs₁, cs₂, _, hsign, hwhole, -, -⟩ := Numeral.read_eq_ok_iff.mp h
  cases cs with
  | nil =>
      rw [← (Prod.mk.inj hsign).2] at hwhole
      cases hwhole
  | cons c cs =>
      refine ⟨c, cs, rfl, ?_⟩
      by_contra hc
      rw [Bool.or_eq_true, not_or, Bool.not_eq_true, Bool.not_eq_true] at hc
      have hminus : sign (c :: cs) = (false, c :: cs) := by
        unfold sign
        split
        · next heq => simp [(List.cons.inj heq).1] at hc
        · rfl
      rw [hminus] at hsign
      rw [← (Prod.mk.inj hsign).2] at hwhole
      simp [readWhole, takeDigits, hc.2] at hwhole

theorem readDraft_number {n : Number} (h : n.ReadsBack) {rest : List Char}
    (hrest : EndsNumeral rest) (fuel : Nat) :
    readDraft (fuel + 1) (n.chars ++ rest) = ((Json.number n).draft, some rest) := by
  obtain ⟨numeral, hread, -⟩ := Number.readsBack_iff.mp h
  obtain ⟨c, cs, hcs, hc⟩ := Numeral.exists_cons_of_read hread
  have happend := Numeral.read_append hrest hread
  rw [hcs, List.cons_append] at happend ⊢
  rw [readDraft_numeral hc, readNumber, happend, draft, readNumber, hread]
  rfl

/-! ### Items and fields -/

theorem readItem_ok {fuel : Nat} {cs after rest : List Char} {value : Draft} {more : DraftItems}
    (hvalue : readDraft fuel cs = (value, some after))
    (hmore : readItems fuel false after = (more, some rest)) :
    readItem (fuel + 1) cs = (.item value more, some rest) := by
  rw [readItem, hvalue]
  simp only [hmore]

theorem readItems_close {blanks : List Char} (h : ∀ c ∈ blanks, isBlank c = true) (fuel : Nat)
    (first : Bool) (rest : List Char) :
    readItems (fuel + 1) first (blanks ++ ']' :: rest) = (.closed, some rest) := by
  rw [readItems, skipBlanks_append h]
  rfl

theorem exists_cons_of_readDraft {fuel : Nat} {cs after : List Char} {value : Draft}
    (h : readDraft fuel cs = (value, some after)) :
    ∃ c rest, skipBlanks cs = c :: rest ∧ c ≠ ']' := by
  cases fuel with
  | zero => simp [readDraft] at h
  | succ fuel =>
      cases hcs : skipBlanks cs with
      | nil => simp [readDraft, hcs] at h
      | cons c rest =>
          refine ⟨c, rest, rfl, ?_⟩
          rintro rfl
          simp [readDraft, hcs] at h

theorem readItems_first {fuel : Nat} {cs after rest : List Char} {value : Draft}
    {more : DraftItems} (hvalue : readDraft fuel cs = (value, some after))
    (hmore : readItems fuel false after = (more, some rest)) :
    readItems (fuel + 2) true cs = (.item value more, some rest) := by
  obtain ⟨c, cs', hcs, hc⟩ := exists_cons_of_readDraft hvalue
  rw [← readDraft_skipBlanks, hcs] at hvalue
  simp only [readItems, hcs, if_neg hc, readItem_ok hvalue hmore, if_true]

theorem readItems_next {fuel : Nat} {cs after rest : List Char} {value : Draft}
    {more : DraftItems} (hvalue : readDraft fuel cs = (value, some after))
    (hmore : readItems fuel false after = (more, some rest)) :
    readItems (fuel + 2) false (',' :: cs) = (.item value more, some rest) := by
  have hskip : skipBlanks (',' :: cs) = ',' :: cs := rfl
  simp only [readItems, hskip, readItem_ok hvalue hmore]
  rfl

theorem readField_ok {fuel : Nat} {key : String} {cs after rest : List Char} {value : Draft}
    {more : DraftFields} (hvalue : readDraft fuel cs = (value, some after))
    (hmore : readFields fuel false after = (more, some rest)) :
    readField (fuel + 1) (stringChars key ++ ':' :: cs) =
      (.field ⟨.ok key, none⟩ value more, some rest) := by
  have hkey : stringChars key ++ ':' :: cs =
      '"' :: (key.toList.flatMap escapedChar ++ '"' :: ':' :: cs) := by
    simp [stringChars]
  have hskip : skipBlanks (':' :: cs) = ':' :: cs := rfl
  rw [hkey, readField]
  simp only [read_literal, hskip, hvalue, hmore]

theorem readFields_close {blanks : List Char} (h : ∀ c ∈ blanks, isBlank c = true) (fuel : Nat)
    (first : Bool) (rest : List Char) :
    readFields (fuel + 1) first (blanks ++ '\x7d' :: rest) = (.closed, some rest) := by
  rw [readFields, skipBlanks_append h]
  rfl

theorem skipBlanks_key {blanks : List Char} (h : ∀ c ∈ blanks, isBlank c = true) (key : String)
    (cs : List Char) : skipBlanks (blanks ++ (stringChars key ++ cs)) = stringChars key ++ cs := by
  rw [skipBlanks_append h]
  rfl

theorem readFields_first {blanks : List Char} (h : ∀ c ∈ blanks, isBlank c = true) {fuel : Nat}
    {key : String} {cs after rest : List Char} {value : Draft} {more : DraftFields}
    (hvalue : readDraft fuel cs = (value, some after))
    (hmore : readFields fuel false after = (more, some rest)) :
    readFields (fuel + 2) true (blanks ++ (stringChars key ++ ':' :: cs)) =
      (.field ⟨.ok key, none⟩ value more, some rest) := by
  rw [readFields, skipBlanks_key h]
  exact readField_ok hvalue hmore

theorem readFields_next {blanks : List Char} (h : ∀ c ∈ blanks, isBlank c = true) {fuel : Nat}
    {key : String} {cs after rest : List Char} {value : Draft} {more : DraftFields}
    (hvalue : readDraft fuel cs = (value, some after))
    (hmore : readFields fuel false after = (more, some rest)) :
    readFields (fuel + 2) false (',' :: (blanks ++ (stringChars key ++ ':' :: cs))) =
      (.field ⟨.ok key, none⟩ value more, some rest) := by
  have hskip := skipBlanks_key h key (':' :: cs)
  rw [readFields]
  simp only [show ∀ cs, skipBlanks (',' :: cs) = ',' :: cs from fun _ => rfl, hskip]
  exact readField_ok hvalue hmore

theorem readDraft_array {fuel : Nat} {cs rest : List Char} {items : DraftItems}
    (h : readItems fuel true cs = (items, some rest)) :
    readDraft (fuel + 1) ('[' :: cs) = (.array items, some rest) := by
  have hskip : skipBlanks ('[' :: cs) = '[' :: cs := rfl
  simp only [readDraft, hskip, h]

theorem readDraft_object {fuel : Nat} {cs rest : List Char} {fields : DraftFields}
    (h : readFields fuel true cs = (fields, some rest)) :
    readDraft (fuel + 1) ('\x7b' :: cs) = (.object fields, some rest) := by
  have hskip : skipBlanks ('\x7b' :: cs) = '\x7b' :: cs := rfl
  simp only [readDraft, hskip, h]

/-! ### Documents with blanks between their parts -/

/-- What stands between the parts of a document: at the start of a line that is
so many levels deep, and behind a key. -/
structure Spacing where
  line : Nat → List Char
  gap : List Char
  isBlank_line : ∀ depth, ∀ c ∈ line depth, isBlank c = true
  isBlank_gap : ∀ c ∈ gap, isBlank c = true

def Spacing.compact : Spacing where
  line _ := []
  gap := []
  isBlank_line := by simp
  isBlank_gap := by simp

def Spacing.indented : Spacing where
  line := newLine
  gap := [' ']
  isBlank_line := by
    intro depth c hc
    rcases List.mem_cons.mp hc with rfl | hc
    · rfl
    · rw [List.eq_of_mem_replicate hc]
      rfl
  isBlank_gap := by simp [isBlank]

@[simp] theorem Spacing.line_compact (depth : Nat) : Spacing.compact.line depth = [] := rfl

@[simp] theorem Spacing.gap_compact : Spacing.compact.gap = [] := rfl

@[simp] theorem Spacing.line_indented (depth : Nat) :
    Spacing.indented.line depth = newLine depth := rfl

@[simp] theorem Spacing.gap_indented : Spacing.indented.gap = [' '] := rfl

mutual

/-- The text of a document that stands at a depth. -/
def spacedChars (s : Spacing) (depth : Nat) : Json → List Char
  | .array [] => ['[', ']']
  | .array (j :: rest) =>
      '[' :: (s.line (depth + 1) ++ (spacedChars s (depth + 1) j ++ moreSpacedItems s depth rest))
  | .object [] => ['\x7b', '\x7d']
  | .object ((key, j) :: rest) =>
      '\x7b' :: (s.line (depth + 1) ++ (stringChars key ++
        ':' :: (s.gap ++ (spacedChars s (depth + 1) j ++ moreSpacedFields s depth rest))))
  | j => chars j

def moreSpacedItems (s : Spacing) (depth : Nat) : List Json → List Char
  | [] => s.line depth ++ [']']
  | j :: rest =>
      ',' :: (s.line (depth + 1) ++ (spacedChars s (depth + 1) j ++ moreSpacedItems s depth rest))

def moreSpacedFields (s : Spacing) (depth : Nat) : List (String × Json) → List Char
  | [] => s.line depth ++ ['\x7d']
  | (key, j) :: rest =>
      ',' :: (s.line (depth + 1) ++ (stringChars key ++
        ':' :: (s.gap ++ (spacedChars s (depth + 1) j ++ moreSpacedFields s depth rest))))

end

mutual

theorem spacedChars_compact (depth : Nat) (j : Json) :
    spacedChars .compact depth j = j.chars := by
  match j with
  | .null | .bool _ | .number _ | .string _ | .array [] | .object [] =>
      simp only [spacedChars, chars]
  | .array (j :: rest) =>
      simp [spacedChars, chars, spacedChars_compact _ j, moreSpacedItems_compact _ rest]
  | .object ((key, j) :: rest) =>
      simp [spacedChars, chars, spacedChars_compact _ j, moreSpacedFields_compact _ rest]

theorem moreSpacedItems_compact (depth : Nat) (items : List Json) :
    moreSpacedItems .compact depth items = moreItems items := by
  match items with
  | [] => rfl
  | j :: rest =>
      simp [moreSpacedItems, moreItems, spacedChars_compact _ j, moreSpacedItems_compact _ rest]

theorem moreSpacedFields_compact (depth : Nat) (fields : List (String × Json)) :
    moreSpacedFields .compact depth fields = moreFields fields := by
  match fields with
  | [] => rfl
  | (key, j) :: rest =>
      simp [moreSpacedFields, moreFields, spacedChars_compact _ j,
        moreSpacedFields_compact _ rest]

end

mutual

theorem spacedChars_indented (depth : Nat) (j : Json) :
    spacedChars .indented depth j = indentedChars depth j := by
  match j with
  | .null | .bool _ | .number _ | .string _ | .array [] | .object [] =>
      simp only [spacedChars, indentedChars]
  | .array (j :: rest) =>
      simp [spacedChars, indentedChars, spacedChars_indented _ j,
        moreSpacedItems_indented _ rest]
  | .object ((key, j) :: rest) =>
      simp [spacedChars, indentedChars, spacedChars_indented _ j,
        moreSpacedFields_indented _ rest]

theorem moreSpacedItems_indented (depth : Nat) (items : List Json) :
    moreSpacedItems .indented depth items = moreIndentedItems depth items := by
  match items with
  | [] => rfl
  | j :: rest =>
      simp [moreSpacedItems, moreIndentedItems, spacedChars_indented _ j,
        moreSpacedItems_indented _ rest]

theorem moreSpacedFields_indented (depth : Nat) (fields : List (String × Json)) :
    moreSpacedFields .indented depth fields = moreIndentedFields depth fields := by
  match fields with
  | [] => rfl
  | (key, j) :: rest =>
      simp [moreSpacedFields, moreIndentedFields, spacedChars_indented _ j,
        moreSpacedFields_indented _ rest]

end

theorem readDraft_blanks {blanks : List Char} (h : ∀ c ∈ blanks, isBlank c = true) (fuel : Nat)
    (cs : List Char) : readDraft fuel (blanks ++ cs) = readDraft fuel cs := by
  rw [← readDraft_skipBlanks, skipBlanks_append h, readDraft_skipBlanks]

theorem endsNumeral_blanks {blanks : List Char} (h : ∀ c ∈ blanks, isBlank c = true)
    {rest : List Char} (hrest : EndsNumeral rest) : EndsNumeral (blanks ++ rest) := by
  intro c hc
  cases blanks with
  | nil => exact hrest c hc
  | cons b blanks =>
      obtain rfl : b = c := Option.some.inj hc
      have hb := h b List.mem_cons_self
      simp only [isBlank, Bool.or_eq_true, beq_iff_eq] at hb
      obtain ((rfl | rfl) | rfl) | rfl := hb <;> decide

theorem endsNumeral_cons {c : Char} (h : c.isDigit = false ∧ c ≠ '.' ∧ c ≠ 'e' ∧ c ≠ 'E')
    (cs : List Char) : EndsNumeral (c :: cs) := by
  intro c' hc
  cases hc
  exact h

theorem endsNumeral_moreSpacedItems (s : Spacing) (depth : Nat) (items : List Json)
    (rest : List Char) : EndsNumeral (moreSpacedItems s depth items ++ rest) := by
  cases items with
  | nil =>
      rw [moreSpacedItems, List.append_assoc]
      exact endsNumeral_blanks (s.isBlank_line depth) (endsNumeral_cons (by decide) _)
  | cons j items => exact endsNumeral_cons (by decide) _

theorem endsNumeral_moreSpacedFields (s : Spacing) (depth : Nat) (fields : List (String × Json))
    (rest : List Char) : EndsNumeral (moreSpacedFields s depth fields ++ rest) := by
  rcases fields with _ | ⟨_, _⟩
  · rw [moreSpacedFields, List.append_assoc]
    exact endsNumeral_blanks (s.isBlank_line depth) (endsNumeral_cons (by decide) _)
  · exact endsNumeral_cons (by decide) _

mutual

/-- The text of a document, followed by what cannot go on with a numeral, is
read to its end and no further. -/
theorem readDraft_spacedChars (s : Spacing) (depth : Nat) (j : Json)
    (hj : ∀ n ∈ j.numbers, n.ReadsBack) (rest : List Char) (hrest : EndsNumeral rest)
    (fuel : Nat) (hfuel : 3 * (spacedChars s depth j).length < fuel) :
    readDraft fuel (spacedChars s depth j ++ rest) = (j.draft, some rest) := by
  obtain ⟨fuel, rfl⟩ : ∃ f, fuel = f + 1 := ⟨fuel - 1, by omega⟩
  match j with
  | .null | .bool true | .bool false => rfl
  | .number n => exact readDraft_number (hj n (List.mem_singleton.mpr rfl)) hrest fuel
  | .string t => exact readDraft_string fuel t rest
  | .array [] =>
      obtain ⟨fuel, rfl⟩ : ∃ f, fuel = f + 1 := ⟨fuel - 1, by simp [spacedChars] at hfuel; omega⟩
      rfl
  | .object [] =>
      obtain ⟨fuel, rfl⟩ : ∃ f, fuel = f + 1 := ⟨fuel - 1, by simp [spacedChars] at hfuel; omega⟩
      rfl
  | .array (j :: items) =>
      simp only [spacedChars, List.cons_append, List.append_assoc, List.length_cons,
        List.length_append] at hfuel ⊢
      -- The bracket pays for the three calls that lead from the array to its item.
      obtain ⟨fuel, rfl⟩ : ∃ f, fuel = f + 2 := ⟨fuel - 2, by omega⟩
      have hvalue := readDraft_spacedChars s (depth + 1) j
        (fun n hn => hj n (List.mem_append_left _ hn)) (moreSpacedItems s depth items ++ rest)
        (endsNumeral_moreSpacedItems s depth items rest) fuel (by omega)
      have hmore := readItems_moreSpacedItems s depth items
        (fun n hn => hj n (List.mem_append_right _ hn)) rest fuel (by omega)
      rw [← readDraft_blanks (s.isBlank_line (depth + 1))] at hvalue
      exact readDraft_array (readItems_first hvalue hmore)
  | .object ((key, j) :: fields) =>
      simp only [spacedChars, List.cons_append, List.append_assoc, List.length_cons,
        List.length_append] at hfuel ⊢
      obtain ⟨fuel, rfl⟩ : ∃ f, fuel = f + 2 := ⟨fuel - 2, by omega⟩
      have hvalue := readDraft_spacedChars s (depth + 1) j
        (fun n hn => hj n (List.mem_append_left _ hn)) (moreSpacedFields s depth fields ++ rest)
        (endsNumeral_moreSpacedFields s depth fields rest) fuel (by omega)
      have hmore := readFields_moreSpacedFields s depth fields
        (fun n hn => hj n (List.mem_append_right _ hn)) rest fuel (by omega)
      rw [← readDraft_blanks s.isBlank_gap] at hvalue
      exact readDraft_object (readFields_first (s.isBlank_line (depth + 1)) hvalue hmore)

theorem readItems_moreSpacedItems (s : Spacing) (depth : Nat) (items : List Json)
    (hitems : ∀ n ∈ itemNumbers items, n.ReadsBack) (rest : List Char) (fuel : Nat)
    (hfuel : 3 * (moreSpacedItems s depth items).length < fuel) :
    readItems fuel false (moreSpacedItems s depth items ++ rest) =
      (draftItems items, some rest) := by
  match items with
  | [] =>
      obtain ⟨fuel, rfl⟩ : ∃ f, fuel = f + 1 := ⟨fuel - 1, by omega⟩
      rw [moreSpacedItems, List.append_assoc]
      exact readItems_close (s.isBlank_line depth) fuel false rest
  | j :: items =>
      simp only [moreSpacedItems, List.cons_append, List.append_assoc, List.length_cons,
        List.length_append] at hfuel ⊢
      obtain ⟨fuel, rfl⟩ : ∃ f, fuel = f + 2 := ⟨fuel - 2, by omega⟩
      have hvalue := readDraft_spacedChars s (depth + 1) j
        (fun n hn => hitems n (List.mem_append_left _ hn)) (moreSpacedItems s depth items ++ rest)
        (endsNumeral_moreSpacedItems s depth items rest) fuel (by omega)
      have hmore := readItems_moreSpacedItems s depth items
        (fun n hn => hitems n (List.mem_append_right _ hn)) rest fuel (by omega)
      rw [← readDraft_blanks (s.isBlank_line (depth + 1))] at hvalue
      exact readItems_next hvalue hmore

theorem readFields_moreSpacedFields (s : Spacing) (depth : Nat) (fields : List (String × Json))
    (hfields : ∀ n ∈ fieldNumbers fields, n.ReadsBack) (rest : List Char) (fuel : Nat)
    (hfuel : 3 * (moreSpacedFields s depth fields).length < fuel) :
    readFields fuel false (moreSpacedFields s depth fields ++ rest) =
      (draftFields fields, some rest) := by
  match fields with
  | [] =>
      obtain ⟨fuel, rfl⟩ : ∃ f, fuel = f + 1 := ⟨fuel - 1, by omega⟩
      rw [moreSpacedFields, List.append_assoc]
      exact readFields_close (s.isBlank_line depth) fuel false rest
  | (key, j) :: fields =>
      simp only [moreSpacedFields, List.cons_append, List.append_assoc, List.length_cons,
        List.length_append] at hfuel ⊢
      obtain ⟨fuel, rfl⟩ : ∃ f, fuel = f + 2 := ⟨fuel - 2, by omega⟩
      have hvalue := readDraft_spacedChars s (depth + 1) j
        (fun n hn => hfields n (List.mem_append_left _ hn))
        (moreSpacedFields s depth fields ++ rest)
        (endsNumeral_moreSpacedFields s depth fields rest) fuel (by omega)
      have hmore := readFields_moreSpacedFields s depth fields
        (fun n hn => hfields n (List.mem_append_right _ hn)) rest fuel (by omega)
      rw [← readDraft_blanks s.isBlank_gap] at hvalue
      exact readFields_next (s.isBlank_line (depth + 1)) hvalue hmore

end

theorem ofText_spacedChars (s : Spacing) {j : Json} (hj : ∀ n ∈ j.numbers, n.ReadsBack) :
    Draft.ofText (String.ofList (spacedChars s 0 j)) = (j.draft, some []) := by
  have hread := readDraft_spacedChars s 0 j hj [] (by simp [EndsNumeral])
  rw [List.append_nil] at hread
  rw [Draft.ofText, String.toList_ofList]
  exact hread _ (by omega)

theorem ofText_compact {j : Json} (hj : ∀ n ∈ j.numbers, n.ReadsBack) :
    Draft.ofText j.compact = (j.draft, some []) := by
  rw [Json.compact, ← spacedChars_compact 0, ofText_spacedChars _ hj]

theorem ofText_indented {j : Json} (hj : ∀ n ∈ j.numbers, n.ReadsBack) :
    Draft.ofText j.indented = (j.draft, some []) := by
  rw [Json.indented, ← spacedChars_indented 0, ofText_spacedChars _ hj]

end StartStep.Json
