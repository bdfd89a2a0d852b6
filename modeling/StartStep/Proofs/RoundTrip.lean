import StartStep.Fixture
import StartStep.Proofs.Drafts

/-!
# What is written is read back as it was

A text is read as the draft that its document foretells, so what is left is a
walk of the decoders over drafts without faults, and only room can be wanting
there. `Recovers` says that a decoder gives a value back from a document in any
room that the document fits into, and that the numbers in it come back from their
texts. It is put together as the decoders are: lists and maps from their parts,
values along their nesting (`recovers_tagged`), and records field by field, where
`Gathers` holds what makes a field acceptable, namely that the form knows its name
and that the name has not been given before.

Two things are asked of what is written. Its doubles have to survive, which depends
on the double (`Double.Survives`). And the plain documents in a fixture have to be
`Proper`: they are put in order when they are read, so no others could come back.
-/

namespace StartStep

namespace SortedMap

variable {α : Type}

theorem insertEntry_of_lt {k : String} {v : α} : ∀ {entries : List (String × α)},
    (∀ e ∈ entries, compare e.1 k = .lt) → insertEntry k v entries = entries ++ [(k, v)]
  | [], _ => rfl
  | e :: entries, h => by
      have hgt := Std.OrientedCmp.gt_of_lt (h e List.mem_cons_self)
      rw [insertEntry, hgt]
      simp only [insertEntry_of_lt fun e he => h e (List.mem_cons_of_mem _ he), List.cons_append]

theorem foldl_insert_entries (entries : List (String × α)) : ∀ m : SortedMap String α,
    KeysIncrease (m.entries ++ entries) →
    (entries.foldl (fun m e => m.insert e.1 e.2) m).entries = m.entries ++ entries := by
  induction entries with
  | nil => intro m _; rw [List.foldl_nil, List.append_nil]
  | cons e entries ih =>
      intro m h
      have hinsert : (m.insert e.1 e.2).entries = m.entries ++ [e] :=
        insertEntry_of_lt fun e' he' =>
          (List.pairwise_append.mp h).2.2 e' he' e List.mem_cons_self
      rw [List.foldl_cons, ih _ (by rw [hinsert, List.append_assoc]; exact h), hinsert,
        List.append_assoc]
      rfl

/-- A map is made again from its entries. -/
theorem ofList_entries (m : SortedMap String α) : SortedMap.ofList m.entries = m := by
  have h := foldl_insert_entries m.entries .empty m.increasing
  obtain ⟨entries, increasing⟩ := m
  unfold SortedMap.ofList
  exact (SortedMap.mk.injEq ..).mpr h

end SortedMap

namespace Json

variable {α β : Type}

/-- Room for an array is room for its items and a level more. -/
theorem exists_room_array {items : List Json} {room : Nat}
    (h : (Json.array items).depth ≤ room) :
    ∃ inner, room = inner + 1 ∧ depthItems items ≤ inner := by
  rw [depth] at h
  exact ⟨room - 1, by omega, by omega⟩

theorem exists_room_object {fields : List (String × Json)} {room : Nat}
    (h : (Json.object fields).depth ≤ room) :
    ∃ inner, room = inner + 1 ∧ depthFields fields ≤ inner := by
  rw [depth] at h
  exact ⟨room - 1, by omega, by omega⟩

/-- A decoder gives `a` back from the draft of a document, if only the document
fits into the room that is left. -/
structure Recovers (decode : Decoder α) (j : Json) (a : α) : Prop where
  numbers : ∀ n ∈ j.numbers, n.ReadsBack
  decodes : ∀ room, j.depth ≤ room → decode room j.draft = .ok a

theorem Recovers.decodeText {decode : Decoder α} {j : Json} {a : α} (h : Recovers decode j a)
    (hdepth : j.depth ≤ deepest) {text : String} (htext : text ∈ [j.compact, j.indented]) :
    decodeText decode text = .ok a := by
  have hread : Draft.ofText text = (j.draft, some []) := by
    rcases List.mem_cons.mp htext with rfl | htext
    · exact ofText_compact h.numbers
    · rw [List.mem_singleton.mp htext]
      exact ofText_indented h.numbers
  unfold Json.decodeText
  rw [hread]
  simp only [h.decodes deepest hdepth, ok_bind]
  rfl

theorem Recovers.map {decode : Decoder α} {j : Json} {a : α} (h : Recovers decode j a)
    (f : α → β) : Recovers (fun room d => f <$> decode room d) j (f a) where
  numbers := h.numbers
  decodes room hroom := by
    rw [h.decodes room hroom]
    rfl

/-! ## Scalars -/

theorem recovers_string (s : String) : Recovers decodeString (.string s) s where
  numbers := by simp [numbers]
  decodes _ _ := rfl

theorem recovers_choice {choices : String → Option α} {name : String} {a : α}
    (h : choices name = some a) : Recovers (decodeChoice choices) (.string name) a where
  numbers := by simp [numbers]
  decodes _ _ := by
    show named choices name = .ok a
    rw [named, h]

theorem recovers_integer (least greatest : Int) {i : Int} (hleast : least ≤ i)
    (hgreatest : i ≤ greatest) (h : (Number.integer i).ReadsBack) :
    Recovers (decodeInteger least greatest) (.integer i) i where
  numbers := by
    intro n hn
    rw [List.mem_singleton.mp hn]
    exact h
  decodes _ _ := by
    obtain ⟨numeral, hdraft, hnumber⟩ := h.draft_eq
    rw [Json.integer, hdraft, decodeInteger]
    simp [hnumber, hleast, hgreatest]

theorem recovers_int64 (i : Int64) : Recovers decodeInt64 (.integer i.toInt) i := by
  have hleast := i.le_toInt
  have hgreatest := i.toInt_lt
  have h := recovers_integer (-0x8000000000000000) 0x7FFFFFFFFFFFFFFF (by omega)
    (by omega) (Number.readsBack_integer (i := i.toInt) (by omega) (by omega))
  have hmap := h.map Int64.ofInt
  rw [Int64.ofInt_toInt] at hmap
  exact hmap

theorem recovers_id (id : ElementId) : Recovers decodeUInt64 (idJson id) id := by
  have hlt := id.toNat_lt
  have h := recovers_integer 0 0xFFFFFFFFFFFFFFFF (by omega)
    (by omega) (Number.readsBack_integer (i := (id.toNat : Int)) (by omega) (by omega))
  have hmap := h.map fun i => UInt64.ofNat i.toNat
  rw [Int.toNat_natCast, UInt64.ofNat_toNat] at hmap
  exact hmap

/-! ## Lists, maps and options -/

theorem recovers_items {decode : Decoder α} {write : α → Json} : ∀ {items : List α},
    (∀ a ∈ items, Recovers decode (write a) a) →
    (∀ n ∈ itemNumbers (items.map write), n.ReadsBack) ∧
      ∀ room, depthItems (items.map write) ≤ room →
        decodeItems decode room (draftItems (items.map write)) = .ok items
  | [], _ => ⟨by simp [itemNumbers], fun _ _ => rfl⟩
  | a :: items, h => by
      have ha := h a List.mem_cons_self
      obtain ⟨hnumbers, hdecodes⟩ := recovers_items fun b hb => h b (List.mem_cons_of_mem _ hb)
      refine ⟨fun n hn => ?_, fun room hroom => ?_⟩
      · rcases List.mem_append.mp hn with hn | hn
        · exact ha.numbers n hn
        · exact hnumbers n hn
      · rw [List.map_cons, depthItems] at hroom
        rw [List.map_cons, draftItems, decodeItems, ha.decodes room (by omega), ok_bind,
          hdecodes room (by omega), ok_bind]

theorem recovers_list {decode : Decoder α} {write : α → Json} {items : List α}
    (h : ∀ a ∈ items, Recovers decode (write a) a) :
    Recovers (decodeList decode) (.array (items.map write)) items where
  numbers := (recovers_items h).1
  decodes room hroom := by
    obtain ⟨room, rfl, hinner⟩ := exists_room_array hroom
    exact (recovers_items h).2 room hinner

theorem recovers_strings (items : List String) :
    Recovers (decodeList decodeString) (.strings items) items :=
  recovers_list fun s _ => recovers_string s

theorem recovers_entries {decode : Decoder α} {write : α → Json} :
    ∀ {entries : List (String × α)}, (∀ e ∈ entries, Recovers decode (write e.2) e.2) →
    (∀ n ∈ fieldNumbers (entries.map fun e => (e.1, write e.2)), n.ReadsBack) ∧
      ∀ room, depthFields (entries.map fun e => (e.1, write e.2)) ≤ room →
        decodeEntries decode room (draftFields (entries.map fun e => (e.1, write e.2))) =
          .ok entries
  | [], _ => ⟨by simp [fieldNumbers], fun _ _ => rfl⟩
  | (key, a) :: entries, h => by
      have ha := h (key, a) List.mem_cons_self
      obtain ⟨hnumbers, hdecodes⟩ := recovers_entries fun b hb => h b (List.mem_cons_of_mem _ hb)
      refine ⟨fun n hn => ?_, fun room hroom => ?_⟩
      · rcases List.mem_append.mp hn with hn | hn
        · exact ha.numbers n hn
        · exact hnumbers n hn
      · rw [List.map_cons, depthFields] at hroom
        rw [List.map_cons, draftFields, decodeEntries, ok_bind, ha.decodes room (by omega),
          ok_bind, hdecodes room (by omega), ok_bind]

theorem recovers_map {decode : Decoder α} {write : α → Json} {m : SortedMap String α}
    (h : ∀ e ∈ m.entries, Recovers decode (write e.2) e.2) :
    Recovers (decodeMap decode) (.object (m.entries.map fun e => (e.1, write e.2))) m where
  numbers := (recovers_entries h).1
  decodes room hroom := by
    obtain ⟨room, rfl, hinner⟩ := exists_room_object hroom
    have hentries := (recovers_entries h).2 room hinner
    rw [draft, decodeMap, enter, ok_bind, hentries]
    exact congrArg Except.ok m.ofList_entries

theorem recovers_some_id (id : ElementId) :
    Recovers (decodeOption decodeUInt64) (idJson id) (some id) where
  numbers := (recovers_id id).numbers
  decodes room hroom := by
    -- Only `null` stands for nothing, and the draft of a number is not that.
    have h := (recovers_id id).decodes room hroom
    obtain ⟨numeral, hdraft, -⟩ := ((recovers_id id).numbers _ List.mem_cons_self).draft_eq
    rw [idJson, natural, hdraft] at h ⊢
    rw [decodeOption, h]
    · rfl
    · simp

/-! ## Plain documents -/

mutual

theorem decodeJson_draft (j : Json) (hj : ∀ n ∈ j.numbers, n.ReadsBack) (room : Nat)
    (hroom : j.depth ≤ room) : decodeJson room j.draft = .ok j := by
  match j with
  | .null | .bool _ | .string _ => rfl
  | .number n =>
      obtain ⟨numeral, hdraft, hnumber⟩ := (hj n List.mem_cons_self).draft_eq
      rw [hdraft, decodeJson, hnumber, ok_bind]
  | .array items =>
      obtain ⟨room, rfl, hinner⟩ := exists_room_array hroom
      rw [draft, decodeJson, enter, ok_bind, decodeJsonItems_draft items hj room hinner, ok_bind]
  | .object fields =>
      obtain ⟨room, rfl, hinner⟩ := exists_room_object hroom
      rw [draft, decodeJson, enter, ok_bind, decodeJsonFields_draft fields hj room hinner,
        ok_bind]

theorem decodeJsonItems_draft (items : List Json) (hitems : ∀ n ∈ itemNumbers items, n.ReadsBack)
    (room : Nat) (hroom : depthItems items ≤ room) :
    decodeJsonItems room (draftItems items) = .ok items := by
  match items with
  | [] => rfl
  | j :: items =>
      rw [depthItems] at hroom
      rw [draftItems, decodeJsonItems,
        decodeJson_draft j (fun n hn => hitems n (List.mem_append_left _ hn)) room (by omega),
        ok_bind, decodeJsonItems_draft items (fun n hn => hitems n (List.mem_append_right _ hn))
          room (by omega), ok_bind]

theorem decodeJsonFields_draft (fields : List (String × Json))
    (hfields : ∀ n ∈ fieldNumbers fields, n.ReadsBack) (room : Nat)
    (hroom : depthFields fields ≤ room) :
    decodeJsonFields room (draftFields fields) = .ok fields := by
  match fields with
  | [] => rfl
  | (key, j) :: fields =>
      rw [depthFields] at hroom
      rw [draftFields, decodeJsonFields, ok_bind,
        decodeJson_draft j (fun n hn => hfields n (List.mem_append_left _ hn)) room (by omega),
        ok_bind, decodeJsonFields_draft fields
          (fun n hn => hfields n (List.mem_append_right _ hn)) room (by omega), ok_bind]

end

theorem recovers_json {j : Json} (hj : ∀ n ∈ j.numbers, n.ReadsBack) :
    Recovers decodeJson j j where
  numbers := hj
  decodes := decodeJson_draft j hj

/-- A document whose numbers come back is known from its indented text. -/
theorem indented_inj {j j' : Json} (hj : ∀ n ∈ j.numbers, n.ReadsBack)
    (hj' : ∀ n ∈ j'.numbers, n.ReadsBack) : j.indented = j'.indented ↔ j = j' := by
  constructor
  · intro h
    have hdraft : j.draft = j'.draft := by
      have htext := ofText_indented hj
      rw [h, ofText_indented hj'] at htext
      exact (Prod.mk.inj htext).1.symm
    have hdecode := decodeJson_draft j hj (max j.depth j'.depth) (Nat.le_max_left ..)
    rw [hdraft, decodeJson_draft j' hj' _ (Nat.le_max_right ..)] at hdecode
    exact (Except.ok.inj hdecode).symm
  · intro h
    rw [h]

def floats (j : Json) : List Double :=
  j.numbers.filterMap fun n => match n with
    | .float x => some x
    | .integer _ => none

/-- Whether a number is one that documents hold: integers have 64 bits. -/
def Number.InRange : Number → Prop
  | .integer i => -0x8000000000000000 ≤ i ∧ i < 0x10000000000000000
  | .float _ => True

instance : DecidablePred Number.InRange := fun n => by
  cases n <;> unfold Number.InRange <;> infer_instance

/-- Documents as a reader makes them: objects are sorted and hold no key twice,
and the numbers are in range. -/
structure Proper (j : Json) : Prop where
  normal_eq : j.normal = j
  inRange : ∀ n ∈ j.numbers, n.InRange

end Json

open Json

/-! ## Doubles -/

/-- Doubles that can be written and come back when they are read. -/
def Double.Survives (x : Double) : Prop := x.isFinite = true ∧ (Number.float x).ReadsBack

instance : DecidablePred Double.Survives :=
  fun x => inferInstanceAs (Decidable (x.isFinite = true ∧ (Number.float x).ReadsBack))

theorem Double.Survives.ofDouble {x : Double} (h : x.Survives) :
    Json.ofDouble x = .number (.float x) := by
  rw [Json.ofDouble, if_pos h.1]

theorem Json.Proper.readsBack {j : Json} (h : j.Proper) (hfloats : ∀ x ∈ j.floats, x.Survives) :
    ∀ n ∈ j.numbers, n.ReadsBack := by
  intro n hn
  cases n with
  | integer i =>
      obtain ⟨hleast, hgreatest⟩ := h.inRange _ hn
      exact Number.readsBack_integer hleast hgreatest
  | float x => exact (hfloats x (List.mem_filterMap.mpr ⟨_, hn, rfl⟩)).2

theorem recovers_plain {j : Json} (h : j.Proper) (hfloats : ∀ x ∈ j.floats, x.Survives) :
    Recovers decodePlain j j := by
  have hnormal := (recovers_json (h.readsBack hfloats)).map normal
  rw [h.normal_eq] at hnormal
  exact hnormal

theorem recovers_double {x : Double} (h : x.Survives) :
    Recovers decodeDouble (.ofDouble x) x where
  numbers := by
    rw [h.ofDouble]
    intro n hn
    rw [List.mem_singleton.mp hn]
    exact h.2
  decodes _ _ := by
    obtain ⟨numeral, hdraft, hnumber⟩ := h.2.draft_eq
    rw [h.ofDouble, hdraft, decodeDouble, hnumber]
    rfl

/-! ## Values with their kind -/

namespace Value

mutual

def floats : Value → List Double
  | .float x => [x]
  | .list items => itemFloats items
  | _ => []

def itemFloats : List Value → List Double
  | [] => []
  | v :: rest => floats v ++ itemFloats rest

end

theorem decodeFields_tag {room : Nat} {content : Draft} {kind : Kind}
    (h : decodeChoice Kind.ofName room content = .ok kind) (rest : DraftFields) :
    decodeFields room .start (.field ⟨.ok "t", none⟩ content rest) =
      decodeFields room (.tag kind) rest := by
  show (decodeChoice Kind.ofName room content >>= fun kind =>
    decodeFields room (.tag kind) rest) = _
  rw [h, ok_bind]

theorem decodeFields_content {room : Nat} {content : Draft} {kind : Kind} {v : Value}
    (h : decodeContent kind room content = .ok v) :
    decodeFields room (.tag kind) (.field ⟨.ok "v", none⟩ content .closed) = .ok v := by
  show (decodeContent kind room content >>= fun v =>
    decodeFields room (.done v) .closed) = _
  rw [h, ok_bind]
  rfl

theorem recovers_taggedObject {name : String} (kind : Kind) {content : Json} {v : Value}
    (hname : Kind.ofName name = some kind)
    (hcontent : Recovers (decodeContent kind) content v) :
    Recovers decode (taggedObject name content) v where
  numbers := by
    intro n hn
    simp only [taggedObject, numbers, fieldNumbers, List.nil_append, List.append_nil] at hn
    exact hcontent.numbers n hn
  decodes room hroom := by
    obtain ⟨room, rfl, hinner⟩ := exists_room_object hroom
    simp only [depthFields] at hinner
    have hkind := (recovers_choice hname).decodes room (Nat.zero_le _)
    have hv := hcontent.decodes room (by omega)
    rw [taggedObject, draft, decode, enter, ok_bind, draftFields, draftFields, draftFields,
      decodeFields_tag hkind, decodeFields_content hv]

theorem taggedItems_eq_map : ∀ items : List Value, taggedItems items = items.map tagged
  | [] => rfl
  | v :: items => by rw [taggedItems, List.map_cons, taggedItems_eq_map items]

theorem decodeItemValues_eq (room : Nat) : ∀ items : DraftItems,
    decodeItemValues room items = decodeItems decode room items
  | .closed | .broken _ => rfl
  | .item value rest => by
      rw [decodeItemValues, decodeItems, decodeItemValues_eq room rest]

/-! ### What stands under each kind -/

theorem recovers_int (i : Int64) :
    Recovers (decodeContent .int) (.integer i.toInt) (.int i) where
  numbers := (recovers_int64 i).numbers
  decodes room hroom := by
    -- Arrays and objects are refused before the kind counts, and a draft that is not
    -- worked out might still be one.
    have h := ((recovers_int64 i).map Value.int).decodes room hroom
    obtain ⟨numeral, hdraft, -⟩ := ((recovers_int64 i).numbers _ List.mem_cons_self).draft_eq
    rw [Json.integer, hdraft] at h ⊢
    exact h

theorem recovers_float {x : Double} (hx : x.Survives) :
    Recovers (decodeContent .float) (.ofDouble x) (.float x) where
  numbers := (recovers_double hx).numbers
  decodes room hroom := by
    have h := ((recovers_double hx).map Value.float).decodes room hroom
    obtain ⟨numeral, hdraft, -⟩ := hx.2.draft_eq
    rw [hx.ofDouble, hdraft] at h ⊢
    exact h

theorem recovers_listContent {items : List Value}
    (h : ∀ v ∈ items, Recovers decode v.tagged v) :
    Recovers (decodeContent .list) (.array (taggedItems items)) (.list items) where
  numbers := by
    rw [taggedItems_eq_map]
    exact (recovers_list h).numbers
  decodes room hroom := by
    rw [taggedItems_eq_map] at hroom ⊢
    obtain ⟨room, rfl, hinner⟩ := exists_room_array hroom
    have hitems := (recovers_items h).2 room hinner
    rw [draft, decodeContent, enter, ok_bind, decodeItemValues_eq, hitems, ok_bind]

mutual

theorem recovers_tagged (v : Value) (h : ∀ x ∈ v.floats, x.Survives) :
    Recovers decode v.tagged v := by
  match v with
  | .null =>
      refine ⟨by simp [tagged, numbers, fieldNumbers], fun room hroom => ?_⟩
      obtain ⟨room, rfl, -⟩ := exists_room_object hroom
      rfl
  | .bool b =>
      exact recovers_taggedObject .bool rfl
        ⟨by simp [numbers], fun _ _ => rfl⟩
  | .int i => exact recovers_taggedObject .int rfl (recovers_int i)
  | .float x =>
      exact recovers_taggedObject .float rfl (recovers_float (h x List.mem_cons_self))
  | .string s =>
      exact recovers_taggedObject .string rfl
        ⟨by simp [numbers], fun _ _ => rfl⟩
  | .list items =>
      exact recovers_taggedObject .list rfl
        (recovers_listContent (recovers_taggedItems items h))

theorem recovers_taggedItems (items : List Value) (h : ∀ x ∈ itemFloats items, x.Survives) :
    ∀ v ∈ items, Recovers decode v.tagged v := by
  match items with
  | [] => simp
  | v :: items =>
      have hv := recovers_tagged v fun x hx => h x (List.mem_append_left _ hx)
      have hitems := recovers_taggedItems items fun x hx => h x (List.mem_append_right _ hx)
      intro u hu
      rcases List.mem_cons.mp hu with rfl | hu
      · exact hv
      · exact hitems u hu

end

end Value

/-! ## Records -/

namespace Json

variable {α : Type} {form : RecordForm α}

/-- Fields that a form takes in one after the other, from the names that were
given and the record that was gathered before, to those after. -/
inductive Gathers (form : RecordForm α) :
    List String → α → List (String × Json) → List String → α → Prop
  | nil (seen : List String) (a : α) : Gathers form seen a [] seen a
  | cons {seen seen' : List String} {a b c : α} {j : Json} {rest : List (String × Json)}
      (name : String) (hname : name ∈ form.names ∧ name ∉ seen)
      (h : Recovers (fun room d => form.decode name room d a) j b)
      (hrest : Gathers form (name :: seen) b rest seen' c) :
      Gathers form seen a ((name, j) :: rest) seen' c

theorem Gathers.numbers {seen seen' : List String} {a b : α} {fields : List (String × Json)}
    (h : Gathers form seen a fields seen' b) : ∀ n ∈ fieldNumbers fields, n.ReadsBack := by
  induction h with
  | nil => simp [fieldNumbers]
  | cons _ _ hj _ ih =>
      intro n hn
      rcases List.mem_append.mp hn with hn | hn
      · exact hj.numbers n hn
      · exact ih n hn

theorem Gathers.decodeByName {seen seen' : List String} {a b : α}
    {fields : List (String × Json)} (h : Gathers form seen a fields seen' b) {room : Nat}
    (hroom : depthFields fields ≤ room) :
    decodeByName form.decode form.names room seen a (draftFields fields) = .ok (seen', b) := by
  induction h with
  | nil => rfl
  | @cons seen _ _ _ _ _ _ name hname hj _ ih =>
      rw [depthFields] at hroom
      have hcontains : form.names.contains name = true := List.contains_iff_mem.mpr hname.1
      have hfresh : ¬ seen.contains name = true := fun h =>
        hname.2 (List.contains_iff_mem.mp h)
      rw [draftFields, Json.decodeByName, ok_bind, if_pos hcontains, if_neg hfresh,
        hj.decodes room (by omega), ok_bind, ih (by omega)]

theorem Gathers.recovers {seen : List String} {a : α} {fields : List (String × Json)}
    (h : Gathers form [] form.blank fields seen a)
    (hrequired : form.required.all seen.contains = true) :
    Recovers form.read (.object fields) a where
  numbers := h.numbers
  decodes room hroom := by
    obtain ⟨room, rfl, hinner⟩ := exists_room_object hroom
    unfold RecordForm.read
    simp only [draft, enter, ok_bind, h.decodeByName hinner]
    rw [if_pos hrequired]

end Json

theorem recovers_kind (k : ElementKind) : Recovers ElementKind.decode k.json k :=
  recovers_choice (by cases k <;> rfl)

theorem recovers_predicate (p : Predicate) : Recovers Predicate.decode p.json p :=
  recovers_choice (by cases p <;> decide)

theorem recovers_constraint (c : Constraint) (h : ∀ x ∈ c.value.floats, x.Survives) :
    Recovers Constraint.decode c.json c := by
  have hkey := (recovers_string c.key).map fun key => (⟨key, .eq, .null⟩ : Constraint)
  have hpredicate := (recovers_predicate c.predicate).map fun predicate =>
    (⟨c.key, predicate, .null⟩ : Constraint)
  have hvalue := (Value.recovers_tagged c.value h).map fun value =>
    (⟨c.key, c.predicate, value⟩ : Constraint)
  have hfields : Gathers Constraint.form [] Constraint.form.blank _ _ c :=
    .cons "key" (by decide) hkey (.cons "predicate" (by decide) hpredicate
      (.cons "value" (by decide) hvalue (.nil _ _)))
  exact hfields.recovers rfl

theorem recovers_index (i : Index) : Recovers Index.decode i.json i := by
  have hname := (recovers_string i.name).map fun name => (⟨name, "", []⟩ : Index)
  have hclass := (recovers_string i.className).map fun className =>
    (⟨i.name, className, []⟩ : Index)
  have hkeys := (recovers_strings i.fields).map fun fields =>
    (⟨i.name, i.className, fields⟩ : Index)
  have hfields : Gathers Index.form [] Index.form.blank _ _ i :=
    .cons "name" (by decide) hname (.cons "class_name" (by decide) hclass
      (.cons "fields" (by decide) hkeys (.nil _ _)))
  exact hfields.recovers rfl

/-- An element comes back from its document, whichever of its ends are given. -/
theorem recovers_element (e : Element)
    (h : ∀ v ∈ e.properties.values, ∀ x ∈ v.floats, x.Survives) :
    Recovers Element.decode e.json e := by
  obtain ⟨id, kind, label, properties, out, into⟩ := e
  have hid := (recovers_id id).map fun id => (⟨id, .vertex, "", .empty, none, none⟩ : Element)
  have hkind := (recovers_kind kind).map fun kind =>
    (⟨id, kind, "", .empty, none, none⟩ : Element)
  have hlabel := (recovers_string label).map fun label =>
    (⟨id, kind, label, .empty, none, none⟩ : Element)
  have hvalues : ∀ p ∈ properties.entries, Recovers Value.decode p.2.tagged p.2 :=
    fun p hp => Value.recovers_tagged p.2 (h p.2 (List.mem_map_of_mem hp))
  have hproperties := (recovers_map hvalues).map fun properties =>
    (⟨id, kind, label, properties, none, none⟩ : Element)
  have hstart {rest : List (String × Json)} {seen : List String} {e : Element}
      (hrest : Gathers Element.form ["properties", "label", "kind", "id"]
        ⟨id, kind, label, properties, none, none⟩ rest seen e) :
      Gathers Element.form [] Element.form.blank (("id", idJson id) :: ("kind", kind.json) ::
        ("label", .string label) :: ("properties", propertiesJson properties) :: rest) seen e :=
    .cons "id" (by decide) hid (.cons "kind" (by decide) hkind
      (.cons "label" (by decide) hlabel (.cons "properties" (by decide) hproperties hrest)))
  have hout (out : ElementId) := (recovers_some_id out).map fun out =>
    (⟨id, kind, label, properties, out, none⟩ : Element)
  have hinto (out : Option ElementId) (into : ElementId) := (recovers_some_id into).map
    fun into => (⟨id, kind, label, properties, out, into⟩ : Element)
  cases out with
  | none =>
      cases into with
      | none => exact (hstart (.nil _ _)).recovers rfl
      | some into =>
          exact (hstart (.cons "in_vertex" (by decide) (hinto none into) (.nil _ _))).recovers rfl
  | some out =>
      cases into with
      | none => exact (hstart (.cons "out_vertex" (by decide) (hout out) (.nil _ _))).recovers rfl
      | some into =>
          exact (hstart (.cons "out_vertex" (by decide) (hout out)
            (.cons "in_vertex" (by decide) (hinto (some out) into) (.nil _ _)))).recovers rfl

/-! ## Fixtures -/

def Fixture.documents (f : Fixture) : List Json :=
  f.vertices.flatMap (·.properties.values) ++ f.edges.flatMap (·.properties.values)

theorem recovers_plainJson {properties : SortedMap String Json}
    (h : ∀ j ∈ properties.values, Recovers decodePlain j j) :
    Recovers (decodeMap decodePlain) (plainJson properties) properties := by
  have hmap : Recovers (decodeMap decodePlain)
      (.object (properties.entries.map fun e => (e.1, id e.2))) properties :=
    recovers_map fun e he => h e.2 (List.mem_map_of_mem he)
  have hentries : (properties.entries.map fun e => (e.1, id e.2)) = properties.entries :=
    List.map_id _
  rw [hentries] at hmap
  exact hmap

theorem recovers_vertexRecord (r : VertexRecord)
    (h : ∀ j ∈ r.properties.values, Recovers decodePlain j j) :
    Recovers VertexRecord.form.read r.json r := by
  have hid := (recovers_id r.id).map fun id => (⟨id, "", .empty⟩ : VertexRecord)
  have hlabel := (recovers_string r.label).map fun label =>
    (⟨r.id, label, .empty⟩ : VertexRecord)
  have hproperties := (recovers_plainJson h).map fun properties =>
    (⟨r.id, r.label, properties⟩ : VertexRecord)
  have hfields : Gathers VertexRecord.form [] VertexRecord.form.blank _ _ r :=
    .cons "id" (by decide) hid (.cons "label" (by decide) hlabel
      (.cons "properties" (by decide) hproperties (.nil _ _)))
  exact hfields.recovers rfl

theorem recovers_edgeRecord (r : EdgeRecord)
    (h : ∀ j ∈ r.properties.values, Recovers decodePlain j j) :
    Recovers EdgeRecord.form.read r.json r := by
  have hid := (recovers_id r.id).map fun id => (⟨id, "", 0, 0, .empty⟩ : EdgeRecord)
  have hlabel := (recovers_string r.label).map fun label =>
    (⟨r.id, label, 0, 0, .empty⟩ : EdgeRecord)
  have hout := (recovers_id r.out).map fun out =>
    (⟨r.id, r.label, out, 0, .empty⟩ : EdgeRecord)
  have hinto := (recovers_id r.into).map fun into =>
    (⟨r.id, r.label, r.out, into, .empty⟩ : EdgeRecord)
  have hproperties := (recovers_plainJson h).map fun properties =>
    (⟨r.id, r.label, r.out, r.into, properties⟩ : EdgeRecord)
  have hfields : Gathers EdgeRecord.form [] EdgeRecord.form.blank _ _ r :=
    .cons "id" (by decide) hid (.cons "label" (by decide) hlabel
      (.cons "out" (by decide) hout (.cons "in" (by decide) hinto
        (.cons "properties" (by decide) hproperties (.nil _ _)))))
  exact hfields.recovers rfl

theorem recovers_indexRecord (r : IndexRecord) :
    Recovers IndexRecord.form.read r.json r := by
  have hname := (recovers_string r.name).map fun name => (⟨name, .vertex, "", []⟩ : IndexRecord)
  have hkind := (recovers_kind r.kind).map fun kind => (⟨r.name, kind, "", []⟩ : IndexRecord)
  have hlabel := (recovers_string r.label).map fun label =>
    (⟨r.name, r.kind, label, []⟩ : IndexRecord)
  have hkeys := (recovers_strings r.fields).map fun fields =>
    (⟨r.name, r.kind, r.label, fields⟩ : IndexRecord)
  have hfields : Gathers IndexRecord.form [] IndexRecord.form.blank _ _ r :=
    .cons "name" (by decide) hname (.cons "kind" (by decide) hkind
      (.cons "label" (by decide) hlabel (.cons "fields" (by decide) hkeys (.nil _ _))))
  exact hfields.recovers rfl

/-- A fixture comes back from its document if its plain documents do. -/
theorem recovers_fixture (f : Fixture) (h : ∀ j ∈ f.documents, Recovers decodePlain j j) :
    Recovers Fixture.decode f.json f := by
  have hvertices := (recovers_list fun r hr => recovers_vertexRecord r fun j hj =>
      h j (List.mem_append_left _ (List.mem_flatMap.mpr ⟨r, hr, hj⟩))).map
    fun vertices => (⟨vertices, [], []⟩ : Fixture)
  have hedges := (recovers_list fun r hr => recovers_edgeRecord r fun j hj =>
      h j (List.mem_append_right _ (List.mem_flatMap.mpr ⟨r, hr, hj⟩))).map
    fun edges => (⟨f.vertices, edges, []⟩ : Fixture)
  have hindexes := (recovers_list fun r (_ : r ∈ f.indexes) => recovers_indexRecord r).map
    fun indexes => (⟨f.vertices, f.edges, indexes⟩ : Fixture)
  have hfields : Gathers Fixture.form [] Fixture.form.blank _ _ f :=
    .cons "vertices" (by decide) hvertices (.cons "edges" (by decide) hedges
      (.cons "indexes" (by decide) hindexes (.nil _ _)))
  exact hfields.recovers rfl

theorem Json.Recovers.parse_compact {f : Fixture} (h : Recovers Fixture.decode f.json f)
    (hdepth : f.json.depth ≤ deepest) : Fixture.parse f.json.compact = .ok f := by
  unfold Fixture.parse
  rw [h.decodeText hdepth List.mem_cons_self]
  rfl

/-! ## Every form at once -/

theorem depthItems_strings (items : List String) : depthItems (items.map Json.string) = 0 := by
  induction items with
  | nil => rfl
  | cons s items ih => rw [List.map_cons, depthItems, ih]; rfl

theorem depth_index_le (i : Index) : i.json.depth ≤ deepest := by
  simp [Index.json, Json.strings, depth, depthFields, depthItems_strings, deepest]

/-- What is written as JSON is read back as it was, from the compact text and from
the indented one, if its doubles survive and it is not too deep: values,
constraints, lists of constraints, elements, indexes and fixtures. -/
theorem decodeText_written :
    (∀ v : Value, (∀ x ∈ v.floats, x.Survives) → v.tagged.depth ≤ deepest →
      ∀ text ∈ [v.tagged.compact, v.tagged.indented],
        decodeText Value.decode text = .ok v) ∧
    (∀ c : Constraint, (∀ x ∈ c.value.floats, x.Survives) → c.json.depth ≤ deepest →
      ∀ text ∈ [c.json.compact, c.json.indented],
        decodeText Constraint.decode text = .ok c) ∧
    (∀ cs : List Constraint, (∀ c ∈ cs, ∀ x ∈ c.value.floats, x.Survives) →
      (constraintsJson cs).depth ≤ deepest →
      ∀ text ∈ [(constraintsJson cs).compact, (constraintsJson cs).indented],
        decodeText (decodeList Constraint.decode) text = .ok cs) ∧
    (∀ e : Element, (∀ v ∈ e.properties.values, ∀ x ∈ v.floats, x.Survives) →
      e.json.depth ≤ deepest →
      ∀ text ∈ [e.json.compact, e.json.indented],
        decodeText Element.decode text = .ok e) ∧
    (∀ i : Index, ∀ text ∈ [i.json.compact, i.json.indented],
      decodeText Index.decode text = .ok i) ∧
    ∀ f : Fixture, (∀ j ∈ f.documents, j.Proper) →
      (∀ j ∈ f.documents, ∀ x ∈ j.floats, x.Survives) → f.json.depth ≤ deepest →
      ∀ text ∈ [f.json.compact, f.json.indented],
        decodeText Fixture.decode text = .ok f := by
  refine ⟨?_, ?_, ?_, ?_, ?_, ?_⟩
  · intro v hfloats hdepth text htext
    exact (Value.recovers_tagged v hfloats).decodeText hdepth htext
  · intro c hfloats hdepth text htext
    exact (recovers_constraint c hfloats).decodeText hdepth htext
  · intro cs hfloats hdepth text htext
    have hall : ∀ c ∈ cs, Recovers Constraint.decode c.json c :=
      fun c hc => recovers_constraint c (hfloats c hc)
    exact (recovers_list hall).decodeText hdepth htext
  · intro e hfloats hdepth text htext
    exact (recovers_element e hfloats).decodeText hdepth htext
  · intro i text htext
    exact (recovers_index i).decodeText (depth_index_le i) htext
  · intro f hproper hfloats hdepth text htext
    have hall : ∀ j ∈ f.documents, Recovers decodePlain j j :=
      fun j hj => recovers_plain (hproper j hj) (hfloats j hj)
    exact (recovers_fixture f hall).decodeText hdepth htext

/-- One sample of each form: escapes and control characters, both zeros, nested
lists, an edge with both ends and the greatest identifier, and a fixture with
objects and numbers beyond the signed range. -/
theorem decodeText_written_samples :
    let half : Double := .ofDecimal false 5 (-1)
    let v : Value := .list [.null, .bool true, .int (-3), .float half,
      .list [.string "\"\\\n\x01é", .float (.zero true)]]
    let c : Constraint := ⟨"~id", .le, v⟩
    let e : Element := ⟨0xFFFFFFFFFFFFFFFF, .edge, "KNOWS", .ofList [("weight", v)], some 1, some 2⟩
    let j : Json := .object [("a", .array [.integer 0xFFFFFFFFFFFFFFFF, .null]),
      ("b", .number (.float half))]
    let f : Fixture := ⟨[⟨1, "Person", .ofList [("data", j)]⟩], [⟨2, "KNOWS", 1, 1, .empty⟩],
      [⟨"by data", .vertex, "Person", ["data"]⟩]⟩
    (∀ x ∈ v.floats, x.Survives) ∧ (∀ j ∈ f.documents, j.Proper) ∧
    (∀ j ∈ f.documents, ∀ x ∈ j.floats, x.Survives) ∧
    [v.tagged, c.json, constraintsJson [c, c], e.json, f.json].map Json.depth = [5, 6, 7, 7, 6] ∧
    decodeText Value.decode v.tagged.compact = .ok v ∧
    decodeText Constraint.decode c.json.indented = .ok c ∧
    decodeText (decodeList Constraint.decode) (constraintsJson [c, c]).compact = .ok [c, c] ∧
    decodeText Element.decode e.json.indented = .ok e ∧
    decodeText Index.decode (Index.json ⟨"by name", "V_Person", ["name"]⟩).compact =
      .ok ⟨"by name", "V_Person", ["name"]⟩ ∧
    decodeText Fixture.decode f.json.indented = .ok f := by
  intro half v c e j f
  have hv : ∀ x ∈ v.floats, x.Survives := by decide +kernel
  have hnormal : j.normal = j := by
    have hkeys : compare "b" "a" = .gt := by decide +kernel
    simp [j, normal, normalItems, normalFields, SortedMap.ofList, SortedMap.insert, insertEntry,
      hkeys, SortedMap.empty, Json.integer]
  have hproper : ∀ d ∈ f.documents, d.Proper := by
    intro d hd
    rw [List.mem_singleton.mp hd]
    exact ⟨hnormal, by decide⟩
  have hfloats : ∀ d ∈ f.documents, ∀ x ∈ d.floats, x.Survives := by
    intro d hd
    rw [List.mem_singleton.mp hd]
    decide +kernel
  obtain ⟨hvalue, hconstraint, hconstraints, helement, hindex, hfixture⟩ := decodeText_written
  refine ⟨hv, hproper, hfloats, by decide +kernel, ?_, ?_, ?_, ?_, ?_, ?_⟩
  · exact hvalue v hv (by decide +kernel) _ (by simp)
  · exact hconstraint c hv (by decide +kernel) _ (by simp)
  · exact hconstraints [c, c] (by simpa using hv) (by decide +kernel) _ (by simp)
  · exact helement e (by decide +kernel) (by decide +kernel) _ (by simp)
  · exact hindex _ _ (by simp)
  · exact hfixture f hproper hfloats (by decide +kernel) _ (by simp)

end StartStep
