import StartStep.Proofs.Loading
import StartStep.Proofs.RoundTrip
import StartStep.Proofs.Separators

/-!
# Which texts write a constraint

A text that writes a constraint is cut twice, at its first equals sign and at the first
colon behind that. What is cut off holds no separator, since a key with an equals sign
would have been cut earlier and no predicate has a colon in its name; so the cuts can be
undone, and a text is `Spells key predicate operand` for one choice of the three at most.
Nothing is asked of the operand, which may hold both separators again.

An operand is read in one of two ways (`Operand`). If it is a document, then the constraint
is on the document's value, and the only texts that are refused for their operand are
documents with an object somewhere in them. All else is a string. So a constraint on a
value is written by spelling the value as a document, as long as the reader gets the same
document from it. That is no matter of the spelling, but of depth and of doubles: the
numerals of some are read as their neighbours (`parse_neighbour`).
-/

namespace StartStep

open Json

/-! ## Documents without objects -/

namespace Json

mutual

/-- Only objects are put in order. -/
theorem normal_of_objects {j : Json} (h : j.objects = []) : j.normal = j := by
  match j with
  | .null | .bool _ | .number _ | .string _ => rfl
  | .array items => rw [normal, normalItems_of_objects h]
  | .object fields => cases h

theorem normalItems_of_objects {items : List Json} (h : itemObjects items = []) :
    normalItems items = items := by
  match items with
  | [] => rfl
  | j :: rest =>
      obtain ⟨hj, hrest⟩ := List.append_eq_nil_iff.mp h
      rw [normalItems, normal_of_objects hj, normalItems_of_objects hrest]

end

theorem exists_denotes_iff {j : Json} : (∃ v, Denotes j v) ↔ j.objects = [] := by
  simp only [denotes_iff]
  rw [(ofJson_failsFirst j).exists_ok_iff, List.map_eq_nil_iff]

theorem Recovers.parse_normal {j : Json} (h : Recovers decodeJson j j)
    (hdepth : j.depth ≤ deepest) : Json.parse j.compact = .ok j.normal := by
  rw [parse, h.decodeText hdepth List.mem_cons_self]
  rfl

end Json

/-! ## Operands -/

/-- What an operand's text stands for: the value of the document that it is, or itself if it
is none. -/
inductive Operand (text : String) : Value → Prop
  | document {j : Json} {v : Value} (hparse : Json.parse text = .ok j) (hvalue : Denotes j v) :
      Operand text v
  | bare (hparse : ∀ j, Json.parse text ≠ .ok j) : Operand text (.string text)

theorem operand_iff {text : String} {v : Value} : Operand text v ↔ operandOfText text = .ok v := by
  unfold operandOfText
  cases hparse : Json.parse text with
  | ok j =>
      constructor
      · intro h
        cases h with
        | document hj hvalue =>
            obtain rfl := Except.ok.inj (hparse.symm.trans hj)
            exact denotes_iff.mp hvalue
        | bare hnone => exact absurd hparse (hnone j)
      · exact fun h => .document hparse (denotes_iff.mpr h)
  | error e =>
      have hnone : ∀ j, Json.parse text ≠ .ok j := by
        rw [hparse]
        exact fun _ => nofun
      constructor
      · intro h
        cases h with
        | document hj _ => exact absurd hj (hnone _)
        | bare _ => rfl
      · intro h
        obtain rfl := Except.ok.inj h
        exact .bare hnone

theorem exists_operand_iff {text : String} :
    (∃ v, Operand text v) ↔ ∀ j, Json.parse text = .ok j → j.objects = [] := by
  constructor
  · rintro ⟨v, h⟩ j hj
    cases h with
    | document hparse hvalue =>
        obtain rfl := Except.ok.inj (hparse.symm.trans hj)
        exact exists_denotes_iff.mp ⟨v, hvalue⟩
    | bare hnone => exact absurd hj (hnone j)
  · intro h
    cases hparse : Json.parse text with
    | ok j =>
        obtain ⟨v, hvalue⟩ := exists_denotes_iff.mpr (h j hparse)
        exact ⟨v, .document hparse hvalue⟩
    | error e => exact ⟨_, .bare fun j => by simp [hparse]⟩

/-! ## Keys and predicates -/

theorem Predicate.ofName_eq_some_iff {s : String} {p : Predicate} :
    ofName s = some p ↔ s = p.name := by
  constructor
  · intro h
    unfold ofName at h
    have hname := List.find?_some h
    exact (eq_of_beq hname).symm
  · rintro rfl
    cases p <;> rfl

theorem Predicate.colon_notMem_name (p : Predicate) : ':' ∉ p.name.toList := by
  cases p <;> decide

theorem Predicate.name_inj {p q : Predicate} (h : p.name = q.name) : p = q := by
  have hp := ofName_eq_some_iff.mpr h
  rw [ofName_eq_some_iff.mpr rfl] at hp
  exact Option.some.inj hp

/-- A text writes a key, a predicate, and an operand behind them. -/
structure Spells (key : String) (predicate : Predicate) (operand text : String) : Prop where
  key_ne : key ≠ ""
  key_plain : '=' ∉ key.toList
  text_eq : text = key ++ "=" ++ predicate.name ++ ":" ++ operand

namespace Spells

variable {key key' : String} {predicate predicate' : Predicate} {operand operand' text : String}

theorem toList_eq (h : Spells key predicate operand text) :
    text.toList = key.toList ++ '=' :: (predicate.name.toList ++ ':' :: operand.toList) := by
  rw [h.text_eq]
  simp [String.toList_append]

/-- A text is spelled in one way only. -/
theorem unique (h : Spells key predicate operand text) (h' : Spells key' predicate' operand' text) :
    key = key' ∧ predicate = predicate' ∧ operand = operand' := by
  obtain ⟨hkey, hrest⟩ :=
    append_cons_inj h.key_plain h'.key_plain (h.toList_eq.symm.trans h'.toList_eq)
  obtain ⟨hname, hoperand⟩ :=
    append_cons_inj predicate.colon_notMem_name predicate'.colon_notMem_name hrest
  exact ⟨String.toList_inj.mp hkey, Predicate.name_inj (String.toList_inj.mp hname),
    String.toList_inj.mp hoperand⟩

theorem parse_eq (h : Spells key predicate operand text) :
    Constraint.parse text = match operandOfText operand with
      | .error e => .error (.noValue e)
      | .ok value => .ok ⟨key, predicate, value⟩ := by
  have hempty : key.toList.isEmpty = false := by
    simpa [List.isEmpty_eq_false_iff] using h.key_ne
  have hname : Predicate.ofName predicate.name = some predicate :=
    Predicate.ofName_eq_some_iff.mpr rfl
  unfold Constraint.parse
  rw [h.toList_eq, splitFirst_append h.key_plain]
  dsimp only
  rw [splitFirst_append predicate.colon_notMem_name]
  dsimp only
  rw [hempty, String.ofList_toList, String.ofList_toList, String.ofList_toList, hname]
  rfl

end Spells

/-! ## Constraints -/

namespace Constraint

theorem exists_spells_of_parse {text : String} {c : Constraint} (h : parse text = .ok c) :
    ∃ operand, Spells c.key c.predicate operand text ∧ operandOfText operand = .ok c.value := by
  unfold parse at h
  split at h
  · cases h
  next key rest hequals =>
  split at h
  · cases h
  next name operand hcolon =>
  split at h
  · cases h
  next hempty =>
  split at h
  · cases h
  next predicate hname =>
  split at h
  · cases h
  next value hvalue =>
  obtain rfl := Except.ok.inj h
  obtain ⟨hkey, htext⟩ := splitFirst_eq_some_iff.mp hequals
  obtain ⟨-, rfl⟩ := splitFirst_eq_some_iff.mp hcolon
  refine ⟨String.ofList operand, ⟨?_, by simpa using hkey, ?_⟩, hvalue⟩
  · simpa [String.ofList_eq_empty_iff] using hempty
  · rw [← String.toList_inj, htext]
    simp [String.toList_append, ← Predicate.ofName_eq_some_iff.mp hname]

theorem parse_eq_ok_iff {text : String} {c : Constraint} :
    parse text = .ok c ↔
      ∃ operand, Spells c.key c.predicate operand text ∧ Operand operand c.value := by
  simp only [operand_iff]
  constructor
  · exact exists_spells_of_parse
  · rintro ⟨operand, hspells, hvalue⟩
    rw [hspells.parse_eq, hvalue]

/-- The texts that write constraints are those that are spelled with an operand that is not a
document with objects in it. They are spelled in one way only, and the constraint is the one
that is spelled. A value whose document is read back as it was is written by that document. -/
theorem parse_grammar :
    (∀ text, (∃ c, parse text = .ok c) ↔ ∃ key predicate operand,
      Spells key predicate operand text ∧ ∀ j, Json.parse operand = .ok j → j.objects = []) ∧
    (∀ text key key' predicate predicate' operand operand', Spells key predicate operand text →
      Spells key' predicate' operand' text →
      key = key' ∧ predicate = predicate' ∧ operand = operand') ∧
    (∀ text c, parse text = .ok c ↔
      ∃ operand, Spells c.key c.predicate operand text ∧ Operand operand c.value) ∧
    ∀ (key : String) (predicate : Predicate) (j : Json), key ≠ "" → '=' ∉ key.toList →
      j.objects = [] → (∀ n ∈ j.numbers, n.InRange) → j.depth ≤ deepest →
      (∀ x ∈ j.floats, x.Survives) →
      ∃ v, Value.ofJson j = .ok v ∧
        parse (key ++ "=" ++ predicate.name ++ ":" ++ j.compact) = .ok ⟨key, predicate, v⟩ := by
  refine ⟨fun text => ?_, fun text key key' predicate predicate' operand operand' => Spells.unique,
    fun text c => parse_eq_ok_iff, ?_⟩
  · constructor
    · rintro ⟨c, hc⟩
      obtain ⟨operand, hspells, hvalue⟩ := parse_eq_ok_iff.mp hc
      exact ⟨_, _, operand, hspells, exists_operand_iff.mp ⟨_, hvalue⟩⟩
    · rintro ⟨key, predicate, operand, hspells, hobjects⟩
      obtain ⟨v, hvalue⟩ := exists_operand_iff.mpr hobjects
      exact ⟨⟨key, predicate, v⟩, parse_eq_ok_iff.mpr ⟨operand, hspells, hvalue⟩⟩
  · intro key predicate j hkey hequals hobjects hrange hdepth hfloats
    have hproper : j.Proper := ⟨normal_of_objects hobjects, hrange⟩
    have hparse := (recovers_json (hproper.readsBack hfloats)).parse_normal hdepth
    rw [hproper.normal_eq] at hparse
    obtain ⟨v, hvalue⟩ := exists_denotes_iff.mpr hobjects
    exact ⟨v, denotes_iff.mp hvalue,
      parse_eq_ok_iff.mpr ⟨j.compact, ⟨hkey, hequals, rfl⟩, .document hparse hvalue⟩⟩

/-- A document with a list in a list, a double, and an integer beyond the signed ones. -/
def nestedOperand : Json :=
  .array [.null, .array [.number (.float (.ofDecimal false 25 (-2)))], .string "=:",
    .integer 18446744073709551615]

/-- The operand may hold both separators again and need not be a document; and it may be a list
of many kinds of scalars. -/
theorem parse_grammar_nested :
    parse "a:b=lte:x=1:y" = .ok ⟨"a:b", .le, .string "x=1:y"⟩ ∧
      ∃ v, Value.ofJson nestedOperand = .ok v ∧
        parse "k=within:[null,[0.25],\"=:\",18446744073709551615]" = .ok ⟨"k", .within, v⟩ := by
  obtain ⟨-, -, hspelled, hwritten⟩ := parse_grammar
  constructor
  · have hfault : Json.parse "x=1:y" = .error .malformed := rfl
    refine (hspelled _ _).mpr ⟨"x=1:y", ⟨by decide, by decide, by decide⟩, .bare fun j => ?_⟩
    rw [hfault]
    nofun
  · have htext : "k" ++ "=" ++ Predicate.within.name ++ ":" ++ nestedOperand.compact =
        "k=within:[null,[0.25],\"=:\",18446744073709551615]" := by decide +kernel
    rw [← htext]
    exact hwritten "k" .within nestedOperand (by decide) (by decide) rfl (by decide) (by decide)
      (by decide +kernel)

/-- `1e-23` is the text of one double, and is read as the double behind it. -/
theorem parse_neighbour :
    let x := Double.ofDecimal false 1 (-23)
    let y := Double.ofDecimal false 10000000000000001 (-39)
    x.isFinite = true ∧ Value.ofJson (.number (.float x)) = .ok (.float x) ∧
      parse ("age" ++ "=" ++ Predicate.eq.name ++ ":" ++ (Json.number (.float x)).compact) =
        .ok ⟨"age", .eq, .float y⟩ ∧
      Constraint.mk "age" .eq (.float y) ≠ ⟨"age", .eq, .float x⟩ := by
  intro x y
  have hcompact : (Json.number (.float x)).compact = "1e-23" := by decide +kernel
  have hdraft : Draft.ofText "1e-23" = (.number ⟨false, [1], none, some (true, [2, 3])⟩, some []) :=
    rfl
  have hnumber : Numeral.number ⟨false, [1], none, some (true, [2, 3])⟩ = .ok (.float y) := by
    decide +kernel
  have hread : Json.parse "1e-23" = .ok (.number (.float y)) := by
    rw [Json.parse, decodeText, hdraft]
    dsimp only
    rw [decodeJson, hnumber]
    rfl
  have hne : y ≠ x := by decide +kernel
  refine ⟨by decide +kernel, rfl, ?_, by simpa using hne⟩
  rw [hcompact]
  exact parse_eq_ok_iff.mpr ⟨"1e-23", ⟨by decide, by decide, rfl⟩, .document hread (.float y)⟩

end Constraint

end StartStep
