import StartStep.Proofs.Loading
import StartStep.Proofs.Widening
import StartStep.Proofs.WrittenConstraints

/-!
# Which integers a filter tells apart

An integer comes into the program in two places, as a property in a fixture and
as an operand on the command line, and in both its digits are read alike. What it
has become then is all that matters when it is compared (`Value.Holds`): a signed
64-bit integer is still what it was, and a larger one has been rounded to a
double. Zero with a sign is a double as well, which does no harm, because no other
integer falls to zero.

A double does not tell which of its integers it was made from. So two integers that
fall to one double are taken for each other as soon as one of them has been
rounded, even if the other one is there in full, because it is then compared as a
double too. Where neither has been rounded they are compared as they are. This is
`Indistinct`, and `Value.Holds.looseEq_iff` says that filters see no more.

An identifier is compared in the same way as long as it is a signed integer, and
beyond that it has no value to be compared.
-/

namespace StartStep

open Json Double

/-! ## Integers as texts -/

/-- The texts of an integer in JSON: its digits, and zero with a sign as well. -/
inductive Json.Writes : Int → String → Prop
  | digits (i : Int) : Writes i (toString i)
  | negativeZero : Writes 0 "-0"

/-- The values that an integer has in the program. -/
inductive Value.Holds (m : Int) : Value → Prop
  | int {i : Int64} (h : i.toInt = m) : Holds m (.int i)
  | float {x : Double} (h : 0x8000000000000000 ≤ m ∨ m = 0) (hx : x.IsNearest m) :
      Holds m (.float x)

theorem compact_integer (i : Int) : (Json.integer i).compact = toString i := by
  cases i with
  | ofNat n => rfl
  | negSucc n =>
      refine String.toList_inj.mp ?_
      show (String.ofList ('-' :: Nat.toDigits 10 (n + 1))).toList = ("-" ++ (n + 1).repr).toList
      rw [String.toList_append]
      simp [Nat.repr]

theorem recovers_number {n : Number} (hn : n.ReadsBack) :
    Recovers decodeJson (.number n) (.number n) := by
  refine recovers_json fun n' hn' => ?_
  rw [List.mem_singleton.mp hn']
  exact hn

theorem parse_compact_number {n : Number} (hn : n.ReadsBack) :
    Json.parse (Json.number n).compact = .ok (.number n) :=
  (recovers_number hn).parse_normal (Nat.zero_le _)

theorem ofNumber_holds {m : Int} (hleast : -0x8000000000000000 ≤ m)
    (hgreatest : m < 0x10000000000000000) : (Value.ofNumber (.integer m)).Holds m := by
  have hvalue : Value.ofNumber (.integer m) =
      if fitsInt64 m then .int (Int64.ofInt m) else .float (Double.ofInt m) := rfl
  rw [hvalue]
  split
  · next hfits =>
      simp only [fitsInt64, Bool.and_eq_true, decide_eq_true_eq] at hfits
      exact .int (Int64.toInt_ofInt_of_le (by omega) (by omega))
  · next hfits =>
      simp only [fitsInt64, Bool.and_eq_true, decide_eq_true_eq, not_and] at hfits
      exact .float (by omega) (isNearest_ofInt (by omega))

/-- An integer that documents hold is read from its texts, as a number with one of its
values. -/
theorem Json.Writes.parse {m : Int} {text : String} (h : Writes m text)
    (hleast : -0x8000000000000000 ≤ m) (hgreatest : m < 0x10000000000000000) :
    ∃ n : Number, n.ReadsBack ∧ Json.parse text = .ok (.number n) ∧
      (Value.ofNumber n).Holds m := by
  cases h with
  | digits =>
      have hreads := Number.readsBack_integer hleast hgreatest
      have hparse := parse_compact_number hreads
      rw [show (Json.number (.integer m)).compact = _ from compact_integer m] at hparse
      exact ⟨.integer m, hreads, hparse, ofNumber_holds hleast hgreatest⟩
  | negativeZero =>
      refine ⟨.float (.zero true), by decide +kernel, rfl, .float (.inr rfl) ?_⟩
      exact isNearest_of_scaled_eq (by decide) (by decide)

/-! ## Comparing them -/

/-- Two integers are equal, or one is beyond the signed ones and they fall to one double. -/
def Indistinct (m n : Int) : Prop :=
  m = n ∨ (0x8000000000000000 ≤ m ∨ 0x8000000000000000 ≤ n) ∧ Coincide m n

theorem Indistinct.symm {m n : Int} (h : Indistinct m n) : Indistinct n m :=
  h.imp Eq.symm fun h => ⟨h.1.symm, h.2.symm⟩

section Comparing

variable {m n : Int} (hm : m.natAbs ≤ 0x10000000000000000) (hn : n.natAbs ≤ 0x10000000000000000)
include hm hn

theorem Double.IsNearest.coincide_iff {x : Double} (hx : x.IsNearest n) :
    Coincide m n ↔ x.IsNearest m := by
  constructor
  · intro h
    have hscaled := (Double.coincide_iff hm hn).mp h
    have hnearest := (isNearest_iff hn).mp hx
    exact (isNearest_iff hm).mpr ⟨hnearest.1, hnearest.2.trans hscaled.symm⟩
  · exact fun h => ⟨x, h, hx⟩

theorem numEq_iff_coincide {x y : Double} (hx : x.IsNearest m) (hy : y.IsNearest n) :
    x.numEq y = true ↔ Coincide m n := by
  have hx' := (isNearest_iff hm).mp hx
  have hy' := (isNearest_iff hn).mp hy
  rw [numEq_iff_rank, ← scaled_inj_iff, Double.coincide_iff hm hn, hx'.2, hy'.2]
  simp [isNaN_of_isFinite hx'.1, isNaN_of_isFinite hy'.1]

/-- Where one of the two integers may have become a double, falling to one double is
all that is left of their being the same. -/
theorem coincide_iff_indistinct (h : 0x8000000000000000 ≤ n ∨ n = 0) :
    Coincide m n ↔ Indistinct m n := by
  constructor
  · intro hcoincide
    rcases h with h | rfl
    · exact .inr ⟨.inr h, hcoincide⟩
    · exact .inl (eq_zero_of_coincide hm hcoincide)
  · rintro (rfl | h)
    · exact ⟨ofInt m, isNearest_ofInt hm, isNearest_ofInt hm⟩
    · exact h.2

theorem Value.Holds.looseEq_iff {v w : Value} (hv : v.Holds m) (hw : w.Holds n) :
    v.looseEq w = true ↔ Indistinct m n := by
  -- Only two integers are compared as they are; in all other cases one of the two doubles is
  -- nearest to its own integer, and the question is whether it is nearest to the other one.
  cases hw with
  | @float y h hy =>
      rw [← coincide_iff_indistinct hm hn h]
      cases hv with
      | int h =>
          rw [Value.int_looseEq_float_iff, h]
          exact (hy.coincide_iff hm hn).symm
      | float _ hx => exact numEq_iff_coincide hm hn hx hy
  | @int k hk =>
      cases hv with
      | @int i hi =>
          have := i.toInt_lt
          have := k.toInt_lt
          rw [Value.looseEq, beq_iff_eq, ← Int64.toInt_inj, hi, hk]
          constructor
          · exact .inl
          · rintro (heq | ⟨hlarge, -⟩)
            · exact heq
            · omega
      | @float x h hx =>
          have hsymm : Indistinct m n ↔ Indistinct n m := ⟨.symm, .symm⟩
          rw [Value.float_looseEq_int_iff, hk, hsymm, ← coincide_iff_indistinct hn hm h]
          exact (hx.coincide_iff hn hm).symm

end Comparing

/-! ## Operands -/

/-- The constraint that a key and a numeral make. -/
theorem parse_eq {key operand : String} (hkey : key ≠ "") (hequals : '=' ∉ key.toList)
    {n : Number} (hparse : Json.parse operand = .ok (.number n)) :
    Constraint.parse (key ++ "=eq:" ++ operand) = .ok ⟨key, .eq, .ofNumber n⟩ := by
  have htext : key ++ "=eq:" ++ operand = key ++ "=" ++ Predicate.eq.name ++ ":" ++ operand := by
    refine String.toList_inj.mp ?_
    simp [String.toList_append, Predicate.name]
  have hspells : Spells key .eq operand (key ++ "=eq:" ++ operand) := ⟨hkey, hequals, htext⟩
  exact Constraint.parse_eq_ok_iff.mpr
    ⟨operand, hspells, .document hparse (denotes_number_iff.mpr rfl)⟩

/-! ## Properties and identifiers -/

/-- An element was loaded from the text of a fixture in which it has under a key
a document. -/
inductive LoadedFrom (key : String) (j : Json) (e : Element) : Prop
  | vertex {text : String} {f : Fixture} {g : MemGraph} {id : ElementId} {r : VertexRecord}
      (hparse : Fixture.parse text = .ok f) (hbuild : f.build.result = .ok g)
      (hrecord : f.vertices.reverse.find? (·.id == id) = some r)
      (hwritten : r.properties.get? key = some j)
      (hstored : (g.elements .vertex).get? id = some e) : LoadedFrom key j e
  | edge {text : String} {f : Fixture} {g : MemGraph} {id : ElementId} {r : EdgeRecord}
      (hparse : Fixture.parse text = .ok f) (hbuild : f.build.result = .ok g)
      (hrecord : f.edges.reverse.find? (·.id == id) = some r)
      (hwritten : r.properties.get? key = some j)
      (hstored : (g.elements .edge).get? id = some e) : LoadedFrom key j e

theorem LoadedFrom.property {key : String} {j : Json} {e : Element} (h : LoadedFrom key j e) :
    ∃ v, e.property? key = some v ∧ Value.ofJson j = .ok v := by
  have hproperty : ∀ {written : SortedMap String Json}, PropertiesOf written e.properties →
      written.get? key = some j → ∃ v, e.property? key = some v ∧ Value.ofJson j = .ok v := by
    intro written hproperties hwritten
    have hfound := hproperties.get? key
    rw [hwritten] at hfound
    obtain ⟨v, hv, hdenotes⟩ := exists_of_rel_some hfound
    exact ⟨v, hv, denotes_iff.mp hdenotes⟩
  cases h with
  | @vertex _ _ _ id _ _ hbuild hrecord hwritten hstored =>
      have hdescribed := (Fixture.get?_build hbuild id).1
      rw [hrecord, hstored] at hdescribed
      cases hdescribed with
      | some hdescribes => exact hproperty hdescribes.properties hwritten
  | @edge _ _ _ id _ _ hbuild hrecord hwritten hstored =>
      have hdescribed := (Fixture.get?_build hbuild id).2
      rw [hrecord, hstored] at hdescribed
      cases hdescribed with
      | some hdescribes => exact hproperty hdescribes.properties hwritten

/-- Only a signed integer is found as an identifier. -/
theorem Element.Has.toNat_lt {e : Element} {v : Value} (h : e.Has idKey v) :
    e.id.toNat < 0x8000000000000000 := by
  generalize hkey : idKey = key at h
  cases h with
  | label => exact absurd hkey (by decide)
  | @id i hi =>
      have := i.toInt_lt
      omega
  | property hproperty _ =>
      subst hkey
      exact absurd hproperty (by decide)

section Testing

variable {m n : Int} (hm : m.natAbs ≤ 0x10000000000000000) (hn : n.natAbs ≤ 0x10000000000000000)
include hm hn

theorem LoadedFrom.test_eq_iff {key : String} (hkey : KeyKind.ofKey key = .property) {i : Number}
    (hi : (Value.ofNumber i).Holds m) {w : Value} (hw : w.Holds n) {e : Element}
    (he : LoadedFrom key (.number i) e) :
    (Constraint.mk key .eq w).test e = .ok true ↔ Indistinct m n := by
  obtain ⟨v, hproperty, hv⟩ := he.property
  have htest := (Element.Has.property hkey hproperty).passes_iff (p := .eq) (v := w)
  rw [← Except.ok.inj hv] at htest
  exact htest.trans (hi.looseEq_iff hm hn hw)

theorem test_id_eq_iff {w : Value} (hw : w.Holds n) {e : Element} (he : (e.id.toNat : Int) = m) :
    (Constraint.mk idKey .eq w).test e = .ok true ↔ m < 0x8000000000000000 ∧ Indistinct m n := by
  by_cases hsigned : m < 0x8000000000000000
  · have hid : (Int64.ofInt m).toInt = m := Int64.toInt_ofInt_of_le (by omega) (by omega)
    have htest := (Element.Has.id (hid.trans he.symm)).passes_iff (p := .eq) (v := w)
    refine htest.trans (((Value.Holds.int hid).looseEq_iff hm hn hw).trans ?_)
    simp [hsigned]
  · refine iff_of_false (fun htest => ?_) fun h => hsigned h.1
    obtain ⟨a, ha, -⟩ := Constraint.test_eq_true_iff.mp htest
    have := ha.toNat_lt
    omega

end Testing

/-! ## Every integer that documents hold -/

/-- A fixture with one vertex that has a number under a key. -/
def holding (key : String) (n : Number) : Fixture :=
  ⟨[⟨1, "Person", ⟨[(key, .number n)], List.pairwise_singleton ..⟩⟩], [], []⟩

theorem exists_loadedFrom (key : String) {n : Number} (hn : n.ReadsBack) :
    ∃ e, LoadedFrom key (.number n) e := by
  have hplain : ∀ j ∈ (holding key n).documents, Recovers decodePlain j j := by
    intro j hj
    rw [List.mem_singleton.mp hj]
    exact (recovers_number hn).map normal
  have hparse := (recovers_fixture _ hplain).parse_compact (Nat.le_of_ble_eq_true rfl)
  obtain ⟨g, hg⟩ := (holding key n).exists_build_iff.mpr
    ⟨fun j hj => by rw [List.mem_singleton.mp hj]; rfl, by simp [holding], List.nodup_nil⟩
  obtain ⟨e, he, -⟩ := exists_of_rel_some (Fixture.get?_build hg 1).1
  exact ⟨e, .vertex hparse hg rfl (by simp [SortedMap.get?, Std.compare_self]) he⟩

/-- A property loaded from one integer passes the equality filter on another if and only if
they are the same, or one is beyond the signed integers and they fall to one double; they are
at most 2048 apart then. For an identifier this is so as long as it is a signed integer.
Every integer that documents hold can be loaded like this, and can be asked for. -/
theorem eq_filter_iff {m n : Int} (hm : -0x8000000000000000 ≤ m ∧ m < 0x10000000000000000)
    (hn : -0x8000000000000000 ≤ n ∧ n < 0x10000000000000000) {text operand : String}
    (htext : Writes m text) (hoperand : Writes n operand) :
    (∀ key, key ≠ "" → '=' ∉ key.toList → key ≠ labelKey → key ≠ idKey →
      ∃ c j, Constraint.parse (key ++ "=eq:" ++ operand) = .ok c ∧ Json.parse text = .ok j ∧
        (∃ e, LoadedFrom key j e) ∧
        ∀ e, LoadedFrom key j e → (c.test e = .ok true ↔ Indistinct m n)) ∧
    (∃ c, Constraint.parse (idKey ++ "=eq:" ++ operand) = .ok c ∧
      ∀ e : Element, (e.id.toNat : Int) = m →
        (c.test e = .ok true ↔ m < 0x8000000000000000 ∧ Indistinct m n)) ∧
    (Indistinct m n → (m - n).natAbs ≤ 2048) := by
  obtain ⟨i, hreads, hparse, hholds⟩ := htext.parse hm.1 hm.2
  obtain ⟨k, -, hparse', hholds'⟩ := hoperand.parse hn.1 hn.2
  have hm' : m.natAbs ≤ 0x10000000000000000 := by omega
  have hn' : n.natAbs ≤ 0x10000000000000000 := by omega
  refine ⟨fun key hkey hequals hlabel hid => ?_, ?_, ?_⟩
  · have hkind : KeyKind.ofKey key = .property := by rw [KeyKind.ofKey, if_neg hlabel, if_neg hid]
    exact ⟨_, .number i, parse_eq hkey hequals hparse', hparse, exists_loadedFrom key hreads,
      fun e he => he.test_eq_iff hm' hn' hkind hholds hholds'⟩
  · exact ⟨_, parse_eq (by decide) (by decide) hparse',
      fun e he => test_id_eq_iff hm' hn' hholds' he⟩
  · rintro (rfl | ⟨-, hcoincide⟩)
    · simp
    · exact hcoincide.natAbs_sub_le hm' hn' (k := 11) (by omega) (by omega)

/-- A vertex that has nothing but an identifier. -/
def bare (id : ElementId) : Element := ⟨id, .vertex, "Person", .empty, none, none⟩

/-- Small integers are told apart, and an identifier is found by its digits. -/
theorem eq_filter_iff_small :
    (∃ c e, Constraint.parse "age=eq:42" = .ok c ∧ LoadedFrom "age" (.integer 41) e ∧
      c.test e ≠ .ok true) ∧
    ∃ c, Constraint.parse "~id=eq:42" = .ok c ∧ c.test (bare 42) = .ok true := by
  obtain ⟨hproperty, -⟩ := eq_filter_iff (m := 41) (n := 42) (by decide) (by decide) (.digits 41)
    (.digits 42)
  obtain ⟨-, ⟨c', hparse', htest'⟩, -⟩ := eq_filter_iff (m := 42) (n := 42) (by decide) (by decide)
    (.digits 42) (.digits 42)
  obtain ⟨c, j, hparse, hj, ⟨e, he⟩, htest⟩ := hproperty "age" (by decide) (by decide) (by decide)
    (by decide)
  have hdocument : Json.parse (toString (41 : Int)) = .ok (.integer 41) :=
    compact_integer 41 ▸ parse_compact_number (Number.readsBack_integer (by decide) (by decide))
  cases hdocument.symm.trans hj
  refine ⟨⟨c, e, hparse, he, fun h => ?_⟩, c', hparse', (htest' (bare 42) rfl).mpr ?_⟩
  · obtain heq | ⟨hlarge, -⟩ := (htest e he).mp h
    · exact absurd heq (by decide)
    · exact absurd hlarge (by decide)
  · exact ⟨by decide, .inl rfl⟩

/-- A property loaded from `2 ^ 63` passes the filter on its successor, and the last of the
signed identifiers the one on `2 ^ 63`. -/
theorem eq_filter_confuses :
    (∃ c e, Constraint.parse "age=eq:9223372036854775809" = .ok c ∧
      LoadedFrom "age" (.integer 9223372036854775808) e ∧ c.test e = .ok true) ∧
    ∃ c, Constraint.parse "~id=eq:9223372036854775808" = .ok c ∧
      c.test (bare 9223372036854775807) = .ok true := by
  have hmeet : ∀ m n : Int, m.natAbs ≤ 0x10000000000000000 → n.natAbs ≤ 0x10000000000000000 →
      (ofInt m).scaled = (ofInt n).scaled → 0x8000000000000000 ≤ n → Indistinct m n := by
    intro m n hm hn h hlarge
    exact .inr ⟨.inr hlarge, (coincide_iff hm hn).mpr h⟩
  have hreads : ∀ m : Int, m ∈ [9223372036854775808, 9223372036854775809] →
      (Number.integer m).ReadsBack ∧ (Value.ofNumber (.integer m)).Holds m := by
    intro m hm
    have hrange : -0x8000000000000000 ≤ m ∧ m < 0x10000000000000000 := by
      revert m
      decide
    exact ⟨Number.readsBack_integer hrange.1 hrange.2, ofNumber_holds hrange.1 hrange.2⟩
  obtain ⟨hreads₁, hholds₁⟩ := hreads 9223372036854775808 (by decide)
  obtain ⟨hreads₂, hholds₂⟩ := hreads 9223372036854775809 (by decide)
  have hparse₁ := @parse_eq idKey _ (by decide) (by decide) _ (parse_compact_number hreads₁)
  have hparse₂ := @parse_eq "age" _ (by decide) (by decide) _ (parse_compact_number hreads₂)
  have htext₁ : idKey ++ "=eq:" ++ (Json.integer 9223372036854775808).compact =
      "~id=eq:9223372036854775808" := by decide +kernel
  have htext₂ : "age" ++ "=eq:" ++ (Json.integer 9223372036854775809).compact =
      "age=eq:9223372036854775809" := by decide +kernel
  obtain ⟨e, he⟩ := exists_loadedFrom "age" hreads₁
  refine ⟨⟨_, e, htext₂ ▸ hparse₂, he, ?_⟩, _, htext₁ ▸ hparse₁, ?_⟩
  · rw [he.test_eq_iff (by decide) (by decide) (by decide) hholds₁ hholds₂]
    exact hmeet _ _ (by decide) (by decide) (by decide +kernel) (by decide)
  · rw [test_id_eq_iff (m := 9223372036854775807) (by decide) (by decide) hholds₁ (by decide)]
    exact ⟨by decide, hmeet _ _ (by decide) (by decide) (by decide +kernel) (by decide)⟩

end StartStep
