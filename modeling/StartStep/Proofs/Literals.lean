import StartStep.Json.Decode
import StartStep.Json.Printer
import StartStep.Proofs.Run

/-!
# Strings and numerals are read as they were written

Two kinds of text have no brackets around them that a reader could go by. A
string ends with a quote, so what matters is that no character of the string
can be taken for one: each is written as an escape or stands for itself, and the
reader takes back one written character for one unit of its fuel
(`literalContent_escapedChar`). A numeral ends where the text cannot go on with
it, and that depends on what follows. `EndsNumeral` says what may follow, and
`Numeral.read_append` that a numeral is then read as if nothing did.

A numeral that is read need not have the number it was written for. An integer
has (`Number.readsBack_integer`), because its digits are gathered as long as the
number stays below `2 ^ 64`, and it does to the end. For a double this depends
on the double, so `Number.ReadsBack` is a property that a number may have.
-/

namespace StartStep.Json

/-! ## Strings -/

theorem readHex_controlCode {n : Nat} (h : n < 0x20) (rest : List Char) :
    readHex ('0' :: '0' :: Nat.digitChar (n / 16) :: Nat.digitChar (n % 16) :: rest) =
      .ok (n, rest) := by
  have hdigits : ∀ n < 0x20, Text.hexNumber
      ['0', '0', Nat.digitChar (n / 16), Nat.digitChar (n % 16)] = some n := by decide
  rw [readHex, hdigits n h]

theorem readEscape_controlCode {c : Char} (h : c.toNat < 0x20) (rest : List Char) :
    readEscape ('u' :: '0' :: '0' :: Nat.digitChar (c.toNat / 16) ::
      Nat.digitChar (c.toNat % 16) :: rest) = .ok (c, rest) := by
  have hlow : ¬ 0xDC00 ≤ c.toNat := by omega
  have hhigh : ¬ 0xD800 ≤ c.toNat := by omega
  rw [readEscape, readHex_controlCode h]
  simp [bind, Except.bind, hlow, hhigh]

theorem literalContent_escapedChar (c : Char) (fuel : Nat) (rest : List Char) :
    literalContent (fuel + 1) (escapedChar c ++ rest) = (c :: ·) <$> literalContent fuel rest := by
  unfold escapedChar
  split
  case h_8 hquote hbackslash _ _ _ _ _ =>
    split
    · next hcontrol =>
        simp [literalContent, readEscape_controlCode hcontrol]
    · next hcontrol =>
        rw [List.singleton_append, literalContent, if_neg hquote, if_neg hbackslash,
          if_neg hcontrol]
  all_goals rfl

theorem literalRest_escapedChar (c : Char) (fuel : Nat) (rest : List Char) :
    literalRest (fuel + 1) (escapedChar c ++ rest) = literalRest fuel rest := by
  unfold escapedChar
  split
  case h_8 hquote hbackslash _ _ _ _ _ =>
    split
    · next hcontrol =>
        simp [literalRest, skipEscape, readHex_controlCode hcontrol]
        rfl
    · next hcontrol =>
        rw [List.singleton_append, literalRest, if_neg hquote, if_neg hbackslash,
          if_neg hcontrol]
  all_goals rfl

theorem literalContent_flatMap (rest : List Char) : ∀ (cs : List Char) (fuel : Nat),
    cs.length < fuel → literalContent fuel (cs.flatMap escapedChar ++ '"' :: rest) = .ok cs
  | [], fuel + 1, _ => rfl
  | c :: cs, fuel + 1, h => by
      rw [List.flatMap_cons, List.append_assoc, literalContent_escapedChar,
        literalContent_flatMap rest cs fuel (Nat.lt_of_succ_lt_succ h)]
      rfl

theorem literalRest_flatMap (rest : List Char) : ∀ (cs : List Char) (fuel : Nat),
    cs.length < fuel → literalRest fuel (cs.flatMap escapedChar ++ '"' :: rest) = .ok rest
  | [], fuel + 1, _ => rfl
  | c :: cs, fuel + 1, h => by
      rw [List.flatMap_cons, List.append_assoc, literalRest_escapedChar,
        literalRest_flatMap rest cs fuel (Nat.lt_of_succ_lt_succ h)]

theorem length_le_length_flatMap : ∀ cs : List Char, cs.length ≤ (cs.flatMap escapedChar).length
  | [] => Nat.le_refl 0
  | c :: cs => by
      have hrest := length_le_length_flatMap cs
      have hc : 0 < (escapedChar c).length := by
        unfold escapedChar
        split
        case h_8 => split <;> simp
        all_goals simp
      rw [List.flatMap_cons, List.length_append, List.length_cons]
      omega

theorem read_literal (s : String) (rest : List Char) :
    Literal.read (s.toList.flatMap escapedChar ++ '"' :: rest) = (⟨.ok s, none⟩, some rest) := by
  have hfuel : s.toList.length <
      (s.toList.flatMap escapedChar ++ '"' :: rest).length + 1 := by
    have := length_le_length_flatMap s.toList
    rw [List.length_append]
    omega
  unfold Literal.read
  rw [literalContent_flatMap rest s.toList _ hfuel, literalRest_flatMap rest s.toList _ hfuel]
  simp [Except.map, String.ofList_toList]

/-! ## Numerals -/

/-- Whether a numeral that stands before this text ends there. -/
def EndsNumeral (rest : List Char) : Prop :=
  ∀ c ∈ rest.head?, c.isDigit = false ∧ c ≠ '.' ∧ c ≠ 'e' ∧ c ≠ 'E'

theorem takeDigits_append {rest : List Char} (h : EndsNumeral rest) (cs : List Char) :
    takeDigits (cs ++ rest) = ((takeDigits cs).1, (takeDigits cs).2 ++ rest) := by
  unfold takeDigits
  induction cs with
  | nil =>
      cases rest with
      | nil => rfl
      | cons c rest => simp [(h c rfl).1]
  | cons c cs ih =>
      rw [List.cons_append]
      cases hc : c.isDigit with
      | false => simp [hc]
      | true =>
          rw [List.takeWhile_cons_of_pos hc, List.takeWhile_cons_of_pos hc,
            List.dropWhile_cons_of_pos hc, List.dropWhile_cons_of_pos hc, List.map_cons,
            List.map_cons, (Prod.mk.inj ih).1, (Prod.mk.inj ih).2]

namespace Numeral

variable {rest : List Char}

theorem digits_append {α : Type} (h : EndsNumeral rest) {write : List Nat → α}
    {cs after : List Char} {a : α}
    (hread : (match takeDigits cs with
      | ([], rest) => Except.error (NumeralFault.at rest)
      | (digits, rest) => .ok (write digits, rest)) = .ok (a, after)) :
    (match takeDigits (cs ++ rest) with
      | ([], rest) => Except.error (NumeralFault.at rest)
      | (digits, rest) => .ok (write digits, rest)) = .ok (a, after ++ rest) := by
  rw [takeDigits_append h]
  split at hread
  · cases hread
  · cases hread
    split <;> simp_all

theorem readWhole_append (h : EndsNumeral rest) {cs : List Char} {digits : List Nat}
    {after : List Char} (hread : readWhole cs = .ok (digits, after)) :
    readWhole (cs ++ rest) = .ok (digits, after ++ rest) := by
  unfold readWhole at hread ⊢
  rw [takeDigits_append h]
  split at hread
  · cases hread
  · cases hread
  · cases hread
    split <;> simp_all

theorem readFraction_append (h : EndsNumeral rest) {cs : List Char}
    {fraction : Option (List Nat)} {after : List Char}
    (hread : readFraction cs = .ok (fraction, after)) :
    readFraction (cs ++ rest) = .ok (fraction, after ++ rest) := by
  unfold readFraction at hread ⊢
  cases cs with
  | nil =>
      cases hread
      cases rest with
      | nil => rfl
      | cons c rest =>
          split
          · next heq => exact absurd (List.cons.inj heq).1 (h c rfl).2.1
          · rfl
  | cons c cs =>
      rw [List.cons_append]
      split at hread
      · next heq =>
          cases heq
          exact digits_append h hread
      · next hpoint =>
          cases hread
          split
          · next heq => exact (hpoint cs (by rw [(List.cons.inj heq).1])).elim
          · rfl

theorem readExponent_append (h : EndsNumeral rest) {cs : List Char}
    {exponent : Option (Bool × List Nat)} {after : List Char}
    (hread : readExponent cs = .ok (exponent, after)) :
    readExponent (cs ++ rest) = .ok (exponent, after ++ rest) := by
  unfold readExponent at hread ⊢
  cases cs with
  | nil =>
      cases hread
      cases rest with
      | nil => rfl
      | cons c rest => simp [(h c rfl).2.2]
  | cons c cs =>
      rw [List.cons_append]
      by_cases hmark : (c == 'e' || c == 'E') = true
      · simp only [if_pos hmark] at hread ⊢
        cases cs with
        | nil => cases hread
        | cons d ds =>
            rw [List.cons_append]
            split at hread
            · next heq =>
                cases heq
                exact digits_append h hread
            · next heq =>
                cases heq
                exact digits_append h hread
            · next hplus hminus =>
                split
                · next heq => exact (hplus ds (by rw [(List.cons.inj heq).1])).elim
                · next heq => exact (hminus ds (by rw [(List.cons.inj heq).1])).elim
                · exact digits_append h hread
      · simp only [if_neg hmark] at hread ⊢
        cases hread
        rfl

/-- The sign of a numeral, and what follows it. -/
def sign : List Char → Bool × List Char
  | '-' :: rest => (true, rest)
  | cs => (false, cs)

theorem read_eq_ok_iff {cs after : List Char} {n : Numeral} :
    Numeral.read cs = .ok (n, after) ↔ ∃ cs₁ cs₂ cs₃, sign cs = (n.negative, cs₁) ∧
      readWhole cs₁ = .ok (n.whole, cs₂) ∧ readFraction cs₂ = .ok (n.fraction, cs₃) ∧
      readExponent cs₃ = .ok (n.exponent, after) := by
  have hread : Numeral.read cs = (do
      let whole ← readWhole (sign cs).2
      let fraction ← readFraction whole.2
      let exponent ← readExponent fraction.2
      .ok (⟨(sign cs).1, whole.1, fraction.1, exponent.1⟩, exponent.2)) := rfl
  rw [hread]
  simp only [bind_eq_ok]
  constructor
  · rintro ⟨⟨whole, cs₂⟩, hwhole, ⟨fraction, cs₃⟩, hfraction, ⟨exponent, after'⟩, hexponent, heq⟩
    cases heq
    exact ⟨_, _, _, rfl, hwhole, hfraction, hexponent⟩
  · rintro ⟨cs₁, cs₂, cs₃, hsign, hwhole, hfraction, hexponent⟩
    rw [hsign]
    exact ⟨_, hwhole, _, hfraction, _, hexponent, rfl⟩

/-- A numeral is read the same when a text follows it that cannot go on with it. -/
theorem read_append (h : EndsNumeral rest) {cs : List Char} {n : Numeral} {after : List Char}
    (hread : Numeral.read cs = .ok (n, after)) :
    Numeral.read (cs ++ rest) = .ok (n, after ++ rest) := by
  obtain ⟨cs₁, cs₂, cs₃, hsign, hwhole, hfraction, hexponent⟩ := read_eq_ok_iff.mp hread
  refine read_eq_ok_iff.mpr ⟨cs₁ ++ rest, cs₂ ++ rest, cs₃ ++ rest, ?_,
    readWhole_append h hwhole, readFraction_append h hfraction, readExponent_append h hexponent⟩
  cases cs with
  | nil =>
      rw [← (Prod.mk.inj hsign).2] at hwhole
      cases hwhole
  | cons c cs =>
      obtain ⟨hnegative, rfl⟩ := Prod.mk.inj hsign
      rw [← hnegative, List.cons_append]
      unfold sign
      by_cases hc : c = '-'
      · rw [hc]
        rfl
      · split <;> simp_all

theorem takeDigits_of_digits {cs : List Char} (h : ∀ c ∈ cs, c.isDigit = true) :
    takeDigits cs = (cs.map digitValue, []) := by
  have htake := @List.takeWhile_append_of_pos _ Char.isDigit cs [] h
  have hdrop := @List.dropWhile_append_of_pos _ Char.isDigit cs [] h
  rw [List.append_nil] at htake hdrop
  unfold takeDigits
  rw [htake, hdrop]
  simp

end Numeral

/-! ### Integers -/

theorem digitValue_digitChar : ∀ n < 10, digitValue (Nat.digitChar n) = n := by decide

theorem head_toDigits_ne_zero (n : Nat) (hn : 0 < n) :
    ∀ c ∈ (Nat.toDigits 10 n).head?, digitValue c ≠ 0 := by
  induction n using Nat.strongRecOn with
  | ind n ih =>
      intro c hc
      by_cases hlt : n < 10
      · rw [Nat.toDigits_of_lt_base hlt] at hc
        cases hc
        rw [digitValue_digitChar n hlt]
        omega
      · rw [Nat.toDigits_of_base_le (by decide) (by omega), List.head?_append,
          List.head?_eq_some_head Nat.toDigits_ne_nil, Option.some_or] at hc
        exact ih (n / 10) (by omega) (by omega) c
          (List.head?_eq_some_head Nat.toDigits_ne_nil ▸ hc)

theorem digitsValue_toDigits (n : Nat) :
    digitsValue ((Nat.toDigits 10 n).map digitValue) = n := by
  have hfold : digitsValue ((Nat.toDigits 10 n).map digitValue) =
      Nat.ofDigitChars 10 (Nat.toDigits 10 n) 0 := by
    unfold digitsValue digitValue
    simp only [Nat.ofDigitChars_eq_foldl, List.foldl_map, Nat.mul_comm]
  rw [hfold, Nat.ofDigitChars_ten_toDigits]

theorem le_foldl_digits (digits : List Nat) (n : Nat) :
    n ≤ digits.foldl (fun n d => n * 10 + d) n := by
  induction digits generalizing n with
  | nil => exact Nat.le_refl n
  | cons d digits ih => exact Nat.le_trans (by omega) (ih (n * 10 + d))

/-- Digits are all gathered if their number is small enough in the end. -/
theorem gather_eq (digits : List Nat) (n : Nat)
    (h : digits.foldl (fun n d => n * 10 + d) n ≤ greatestNatural) :
    gather n digits = (digits.foldl (fun n d => n * 10 + d) n, digits.length, 0) := by
  induction digits generalizing n with
  | nil => rfl
  | cons d digits ih =>
      rw [List.foldl_cons] at h ⊢
      have hstep : n * 10 + d ≤ greatestNatural := Nat.le_trans (le_foldl_digits _ _) h
      rw [gather, if_pos hstep, ih _ h]
      rfl

theorem readWhole_toDigits (n : Nat) : Numeral.readWhole (Nat.toDigits 10 n) =
    .ok ((Nat.toDigits 10 n).map digitValue, []) := by
  have hdigits : ∀ c ∈ Nat.toDigits 10 n, c.isDigit = true :=
    fun c hc => Nat.isDigit_of_mem_toDigits (by decide) (by decide) hc
  unfold Numeral.readWhole
  rw [Numeral.takeDigits_of_digits hdigits]
  split
  · next heq => simp [Nat.toDigits_ne_nil] at heq
  · next heq =>
      rcases Nat.eq_zero_or_pos n with rfl | hn
      · cases heq
      · obtain ⟨c, cs, hcs⟩ := List.exists_cons_of_ne_nil (Nat.toDigits_ne_nil (n := n) (b := 10))
        have hzero := head_toDigits_ne_zero n hn c (by rw [hcs]; rfl)
        rw [hcs] at heq
        exact absurd (List.cons.inj (Prod.mk.inj heq).1).1 hzero
  · next heq =>
      cases heq
      rfl

theorem gather_toDigits {n : Nat} (h : n ≤ greatestNatural) :
    gather 0 ((Nat.toDigits 10 n).map digitValue) = (n, (Nat.toDigits 10 n).length, 0) := by
  have hvalue := digitsValue_toDigits n
  unfold digitsValue at hvalue
  rw [gather_eq _ 0 (hvalue.symm ▸ h), hvalue, List.length_map]

/-- The number that a number's text is read as. -/
def Number.reread (n : Number) : Option Number :=
  match Numeral.read n.chars with
  | .ok (numeral, []) => numeral.number.toOption
  | _ => none

/-- A number comes back when its text is read. Every integer does, and not every
double: a numeral of many digits is worked out in more than one rounding. -/
def Number.ReadsBack (n : Number) : Prop := n.reread = some n

instance : DecidablePred Number.ReadsBack :=
  fun n => inferInstanceAs (Decidable (n.reread = some n))

theorem Number.readsBack_iff {n : Number} : n.ReadsBack ↔
    ∃ numeral, Numeral.read n.chars = .ok (numeral, []) ∧ numeral.number = .ok n := by
  unfold ReadsBack reread
  constructor
  · intro h
    split at h
    · next numeral hread =>
        refine ⟨numeral, hread, ?_⟩
        cases hnumber : numeral.number with
        | error f => simp [hnumber, Except.toOption] at h
        | ok n' =>
            rw [hnumber] at h
            rw [Option.some.inj h]
    · cases h
  · rintro ⟨numeral, hread, hnumber⟩
    rw [hread]
    simp only [hnumber]
    rfl

theorem sign_toDigits (n : Nat) :
    Numeral.sign (Nat.toDigits 10 n) = (false, Nat.toDigits 10 n) := by
  unfold Numeral.sign
  split
  · next heq =>
      have hdigit := Nat.isDigit_of_mem_toDigits (b := 10) (n := n) (c := '-') (by decide)
        (by decide) (by rw [heq]; exact List.mem_cons_self)
      cases hdigit
  · rfl

theorem Number.readsBack_integer {i : Int} (hleast : -0x8000000000000000 ≤ i)
    (hgreatest : i < 0x10000000000000000) : (Number.integer i).ReadsBack := by
  have hlimit : greatestNatural = 0xFFFFFFFFFFFFFFFF := rfl
  refine readsBack_iff.mpr ?_
  cases i with
  | ofNat n =>
      refine ⟨⟨false, (Nat.toDigits 10 n).map digitValue, none, none⟩,
        Numeral.read_eq_ok_iff.mpr ⟨_, _, _, sign_toDigits n, readWhole_toDigits n, rfl, rfl⟩, ?_⟩
      rw [Int.ofNat_eq_natCast] at hgreatest
      have hn : n ≤ greatestNatural := by omega
      simp [Numeral.number, gather_toDigits hn]
  | negSucc n =>
      refine ⟨⟨true, (Nat.toDigits 10 (n + 1)).map digitValue, none, none⟩,
        Numeral.read_eq_ok_iff.mpr ⟨_, _, _, rfl, readWhole_toDigits (n + 1), rfl, rfl⟩, ?_⟩
      have hn : n + 1 ≤ 0x8000000000000000 := by omega
      have hgather := gather_toDigits (n := n + 1) (by omega)
      simp [Numeral.number, hgather, hn, Int.negSucc_eq]

/-- `17e23` is written as `1.7e+24` and read as its neighbour. -/
example : ¬ (Number.float (.ofDecimal false 17 23)).ReadsBack := by decide +kernel

example : (Number.float (.ofDecimal false 1 (-1))).ReadsBack := by decide +kernel

end StartStep.Json
