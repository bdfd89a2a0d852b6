import StartStep.Constraint.Text
import StartStep.Text.Lines

/-!
# Texts cut at a separator

Where a text is put together with separators, its parts are known from it as long as no
part holds the separator that ends it. For a single cut this is `append_cons_inj`, and
`splitFirst` makes the cut. A text of lines is cut once for every line, so what holds of
one cut holds of the lines by induction (`Text.ofLines_inj`).
-/

namespace StartStep

/-! ## The first occurrence of a character -/

theorem splitFirst_append {c : Char} {before : List Char} (h : c ∉ before) (after : List Char) :
    splitFirst c (before ++ c :: after) = some (before, after) := by
  induction before with
  | nil => exact if_pos rfl
  | cons x before ih =>
      obtain ⟨hx, hbefore⟩ := List.ne_and_not_mem_of_not_mem_cons h
      rw [List.cons_append, splitFirst, if_neg hx.symm, ih hbefore]
      rfl

theorem splitFirst_eq_some_iff {c : Char} {cs before after : List Char} :
    splitFirst c cs = some (before, after) ↔ c ∉ before ∧ cs = before ++ c :: after := by
  constructor
  · intro h
    induction cs generalizing before with
    | nil => cases h
    | cons x cs ih =>
        rw [splitFirst] at h
        split at h
        · next hx =>
            obtain ⟨rfl, rfl⟩ := Prod.mk.inj (Option.some.inj h)
            exact ⟨List.not_mem_nil, congrArg (· :: cs) hx⟩
        · next hx =>
            obtain ⟨⟨before', after'⟩, hsplit, heq⟩ := Option.map_eq_some_iff.mp h
            obtain ⟨rfl, rfl⟩ := Prod.mk.inj heq
            obtain ⟨hbefore, rfl⟩ := ih hsplit
            exact ⟨List.not_mem_cons_of_ne_of_not_mem (Ne.symm hx) hbefore, rfl⟩
  · rintro ⟨hbefore, rfl⟩
    exact splitFirst_append hbefore after

/-- Two parts are known from the whole if the first one does not hold the separator. -/
theorem append_cons_inj {c : Char} {before before' after after' : List Char} (h : c ∉ before)
    (h' : c ∉ before') (heq : before ++ c :: after = before' ++ c :: after') :
    before = before' ∧ after = after' := by
  have hsplit := splitFirst_append h after
  rw [heq, splitFirst_append h'] at hsplit
  obtain ⟨rfl, rfl⟩ := Prod.mk.inj (Option.some.inj hsplit)
  exact ⟨rfl, rfl⟩

/-! ## Lines -/

/-- A text without a line feed. -/
def OneLine (s : String) : Prop := '\n' ∉ s.toList

instance : DecidablePred OneLine := fun s => inferInstanceAs (Decidable ('\n' ∉ s.toList))

theorem oneLine_append {s t : String} : OneLine (s ++ t) ↔ OneLine s ∧ OneLine t := by
  simp [OneLine, String.toList_append]

theorem OneLine.intercalate {separator : String} (hseparator : OneLine separator)
    {items : List String} (h : ∀ s ∈ items, OneLine s) :
    OneLine (separator.intercalate items) := by
  induction items with
  | nil => simp [OneLine]
  | cons s rest ih =>
      obtain ⟨hs, hrest⟩ := List.forall_mem_cons.mp h
      cases rest with
      | nil => simpa using hs
      | cons t rest =>
          rw [String.intercalate_cons_cons, oneLine_append, oneLine_append]
          exact ⟨⟨hs, hseparator⟩, ih hrest⟩

namespace Text

theorem ofLines_cons (l : String) (rest : List String) :
    ofLines (l :: rest) = l ++ "\n" ++ ofLines rest := by
  unfold ofLines
  rw [List.map_cons, String.join_cons]

theorem toList_ofLines_cons (l : String) (rest : List String) :
    (ofLines (l :: rest)).toList = l.toList ++ '\n' :: (ofLines rest).toList := by
  simp [ofLines_cons, String.toList_append]

/-- Lines are known from the text that they make. -/
theorem ofLines_inj {lines lines' : List String} (h : ∀ l ∈ lines, OneLine l)
    (h' : ∀ l ∈ lines', OneLine l) (heq : ofLines lines = ofLines lines') : lines = lines' := by
  induction lines generalizing lines' with
  | nil =>
      cases lines' with
      | nil => rfl
      | cons l' rest' =>
          have hchars := congrArg String.toList heq
          rw [toList_ofLines_cons] at hchars
          simp [ofLines] at hchars
  | cons l rest ih =>
      obtain ⟨hl, hrest⟩ := List.forall_mem_cons.mp h
      have hchars := congrArg String.toList heq
      cases lines' with
      | nil =>
          rw [toList_ofLines_cons] at hchars
          simp [ofLines] at hchars
      | cons l' rest' =>
          obtain ⟨hl', hrest'⟩ := List.forall_mem_cons.mp h'
          rw [toList_ofLines_cons, toList_ofLines_cons] at hchars
          obtain ⟨hline, hmore⟩ := append_cons_inj hl hl' hchars
          rw [String.toList_inj.mp hline, ih hrest hrest' (String.toList_inj.mp hmore)]

theorem count_ofLines {lines : List String} (h : ∀ l ∈ lines, OneLine l) :
    (ofLines lines).toList.count '\n' = lines.length := by
  induction lines with
  | nil => rfl
  | cons l rest ih =>
      obtain ⟨hl, hrest⟩ := List.forall_mem_cons.mp h
      rw [toList_ofLines_cons, List.count_append, List.count_cons_self, ih hrest,
        List.count_eq_zero.mpr hl, Nat.zero_add, List.length_cons]

end Text

end StartStep
