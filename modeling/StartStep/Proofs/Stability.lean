import StartStep.Proofs.Planning

/-!
# Constraints that leave a plan alone

The search for an index reads its constraints in two places only, each time for
a first match: for the constraint that names the class, and, once the indexed
keys are known, for the one that drives the probe. `findIndex_congr` says that
nothing else of the list matters, and it says so of the whole run: how it ends,
what it asks and what it logs.

Two ways of changing a list keep both first matches. Constraints put behind the
others cannot come before a match that is there (`findIndex_append`); where the
search found nothing to drive a probe they can, which is why that statement
needs the search to be settled. Constraints that neither search looks for are
passed over wherever they stand (`findIndex_padded`). Whether they are well formed
makes no difference, since the planner never looks at the operand of a constraint
that it did not choose.
-/

namespace StartStep

/-! ## Lists with items put in -/

/-- The second list is the first with items of some kind put in at any places. -/
inductive Padded {α : Type} (P : α → Prop) : List α → List α → Prop
  | nil : Padded P [] []
  | keep (a : α) {items padded : List α} (h : Padded P items padded) :
      Padded P (a :: items) (a :: padded)
  | insert {a : α} {items padded : List α} (ha : P a) (h : Padded P items padded) :
      Padded P items (a :: padded)

theorem Padded.find?_eq {α : Type} {P : α → Prop} {items padded : List α}
    (h : Padded P items padded) {test : α → Bool} (htest : ∀ a, P a → test a = false) :
    padded.find? test = items.find? test := by
  induction h with
  | nil => rfl
  | keep a _ ih => rw [List.find?_cons, List.find?_cons, ih]
  | insert ha _ ih => rw [List.find?_cons, htest _ ha, ih]

/-! ## Constraints behind others -/

theorem classLabel_append {constraints : List Constraint} {label : String}
    (h : classLabel constraints = some label) (further : List Constraint) :
    classLabel (constraints ++ further) = some label := by
  rw [classLabel_eq_some_iff] at h ⊢
  obtain ⟨c, ⟨before, after, rfl, hkey, hbefore⟩, hc⟩ := h
  refine ⟨c, ⟨before, after ++ further, ?_, hkey, hbefore⟩, hc⟩
  rw [List.append_assoc, List.cons_append]

namespace Planner

variable {constraints changed : List Constraint} {kind : ElementKind} {p : Provider}

theorem driver?_append {keys : List String} {driver : Constraint}
    (h : driver? constraints keys = some driver) (further : List Constraint) :
    driver? (constraints ++ further) keys = some driver := by
  unfold driver? at h ⊢
  rw [List.find?_append, h, Option.some_or]

/-- Lists that name one class and have one driver are searched by one run. The
drivers need to agree for the keys that the engine says are indexed. -/
theorem findIndex_congr (hlabel : classLabel changed = classLabel constraints)
    (hdriver : ∀ label keys, classLabel constraints = some label →
      p.indexedKeys kind label = .ok keys →
      driver? changed keys = driver? constraints keys) :
    findIndex changed kind p = findIndex constraints kind p := by
  unfold findIndex
  rw [hlabel]
  cases hname : classLabel constraints with
  | none => rfl
  | some label =>
      refine Run.bind_congr fun keys hkeys => ?_
      rw [hdriver label keys hname hkeys]

/-- A search that is settled has a class and, if the engine names its keys, a
driver. -/
theorem exists_of_settled (h : (findIndex constraints kind p).result ≠ .ok none) :
    ∃ label, classLabel constraints = some label ∧
      ∀ keys, p.indexedKeys kind label = .ok keys →
        ∃ driver, driver? constraints keys = some driver := by
  rw [findIndex_result] at h
  cases hlabel : classLabel constraints with
  | none =>
      rw [hlabel] at h
      exact absurd rfl h
  | some label =>
      refine ⟨label, rfl, fun keys hkeys => ?_⟩
      cases hdriver : driver? constraints keys with
      | some driver => exact ⟨driver, rfl⟩
      | none =>
          simp only [hlabel, hkeys, ok_bind, hdriver] at h
          exact absurd rfl h

/-- A search for an index that has found one, or has failed, is not changed by
constraints behind the others. -/
theorem findIndex_append (h : (findIndex constraints kind p).result ≠ .ok none)
    (further : List Constraint) :
    findIndex (constraints ++ further) kind p = findIndex constraints kind p := by
  obtain ⟨label, hlabel, hdriven⟩ := exists_of_settled h
  refine findIndex_congr ?_ fun label' keys hlabel' hkeys => ?_
  · rw [classLabel_append hlabel further, hlabel]
  · obtain rfl : label = label' := Option.some.inj (hlabel.symm.trans hlabel')
    obtain ⟨driver, hdriver⟩ := hdriven keys hkeys
    rw [driver?_append hdriver further, hdriver]

/-! ## Constraints that are not looked for -/

/-- A constraint that names no class and drives no probe. -/
def Idle (c : Constraint) : Prop :=
  c.key ≠ labelKey ∧ c.predicate ≠ .eq ∧ c.predicate ≠ .within

theorem classLabel_padded (h : Padded Idle constraints changed) :
    classLabel changed = classLabel constraints := by
  have hidle : ∀ c : Constraint, Idle c → (c.keyKind == .label) = false := by
    intro c hc
    rw [Bool.eq_false_iff, ne_eq, c.keyKind_eq_label_iff]
    exact hc.1
  unfold classLabel
  rw [h.find?_eq hidle]

theorem driver?_padded (h : Padded Idle constraints changed) (keys : List String) :
    driver? changed keys = driver? constraints keys := by
  refine h.find?_eq fun c hc => ?_
  rw [Bool.eq_false_iff, ne_eq, drives_iff]
  rintro ⟨hpred | hpred, -⟩
  · exact hc.2.1 hpred
  · exact hc.2.2 hpred

theorem findIndex_padded (h : Padded Idle constraints changed) :
    findIndex changed kind p = findIndex constraints kind p :=
  findIndex_congr (classLabel_padded h) fun _ keys _ _ => driver?_padded h keys

/-- For every engine, a search that found an index or failed is the same run
whatever constraints are put behind, and any search is the same run whatever
constraints are put in anywhere that are on no label and neither equalities nor
memberships. -/
theorem findIndex_stable (constraints : List Constraint) (kind : ElementKind) (p : Provider) :
    (((∃ q, (findIndex constraints kind p).result = .ok (some q)) ∨
        ∃ f, (findIndex constraints kind p).result = .error f) →
      ∀ further, findIndex (constraints ++ further) kind p = findIndex constraints kind p) ∧
    ∀ changed, Padded Idle constraints changed →
      findIndex changed kind p = findIndex constraints kind p := by
  refine ⟨fun hsettled further => ?_, fun changed h => findIndex_padded h⟩
  refine findIndex_append ?_ further
  rcases hsettled with ⟨q, hq⟩ | ⟨f, hf⟩
  · rw [hq]
    simp
  · rw [hf]
    simp

/-- An engine with one index, of any class, and nothing stored. -/
def nameEngine : Provider where
  indexedKeys _ _ := .ok ["name"]
  classIndexes name := .ok [⟨"by name", name, ["name"]⟩]
  className _ label := label
  lookup _ _ := .ok []
  scan _ := .ok []
  probe _ _ _ := .ok []

/-- A second label and a malformed constraint behind a choice, or malformed ones
around it, leave the choice as it is. -/
theorem findIndex_stable_named :
    let misplaced : Constraint := ⟨"name", .without, .int 3⟩
    let named : List Constraint := [.label "Person", .eq "name" (.string "Ada")]
    (findIndex (named ++ [.label "City", misplaced]) .vertex nameEngine).result =
        .ok (some ⟨⟨"by name", "Person", ["name"]⟩, "name", [.string "Ada"]⟩) ∧
      findIndex [misplaced, .label "Person", misplaced, .eq "name" (.string "Ada")] .vertex
        nameEngine = findIndex named .vertex nameEngine := by
  intro misplaced named
  have hnamed : (findIndex named .vertex nameEngine).result =
      .ok (some ⟨⟨"by name", "Person", ["name"]⟩, "name", [.string "Ada"]⟩) := rfl
  have hidle : Idle misplaced := ⟨by decide, by decide, by decide⟩
  have h := findIndex_stable named .vertex nameEngine
  constructor
  · rw [h.1 (.inl ⟨_, hnamed⟩) _, hnamed]
  · exact h.2 _ (.insert hidle (.keep _ (.insert hidle (.keep _ .nil))))

end Planner

end StartStep
