import Mathlib.Data.Nat.ModEq
import StartStep.Proofs.Counting

/-!
# What the counters of resolutions add up to

The counters of completed resolutions are read from time to time and set to
zero as they are read. Nothing is lost by that and nothing is made up: what was
taken away by the readings and what is still there are, together, what the
completed resolutions have brought (`profile_accounts`). The counters are words
that wrap, so the sums agree up to multiples of their size.

What a resolution brings is said from outside (`Counter.brought`): by the path that
was followed, by the number of items that were taken from the engine's stream,
and by the number of elements that came back. That the second is the number the
resolution itself reports is due to its reading the stream to the end before
it succeeds, and that the third never exceeds the second to its only leaving
elements out, so that the difference which is counted as rejected is one. A
resolution that fails, at whatever item, has brought nothing.
-/

namespace StartStep

/-! ## Items taken from a stream -/

def Call.isPull : Call → Bool
  | .pull => true
  | _ => false

/-- How many items were taken. -/
def Run.pulls {α : Type} (run : Run α) : Nat := run.calls.countP (·.isPull)

theorem countP_pulls (n : Nat) : (List.replicate n Call.pull).countP (·.isPull) = n := by
  rw [List.countP_replicate]
  rfl

/-- What a completed resolution says about itself: its path, and that every
element it has read was an item taken. -/
theorem Resolver.of_resolve {path : AccessPath} {kind : ElementKind}
    {constraints : List Constraint} {p : Provider} {r : Resolution}
    (h : (resolve path kind constraints p).result = .ok r) :
    r.path = path ∧ r.candidates = (resolve path kind constraints p).pulls ∧
      r.elements.length ≤ r.candidates := by
  obtain ⟨found, -, rfl, hcalls⟩ := exists_of_resolve h
  refine ⟨rfl, ?_, List.length_filter_le _ _⟩
  unfold Run.pulls
  rw [hcalls, List.countP_cons, countP_pulls]
  cases path <;> rfl

/-- Planning takes no items. -/
theorem Planner.plan_pulls (config : PlannerConfig) (constraints : List Constraint)
    (ids : List ElementId) (kind : ElementKind) (p : Provider) :
    (plan config constraints ids kind p).pulls = 0 := by
  unfold Run.pulls
  rw [plan_calls]
  split
  · have hasks : Asks constraints kind p (findIndex constraints kind p).calls :=
      findIndex_calls_iff.mp rfl
    generalize (findIndex constraints kind p).calls = calls at hasks ⊢
    cases hasks <;> rfl
  · rfl

theorem Step.of_resolve {s : Step} {r : Resolution} (h : s.resolve.result = .ok r) :
    s.plan.result = .ok r.path ∧ r.candidates = s.resolve.pulls ∧
      r.elements.length ≤ r.candidates := by
  obtain ⟨kind, ids, labels, constraints, config, graph⟩ := s
  cases graph with
  | none => cases h
  | some p =>
      let s : Step := ⟨kind, ids, labels, constraints, config, none⟩
      have hattached : (s.attach p).resolve.result = .ok r := h
      show (s.attach p).plan.result = .ok r.path ∧
        r.candidates = (s.attach p).resolve.pulls ∧ r.elements.length ≤ r.candidates
      rw [attach_resolve_result_eq_bind] at hattached
      obtain ⟨path, hplan, hresolve⟩ := bind_eq_ok.mp hattached
      obtain ⟨hpath, hcandidates, hlength⟩ := Resolver.of_resolve hresolve
      refine ⟨hpath ▸ hplan, ?_, hlength⟩
      have hpulls : (s.attach p).plan.calls.countP (·.isPull) = 0 :=
        Planner.plan_pulls config constraints ids kind p
      unfold Run.pulls at hcandidates ⊢
      rw [resolve_calls hplan, List.countP_append, hpulls, Nat.zero_add]
      exact hcandidates

/-! ## The counters, one by one -/

/-- The counters of completed resolutions. -/
inductive Counter
  | byId
  | byIndex
  | fullScan
  | candidates
  | rejected

namespace Counter

def value : Counter → Profile → UInt64
  | .byId, p => p.byId
  | .byIndex, p => p.byIndex
  | .fullScan, p => p.fullScan
  | .candidates, p => p.candidates
  | .rejected, p => p.rejected

/-- What a resolution brings that has followed a path, taken some items and
returned some elements. -/
def brought : Counter → AccessPath → (taken returned : Nat) → Nat
  | .byId, .byId _, _, _ => 1
  | .byIndex, .byIndex _, _, _ => 1
  | .fullScan, .fullScan, _, _ => 1
  | .candidates, _, taken, _ => taken
  | .rejected, _, taken, returned => taken - returned
  | _, _, _, _ => 0

theorem value_zero (c : Counter) : (c.value .zero).toNat = 0 := by
  cases c <;> rfl

theorem value_record (c : Counter) (p : Profile) (r : Resolution) :
    c.value (p.record r) =
      c.value p + UInt64.ofNat (c.brought r.path r.candidates r.elements.length) := by
  obtain ⟨path, candidates, elements⟩ := r
  cases c <;> cases path <;> simp [value, brought, Profile.record]

end Counter

theorem toNat_add_ofNat_modEq (a : UInt64) (n : Nat) :
    (a + UInt64.ofNat n).toNat ≡ a.toNat + n [MOD 2 ^ 64] := by
  rw [UInt64.toNat_add, UInt64.toNat_ofNat']
  exact (Nat.mod_modEq _ _).trans ((Nat.mod_modEq n _).add_left a.toNat)

namespace Session

/-! ## Resolutions and readings in turn -/

/-- What may touch the counters. -/
inductive Work
  /-- A path is followed on an engine. -/
  | follow (p : Provider) (path : AccessPath) (kind : ElementKind)
      (constraints : List Constraint)
  | step (s : Step)
  /-- The counters are read, and set to zero on demand. -/
  | reading (reset : Bool)

namespace Work

def resolution? : Work → Option (Run Resolution)
  | .follow p path kind constraints => some (Resolver.resolve path kind constraints p)
  | .step s => some s.resolve
  | .reading _ => none

def perform (s : State) : Work → State × Outcome Answer
  | .follow p path kind constraints =>
      s.performResolution (Resolver.resolve path kind constraints p) .elements
  | .step x => s.performResolution x.resolve .elements
  | .reading reset => answer s (.profile reset)

/-- The resolution is to follow the path. -/
def Follows : Work → AccessPath → Prop
  | .follow _ path _ _, followed => followed = path
  | .step s, followed => s.plan.result = .ok followed
  | .reading _, _ => False

/-- What is due to a counter for a piece of work. -/
def due (c : Counter) (w : Work) : Nat :=
  match w.resolution? with
  | some run =>
      match run.result with
      | .ok r => c.brought r.path run.pulls r.elements.length
      | .error _ => 0
  | none => 0

/-- The counters that were read and set to zero. -/
def taken : Work → Outcome Answer → List Profile
  | .reading true, ⟨.ok (.profile p), _⟩ => [p]
  | _, _ => []

end Work

/-- Does one piece of work after the other, and gathers the counters that were
read and set to zero. -/
def workAll (s : State) : List Work → State × List Profile
  | [] => (s, [])
  | w :: rest =>
      let (s, o) := w.perform s
      let (s, later) := workAll s rest
      (s, w.taken o ++ later)

/-- The sum of the values of a counter. -/
def total (c : Counter) (readings : List Profile) : Nat :=
  (readings.map fun p => (c.value p).toNat).sum

/-- A completed resolution follows the path it was to follow and returns at most
as many elements as it has taken items. -/
theorem Work.of_resolution {w : Work} {run : Run Resolution} {r : Resolution}
    (hw : w.resolution? = some run) (hr : run.result = .ok r) :
    w.Follows r.path ∧ r.candidates = run.pulls ∧ r.elements.length ≤ run.pulls := by
  cases w with
  | follow p path kind constraints =>
      cases hw
      obtain ⟨hpath, hcandidates, hlength⟩ := Resolver.of_resolve hr
      exact ⟨hpath, hcandidates, hcandidates ▸ hlength⟩
  | step s =>
      cases hw
      obtain ⟨hpath, hcandidates, hlength⟩ := Step.of_resolve hr
      exact ⟨hpath, hcandidates, hcandidates ▸ hlength⟩
  | reading reset => cases hw

theorem Work.perform_resolution {w : Work} {run : Run Resolution}
    (hw : w.resolution? = some run) (s : State) :
    (w.perform s).1.profile = s.profile.recordRun run.result ∧
      w.taken (w.perform s).2 = [] ∧
      (w.perform s).2.result = run.result.map fun r => .elements r.elements := by
  cases w with
  | follow | step =>
      cases hw
      exact ⟨rfl, rfl, rfl⟩
  | reading => cases hw

/-- One piece of work: what is taken away and what is left afterwards are what
was there and what is due. -/
theorem Work.perform_accounts (c : Counter) (w : Work) (s : State) :
    total c (w.taken (w.perform s).2) + (c.value (w.perform s).1.profile).toNat ≡
      (c.value s.profile).toNat + w.due c [MOD 2 ^ 64] := by
  cases hw : w.resolution? with
  | some run =>
      obtain ⟨hprofile, htaken, -⟩ := Work.perform_resolution hw s
      rw [hprofile, htaken, Work.due, hw]
      dsimp only
      cases hr : run.result with
      | error f => simp [total, Profile.recordRun, Nat.ModEq.refl]
      | ok r =>
          obtain ⟨-, hcandidates, -⟩ := Work.of_resolution hw hr
          show 0 + (c.value (s.profile.record r)).toNat ≡ _ [MOD 2 ^ 64]
          rw [Nat.zero_add, c.value_record, hcandidates]
          exact toNat_add_ofNat_modEq _ _
  | none =>
      cases w with
      | follow | step => cases hw
      | reading reset =>
          cases reset with
          | false => exact (Nat.zero_add _).symm ▸ Nat.ModEq.refl _
          | true =>
              show total c [s.profile] + (c.value .zero).toNat ≡ _ + 0 [MOD 2 ^ 64]
              rw [c.value_zero]
              simp [total, Nat.ModEq.refl]

theorem workAll_accounts (c : Counter) (works : List Work) (s : State) :
    total c (workAll s works).2 + (c.value (workAll s works).1.profile).toNat ≡
      (c.value s.profile).toNat + (works.map (·.due c)).sum [MOD 2 ^ 64] := by
  induction works generalizing s with
  | nil => exact (Nat.zero_add _).symm ▸ Nat.ModEq.refl _
  | cons w rest ih =>
      have hstep := w.perform_accounts c s
      have hrest := ih (w.perform s).1
      have htotal : total c (workAll s (w :: rest)).2 =
          total c (w.taken (w.perform s).2) + total c (workAll (w.perform s).1 rest).2 := by
        simp [workAll, total]
      rw [htotal, List.map_cons, List.sum_cons, Nat.add_assoc]
      refine (hrest.add_left _).trans ?_
      rw [← Nat.add_assoc, ← Nat.add_assoc]
      exact hstep.add_right _

/-- From counters at zero, whatever is resolved on whatever engines, whatever
fails, and whenever the counters are read: for every counter, the values that
were read and set to zero and the value that is there are together, up to
multiples of the size of a word, what the completed resolutions have brought. A
completed resolution follows the path it was to follow and answers with at most
as many elements as it has taken items. A failed resolution and a mere reading
change no counter. -/
theorem profile_accounts (ground : Ground) (works : List Work) :
    (∀ c : Counter, total c (workAll ⟨ground, .zero⟩ works).2 +
        (c.value (workAll ⟨ground, .zero⟩ works).1.profile).toNat ≡
      (works.map (·.due c)).sum [MOD 2 ^ 64]) ∧
    (∀ (w : Work) run r, w.resolution? = some run → run.result = .ok r →
      w.Follows r.path ∧ r.elements.length ≤ run.pulls ∧
        ∀ s, (w.perform s).2.result = .ok (.elements r.elements)) ∧
    ∀ (w : Work) s, w ≠ .reading true →
      (∀ run r, w.resolution? = some run → run.result ≠ .ok r) →
      (w.perform s).1.profile = s.profile := by
  refine ⟨fun c => ?_, fun w run r hw hr => ?_, fun w s hreading hfails => ?_⟩
  · have h := workAll_accounts c works ⟨ground, .zero⟩
    rw [c.value_zero, Nat.zero_add] at h
    exact h
  · obtain ⟨hfollows, -, hlength⟩ := Work.of_resolution hw hr
    refine ⟨hfollows, hlength, fun s => ?_⟩
    rw [(Work.perform_resolution hw s).2.2, hr]
    rfl
  · cases hw : w.resolution? with
    | some run =>
        rw [(Work.perform_resolution hw s).1]
        cases hr : run.result with
        | error f => rfl
        | ok r => exact absurd hr (hfails run r hw)
    | none =>
        cases w with
        | follow | step => cases hw
        | reading reset =>
            cases reset with
            | false => rfl
            | true => exact absurd rfl hreading

end Session

end StartStep
