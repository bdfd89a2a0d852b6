import StartStep.Proofs.Testing
import StartStep.Resolver

/-!
# How a resolution ends

A resolution can be given up for three reasons: the engine refuses the request,
an item of its stream is a failure, or a constraint cannot be tested. Which
reason counts when there are several depends on the path. A lookup by
identifiers is drained before anything is tested, so a failure anywhere in the
stream comes before a malformed constraint on the first element; on the other
paths every element is tested as it comes, and the earliest item decides.

`Ends` writes this down as rules, one for each way to end, each with the number
of items taken. `ends_iff_resolve` says that a resolution follows exactly these rules:
what it asks is the one request of the path and then as many items as the rule
says, and how it ends is what the rule says. Since the rules do not overlap,
this leaves nothing open, and in particular there is no rule under which a part
of the elements is returned.

The work is done by three append lemmas, one for each reader of a stream. They
all say the same thing: a stretch of elements that can be tested is read to its
end, and what comes of the whole is decided by what stands behind it.
-/

namespace StartStep

/-- What a path asks of an engine. -/
def AccessPath.call (kind : ElementKind) : AccessPath → Call
  | .byId ids => .lookup kind ids
  | .byIndex query => .probe query.index query.key query.values
  | .fullScan => .scan kind

/-- What an engine answers to it. -/
def AccessPath.answer (kind : ElementKind) (p : Provider) : AccessPath → Except Failure Stream
  | .byId ids => p.lookup kind ids
  | .byIndex query => p.probe query.index query.key query.values
  | .fullScan => p.scan kind

/-- Testing the element comes to an end. -/
def Testable (constraints : List Constraint) (e : Element) : Prop :=
  ∃ b, testAll e constraints = .ok b

namespace Resolver

/-! ## The rules -/

/-- The ways in which a resolution ends, given the engine's answer: how many
items are taken, and what comes of it. -/
inductive Ends (constraints : List Constraint) :
    AccessPath → Except Failure Stream → Nat → Except Failure Resolution → Prop
  /-- The request itself is refused, and nothing is taken. -/
  | refused {path : AccessPath} {f : Failure} : Ends constraints path (.error f) 0 (.error f)
  /-- Every item is an element that can be tested; those that satisfy the
  constraints are kept as they come. -/
  | completed {path : AccessPath} {found : List Element}
      (htest : ∀ e ∈ found, Testable constraints e) :
      Ends constraints path (.ok (found.map .ok)) found.length
        (.ok ⟨path, found.length, found.filter (Satisfies constraints)⟩)
  /-- A lookup is broken off by its first failure, whatever the elements
  before it are like. -/
  | lookupBroken {ids : List ElementId} {before : List Element} {f : Failure}
      {after : Stream} :
      Ends constraints (.byId ids) (.ok (before.map .ok ++ .error f :: after))
        (before.length + 1) (.error f)
  /-- A lookup without failures is read to its end, and the first element that
  cannot be tested decides. -/
  | lookupMalformed {ids : List ElementId} {before after : List Element} {e : Element}
      {f : Failure} (htest : ∀ x ∈ before, Testable constraints x)
      (hfail : testAll e constraints = .error f) :
      Ends constraints (.byId ids) (.ok ((before ++ e :: after).map .ok))
        (before ++ e :: after).length (.error f)
  /-- Any other path is broken off by a failure of the stream if all elements
  before it can be tested. -/
  | streamBroken {path : AccessPath} {before : List Element} {f : Failure}
      {after : Stream} (hpath : ∀ ids, path ≠ .byId ids)
      (htest : ∀ x ∈ before, Testable constraints x) :
      Ends constraints path (.ok (before.map .ok ++ .error f :: after))
        (before.length + 1) (.error f)
  /-- Any other path is broken off by an element that cannot be tested if no
  failure and no such element stands before it. -/
  | streamMalformed {path : AccessPath} {before : List Element} {e : Element}
      {f : Failure} {after : Stream} (hpath : ∀ ids, path ≠ .byId ids)
      (htest : ∀ x ∈ before, Testable constraints x)
      (hfail : testAll e constraints = .error f) :
      Ends constraints path (.ok (before.map .ok ++ .ok e :: after))
        (before.length + 1) (.error f)

/-! ## Reading a stretch of elements -/

theorem drain_append {before : List Element} {rest : Stream} {n : Nat}
    {r : Except Failure (List Element)} (h : drain rest = .draw n r) :
    drain (before.map .ok ++ rest) = .draw (before.length + n) (r.map (before ++ ·)) := by
  induction before with
  | nil =>
      rw [List.map_nil, List.nil_append, h, List.length_nil, Nat.zero_add]
      cases r <;> rfl
  | cons e before ih =>
      rw [List.map_cons, List.cons_append, drain, ih]
      have hlen : (e :: before).length + n = 1 + (before.length + n) := by
        rw [List.length_cons]; omega
      rw [hlen]
      refine Run.draw_bind ?_
      cases r with
      | error f => rfl
      | ok more => exact Run.draw_bind (n := 0) rfl

theorem sift_append {constraints : List Constraint} {before : List Element}
    {rest : Stream} {n : Nat} {r : Except Failure (List Element × Nat)}
    (htest : ∀ e ∈ before, Testable constraints e)
    (h : sift constraints rest = .draw n r) :
    sift constraints (before.map .ok ++ rest) =
      .draw (before.length + n)
        (r.map fun x => (before.filter (Satisfies constraints) ++ x.1, before.length + x.2)) := by
  induction before with
  | nil =>
      rw [List.map_nil, List.nil_append, h, List.length_nil, Nat.zero_add]
      cases r with
      | error f => rfl
      | ok x => simp [Except.map]
  | cons e before ih =>
      obtain ⟨⟨b, hb⟩, hbefore⟩ := List.forall_mem_cons.mp htest
      rw [List.map_cons, List.cons_append, sift, ih hbefore, hb]
      have hlen : (e :: before).length + n = 1 + (before.length + n) := by
        rw [List.length_cons]; omega
      rw [hlen]
      refine Run.draw_bind ?_
      cases r with
      | error f => rfl
      | ok x =>
          refine Run.draw_bind (n := 0) ?_
          have hread : (e :: before).length + x.2 = before.length + x.2 + 1 := by
            rw [List.length_cons]; omega
          rw [eq_decide_of_testAll hb]
          simp only [Except.map, hread, List.filter_cons]
          split
          · rfl
          · rfl

theorem select_append {constraints : List Constraint} {before rest : List Element}
    (htest : ∀ e ∈ before, Testable constraints e) :
    select constraints (before ++ rest) =
      (select constraints rest).map (before.filter (Satisfies constraints) ++ ·) := by
  induction before with
  | nil =>
      rw [List.nil_append]
      cases select constraints rest <;> rfl
  | cons e before ih =>
      obtain ⟨⟨b, hb⟩, hbefore⟩ := List.forall_mem_cons.mp htest
      rw [List.cons_append, select, ih hbefore, hb, ok_bind, eq_decide_of_testAll hb]
      cases select constraints rest with
      | error f => rfl
      | ok more =>
          simp only [Except.map, ok_bind, List.filter_cons]
          split
          · rfl
          · rfl

/-! ## What the readers make of a whole stream -/

theorem drain_elements (found : List Element) :
    drain (found.map .ok) = .draw found.length (.ok found) := by
  have h := @drain_append found [] 0 (.ok []) rfl
  simpa [Except.map] using h

theorem drain_broken (before : List Element) (f : Failure) (after : Stream) :
    drain (before.map .ok ++ .error f :: after) = .draw (before.length + 1) (.error f) :=
  drain_append (r := .error f) rfl

theorem select_elements {constraints : List Constraint} {found : List Element}
    (htest : ∀ e ∈ found, Testable constraints e) :
    select constraints found = .ok (found.filter (Satisfies constraints)) := by
  have h := @select_append constraints found [] htest
  simpa [select, Except.map] using h

theorem select_malformed {constraints : List Constraint} {before after : List Element}
    {e : Element} {f : Failure} (htest : ∀ x ∈ before, Testable constraints x)
    (hfail : testAll e constraints = .error f) :
    select constraints (before ++ e :: after) = .error f := by
  rw [select_append htest, select, hfail]
  rfl

theorem sift_elements {constraints : List Constraint} {found : List Element}
    (htest : ∀ e ∈ found, Testable constraints e) :
    sift constraints (found.map .ok) =
      .draw found.length (.ok (found.filter (Satisfies constraints), found.length)) := by
  have h := @sift_append constraints found [] 0 (.ok ([], 0)) htest rfl
  simpa [Except.map] using h

theorem sift_broken {constraints : List Constraint} {before : List Element}
    (f : Failure) (after : Stream) (htest : ∀ x ∈ before, Testable constraints x) :
    sift constraints (before.map .ok ++ .error f :: after) =
      .draw (before.length + 1) (.error f) :=
  sift_append (r := .error f) htest rfl

theorem sift_malformed {constraints : List Constraint} {before : List Element}
    {e : Element} {f : Failure} (after : Stream)
    (htest : ∀ x ∈ before, Testable constraints x)
    (hfail : testAll e constraints = .error f) :
    sift constraints (before.map .ok ++ .ok e :: after) =
      .draw (before.length + 1) (.error f) := by
  refine sift_append (n := 1) (r := .error f) htest ?_
  rw [sift, hfail, Run.draw_error_bind]

/-! ## From the readers to the resolution -/

/-- What is done with the answer to a path's request. -/
def gather (constraints : List Constraint) :
    AccessPath → Stream → Run (List Element × Nat)
  | .byId _, items => do
      let found ← drain items
      return (← Run.ofExcept (select constraints found), found.length)
  | _, items => sift constraints items

theorem fetch_eq (path : AccessPath) (kind : ElementKind) (constraints : List Constraint)
    (p : Provider) :
    fetch path kind constraints p =
      Run.ask (path.call kind) (path.answer kind p) >>= gather constraints path := by
  cases path <;> rfl

theorem gather_lookup {constraints : List Constraint} {ids : List ElementId}
    {items : Stream} {n : Nat} {r : Except Failure (List Element)}
    (h : drain items = .draw n r) :
    gather constraints (.byId ids) items =
      .draw n (r.bind fun found => (select constraints found).map (·, found.length)) := by
  rw [gather, h]
  cases r with
  | error f => rfl
  | ok found =>
      refine Run.draw_bind (n := 0) ?_
      dsimp only [Except.bind]
      cases select constraints found <;> rfl

theorem gather_stream {path : AccessPath} (hpath : ∀ ids, path ≠ .byId ids)
    (constraints : List Constraint) (items : Stream) :
    gather constraints path items = sift constraints items := by
  cases path with
  | byId ids => exact absurd rfl (hpath ids)
  | byIndex query => rfl
  | fullScan => rfl

theorem resolve_of_refused {path : AccessPath} {kind : ElementKind} {p : Provider}
    {f : Failure} (constraints : List Constraint) (ha : path.answer kind p = .error f) :
    (resolve path kind constraints p).calls = [path.call kind] ∧
      (resolve path kind constraints p).result = .error f := by
  unfold resolve
  have hfetch : (fetch path kind constraints p).result = .error f := by
    rw [fetch_eq, Run.result_bind, ha]; rfl
  constructor
  · rw [Run.calls_bind_of_error hfetch, fetch_eq, Run.calls_bind_of_error (e := f) ha]; rfl
  · rw [Run.result_bind, hfetch]; rfl

theorem resolve_of_gather {path : AccessPath} {kind : ElementKind} {p : Provider}
    {constraints : List Constraint} {items : Stream} {n : Nat}
    {r : Except Failure (List Element × Nat)} (ha : path.answer kind p = .ok items)
    (hg : gather constraints path items = .draw n r) :
    (resolve path kind constraints p).calls = path.call kind :: List.replicate n .pull ∧
      (resolve path kind constraints p).result = r.map fun x => ⟨path, x.2, x.1⟩ := by
  have hresult : (fetch path kind constraints p).result = r := by
    rw [fetch_eq, Run.result_bind, ha, Run.result_ask, ok_bind, hg, Run.result_draw]
  have hcalls : (fetch path kind constraints p).calls =
      path.call kind :: List.replicate n .pull := by
    rw [fetch_eq, Run.calls_bind_of_ok (a := items) ha, hg]; rfl
  unfold resolve
  constructor
  · cases r with
    | error f => rw [Run.calls_bind_of_error hresult, hcalls]
    | ok x => rw [Run.calls_bind_of_ok hresult, hcalls]; exact List.append_nil _
  · rw [Run.result_bind, hresult]
    cases r <;> rfl

/-! ## The rules are the behaviour -/

/-- A resolution does what a rule that applies says. -/
theorem Ends.resolve {constraints : List Constraint} {path : AccessPath}
    {answer : Except Failure Stream} {n : Nat} {r : Except Failure Resolution}
    (h : Ends constraints path answer n r) {kind : ElementKind} {p : Provider}
    (ha : path.answer kind p = answer) :
    (resolve path kind constraints p).calls = path.call kind :: List.replicate n .pull ∧
      (resolve path kind constraints p).result = r := by
  cases h with
  | refused => exact resolve_of_refused constraints ha
  | @completed _ found htest =>
      by_cases hpath : ∃ ids, path = .byId ids
      · obtain ⟨ids, rfl⟩ := hpath
        refine resolve_of_gather (r := .ok (_, _)) ha ?_
        rw [gather_lookup (drain_elements found), Except.bind, select_elements htest]
        rfl
      · refine resolve_of_gather (r := .ok (_, _)) ha ?_
        rw [gather_stream fun ids h => hpath ⟨ids, h⟩]
        exact sift_elements htest
  | lookupBroken =>
      refine resolve_of_gather (r := .error _) ha ?_
      rw [gather_lookup (drain_broken _ _ _)]
      rfl
  | lookupMalformed htest hfail =>
      refine resolve_of_gather (r := .error _) ha ?_
      rw [gather_lookup (drain_elements _), Except.bind, select_malformed htest hfail]
      rfl
  | streamBroken hpath htest =>
      refine resolve_of_gather (r := .error _) ha ?_
      rw [gather_stream hpath]
      exact sift_broken _ _ htest
  | streamMalformed hpath htest hfail =>
      refine resolve_of_gather (r := .error _) ha ?_
      rw [gather_stream hpath]
      exact sift_malformed _ htest hfail

/-- Candidates that can all be tested are filtered, whatever the path. -/
theorem resolve_elements {path : AccessPath} {kind : ElementKind}
    {constraints : List Constraint} {p : Provider} {found : List Element}
    (ha : path.answer kind p = .ok (found.map .ok))
    (htest : ∀ e ∈ found, Testable constraints e) :
    (resolve path kind constraints p).result =
      .ok ⟨path, found.length, found.filter (Satisfies constraints)⟩ :=
  ((Ends.completed htest).resolve ha).2

/-- A stream starts with elements that can be tested, up to its end, its first
failure or an element that cannot be tested. -/
theorem exists_testable_prefix (constraints : List Constraint) (items : Stream) :
    ∃ before : List Element, (∀ e ∈ before, Testable constraints e) ∧
      (items = before.map .ok ∨
        (∃ f after, items = before.map .ok ++ .error f :: after) ∨
        ∃ e f after, testAll e constraints = .error f ∧
          items = before.map .ok ++ .ok e :: after) := by
  induction items with
  | nil => exact ⟨[], by simp, .inl rfl⟩
  | cons item items ih =>
      cases item with
      | error f => exact ⟨[], by simp, .inr (.inl ⟨f, items, rfl⟩)⟩
      | ok e =>
          cases htest : testAll e constraints with
          | error f => exact ⟨[], by simp, .inr (.inr ⟨e, f, items, htest, rfl⟩)⟩
          | ok b =>
              obtain ⟨before, hbefore, hitems⟩ := ih
              refine ⟨e :: before, List.forall_mem_cons.mpr ⟨⟨b, htest⟩, hbefore⟩, ?_⟩
              rcases hitems with rfl | ⟨f, after, rfl⟩ | ⟨x, f, after, hx, rfl⟩
              · exact .inl rfl
              · exact .inr (.inl ⟨f, after, rfl⟩)
              · exact .inr (.inr ⟨x, f, after, hx, rfl⟩)

theorem exists_ends_lookup (constraints : List Constraint) (ids : List ElementId)
    (items : Stream) : ∃ n r, Ends constraints (.byId ids) (.ok items) n r := by
  -- Without constraints everything can be tested: the first failure is looked for.
  obtain ⟨found, -, rfl | ⟨f, after, rfl⟩ | ⟨e, f, after, hfail, -⟩⟩ :=
    exists_testable_prefix [] items
  · obtain ⟨before, hbefore, hfound | ⟨f, after, hfound⟩ | ⟨e, f, after, hfail, hfound⟩⟩ :=
      exists_testable_prefix constraints (found.map .ok)
    · rw [hfound]
      exact ⟨_, _, .completed hbefore⟩
    · have hmem : Except.error f ∈ found.map .ok := by rw [hfound]; simp
      simp at hmem
    · obtain ⟨l, m, rfl, hl, hm⟩ := List.map_eq_append_iff.mp hfound
      obtain ⟨x, m, rfl, hx, -⟩ := List.map_eq_cons_iff.mp hm
      cases hx
      have hlbefore : l = before :=
        (List.map_inj_right fun _ _ h => Except.ok.inj h).mp hl
      subst hlbefore
      exact ⟨_, _, .lookupMalformed hbefore hfail⟩
  · exact ⟨_, _, .lookupBroken⟩
  · simp [testAll] at hfail

/-- For every answer of the engine there is a rule that applies. -/
theorem exists_ends (constraints : List Constraint) (path : AccessPath)
    (answer : Except Failure Stream) : ∃ n r, Ends constraints path answer n r := by
  cases answer with
  | error f => exact ⟨_, _, .refused⟩
  | ok items =>
      by_cases hpath : ∃ ids, path = .byId ids
      · obtain ⟨ids, rfl⟩ := hpath
        exact exists_ends_lookup constraints ids items
      · have hpath' : ∀ ids, path ≠ .byId ids := fun ids h => hpath ⟨ids, h⟩
        obtain ⟨before, hbefore, rfl | ⟨f, after, rfl⟩ | ⟨e, f, after, hfail, rfl⟩⟩ :=
          exists_testable_prefix constraints items
        · exact ⟨_, _, .completed hbefore⟩
        · exact ⟨_, _, .streamBroken hpath' hbefore⟩
        · exact ⟨_, _, .streamMalformed hpath' hbefore hfail⟩

/-- A resolution that succeeds was given a stream of elements and no failure,
and took every one. -/
theorem exists_of_resolve {path : AccessPath} {kind : ElementKind}
    {constraints : List Constraint} {p : Provider} {r : Resolution}
    (h : (resolve path kind constraints p).result = .ok r) :
    ∃ found : List Element, path.answer kind p = .ok (found.map .ok) ∧
      r = ⟨path, found.length, found.filter (Satisfies constraints)⟩ ∧
      (resolve path kind constraints p).calls =
        path.call kind :: List.replicate found.length .pull := by
  obtain ⟨n, r', hends⟩ := exists_ends constraints path (path.answer kind p)
  obtain ⟨hcalls, hresult⟩ := hends.resolve rfl
  have hr' : r' = .ok r := hresult.symm.trans h
  rw [hr'] at hends
  generalize path.answer kind p = answer at hends
  cases hends with
  | completed htest => exact ⟨_, rfl, rfl, hcalls⟩

/-- How a resolution ends depends on the engine's answer to one request only. -/
theorem resolve_result_congr {path : AccessPath} {kind : ElementKind}
    {constraints : List Constraint} {p p' : Provider}
    (h : path.answer kind p = path.answer kind p') :
    (resolve path kind constraints p).result = (resolve path kind constraints p').result := by
  unfold resolve
  simp only [Run.result_bind, fetch_eq, Run.result_ask, h]

/-- For every engine, path, kind and constraints a resolution makes the one
request of the path, takes as many items as the rules say and ends as they say;
and no other number of items and no other ending agrees with the rules. -/
theorem ends_iff_resolve (path : AccessPath) (kind : ElementKind) (constraints : List Constraint)
    (p : Provider) (n : Nat) (r : Except Failure Resolution) :
    Ends constraints path (path.answer kind p) n r ↔
      (resolve path kind constraints p).calls = path.call kind :: List.replicate n .pull ∧
        (resolve path kind constraints p).result = r := by
  constructor
  · intro h
    exact h.resolve rfl
  · rintro ⟨hcalls, hresult⟩
    obtain ⟨m, s, h⟩ := exists_ends constraints path (path.answer kind p)
    obtain ⟨hcalls', hresult'⟩ := h.resolve (rfl : path.answer kind p = _)
    have hm : m = n := by
      have hlen := congrArg List.length (hcalls'.symm.trans hcalls)
      simpa using hlen
    rw [← hm, ← hresult, hresult']
    exact h

end Resolver

end StartStep
