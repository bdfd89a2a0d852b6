import StartStep.Proofs.History

/-!
# Reading leaves no trace

A request that only asks does change the session: calls are counted, and so are
completed resolutions. Nothing that is asked later depends on it. The provider
that a graph is to a step does not hold the counters, no change of the graph
looks at them, and so two sessions whose graphs differ in nothing else answer
every request alike, up to the two requests that ask for the counters
themselves (`answer_uncounted`). Leaving out a request that only asks makes
the graphs of two sessions differ in just this way, wherever in the session it
is left out and whether or not it would have succeeded: what the others lead to
is as it was (`answerAll_without_reads`).
-/

namespace StartStep

namespace Session

/-! ## Outcomes without counters -/

/-- An answer without the numbers that were counted. -/
def Answer.uncounted : Answer → Answer
  | .counts _ => .counts .zero
  | .profile _ => .profile .zero
  | a => a

/-- An outcome without the numbers that were counted. -/
def Outcome.uncounted (o : Outcome Answer) : Outcome Answer :=
  ⟨o.result.map Answer.uncounted, o.events⟩

/-! ## Requests that ask -/

theorem Same.provider {g : MemGraph} {s : State} (hs : Same g s) :
    s.ground.provider = g.provider := by
  obtain ⟨calls, h⟩ := hs
  rw [h]
  rfl

theorem act_congr {s s' : State} (h : s.ground.provider = s'.ground.provider) (step : Step)
    (a : Action) : (act s step a).2 = (act s' step a).2 := by
  cases a with
  | attach => simp only [act, h]
  | warn | labels | has | plan | findIndex | resolve | explain | text | detailed | parts => rfl

theorem actAll_congr {g : MemGraph} {s s' : State} (hs : Same g s) (hs' : Same g s')
    (step : Step) (actions : List Action) :
    (actAll s step actions).2 = (actAll s' step actions).2 := by
  induction actions generalizing s s' step with
  | nil => rfl
  | cons a rest ih =>
      have hact := act_congr (hs.provider.trans hs'.provider.symm) step a
      have hrest := ih (hs.act step a) (hs'.act step a) (act s step a).2.1
      show (act s step a).2.2 :: (actAll (act s step a).1 (act s step a).2.1 rest).2 =
        (act s' step a).2.2 :: (actAll (act s' step a).1 (act s' step a).2.1 rest).2
      rw [hrest, hact]

theorem answer_uncounted_of_asks {g : MemGraph} {s s' : State} (hs : Same g s)
    (hs' : Same g s') {r : Request} (hr : r.changes = false) :
    (answer s r).2.uncounted = (answer s' r).2.uncounted := by
  cases r with
  | indexedKeys | classIndexes | className | lookup | scan | probe | plan | findIndex
  | resolve =>
      simp only [answer, hs.provider, hs'.provider]
      rfl
  | profile => rfl
  | step kind ids actions =>
      show Outcome.uncounted ⟨.ok (.actions (actAll s _ actions).2), []⟩ =
        Outcome.uncounted ⟨.ok (.actions (actAll s' _ actions).2), []⟩
      rw [actAll_congr hs hs']
  | calls | size =>
      obtain ⟨_, profile⟩ := s
      obtain ⟨_, profile'⟩ := s'
      obtain ⟨calls, h⟩ := hs
      obtain ⟨calls', h'⟩ := hs'
      cases h
      cases h'
      rfl
  | insert | createIndex | withIndex | fault => cases hr

/-! ## Requests that change -/

/-- A change that works alike whatever has been counted. -/
theorem Same.change {g g' : MemGraph} {s : State} (hs : Same g s)
    {f : MemGraph → MemGraph × Except Failure Unit × List Event}
    (result : Except Failure Unit) (events : List Event)
    (hf : ∀ calls, ∃ calls', f { g with calls := g.calls.countAll calls } =
      ({ g' with calls := g'.calls.countAll calls' }, result, events)) :
    Same g' (change s f).1 ∧ (change s f).2 = ⟨result.map fun _ => .done, events⟩ := by
  obtain ⟨ground, profile⟩ := s
  obtain ⟨calls, h⟩ := hs
  cases h
  obtain ⟨calls', hcalls⟩ := hf calls
  simp only [Session.change, hcalls]
  exact ⟨⟨calls', rfl⟩, trivial⟩

theorem createIndex_called (g : MemGraph) (index : Index) (calls : List Call) :
    MemGraph.createIndex { g with calls := g.calls.countAll calls } index =
      (g.createIndex index).map fun g' => { g' with calls := g'.calls.countAll calls } := by
  unfold MemGraph.createIndex
  split
  · rfl
  · split <;> rfl

theorem answer_of_changes {g : MemGraph} {r : Request} (hr : r.changes = true) :
    ∃ g' o, ∀ s, Same g s → Same g' (answer s r).1 ∧ (answer s r).2 = o := by
  cases r with
  | insert e =>
      refine ⟨g.insert e, _, fun s hs => hs.change (.ok ()) [] fun calls => ⟨calls, ?_⟩⟩
      unfold MemGraph.insert
      cases e.kind <;> rfl
  | fault fault =>
      exact ⟨g.withFault fault, _, fun s hs => hs.change (.ok ()) [] fun calls => ⟨calls, rfl⟩⟩
  | createIndex index =>
      cases hindex : g.createIndex index with
      | error f =>
          refine ⟨g, _, fun s hs => hs.change (.error f) [] fun calls => ⟨calls, ?_⟩⟩
          simp only [createIndex_called, hindex, Except.map]
      | ok g' =>
          refine ⟨g', _, fun s hs => hs.change (.ok ()) [.indexCreated index]
            fun calls => ⟨calls, ?_⟩⟩
          simp only [createIndex_called, hindex, Except.map]
  | withIndex name kind label fields =>
      cases hindex : g.createIndex (MemGraph.labelIndex name kind label fields) with
      | error f =>
          -- The graph is given up with the index.
          refine ⟨.empty, _, fun s hs => hs.change (.error f) [] fun calls => ⟨[], ?_⟩⟩
          simp only [MemGraph.withIndex, createIndex_called, hindex, Except.map]
          rfl
      | ok g' =>
          refine ⟨g', _, fun s hs =>
            hs.change (.ok ()) [.indexCreated (MemGraph.labelIndex name kind label fields)]
              fun calls => ⟨calls, ?_⟩⟩
          simp only [MemGraph.withIndex, createIndex_called, hindex, Except.map]
  | indexedKeys | classIndexes | className | lookup | scan | probe | plan | findIndex
  | resolve | profile | calls | step | size => cases hr

/-! ## Two sessions -/

/-- Sessions whose graphs differ in counters only answer a request alike, and
their graphs differ in counters only afterwards. -/
theorem answer_uncounted {g : MemGraph} {s s' : State} (hs : Same g s) (hs' : Same g s')
    (r : Request) :
    (∃ g', Same g' (answer s r).1 ∧ Same g' (answer s' r).1) ∧
      (answer s r).2.uncounted = (answer s' r).2.uncounted := by
  cases hr : r.changes with
  | false => exact ⟨⟨g, hs.answer hr, hs'.answer hr⟩, answer_uncounted_of_asks hs hs' hr⟩
  | true =>
      obtain ⟨g', o, h⟩ := @answer_of_changes g r hr
      refine ⟨⟨g', (h s hs).1, (h s' hs').1⟩, ?_⟩
      rw [(h s hs).2, (h s' hs').2]

theorem answerAll_uncounted {g : MemGraph} {s s' : State} (hs : Same g s) (hs' : Same g s')
    {marked : List (Request × Bool)}
    (hasks : ∀ r, (r, false) ∈ marked → r.changes = false) :
    let all := answerAll s (marked.map (·.1))
    let fewer := answerAll s' ((marked.filter (·.2)).map (·.1))
    (∃ g', Same g' all.1 ∧ Same g' fewer.1) ∧
      ((marked.zip all.2).filter (·.1.2)).map (·.2.uncounted) = fewer.2.map (·.uncounted) := by
  induction marked generalizing g s s' with
  | nil => exact ⟨⟨g, hs, hs'⟩, rfl⟩
  | cons m rest ih =>
      obtain ⟨r, kept⟩ := m
      have hrest : ∀ r, (r, false) ∈ rest → r.changes = false :=
        fun r hr => hasks r (List.mem_cons_of_mem _ hr)
      cases kept with
      | false =>
          -- The request is left out of the second session only.
          exact ih (hs.answer (hasks r List.mem_cons_self)) hs' hrest
      | true =>
          obtain ⟨⟨g', hg, hg'⟩, houtcome⟩ := answer_uncounted hs hs' r
          obtain ⟨hsame, houtcomes⟩ := ih hg hg' hrest
          exact ⟨hsame, congrArg₂ List.cons houtcome houtcomes⟩

/-- In a session on a graph some of the requests that only ask are left out.
What the other requests lead to, outcomes and records alike, is as it was, but
for the numbers that were counted, and the graph ends up the same, but for its
counters. -/
theorem answerAll_without_reads {g : MemGraph} {profile : Profile}
    {marked : List (Request × Bool)}
    (hasks : ∀ r, (r, false) ∈ marked → r.changes = false) :
    let all := answerAll ⟨.memory g, profile⟩ (marked.map (·.1))
    let fewer := answerAll ⟨.memory g, profile⟩ ((marked.filter (·.2)).map (·.1))
    ((marked.zip all.2).filter (·.1.2)).map (·.2.uncounted) = fewer.2.map (·.uncounted) ∧
      ∃ (g' : MemGraph) (calls calls' : CallCounts),
        all.1.ground = .memory { g' with calls := calls } ∧
          fewer.1.ground = .memory { g' with calls := calls' } := by
  have hs : Same g ⟨.memory g, profile⟩ := Same.refl rfl
  obtain ⟨⟨g', ⟨calls, hall⟩, calls', hfewer⟩, houtcomes⟩ := answerAll_uncounted hs hs hasks
  exact ⟨houtcomes, g', _, _, hall, hfewer⟩

/-- A scan and a probe that is refused are left out of a session. They have been
counted, and the person who has come between them is found all the same. -/
theorem answerAll_without_reads_people :
    let cleo : Element := .named 3 "Person" "Cleo"
    let marked : List (Request × Bool) :=
      [(.resolve .fullScan .vertex [.eq "name" (.string "Ada")], false), (.insert cleo, true),
        (.probe (MemGraph.labelIndex "by town" .vertex "Person" ["town"]) "town" [], false),
        (.step .vertex [3] [.attach, .resolve], true), (.calls, true)]
    let all := answerAll ⟨.memory .people, .zero⟩ (marked.map (·.1))
    let fewer := answerAll ⟨.memory .people, .zero⟩ ((marked.filter (·.2)).map (·.1))
    let found : Outcome ActionAnswer := ⟨.ok (.elements [cleo]),
      [.idsChosen .vertex 1, .resolved (AccessPath.byId [3]).name .vertex 1 1]⟩
    (∀ r, (r, false) ∈ marked → r.changes = false) ∧
      ((marked.zip all.2).filter (·.1.2)).map (·.2.uncounted) =
        [⟨.ok .done, []⟩, ⟨.ok (.actions [⟨.ok .done, []⟩, found]), []⟩,
          ⟨.ok (.counts .zero), []⟩] ∧
      all.2[4]? = some ⟨.ok (.counts ⟨0, 1, 1, 1⟩), []⟩ ∧
      fewer.2[2]? = some ⟨.ok (.counts ⟨0, 1, 0, 0⟩), []⟩ := by
  intro cleo marked all fewer found
  have hasks : ∀ r, (r, false) ∈ marked → r.changes = false := by
    intro r hr
    simp only [marked, List.mem_cons, Prod.mk.injEq, and_true, and_false, Bool.false_eq_true,
      or_false, false_or, List.not_mem_nil] at hr
    obtain rfl | rfl := hr <;> rfl
  refine ⟨hasks, ?_, rfl, rfl⟩
  rw [(answerAll_without_reads hasks).1]
  rfl

end Session

end StartStep
