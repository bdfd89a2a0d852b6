import StartStep.Proofs.AllOrNothing
import StartStep.Proofs.Redaction
import StartStep.Proofs.RoundTrip

/-!
# What an explanation in JSON tells

As text, an explanation can be written with its literals withheld. As JSON it is
written as it is: the branch of the command line for JSON takes no notice of
the flag. What is told by that can be said exactly, because nothing is lost on
the way out. The document of an explanation holds no numbers, so it is known
from its text (`indented_inj`), and the explanation is known from its document.
Two outputs are therefore the same if and only if the two explanations are
(`planOutput_json_inj`), with the flag on either side, or on neither.

What remains is when two explanations are equal whose steps differ in operands
only. An operand stands in the text of the step, in a constraint of the filter,
and, if it is probed for, in a value of the access path, each time as it is
written and not as it is: `1` and `"1"` are told apart by a constraint but not
by its text. So `explain_json_eq_iff` speaks of operands that are written alike. It
is about runs of the whole command, from the arguments to what is printed, and
`explain_json_leaks` shows two that ask for a name to be withheld and print it.
-/

namespace StartStep

open Json

/-! ## The document of an explanation -/

theorem PlanProperty.json_inj {p p' : PlanProperty} : p.json = p'.json ↔ p = p' := by
  obtain ⟨key, value, redactable⟩ := p
  obtain ⟨key', value', redactable'⟩ := p'
  simp [json]

theorem itemNumbers_properties (properties : List PlanProperty) :
    itemNumbers (properties.map PlanProperty.json) = [] := by
  induction properties with
  | nil => rfl
  | cons p rest ih => simpa [itemNumbers, numbers, fieldNumbers, PlanProperty.json] using ih

namespace PlanNode

mutual

theorem numbers_json (n : PlanNode) : n.json.numbers = [] := by
  match n with
  | .node op properties inputs =>
      simp [json, numbers, fieldNumbers, itemNumbers_properties, itemNumbers_inputs inputs]

theorem itemNumbers_inputs (inputs : List PlanNode) : itemNumbers (inputJsons inputs) = [] := by
  match inputs with
  | [] => rfl
  | n :: rest => rw [inputJsons, itemNumbers, numbers_json n, itemNumbers_inputs rest]; rfl

end

mutual

theorem json_injective (n n' : PlanNode) (h : n.json = n'.json) : n = n' := by
  match n, n' with
  | .node op properties inputs, .node op' properties' inputs' =>
      simp only [json, Json.object.injEq, List.cons.injEq, Prod.mk.injEq, Json.string.injEq,
        Json.array.injEq, true_and, and_true] at h
      obtain ⟨hop, hproperties, hinputs⟩ := h
      have hproperties : properties = properties' :=
        List.map_injective_iff.mpr (fun _ _ => PlanProperty.json_inj.mp) hproperties
      rw [hop, hproperties, inputJsons_injective inputs inputs' hinputs]

theorem inputJsons_injective (inputs inputs' : List PlanNode)
    (h : inputJsons inputs = inputJsons inputs') : inputs = inputs' := by
  match inputs, inputs' with
  | [], [] => rfl
  | [], _ :: _ | _ :: _, [] => simp [inputJsons] at h
  | n :: rest, n' :: rest' =>
      rw [inputJsons, inputJsons, List.cons.injEq] at h
      rw [json_injective n n' h.1, inputJsons_injective rest rest' h.2]

end

end PlanNode

theorem Explanation.json_inj {x x' : Explanation} : x.json = x'.json ↔ x = x' := by
  obtain ⟨step, root⟩ := x
  obtain ⟨step', root'⟩ := x'
  constructor
  · intro h
    simp only [json, Json.object.injEq, List.cons.injEq, Prod.mk.injEq, Json.string.injEq,
      true_and, and_true] at h
    rw [h.1, PlanNode.json_injective _ _ h.2]
  · intro h
    rw [h]

/-- The JSON output for a plan tells the whole explanation, whether or not its
literals are to be withheld. -/
theorem planOutput_json_inj (redact redact' : Bool) {x x' : Explanation} :
    CommandLine.planOutput .json redact x = CommandLine.planOutput .json redact' x' ↔
      x = x' := by
  have hnumbers : ∀ x : Explanation, ∀ n ∈ x.json.numbers, n.ReadsBack := by
    intro x n hn
    simp [Explanation.json, numbers, fieldNumbers, PlanNode.numbers_json] at hn
  show x.json.indented ++ "\n" = x'.json.indented ++ "\n" ↔ _
  rw [String.append_left_inj, indented_inj (hnumbers x) (hnumbers x'), Explanation.json_inj]

/-! ## Explanations of steps that differ in operands -/

/-- How the probed values of a path are written. -/
def AccessPath.probeTexts : AccessPath → List String
  | .byIndex query => query.values.map Value.text
  | _ => []

def operandTexts (constraints : List Constraint) : List String :=
  constraints.map fun c => c.value.text

theorem map_literal_eq_iff {α : Type} (key : String) (write : α → String)
    (items items' : List α) :
    (items.map fun a => PlanProperty.literal key (write a)) =
        (items'.map fun a => PlanProperty.literal key (write a)) ↔
      items.map write = items'.map write := by
  have hinj : Function.Injective (PlanProperty.literal key) := by
    intro s s' h
    exact congrArg PlanProperty.value h
  have hmap (items : List α) : (items.map fun a => PlanProperty.literal key (write a)) =
      (items.map write).map (PlanProperty.literal key) := by
    rw [List.map_map]
    rfl
  rw [hmap, hmap, (List.map_injective_iff.mpr hinj).eq_iff]

namespace PlanNode

theorem access_eq_iff {path path' : AccessPath} (h : path.Alike path') (kind : ElementKind) :
    access path kind = access path' kind ↔ path.probeTexts = path'.probeTexts := by
  cases h with
  | byId ids => simp [AccessPath.probeTexts]
  | fullScan => simp [AccessPath.probeTexts]
  | byIndex index key hlen =>
      simp only [access, AccessPath.probeTexts, AccessPath.name, node.injEq, List.cons.injEq,
        List.append_cancel_left_eq, true_and, and_true]
      exact map_literal_eq_iff "value" Value.text _ _

theorem ofPlan_eq_iff {path path' : AccessPath} (h : path.Alike path') (kind : ElementKind)
    {constraints constraints' : List Constraint}
    (hlen : constraints.length = constraints'.length) :
    ofPlan path kind constraints = ofPlan path' kind constraints' ↔
      constraints.map Constraint.text = constraints'.map Constraint.text ∧
        path.probeTexts = path'.probeTexts := by
  cases constraints with
  | nil =>
      obtain rfl := List.length_eq_zero_iff.mp hlen.symm
      simp [ofPlan, access_eq_iff h]
  | cons c rest =>
      obtain ⟨c', rest', rfl⟩ := List.exists_cons_of_length_eq_add_one hlen.symm
      have hmap := map_literal_eq_iff "constraint" Constraint.text (c :: rest) (c' :: rest')
      simp only [ofPlan, node.injEq, List.cons.injEq, access_eq_iff h, true_and, and_true, hmap]

end PlanNode

theorem Constraint.text_eq_iff {c c' : Constraint} (hkey : c.key = c'.key)
    (hpredicate : c.predicate = c'.predicate) :
    c.text = c'.text ↔ c.value.text = c'.value.text := by
  unfold Constraint.text
  rw [hkey, hpredicate, String.append_left_inj, String.append_right_inj]

theorem map_text_eq_iff {constraints constraints' : List Constraint}
    (h : List.Forall₂ (fun c c' => c.key = c'.key ∧ c.predicate = c'.predicate)
      constraints constraints') :
    constraints.map Constraint.text = constraints'.map Constraint.text ↔
      operandTexts constraints = operandTexts constraints' := by
  induction h with
  | nil => simp [operandTexts]
  | cons hc _ ih =>
      simp only [operandTexts, List.map_cons, List.cons.injEq] at ih ⊢
      rw [ih, Constraint.text_eq_iff hc.1 hc.2]

/-- Of steps that differ in operands only, with plans that differ in literals
only, the explanations are the same if and only if every operand and every
probed value is written alike. -/
theorem Step.Alike.explanation_eq_iff {s s' : Step} (h : s.Alike s') {path path' : AccessPath}
    (hpath : path.Alike path') :
    Explanation.ofPlan s.text path s.kind s.constraints =
        Explanation.ofPlan s'.text path' s'.kind s'.constraints ↔
      operandTexts s.constraints = operandTexts s'.constraints ∧
        path.probeTexts = path'.probeTexts := by
  have htree := PlanNode.ofPlan_eq_iff hpath s'.kind h.constraints.length_eq
  rw [map_text_eq_iff h.constraints] at htree
  unfold Explanation.ofPlan
  rw [Explanation.mk.injEq, h.kind, htree, h.text_eq_iff]
  constructor
  · exact fun hall => hall.2
  · intro hall
    refine ⟨?_, hall⟩
    rw [Step.constraintsText, Step.constraintsText, (map_text_eq_iff h.constraints).mpr hall.1]

/-! ## Runs of the command line -/

namespace CommandLine

/-- Invocations that differ at most in the operands of constraints on other keys
than the label. -/
structure Invocation.Alike (i i' : Invocation) : Prop where
  graph : i.graph = i'.graph
  config : i.config = i'.config
  format : i.format = i'.format
  theme : i.theme = i'.theme
  command : i.command = i'.command
  kind : i.step.kind = i'.step.kind
  ids : i.step.ids = i'.step.ids
  label : i.step.label = i'.step.label
  constraints : List.Forall₂ (fun c c' => c.key = c'.key ∧ c.predicate = c'.predicate ∧
    (c.key = labelKey → c.value = c'.value)) i.step.constraints i'.step.constraints

theorem Invocation.Alike.step {i i' : Invocation} (h : i.Alike i') (settings : Settings) :
    (i.step.detached settings).Alike (i'.step.detached settings) where
  kind := h.kind
  ids := h.ids
  labels := rfl
  constraints := by
    unfold StepRequest.detached
    rw [h.label]
    refine List.rel_append (List.forall₂_same.mpr fun _ _ => ⟨rfl, rfl⟩) ?_
    exact h.constraints.imp fun _ _ hc => ⟨hc.1, hc.2.1⟩

theorem operandTexts_detached_eq_iff {i i' : Invocation} (h : i.Alike i') (settings : Settings) :
    operandTexts (i.step.detached settings).constraints =
        operandTexts (i'.step.detached settings).constraints ↔
      operandTexts i.step.constraints = operandTexts i'.step.constraints := by
  unfold operandTexts StepRequest.detached
  rw [h.label, List.map_append, List.map_append, List.append_cancel_left_eq]

theorem outputFor_explain {i : Invocation} {redact : Bool} {settings : Settings} {g : MemGraph}
    {path : AccessPath} (hcommand : i.command = .explain redact)
    (hplan : (i.step.step settings g).plan.result = .ok path) :
    (i.outputFor (i.step.step settings g) g).result = .ok (planOutput i.format redact
      (.ofPlan (i.step.detached settings).text path i.step.kind
        (i.step.detached settings).constraints)) := by
  rw [StepRequest.step_eq] at hplan ⊢
  unfold Invocation.outputFor
  rw [hcommand]
  simp only [Run.result_bind, Step.attach_explain_result, hplan]
  rfl

/-- What explanations in JSON tell when literals are to be withheld. Of two runs
that differ in operands only, on one fixture and with plans that differ in
literals only, both print an explanation, and they print the same if and only if
every operand and every probed value is written alike. The flag has no part in it. -/
theorem explain_json_eq_iff {env : Environment} {files : String → FileText}
    {arguments arguments' : List String} {i i' : Invocation} {redact : Bool}
    {settings : Settings} {g : MemGraph} {path path' : AccessPath}
    (hi : Invocation.parse env.surroundings arguments = .ok i)
    (hi' : Invocation.parse env.surroundings arguments' = .ok i') (h : i.Alike i')
    (hcommand : i.command = .explain redact) (hformat : i.format = .json)
    (hsettings : i.settings env files = .ok settings)
    (hloaded : i.loaded settings files = .ok g)
    (hplan : (i.step.step settings g).plan.result = .ok path)
    (hplan' : (i'.step.step settings g).plan.result = .ok path') (hpath : path.Alike path') :
    ((run env arguments).answer files).exit = .success ∧
      ((run env arguments').answer files).exit = .success ∧
      (((run env arguments).answer files).output = ((run env arguments').answer files).output ↔
        operandTexts i.step.constraints = operandTexts i'.step.constraints ∧
          path.probeTexts = path'.probeTexts) := by
  have hsettings' : i'.settings env files = .ok settings := by
    rw [← hsettings]
    unfold Invocation.settings
    rw [h.config]
  have hloaded' : i'.loaded settings files = .ok g := by
    rw [← hloaded]
    unfold Invocation.loaded
    rw [h.graph]
  obtain ⟨hexit, houtput⟩ := answer_run hi hsettings hloaded (outputFor_explain hcommand hplan)
  obtain ⟨hexit', houtput'⟩ := answer_run hi' hsettings' hloaded'
    (outputFor_explain (h.command ▸ hcommand) hplan')
  refine ⟨hexit, hexit', ?_⟩
  rw [houtput, houtput', ← h.format, hformat, planOutput_json_inj]
  have hexplanation := (h.step settings).explanation_eq_iff hpath
  rw [operandTexts_detached_eq_iff h] at hexplanation
  exact hexplanation

theorem graphOf_written {f : Fixture} (h : Recovers Fixture.decode f.json f)
    (hdepth : f.json.depth ≤ deepest) :
    (graphOf (.ok f.json.compact)).result = f.build.result := by
  unfold graphOf
  simp only [Run.result_bind, Run.result_ofExcept, h.parse_compact hdepth, ok_bind]

/-- A fixture with an index and nothing to find by it. -/
def indexFixture : Fixture := ⟨[], [], [⟨"by name", .vertex, "Person", ["name"]⟩]⟩

def indexGraph : MemGraph :=
  { MemGraph.empty with indexes := [MemGraph.labelIndex "by name" .vertex "Person" ["name"]] }

def indexFiles : String → FileText := fun _ => .ok indexFixture.json.compact

/-- Arguments that ask for an explanation in JSON with its literals withheld. -/
def askFor (constraint : String) : List String :=
  ["--graph", "graph.json", "--format", "json", "explain", "--redact", "--label", "Person",
    "--has", constraint]

def asked (operand : Value) : Invocation :=
  ⟨some "graph.json", none, .json, .auto, .explain true,
    ⟨.vertex, [], some "Person", [.eq "name" operand]⟩⟩

theorem asked_alike (operand operand' : Value) : (asked operand).Alike (asked operand') := by
  have hkey : "name" ≠ labelKey := by decide
  exact ⟨rfl, rfl, rfl, rfl, rfl, rfl, rfl, rfl, .cons ⟨rfl, rfl, fun h => absurd h hkey⟩ .nil⟩

theorem asked_loaded (operand : Value) :
    (asked operand).loaded {} indexFiles = .ok indexGraph := by
  have hfixture : Recovers Fixture.decode indexFixture.json indexFixture :=
    recovers_fixture _ fun j hj => by cases hj
  have hdepth : indexFixture.json.depth ≤ deepest := by decide
  have hbuild : indexFixture.build.result = .ok indexGraph := rfl
  have hpath : firstGiven [(asked operand).graph, ({} : Settings).graph] = some "graph.json" := rfl
  unfold Invocation.loaded indexFiles
  rw [hpath]
  simp only [graphOf_written hfixture hdepth, hbuild]
  rfl

/-- A number is written like its text, so the two runs print the same. -/
theorem explain_json_eq_iff_asked :
    let env : Environment := fun _ => none
    Invocation.parse env.surroundings (askFor "name=eq:1") = .ok (asked (.int 1)) ∧
      Invocation.parse env.surroundings (askFor "name=eq:\"1\"") = .ok (asked (.string "1")) ∧
      ((run env (askFor "name=eq:1")).answer indexFiles).output =
        ((run env (askFor "name=eq:\"1\"")).answer indexFiles).output := by
  intro env
  have hi : Invocation.parse env.surroundings (askFor "name=eq:1") = .ok (asked (.int 1)) := by
    cbv
  have hi' : Invocation.parse env.surroundings (askFor "name=eq:\"1\"") =
      .ok (asked (.string "1")) := by
    cbv
  have h := explain_json_eq_iff hi hi' (asked_alike _ _) rfl rfl rfl (asked_loaded _) rfl rfl
    (.byIndex _ _ rfl)
  exact ⟨hi, hi', h.2.2.mpr ⟨rfl, rfl⟩⟩

/-- Two names are asked for with literals to be withheld, and the outputs tell
them apart. -/
theorem explain_json_leaks :
    let env : Environment := fun _ => none
    let i := asked (.string "Ada")
    let i' := asked (.string "Ben")
    Invocation.parse env.surroundings (askFor "name=eq:Ada") = .ok i ∧
      Invocation.parse env.surroundings (askFor "name=eq:Ben") = .ok i' ∧ i.Alike i' ∧
      i.settings env indexFiles = .ok {} ∧ i.loaded {} indexFiles = .ok indexGraph ∧
      (∃ path path', (i.step.step {} indexGraph).plan.result = .ok path ∧
        (i'.step.step {} indexGraph).plan.result = .ok path' ∧ path.Alike path') ∧
      ((run env (askFor "name=eq:Ada")).answer indexFiles).output ≠
        ((run env (askFor "name=eq:Ben")).answer indexFiles).output := by
  intro env i i'
  have hi : Invocation.parse env.surroundings (askFor "name=eq:Ada") = .ok i := by cbv
  have hi' : Invocation.parse env.surroundings (askFor "name=eq:Ben") = .ok i' := by cbv
  have houtput := answer_run hi rfl (asked_loaded _) (outputFor_explain rfl rfl)
  have houtput' := answer_run hi' rfl (asked_loaded _) (outputFor_explain rfl rfl)
  refine ⟨hi, hi', asked_alike _ _, rfl, asked_loaded _, ⟨_, _, rfl, rfl, .byIndex _ _ rfl⟩, ?_⟩
  -- The lines of the two steps differ already, so the trees need not be compared.
  have htexts : (i.step.detached {}).text ≠ (i'.step.detached {}).text := by decide
  rw [houtput.2, houtput'.2]
  intro h
  exact htexts (congrArg Explanation.step ((planOutput_json_inj true true).mp h))

end CommandLine

end StartStep
