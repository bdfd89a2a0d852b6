import Mathlib.Data.List.Forall2
import StartStep.Proofs.Listing
import StartStep.Proofs.Separators

/-!
# What a withheld explanation still tells

An explanation is rendered with its literal data withheld by writing a question
mark for the value of every property that is marked as literal. `withheld` does
this to the tree itself, and rendering a tree with its literals withheld is
plain rendering of the withheld tree (`lines_withheld`). So two trees that
differ in literals only are rendered alike (`Alike`, `alike_iff`), and the tree
of a plan holds keys, predicates and operands in literals only: in the
constraints of the filter and in the probed values, of which only the number is
told (`alike_ofPlan`). `render_withholds` states this of whole explanations.

The line above the tree is another matter. It is the text of the step, operands
included, and nothing in it is withheld. `render_withheld_iff` says exactly what
is told by that: steps that differ in nothing but operands are rendered alike
below the first line, and altogether if and only if their constraints are
written alike. `render_withheld_leaks` shows two steps that are told apart.
-/

namespace StartStep

/-! ## Withholding in the tree -/

/-- A property as it is shown when literals are withheld. -/
def PlanProperty.withheld (p : PlanProperty) : PlanProperty :=
  if p.redactable then { p with value := "?" } else p

theorem PlanProperty.text_withheld (p : PlanProperty) : p.text true = p.withheld.text false := by
  unfold withheld
  by_cases h : p.redactable = true
  · rw [if_pos h]
    simp [text, h]
  · rw [if_neg h]
    simp [text, h]

namespace PlanNode

mutual

/-- A tree with the literals of all its operators withheld. -/
def withheld : PlanNode → PlanNode
  | .node op properties inputs =>
      .node op (properties.map (·.withheld)) (withheldInputs inputs)

def withheldInputs : List PlanNode → List PlanNode
  | [] => []
  | n :: rest => withheld n :: withheldInputs rest

end

theorem line_withheld (op : String) (properties : List PlanProperty) :
    line true op properties = line false op (properties.map (·.withheld)) := by
  have htext : PlanProperty.text true = PlanProperty.text false ∘ (·.withheld) :=
    funext PlanProperty.text_withheld
  cases properties with
  | nil => rfl
  | cons p rest => rw [line, line, htext, ← List.map_map, List.map_cons] <;> simp

mutual

theorem lines_withheld (depth : Nat) (n : PlanNode) :
    n.lines true depth = n.withheld.lines false depth := by
  match n with
  | .node op properties inputs =>
      rw [withheld, lines, lines, line_withheld, inputLines_withheld]

theorem inputLines_withheld (depth : Nat) (inputs : List PlanNode) :
    inputLines true depth inputs = inputLines false depth (withheldInputs inputs) := by
  match inputs with
  | [] => rfl
  | n :: rest =>
      rw [withheldInputs, inputLines, inputLines, lines_withheld, inputLines_withheld]

end

end PlanNode

/-! ## Trees that differ in literals -/

/-- Properties that are the same but for a value that is marked as literal. -/
inductive PlanProperty.Alike : PlanProperty → PlanProperty → Prop
  | plain (key value : String) : Alike (.plain key value) (.plain key value)
  | literal (key value value' : String) : Alike (.literal key value) (.literal key value')

theorem PlanProperty.alike_iff {p p' : PlanProperty} :
    p.Alike p' ↔ p.withheld = p'.withheld := by
  constructor
  · rintro (_ | _)
    · rfl
    · rfl
  · obtain ⟨key, value, redactable⟩ := p
    obtain ⟨key', value', redactable'⟩ := p'
    intro h
    cases redactable with
    | false =>
        cases redactable' with
        | false =>
            simp only [withheld, Bool.false_eq_true, if_false] at h
            exact h ▸ .plain key value
        | true => simp [withheld] at h
    | true =>
        cases redactable' with
        | false => simp [withheld] at h
        | true =>
            simp only [withheld, if_true, mk.injEq, and_true] at h
            exact h ▸ .literal key value value'

namespace PlanNode

/-- Trees that are the same but for values that are marked as literal. -/
inductive Alike : PlanNode → PlanNode → Prop
  | node (op : String) {properties properties' : List PlanProperty}
      {inputs inputs' : List PlanNode}
      (hproperties : List.Forall₂ PlanProperty.Alike properties properties')
      (hinputs : List.Forall₂ Alike inputs inputs') :
      Alike (.node op properties inputs) (.node op properties' inputs')

theorem alike_properties_iff {properties properties' : List PlanProperty} :
    List.Forall₂ PlanProperty.Alike properties properties' ↔
      properties.map (·.withheld) = properties'.map (·.withheld) := by
  have hrel : PlanProperty.Alike = fun p p' => p.withheld = p'.withheld :=
    funext₂ fun _ _ => propext PlanProperty.alike_iff
  rw [hrel, ← List.forall₂_eq_eq_eq, List.forall₂_map_left_iff, List.forall₂_map_right_iff]

mutual

/-- Withholding literals is forgetting just what may be different. -/
theorem alike_iff {n n' : PlanNode} : n.Alike n' ↔ n.withheld = n'.withheld := by
  match n, n' with
  | .node op properties inputs, .node op' properties' inputs' =>
      rw [withheld, withheld, node.injEq, ← alike_properties_iff, ← alike_inputs_iff]
      constructor
      · rintro ⟨_, hproperties, hinputs⟩
        exact ⟨rfl, hproperties, hinputs⟩
      · rintro ⟨rfl, hproperties, hinputs⟩
        exact .node op hproperties hinputs

theorem alike_inputs_iff {inputs inputs' : List PlanNode} :
    List.Forall₂ Alike inputs inputs' ↔ withheldInputs inputs = withheldInputs inputs' := by
  match inputs, inputs' with
  | [], [] => exact iff_of_true .nil rfl
  | [], _ :: _ | _ :: _, [] => simp [withheldInputs]
  | n :: rest, n' :: rest' =>
      rw [withheldInputs, withheldInputs, List.cons.injEq, List.forall₂_cons, alike_iff,
        alike_inputs_iff]

end

theorem Alike.lines_eq {n n' : PlanNode} (h : n.Alike n') (depth : Nat) :
    n.lines true depth = n'.lines true depth := by
  rw [lines_withheld, lines_withheld, alike_iff.mp h]

end PlanNode

/-! ## Plans that differ in literals -/

/-- Paths that differ at most in the values that are probed for, not in their
number. -/
inductive AccessPath.Alike : AccessPath → AccessPath → Prop
  | byId (ids : List ElementId) : Alike (.byId ids) (.byId ids)
  | byIndex (index : Index) (key : String) {values values' : List Value}
      (h : values.length = values'.length) :
      Alike (.byIndex ⟨index, key, values⟩) (.byIndex ⟨index, key, values'⟩)
  | fullScan : Alike .fullScan .fullScan

namespace PlanNode

/-- Literals under one key tell their number. -/
theorem alike_literals {α : Type} (key : String) (write : α → String) {items items' : List α}
    (h : items.length = items'.length) :
    List.Forall₂ PlanProperty.Alike (items.map fun a => .literal key (write a))
      (items'.map fun a => .literal key (write a)) := by
  rw [List.forall₂_map_left_iff, List.forall₂_map_right_iff]
  exact List.forall₂_of_length_eq_of_get h fun _ _ _ => .literal key _ _

theorem alike_access {path path' : AccessPath} (h : path.Alike path') (kind : ElementKind) :
    (access path kind).Alike (access path' kind) := by
  cases h with
  | byId ids => exact alike_iff.mpr rfl
  | fullScan => exact alike_iff.mpr rfl
  | byIndex index key hlen =>
      have hfixed : List.Forall₂ PlanProperty.Alike
          [.plain "kind" kind.name, .plain "index" index.name, .plain "class" index.className,
            .plain "key" key] _ := alike_properties_iff.mpr rfl
      exact .node _ (List.rel_append hfixed (alike_literals "value" Value.text hlen)) .nil

/-- The tree of a plan holds keys, predicates and operands of the constraints,
and the probed values, in literals only. -/
theorem alike_ofPlan {path path' : AccessPath} (h : path.Alike path')
    (kind : ElementKind) {constraints constraints' : List Constraint}
    (hlen : constraints.length = constraints'.length) :
    (ofPlan path kind constraints).Alike (ofPlan path' kind constraints') := by
  have haccess := alike_access h kind
  cases constraints with
  | nil =>
      obtain rfl := List.length_eq_zero_iff.mp hlen.symm
      exact haccess
  | cons c rest =>
      obtain ⟨c', rest', rfl⟩ := List.exists_cons_of_length_eq_add_one hlen.symm
      exact .node _ (alike_literals "constraint" Constraint.text hlen) (.cons haccess .nil)

theorem withheld_ofPlan {path path' : AccessPath} (h : path.Alike path')
    (kind : ElementKind) {constraints constraints' : List Constraint}
    (hlen : constraints.length = constraints'.length) :
    (ofPlan path kind constraints).withheld = (ofPlan path' kind constraints').withheld :=
  alike_iff.mp (alike_ofPlan h kind hlen)

end PlanNode

namespace Explanation

theorem render_eq (redact : Bool) (x : Explanation) :
    x.render redact = x.step ++ "\n" ++ Text.ofLines (x.root.lines redact 1) :=
  Text.ofLines_cons _ _

/-- Under one step, trees that differ in literals only are told alike when literals are
withheld, and what is told is the plain text of the tree with question marks in their place.
Plans with as many constraints over like paths have such trees, whatever the constraints and
the probed values are. -/
theorem render_withholds :
    (∀ (step : String) (n n' : PlanNode), n.Alike n' →
      (mk step n).render true = (mk step n').render true) ∧
    (∀ (step : String) (n : PlanNode),
      (mk step n).render true = (mk step n.withheld).render false) ∧
    ∀ (step : String) (kind : ElementKind) (path path' : AccessPath)
      (constraints constraints' : List Constraint),
      path.Alike path' → constraints.length = constraints'.length →
      (ofPlan step path kind constraints).root.Alike (ofPlan step path' kind constraints').root ∧
        (ofPlan step path kind constraints).render true =
          (ofPlan step path' kind constraints').render true := by
  have halike : ∀ (step : String) (n n' : PlanNode), n.Alike n' →
      (mk step n).render true = (mk step n').render true := by
    intro step n n' h
    rw [render_eq, render_eq, h.lines_eq 1]
  refine ⟨halike, fun step n => ?_, ?_⟩
  · rw [render_eq, render_eq, n.lines_withheld 1]
  · intro step kind path path' constraints constraints' hpath hlen
    have hroot := PlanNode.alike_ofPlan hpath kind hlen
    exact ⟨hroot, halike step _ _ hroot⟩

/-- A probe for a name and a probe for a number, with constraints on different keys, differ in
their plain text and in nothing that is told of them. -/
theorem render_withholds_probes :
    let index := MemGraph.labelIndex "by name" .vertex "Person" ["name"]
    let path : AccessPath := .byIndex ⟨index, "name", [.string "Ada"]⟩
    let path' : AccessPath := .byIndex ⟨index, "name", [.int 7]⟩
    let constraints := [.eq "name" (.string "Ada"), .eq "born" (.int 1815)]
    let constraints' := [⟨"born", .gt, .int 1800⟩, .eq "name" (.int 7)]
    let x := ofPlan "people" path .vertex constraints
    let x' := ofPlan "people" path' .vertex constraints'
    x.root.Alike x'.root ∧ x.render true = x'.render true ∧ x.render false ≠ x'.render false := by
  intro index path path' constraints constraints' x x'
  obtain ⟨-, -, hplan⟩ := render_withholds
  have hpath : path.Alike path' := .byIndex index "name" rfl
  have hlen : constraints.length = constraints'.length := rfl
  obtain ⟨hroot, hrender⟩ := hplan "people" .vertex path path' constraints constraints' hpath hlen
  exact ⟨hroot, hrender, by decide⟩

end Explanation

/-! ## The step above the tree -/

/-- Steps that differ at most in the operands of their constraints. -/
structure Step.Alike (s s' : Step) : Prop where
  kind : s.kind = s'.kind
  ids : s.ids = s'.ids
  labels : s.labels = s'.labels
  constraints : List.Forall₂ (fun c c' => c.key = c'.key ∧ c.predicate = c'.predicate)
    s.constraints s'.constraints

/-- How the constraints of a step are written in its text. -/
def Step.constraintsText (s : Step) : String := Text.bracketed (s.constraints.map Constraint.text)

theorem Step.Alike.text_eq_iff {s s' : Step} (h : s.Alike s') :
    s.text = s'.text ↔ s.constraintsText = s'.constraintsText := by
  have hlen := h.constraints.length_eq
  unfold Step.text Step.constraintsText
  rw [h.kind, h.ids, h.labels]
  cases hs : s.constraints with
  | nil =>
      have hs' : s'.constraints = [] := by
        rw [hs] at hlen
        exact List.length_eq_zero_iff.mp hlen.symm
      rw [hs']
      simp
  | cons c rest =>
      obtain ⟨c', rest', hs'⟩ : ∃ c' rest', s'.constraints = c' :: rest' := by
        rw [hs] at hlen
        exact List.exists_cons_of_length_eq_add_one hlen.symm
      rw [hs']
      simp [String.append_right_inj, String.append_left_inj]

/-- Steps that differ in operands only, with plans that differ in literals only,
are explained alike below their first line when literals are withheld. The first
line is the text of the step, so the explanations are alike if and only if the
constraints are written alike. -/
theorem render_withheld_iff {s s' : Step} {p : Provider} {path path' : AccessPath}
    (h : s.Alike s') (hplan : (s.attach p).plan.result = .ok path)
    (hplan' : (s'.attach p).plan.result = .ok path') (hpath : path.Alike path') :
    ∃ x x' tree, (s.attach p).explain.result = .ok x ∧
      (s'.attach p).explain.result = .ok x' ∧
      x.render true = s.text ++ "\n" ++ tree ∧ x'.render true = s'.text ++ "\n" ++ tree ∧
      (x.render true = x'.render true ↔ s.constraintsText = s'.constraintsText) := by
  have hx : (s.attach p).explain.result = .ok (.ofPlan s.text path s.kind s.constraints) := by
    rw [Step.attach_explain_result, hplan]
    rfl
  have hx' : (s'.attach p).explain.result =
      .ok (.ofPlan s'.text path' s'.kind s'.constraints) := by
    rw [Step.attach_explain_result, hplan']
    rfl
  have htree : (PlanNode.ofPlan path s.kind s.constraints).lines true 1 =
      (PlanNode.ofPlan path' s'.kind s'.constraints).lines true 1 := by
    rw [PlanNode.lines_withheld, PlanNode.lines_withheld, h.kind,
      PlanNode.withheld_ofPlan hpath s'.kind h.constraints.length_eq]
  have hrender := Explanation.render_eq true (.ofPlan s.text path s.kind s.constraints)
  have hrender' := Explanation.render_eq true (.ofPlan s'.text path' s'.kind s'.constraints)
  rw [Explanation.ofPlan, htree] at hrender
  refine ⟨_, _, _, hx, hx', hrender, hrender', ?_⟩
  rw [← h.text_eq_iff, Explanation.ofPlan, hrender, hrender']
  simp only [Explanation.ofPlan, String.append_left_inj]

/-- A number is written like its text, so a step that asks for one is explained
like a step that asks for the other. -/
theorem render_withheld_iff_people :
    let s := ((Step.new .vertex []).has (.label "Person")).has (.eq "name" (.int 1))
    let s' := ((Step.new .vertex []).has (.label "Person")).has (.eq "name" (.string "1"))
    s.Alike s' ∧
      ∃ path path', (s.attach MemGraph.people.provider).plan.result = .ok path ∧
        (s'.attach MemGraph.people.provider).plan.result = .ok path' ∧ path.Alike path' ∧
      ∃ x x', (s.attach MemGraph.people.provider).explain.result = .ok x ∧
        (s'.attach MemGraph.people.provider).explain.result = .ok x' ∧
        x.render true = x'.render true := by
  intro s s'
  have halike : s.Alike s' :=
    ⟨rfl, rfl, rfl, .cons ⟨rfl, rfl⟩ (.cons ⟨rfl, rfl⟩ .nil)⟩
  have hpath : AccessPath.Alike
      (.byIndex ⟨MemGraph.labelIndex "by name" .vertex "Person" ["name"], "name", [.int 1]⟩)
      (.byIndex ⟨MemGraph.labelIndex "by name" .vertex "Person" ["name"], "name",
        [.string "1"]⟩) := .byIndex _ _ rfl
  obtain ⟨x, x', _, hx, hx', -, -, hiff⟩ :=
    render_withheld_iff (p := MemGraph.people.provider) halike rfl rfl hpath
  exact ⟨halike, _, _, rfl, rfl, hpath, x, x', hx, hx', hiff.mpr rfl⟩

/-- Two names are asked for in the same way, and the explanations tell them apart
although literals are withheld. -/
theorem render_withheld_leaks :
    let s := ((Step.new .vertex []).has (.label "Person")).has (.eq "name" (.string "Ada"))
    let s' := ((Step.new .vertex []).has (.label "Person")).has (.eq "name" (.string "Ben"))
    s.Alike s' ∧
      ∃ path path', (s.attach MemGraph.people.provider).plan.result = .ok path ∧
        (s'.attach MemGraph.people.provider).plan.result = .ok path' ∧ path.Alike path' ∧
      ∃ x x', (s.attach MemGraph.people.provider).explain.result = .ok x ∧
        (s'.attach MemGraph.people.provider).explain.result = .ok x' ∧
        x.render true ≠ x'.render true := by
  intro s s'
  refine ⟨⟨rfl, rfl, rfl, .cons ⟨rfl, rfl⟩ (.cons ⟨rfl, rfl⟩ .nil)⟩, _, _, rfl, rfl,
    .byIndex _ _ rfl, _, _, rfl, rfl, ?_⟩
  decide

end StartStep
