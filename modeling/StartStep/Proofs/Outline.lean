import Mathlib.Data.List.Forall2
import StartStep.Explain
import StartStep.Proofs.Separators

/-!
# The shape of a tree in its text

The text of an explanation is a list of lines, one for each operator in the order of a
walk from the root, and all that is left of the shape is how far the lines are indented.
That is enough. A tree that begins at some depth goes on as long as the lines are indented
further, so it ends at the first line that is not, and a list of trees of one depth ends
at the first line that is indented less. `Shallower` says this about what stands behind.
With it the lines of a tree are cut off from what follows in only one way
(`lines_append_inj`), and this is what the induction has to carry, because the inputs of an
operator are followed by the operators behind it.

For a line to tell its depth it has to begin with a name, and for a text to tell its lines
no line may be broken in two. Both are asked of the explanation (`Tidy`). Nothing is asked
of the spaces in a line, so operators are told apart by their lines and no further: a
property may be written like a part of the name.
-/

namespace StartStep

namespace PlanNode

/-! ## Trees and outlines -/

/-- Trees with the same line at every operator, and as many inputs in the same order. -/
inductive SameOutline (redact : Bool) : PlanNode → PlanNode → Prop
  | node {op op' : String} {properties properties' : List PlanProperty}
      {inputs inputs' : List PlanNode}
      (hline : line redact op properties = line redact op' properties')
      (hinputs : List.Forall₂ (SameOutline redact) inputs inputs') :
      SameOutline redact (.node op properties inputs) (.node op' properties' inputs')

/-- Every operator has a name that does not begin with a space, and nothing in it breaks
its line. -/
inductive Tidy : PlanNode → Prop
  | node {op : String} {properties : List PlanProperty} {inputs : List PlanNode}
      (hname : op ≠ "") (hstart : op.toList.head? ≠ some ' ') (hop : OneLine op)
      (hproperties : ∀ p ∈ properties, OneLine p.key ∧ OneLine p.value)
      (hinputs : ∀ n ∈ inputs, Tidy n) : Tidy (.node op properties inputs)

mutual

/-- How many operators a tree has. -/
def size : PlanNode → Nat
  | .node _ _ inputs => 1 + inputSize inputs

def inputSize : List PlanNode → Nat
  | [] => 0
  | n :: rest => size n + inputSize rest

end

variable {redact : Bool} {op : String} {properties : List PlanProperty}

/-! ## One line -/

theorem oneLine_line (hop : OneLine op)
    (hproperties : ∀ p ∈ properties, OneLine p.key ∧ OneLine p.value) :
    OneLine (line redact op properties) := by
  have htexts : ∀ s ∈ properties.map (PlanProperty.text redact), OneLine s := by
    intro s hs
    obtain ⟨p, hp, rfl⟩ := List.mem_map.mp hs
    obtain ⟨hkey, hvalue⟩ := hproperties p hp
    unfold PlanProperty.text
    rw [oneLine_append, oneLine_append]
    refine ⟨⟨hkey, by decide⟩, ?_⟩
    split
    · decide
    · exact hvalue
  unfold line
  split
  · exact hop
  · rw [oneLine_append, oneLine_append]
    exact ⟨⟨hop, by decide⟩, OneLine.intercalate (by decide) htexts⟩

theorem exists_line_eq_append (redact : Bool) (op : String) (properties : List PlanProperty) :
    ∃ more, line redact op properties = op ++ more := by
  unfold line
  split
  · exact ⟨"", by simp⟩
  · exact ⟨_, String.append_assoc ..⟩

/-- How many spaces a text begins with. -/
def spaces (s : String) : Nat := (s.toList.takeWhile (· == ' ')).length

/-- A line tells the depth at which it stands. -/
theorem spaces_line (hname : op ≠ "") (hstart : op.toList.head? ≠ some ' ') (depth : Nat) :
    spaces (indentation depth ++ line redact op properties) = 2 * depth := by
  obtain ⟨more, hline⟩ := exists_line_eq_append redact op properties
  have hblank : ∀ c ∈ List.replicate (2 * depth) ' ', (c == ' ') = true := by
    intro c hc
    rw [List.eq_of_mem_replicate hc]
    rfl
  unfold spaces indentation
  rw [hline, String.toList_append, String.toList_append, String.toList_ofList,
    List.takeWhile_append_of_pos hblank]
  cases hop : op.toList with
  | nil => exact absurd (String.toList_inj.mp hop) hname
  | cons c cs =>
      have hc : c ≠ ' ' := by
        rintro rfl
        exact hstart (by rw [hop]; rfl)
      simp [hc]

/-! ## Many lines -/

mutual

theorem oneLine_of_mem_lines {n : PlanNode} (h : n.Tidy) {depth : Nat} :
    ∀ l ∈ n.lines redact depth, OneLine l := by
  match n, h with
  | .node op properties inputs, .node hname hstart hop hproperties hinputs =>
      have hindentation : OneLine (indentation depth) := by
        simp [OneLine, indentation, List.mem_replicate]
      rw [lines, List.forall_mem_cons, oneLine_append]
      exact ⟨⟨hindentation, oneLine_line hop hproperties⟩, oneLine_of_mem_inputLines hinputs⟩

theorem oneLine_of_mem_inputLines {inputs : List PlanNode} (h : ∀ n ∈ inputs, n.Tidy)
    {depth : Nat} : ∀ l ∈ inputLines redact depth inputs, OneLine l := by
  match inputs with
  | [] => simp [inputLines]
  | n :: rest =>
      obtain ⟨hn, hrest⟩ := List.forall_mem_cons.mp h
      rw [inputLines, List.forall_mem_append]
      exact ⟨oneLine_of_mem_lines hn, oneLine_of_mem_inputLines hrest⟩

end

mutual

theorem length_lines (n : PlanNode) (depth : Nat) : (n.lines redact depth).length = n.size := by
  match n with
  | .node op properties inputs =>
      rw [lines, size, List.length_cons, length_inputLines inputs, Nat.add_comm]

theorem length_inputLines (inputs : List PlanNode) (depth : Nat) :
    (inputLines redact depth inputs).length = inputSize inputs := by
  match inputs with
  | [] => rfl
  | n :: rest =>
      rw [inputLines, inputSize, List.length_append, length_lines n, length_inputLines rest]

end

/-- What stands behind trees of some depth: nothing, or a line that is indented less. -/
def Shallower (depth : Nat) (rest : List String) : Prop :=
  ∀ l ∈ rest.head?, spaces l < 2 * depth

theorem head?_lines {n : PlanNode} (h : n.Tidy) (depth : Nat) (rest : List String) :
    ∃ l, (n.lines redact depth ++ rest).head? = some l ∧ spaces l = 2 * depth := by
  cases h with
  | node hname hstart => exact ⟨_, rfl, spaces_line hname hstart depth⟩

theorem Shallower.inputLines {depth : Nat} {rest : List String} (h : Shallower depth rest)
    {inputs : List PlanNode} (hinputs : ∀ n ∈ inputs, n.Tidy) :
    Shallower (depth + 1) (inputLines redact depth inputs ++ rest) := by
  intro l hl
  cases inputs with
  | nil =>
      have := h l hl
      omega
  | cons n inputs =>
      rw [PlanNode.inputLines, List.append_assoc] at hl
      obtain ⟨l', hhead, hspaces⟩ := @head?_lines redact n (hinputs n List.mem_cons_self) depth
        (PlanNode.inputLines redact depth inputs ++ rest)
      rw [hhead] at hl
      obtain rfl := Option.some.inj hl
      omega

mutual

/-- The lines of a tree are cut off from what is indented no further in one way only. -/
theorem lines_append_inj {n n' : PlanNode} (hn : n.Tidy) (hn' : n'.Tidy) {depth : Nat}
    {rest rest' : List String} (hrest : Shallower (depth + 1) rest)
    (hrest' : Shallower (depth + 1) rest')
    (h : n.lines redact depth ++ rest = n'.lines redact depth ++ rest') :
    n.SameOutline redact n' ∧ rest = rest' := by
  match n, n', hn, hn' with
  | .node op properties inputs, .node op' properties' inputs',
    .node _ _ _ _ hinputs, .node _ _ _ _ hinputs' =>
      rw [lines, lines, List.cons_append, List.cons_append, List.cons.injEq,
        String.append_right_inj] at h
      obtain ⟨hline, hmore⟩ := h
      obtain ⟨hall, rfl⟩ := inputLines_append_inj hinputs hinputs' hrest hrest' hmore
      exact ⟨.node hline hall, rfl⟩

theorem inputLines_append_inj {inputs inputs' : List PlanNode} (hinputs : ∀ n ∈ inputs, n.Tidy)
    (hinputs' : ∀ n ∈ inputs', n.Tidy) {depth : Nat} {rest rest' : List String}
    (hrest : Shallower depth rest) (hrest' : Shallower depth rest')
    (h : inputLines redact depth inputs ++ rest = inputLines redact depth inputs' ++ rest') :
    List.Forall₂ (SameOutline redact) inputs inputs' ∧ rest = rest' := by
  match inputs, inputs' with
  | [], [] => exact ⟨.nil, h⟩
  | [], n' :: more' =>
      -- The first of these trees would begin in what is indented less.
      obtain ⟨l, hl, hspaces⟩ := head?_lines (hinputs' n' List.mem_cons_self) depth
        (inputLines redact depth more' ++ rest')
      rw [inputLines, inputLines, List.nil_append, List.append_assoc] at h
      have := hrest l (h ▸ hl)
      omega
  | n :: more, [] =>
      obtain ⟨l, hl, hspaces⟩ := head?_lines (hinputs n List.mem_cons_self) depth
        (inputLines redact depth more ++ rest)
      rw [inputLines, inputLines, List.nil_append, List.append_assoc] at h
      have := hrest' l (h ▸ hl)
      omega
  | n :: more, n' :: more' =>
      obtain ⟨hn, hmore⟩ := List.forall_mem_cons.mp hinputs
      obtain ⟨hn', hmore'⟩ := List.forall_mem_cons.mp hinputs'
      rw [inputLines, inputLines, List.append_assoc, List.append_assoc] at h
      obtain ⟨hfirst, htail⟩ := lines_append_inj hn hn' (hrest.inputLines hmore)
        (hrest'.inputLines hmore') h
      obtain ⟨hall, rfl⟩ := inputLines_append_inj hmore hmore' hrest hrest' htail
      exact ⟨.cons hfirst hall, rfl⟩

end

mutual

theorem SameOutline.lines_eq {n n' : PlanNode} (h : n.SameOutline redact n') (depth : Nat) :
    n.lines redact depth = n'.lines redact depth := by
  match n, n', h with
  | .node op properties inputs, .node op' properties' inputs', .node hline hinputs =>
      rw [lines, lines, hline, inputLines_eq hinputs]

theorem inputLines_eq {inputs inputs' : List PlanNode}
    (h : List.Forall₂ (SameOutline redact) inputs inputs') (depth : Nat) :
    inputLines redact depth inputs = inputLines redact depth inputs' := by
  match inputs, inputs', h with
  | [], [], .nil => rfl
  | n :: rest, n' :: rest', .cons hn hrest =>
      rw [inputLines, inputLines, hn.lines_eq, inputLines_eq hrest]

end

end PlanNode

namespace Explanation

/-- Nothing in an explanation breaks a line, and its operators have names. -/
structure Tidy (x : Explanation) : Prop where
  step : OneLine x.step
  root : x.root.Tidy

theorem Tidy.oneLine {x : Explanation} (h : x.Tidy) {redact : Bool} :
    ∀ l ∈ x.lines redact, OneLine l :=
  List.forall_mem_cons.mpr ⟨h.step, PlanNode.oneLine_of_mem_lines h.root⟩

theorem Tidy.lines_eq_iff {x x' : Explanation} (h : x.Tidy) (h' : x'.Tidy) {redact : Bool} :
    x.lines redact = x'.lines redact ↔
      x.step = x'.step ∧ x.root.SameOutline redact x'.root := by
  unfold lines
  rw [List.cons.injEq]
  refine and_congr_right fun _ => ⟨fun heq => ?_, fun heq => heq.lines_eq 1⟩
  have hnothing : PlanNode.Shallower 2 [] := by simp [PlanNode.Shallower]
  have happend : x.root.lines redact 1 ++ [] = x'.root.lines redact 1 ++ [] := by rw [heq]
  exact (PlanNode.lines_append_inj h.root h'.root hnothing hnothing happend).1

/-- The text of an explanation, with literals withheld or not, tells the step and the outline
of the tree, and nothing else. It has one line for the step and one for every operator. -/
theorem render_eq_iff :
    (∀ (x x' : Explanation), x.Tidy → x'.Tidy → ∀ redact,
      x.render redact = x'.render redact ↔
        x.step = x'.step ∧ x.root.SameOutline redact x'.root) ∧
    ∀ (x : Explanation) redact, (x.lines redact).length = 1 + x.root.size ∧
      (x.Tidy → (x.render redact).toList.count '\n' = 1 + x.root.size) := by
  have hlength : ∀ (x : Explanation) redact, (x.lines redact).length = 1 + x.root.size := by
    intro x redact
    rw [lines, List.length_cons, PlanNode.length_lines, Nat.add_comm]
  refine ⟨fun x x' h h' redact => ?_, fun x redact => ⟨hlength x redact, fun h => ?_⟩⟩
  · rw [← h.lines_eq_iff h']
    exact ⟨Text.ofLines_inj h.oneLine h'.oneLine, congrArg Text.ofLines⟩
  · rw [← hlength x redact]
    exact Text.count_ofLines h.oneLine

/-- A tree of two branches. -/
def branching (operand : String) : Explanation :=
  ⟨"both", .node "Union" []
    [.node "Filter" [.literal "constraint" operand] [.node "FullScan" [.plain "kind" "edge"] []],
      .node "ById" [.plain "kind" "edge", .plain "ids" "[1, 2]"] []]⟩

theorem tidy_branching {operand : String} (h : OneLine operand) : (branching operand).Tidy := by
  have hstep : OneLine "both" := by decide
  have hkey : OneLine "constraint" := by decide
  have hscan : (PlanNode.node "FullScan" [.plain "kind" "edge"] []).Tidy :=
    .node (by decide) (by decide) (by decide) (by decide) (by simp)
  have hlookup : (PlanNode.node "ById" [.plain "kind" "edge", .plain "ids" "[1, 2]"] []).Tidy :=
    .node (by decide) (by decide) (by decide) (by decide) (by simp)
  have hfilter : (PlanNode.node "Filter" [.literal "constraint" operand]
      [.node "FullScan" [.plain "kind" "edge"] []]).Tidy := by
    refine .node (by decide) (by decide) (by decide) ?_ (by simpa using hscan)
    exact List.forall_mem_singleton.mpr ⟨hkey, h⟩
  exact ⟨hstep, .node (by decide) (by decide) (by decide) (by simp)
    (by simpa using ⟨hfilter, hlookup⟩)⟩

/-- With literals withheld two operands are not told apart, and the five lines of the text still
tell the outline. -/
theorem render_eq_iff_branching :
    (branching "name.eq(Ada)").Tidy ∧ (branching "name.eq(Ben)").Tidy ∧
      (branching "name.eq(Ada)").render true = (branching "name.eq(Ben)").render true ∧
      (branching "name.eq(Ada)").root.SameOutline true (branching "name.eq(Ben)").root ∧
      ((branching "name.eq(Ada)").render true).toList.count '\n' = 5 := by
  obtain ⟨hshape, hcount⟩ := render_eq_iff
  have hAda : (branching "name.eq(Ada)").Tidy := tidy_branching (by decide)
  have hBen : (branching "name.eq(Ben)").Tidy := tidy_branching (by decide)
  have hrender : (branching "name.eq(Ada)").render true = (branching "name.eq(Ben)").render true :=
    rfl
  exact ⟨hAda, hBen, hrender, ((hshape _ _ hAda hBen true).mp hrender).2, (hcount _ true).2 hAda⟩

end Explanation

end StartStep
