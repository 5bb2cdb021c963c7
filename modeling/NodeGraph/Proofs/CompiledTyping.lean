import NodeGraph.Proofs.Compilation

/-!
# Compiled programs read what their stages produce

A source is *settled* when every node not of type `error` has the type its kind resolves from what
its inputs read. In a program compiled from a settled source each read asks the stage it reads for
the type that stage produces, or reads a stage of type `none`, which the rule "exact type or
nothing" lets through. So evaluation stops with a kind mismatch only on a stage that produces
nothing (`Source.mismatch_only_on_void_stage`), and never where no input reads a node of type
`none` (`Source.run_never_mismatches`).
-/

namespace NodeGraph

namespace Source

variable {src : Source} {props : Option Properties} {c : Compiler}

/-- A node settled in the source: unless its type is `error`, it is the type its kind resolves
from the types of the nodes its inputs read. -/
def Settled (src : Source) (props : Option Properties) (n : Node) : Prop :=
  n.type ≠ .error → (n.kind.resolve n.inputs (src.inputTypes n) props).1 = n.type

/-- Every node of the source is settled. -/
def AllSettled (src : Source) (props : Option Properties) : Prop :=
  ∀ id n, src.node? id = some n → src.Settled props n

/-- No input of a node reads a node of type `none`. -/
def ReadsNoVoid (src : Source) : Prop :=
  ∀ id n l m, src.node? id = some n → l ∈ n.inputs → src.node? l.target = some m →
    m.type ≠ .none

theorem typeOf_eq {id : NodeId} {n : Node} (h : src.node? id = some n) :
    src.typeOf id = n.type := by
  simp [typeOf, h]

theorem typeAt_inputTypes {n : Node} {k : Nat} {l : Link} (h : n.inputs[k]? = some l) :
    typeAt (src.inputTypes n) k = src.typeOf l.target := by
  simp [typeAt, inputTypes, h]

theorem CompiledAt.fits (hset : src.AllSettled props) {stages : Array Stage} {i : Nat}
    {st : Stage} (h : src.CompiledAt stages i st) :
    ∃ n, src.node? st.node = some n ∧ st.plan.Fits n.type (src.inputTypes n) := by
  obtain ⟨n, hn, herr, hplan, -⟩ := h
  exact ⟨n, hn, Kind.plan_fits (hset st.node n hn herr) herr hplan⟩

/-- A read that a stage compiled from a settled source lists, at a slot holding a stage, asks that
stage for the type it produces, or reads a stage of a node of type `none` through an input. -/
theorem Sound.read_fits (hset : src.AllSettled props) (hc : src.Sound c) {i j k : Nat}
    {t : ValueType} {st sj : Stage} (hst : c.program.stages[i]? = some st)
    (hkt : (k, t) ∈ st.plan.reads) (hslot : (st.inputs[k]?).join = some j)
    (hsj : c.program.stages[j]? = some sj) :
    sj.plan.output = t ∨ ∃ n l m, src.node? st.node = some n ∧ l ∈ n.inputs ∧
      src.node? l.target = some m ∧ m.type = .none ∧ sj.plan.output = .none := by
  obtain ⟨n, hn, herr, hplan, hins⟩ := hc.stages i st hst
  have hfit := Kind.plan_fits (hset st.node n hn herr) herr hplan
  obtain ⟨-, sj', l, hsj', hl, hnode⟩ := hins k j hslot
  rw [hsj] at hsj'
  cases hsj'
  -- the stage read is the stage of the node that input reads, and produces that node's type
  obtain ⟨m, hm, hfitm⟩ := (hc.stages j sj hsj).fits hset
  have hout : sj.plan.output = typeAt (src.inputTypes n) k := by
    rw [hfitm.output_eq, typeAt_inputTypes hl, ← hnode, typeOf_eq hm]
  rcases hfit.reads_fit (k, t) hkt with ht | hnone
  · exact .inl (hout.trans ht)
  · refine .inr ⟨n, l, m, hn, List.mem_of_getElem? hl, hnode ▸ hm, ?_, hout.trans hnone⟩
    rw [← hfitm.output_eq, hout, hnone]

theorem Sound.readsWithin_none (hset : src.AllSettled props) (hc : src.Sound c) :
    Program.ReadsWithin (· = .none) c.program.stages := by
  intro i st hst k t hkt j sj hslot _ hsj
  rcases hc.read_fits hset hst hkt hslot hsj with h | ⟨-, -, -, -, -, -, -, h⟩
  · exact .inl h
  · exact .inr h

theorem Sound.wellTyped (hset : src.AllSettled props) (hvoid : src.ReadsNoVoid)
    (hc : src.Sound c) : Program.ReadsWithin (fun _ => False) c.program.stages := by
  intro i st hst k t hkt j sj hslot _ hsj
  rcases hc.read_fits hset hst hkt hslot hsj with h | ⟨n, l, m, hn, hl, hm, hnone, -⟩
  · exact .inl h
  · exact absurd hnone (hvoid _ n l m hn hl hm)

/-- Type soundness of compiled evaluation, as far as it holds: in a program compiled in one pass
from a settled source, running any stage in any tick, with any step and from any state, stops with
a kind mismatch only on a stage that produces nothing. -/
theorem mismatch_only_on_void_stage (hset : src.AllSettled props) (roots : List NodeId)
    (tick i : Nat) (dt : Float32) (s : Run) (node : NodeId) (out want : ValueType)
    (h : (Program.run ((src.compileAll roots).run {}).2.program.stages tick dt i).run s =
      .error (.kindMismatch node out want)) :
    out = .none :=
  Program.mismatchesIn_run ((compileAll_sound roots {} sound_empty).readsWithin_none hset) i s _ h

/-- A float constant (node 1), an output value reading it (node 2), and an output value reading
that output value (node 3). Node 2 produces nothing, and node 3 reads it. -/
def chainedOutputs : Source where
  nodes :=
    [{ id := 1, type := .float, kind := .value "" false .none (.float 0) },
     { id := 2, type := .none, kind := .value "out" false .output (.float 0),
       inputs := [{ target := 1, valueType := .float, name := "In",
                    required := true, noDefaults := true }] },
     { id := 3, type := .none, kind := .value "out" false .output (.float 0),
       inputs := [{ target := 2, valueType := .float, name := "In",
                    required := true, noDefaults := true }] }]
  hasProps := false

theorem chainedOutputs_settled : chainedOutputs.AllSettled none := by
  have hall : ∀ n ∈ chainedOutputs.nodes, chainedOutputs.Settled none n := by
    simp only [Settled]
    decide
  exact fun _ n h => hall n (List.mem_of_find?_eq_some h)

theorem chainedOutputs_faults_only_on_void :
    chainedOutputs.AllSettled none ∧ ∀ tick i dt s node out want,
      (Program.run ((chainedOutputs.compileAll [3]).run {}).2.program.stages tick dt i).run s =
        .error (.kindMismatch node out want) → out = .none :=
  ⟨chainedOutputs_settled, fun tick i dt s node out want h =>
    mismatch_only_on_void_stage chainedOutputs_settled [3] tick i dt s node out want h⟩

theorem chainedOutputs_stages :
    ((chainedOutputs.compileAll [3]).run {}).2.program.stages =
      #[{ node := 1, plan := .constant 1 .float, inputs := [] },
        { node := 2, plan := .store 2 .float, inputs := [some 0] },
        { node := 3, plan := .store 3 .float, inputs := [some 1] }] := by
  rfl

/-- The mismatch is reached: running the output value that reads the other one reads a stage that
produces nothing as a float. -/
theorem chainedOutputs_run_mismatch :
    (Program.run ((chainedOutputs.compileAll [3]).run {}).2.program.stages 0 0 2).run
      ⟨chainedOutputs.nodes, none, #[none, none, none], [], []⟩ =
      .error (.kindMismatch 2 .none .float) := by
  rw [chainedOutputs_stages]
  simp only [Program.run, Program.evalValue]
  -- node 3 runs for its effect and reads stage 1, which it asks for a float
  rw [Program.evalAt]
  simp [Program.evalAt.effectRun, Plan.compute, Plan.isVoid, Plan.output, Program.stageReads]
  rw [Program.evalAt]
  simp [Program.evalAt.typedRun, Plan.output]
  rfl

/-- Where no input reads a node of type `none`, running a program compiled from a settled source
never stops with a kind mismatch. -/
theorem run_never_mismatches (hset : src.AllSettled props) (hvoid : src.ReadsNoVoid)
    (roots : List NodeId) (tick i : Nat) (dt : Float32) (s : Run) (e : Fault)
    (h : (Program.run ((src.compileAll roots).run {}).2.program.stages tick dt i).run s =
      .error e) :
    e.isMismatch = false := by
  have hm := Program.mismatchesIn_run
    ((compileAll_sound roots {} sound_empty).wellTyped hset hvoid) i s e h
  cases e with
  | kindMismatch => exact hm.elim
  | _ => rfl

end Source

end NodeGraph
