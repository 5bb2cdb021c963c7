import Mathlib
import NodeGraph.Proofs.PlanTyping
import NodeGraph.Graph.Compile

/-!
# What a compilation pass builds

Every stage a pass builds comes from a node of the source that exists with a type other than
`error`: its plan is the kind's plan for the node's type and its inputs' types, and each input slot
holding a stage holds an earlier stage of the node that input reads (`Source.CompiledAt`).
`Source.compile_sound` shows every call of the pass keeps this, by induction on the depth bound and
on a node's inputs: the pass only appends stages, marks nodes and hands stages out again.
-/

namespace NodeGraph

/-- The sum of `f` over the elements of `L` that are not in `skip`. -/
def sumOutside (L skip : List Nat) (f : Nat → Nat) : Nat :=
  (L.map fun r => if r ∈ skip then 0 else f r).sum

section SumOutside

variable {L skip skip' : List Nat} {f : Nat → Nat}

theorem sumOutside_congr (h : ∀ r, r ∈ skip' ↔ r ∈ skip) :
    sumOutside L skip' f = sumOutside L skip f := by
  unfold sumOutside
  congr 1
  apply List.map_congr_left
  intro r _
  simp only [h]

/-- Skipping one more element of a list without repeats takes its term out of the sum. -/
theorem sumOutside_cons_skip {i : Nat} (hL : L.Nodup) (hi : i ∈ L) (hs : i ∉ skip) :
    sumOutside L (i :: skip) f + f i = sumOutside L skip f := by
  induction L with
  | nil => cases hi
  | cons r L ih =>
    obtain ⟨hr, hL⟩ := List.nodup_cons.mp hL
    simp only [sumOutside, List.map_cons, List.sum_cons] at ih ⊢
    by_cases hri : r = i
    · subst hri
      -- the other elements are not `r`, so skipping `r` changes none of their terms
      have hrest : ∀ x ∈ L, (if x ∈ r :: skip then 0 else f x) = if x ∈ skip then 0 else f x := by
        intro x hx
        have hxr : x ≠ r := fun he => hr (he ▸ hx)
        simp [hxr]
      rw [List.map_congr_left hrest]
      simp [hs]
      omega
    · have hi' : i ∈ L := (List.mem_cons.mp hi).resolve_left (Ne.symm hri)
      have hhead : (if r ∈ i :: skip then 0 else f r) = if r ∈ skip then 0 else f r := by
        simp [hri]
      rw [hhead, ← ih hL hi']
      omega

theorem sumOutside_cons_le (i : Nat) : sumOutside L (i :: skip) f ≤ sumOutside L skip f := by
  induction L with
  | nil => exact Nat.le_refl _
  | cons r L ih =>
    simp only [sumOutside, List.map_cons, List.sum_cons] at ih ⊢
    have hhead : (if r ∈ i :: skip then 0 else f r) ≤ if r ∈ skip then 0 else f r := by
      by_cases hm : r ∈ skip
      · simp [hm]
      · split <;> simp_all
    omega

end SumOutside

namespace Program

/-- The input slots, over the stages at positions outside `skip`, that hold stage `j`. -/
def slotRefs (stages : Array Stage) (skip : List Nat) (j : Nat) : Nat :=
  sumOutside (List.range stages.size) skip fun r =>
    ((stages[r]?).map fun st => st.inputs.count (some j)).getD 0

theorem slotRefs_congr {stages stages' : Array Stage} {skip : List Nat} {j : Nat}
    (hsize : stages'.size = stages.size)
    (h : ∀ r : Nat, (stages'[r]?).map Stage.inputs = (stages[r]?).map Stage.inputs) :
    slotRefs stages' skip j = slotRefs stages skip j := by
  unfold slotRefs sumOutside
  rw [hsize]
  congr 1
  apply List.map_congr_left
  intro r _
  have hr := congrArg (Option.map fun ins : List (Option Nat) => ins.count (some j)) (h r)
  simp only [Option.map_map] at hr
  exact congrArg (fun o => if r ∈ skip then 0 else o.getD 0) hr

theorem slotRefs_push (stages : Array Stage) (skip : List Nat) (s : Stage) (j : Nat) :
    slotRefs (stages.push s) skip j =
      slotRefs stages skip j + if stages.size ∈ skip then 0 else s.inputs.count (some j) := by
  unfold slotRefs sumOutside
  rw [Array.size_push, List.range_succ, List.map_append, List.sum_append]
  congr 1
  · apply congrArg List.sum
    apply List.map_congr_left
    intro r hr
    dsimp only
    rw [Array.getElem?_push, if_neg (Nat.ne_of_lt (List.mem_range.mp hr))]
  · simp

end Program

namespace Compiler

theorem lookup_record (c : Compiler) (id x : NodeId) (s : Option Nat) :
    (c.record id s).lookup x = if x = id then some s else c.lookup x := by
  simp only [lookup, record]
  by_cases hx : x = id
  · subst hx
    simp
  · rw [if_neg hx, List.find?_cons_of_neg (by simpa using Ne.symm hx), List.find?_filter]
    congr 2
    funext e
    by_cases he : e.1 = x
    · simp [he, hx]
    · simp [he]

/-- A later state of a pass: it has at least the stages of `c`, and each of them with the same
node, plan and inputs. -/
structure Grows (c c' : Compiler) : Prop where
  size_le : c.program.stages.size ≤ c'.program.stages.size
  keeps : ∀ (i : Nat) (st : Stage), c.program.stages[i]? = some st →
    ∃ st' : Stage, c'.program.stages[i]? = some st' ∧ st'.node = st.node ∧ st'.plan = st.plan ∧
      st'.inputs = st.inputs

namespace Grows

theorem refl (c : Compiler) : Grows c c :=
  ⟨Nat.le_refl _, fun _ st h => ⟨st, h, rfl, rfl, rfl⟩⟩

theorem trans {c₁ c₂ c₃ : Compiler} (h₁ : Grows c₁ c₂) (h₂ : Grows c₂ c₃) : Grows c₁ c₃ := by
  refine ⟨Nat.le_trans h₁.size_le h₂.size_le, fun i st h => ?_⟩
  obtain ⟨st', h', hn, hp, hi⟩ := h₁.keeps i st h
  obtain ⟨st'', h'', hn', hp', hi'⟩ := h₂.keeps i st' h'
  exact ⟨st'', h'', hn'.trans hn, hp'.trans hp, hi'.trans hi⟩

theorem of_program {c c' : Compiler} (h : c'.program = c.program) : Grows c c' :=
  ⟨Nat.le_of_eq (by rw [h]), fun _ st hst => ⟨st, by rw [h]; exact hst, rfl, rfl, rfl⟩⟩

end Grows

@[simp] theorem stages_addConsumer (c : Compiler) (i : Nat) :
    (c.addConsumer i).program.stages = c.program.stages.modify i Stage.addConsumer := rfl

theorem grows_addConsumer (c : Compiler) (i : Nat) : Grows c (c.addConsumer i) := by
  refine ⟨by simp, fun j st h => ?_⟩
  refine ⟨if i = j then st.addConsumer else st, ?_, ?_⟩
  · simp only [stages_addConsumer, Array.getElem?_modify, h]
    split <;> rfl
  · split <;> exact ⟨rfl, rfl, rfl⟩

theorem stages_push (c : Compiler) (s : Stage) :
    (c.push s).1.program.stages = c.program.stages.push s := rfl

theorem grows_push (c : Compiler) (s : Stage) : Grows c (c.push s).1 := by
  refine ⟨by simp [stages_push], fun j st h => ⟨st, ?_, rfl, rfl, rfl⟩⟩
  have hj : j < c.program.stages.size := (Array.getElem?_eq_some_iff.mp h).1
  rw [stages_push, Array.getElem?_push, if_neg (Nat.ne_of_lt hj), h]

/-- The consumers counted for stage `i`; none past the last stage. -/
def consumersAt (c : Compiler) (i : Nat) : Nat :=
  ((c.program.stages[i]?).map (·.consumers)).getD 0

/-- The input slots, over all stages of the pass, that hold stage `j`. -/
def slotRefs (c : Compiler) (j : Nat) : Nat := Program.slotRefs c.program.stages [] j

/-- From `c` to `c'` the pass handed stage `j` out at least `n` times more than it put it into
an input slot. -/
def Tally (c c' : Compiler) (j n : Nat) : Prop :=
  c.consumersAt j + c'.slotRefs j + n ≤ c'.consumersAt j + c.slotRefs j

theorem Tally.of_program {c c' : Compiler} (h : c'.program = c.program) (j : Nat) :
    Tally c c' j 0 := by
  simp only [Tally, consumersAt, slotRefs, h]
  omega

theorem Tally.trans {c₁ c₂ c₃ : Compiler} {j n m : Nat} (h₁ : Tally c₁ c₂ j n)
    (h₂ : Tally c₂ c₃ j m) : Tally c₁ c₃ j (n + m) := by
  simp only [Tally] at *
  omega

theorem Tally.weaken {c c' : Compiler} {j n m : Nat} (h : Tally c c' j n) (hm : m ≤ n) :
    Tally c c' j m := by
  simp only [Tally] at *
  omega

theorem consumersAt_addConsumer (c : Compiler) {i : Nat} (hi : i < c.program.stages.size)
    (j : Nat) : (c.addConsumer i).consumersAt j = c.consumersAt j + if j = i then 1 else 0 := by
  simp only [consumersAt, stages_addConsumer, Array.getElem?_modify]
  by_cases hj : j = i
  · subst hj
    simp [Array.getElem?_eq_getElem hi, Stage.addConsumer]
  · simp [Ne.symm hj, hj]

theorem slotRefs_addConsumer (c : Compiler) (i j : Nat) :
    (c.addConsumer i).slotRefs j = c.slotRefs j :=
  Program.slotRefs_congr (by simp) fun r => by
    simp only [stages_addConsumer, Array.getElem?_modify]
    split
    · rw [Option.map_map]
      rfl
    · rfl

theorem tally_addConsumer (c : Compiler) {i : Nat} (hi : i < c.program.stages.size) (j : Nat) :
    Tally c (c.addConsumer i) j (if j = i then 1 else 0) := by
  simp only [Tally, consumersAt_addConsumer c hi, slotRefs_addConsumer]
  omega

theorem consumersAt_push (c : Compiler) (s : Stage) (j : Nat) :
    (c.push s).1.consumersAt j =
      c.consumersAt j + if j = c.program.stages.size then s.consumers else 0 := by
  simp only [consumersAt, stages_push, Array.getElem?_push]
  split
  · rename_i hj
    subst hj
    simp
  · rfl

theorem slotRefs_push (c : Compiler) (s : Stage) (j : Nat) :
    (c.push s).1.slotRefs j = c.slotRefs j + s.inputs.count (some j) := by
  simp only [slotRefs, stages_push, Program.slotRefs_push]
  simp

end Compiler

section Steps

variable {α β : Type}

@[simp] theorem CompileM.run_bind (x : CompileM α) (f : α → CompileM β) (c : Compiler) :
    (x >>= f).run c = (f (x.run c).1).run (x.run c).2 := rfl

@[simp] theorem CompileM.run_pure (a : α) (c : Compiler) : (pure a : CompileM α).run c = (a, c) :=
  rfl

@[simp] theorem CompileM.run_get (c : Compiler) : (get : CompileM Compiler).run c = (c, c) := rfl

@[simp] theorem CompileM.run_set (c c' : Compiler) : (set c' : CompileM PUnit).run c = (⟨⟩, c') :=
  rfl

@[simp] theorem CompileM.run_modify (f : Compiler → Compiler) (c : Compiler) :
    (modify f : CompileM PUnit).run c = (⟨⟩, f c) := rfl

end Steps

namespace Source

variable (src : Source)

/-- The types of the nodes a node's inputs read, as a compilation sees them. -/
def inputTypes (n : Node) : List ValueType := n.inputs.map fun l => src.typeOf l.target

/-- A stage at position `i` of `stages` compiled from the source: its node exists with a type other
than `error`, its plan is the kind's plan for the node's type and input types, and each slot that
holds a stage holds an earlier stage of the node that input reads. -/
def CompiledAt (stages : Array Stage) (i : Nat) (st : Stage) : Prop :=
  ∃ n, src.node? st.node = some n ∧ n.type ≠ .error ∧
    n.kind.plan st.node n.type (src.inputTypes n) src.hasProps = some st.plan ∧
    ∀ (k j : Nat), (st.inputs[k]?).join = some j →
      j < i ∧ ∃ (sj : Stage) (l : Link), stages[j]? = some sj ∧ n.inputs[k]? = some l ∧
        sj.node = l.target

/-- A state of a pass over the source: the records and the stages agree (a node recorded with a
stage is that stage's node, and a stage is recorded for its node), every stage is compiled from the
source, a stage keeps its results exactly when it has two consumers or more, and every stage has an
empty place for its results. -/
structure Sound (c : Compiler) : Prop where
  stage_of_record : ∀ (id : NodeId) (i : Nat), c.lookup id = some (some i) →
    ∃ st : Stage, c.program.stages[i]? = some st ∧ st.node = id
  record_of_stage : ∀ (i : Nat) (st : Stage), c.program.stages[i]? = some st →
    c.lookup st.node = some (some i)
  stages : ∀ (i : Nat) (st : Stage), c.program.stages[i]? = some st →
    src.CompiledAt c.program.stages i st
  memoize_iff : ∀ (i : Nat) (st : Stage), c.program.stages[i]? = some st →
    (st.memoize = true ↔ 2 ≤ st.consumers)
  blank : c.program.memos = Array.replicate c.program.stages.size none

variable {src}

theorem CompiledAt.grows {c c' : Compiler} {i : Nat} {st : Stage}
    (h : src.CompiledAt c.program.stages i st) (hg : c.Grows c') :
    src.CompiledAt c'.program.stages i st := by
  obtain ⟨n, hn, herr, hplan, hins⟩ := h
  refine ⟨n, hn, herr, hplan, fun k j hk => ?_⟩
  obtain ⟨hj, sj, l, hsj, hl, hnode⟩ := hins k j hk
  obtain ⟨sj', hsj', hnode', -, -⟩ := hg.keeps j sj hsj
  exact ⟨hj, sj', l, hsj', hl, hnode'.trans hnode⟩

/-- Two stages of a sound state with the same node are the same stage. -/
theorem Sound.stage_injective {c : Compiler} (hc : src.Sound c) {i i' : Nat} {st st' : Stage}
    (h : c.program.stages[i]? = some st) (h' : c.program.stages[i']? = some st')
    (hnode : st.node = st'.node) : i = i' := by
  have hr := hc.record_of_stage i st h
  rw [hnode, hc.record_of_stage i' st' h'] at hr
  simpa using hr.symm

theorem Sound.of_program {c c' : Compiler} (hc : src.Sound c) (hp : c'.program = c.program)
    (hs : c'.seen = c.seen) : src.Sound c' := by
  have hl : c'.lookup = c.lookup := by
    funext id
    simp only [Compiler.lookup, hs]
  refine ⟨fun id i h => ?_, fun i st h => ?_, fun i st h => ?_, fun i st h => ?_, by
    rw [hp]; exact hc.blank⟩
  · rw [hl] at h
    rw [hp]
    exact hc.stage_of_record id i h
  · rw [hp] at h
    rw [hl]
    exact hc.record_of_stage i st h
  · rw [hp] at h ⊢
    exact hc.stages i st h
  · rw [hp] at h
    exact hc.memoize_iff i st h

/-- Marking a node not met before as being compiled keeps the other records. -/
theorem keeps_record_none {c : Compiler} {id : NodeId} (hid : c.lookup id = none)
    (y : NodeId) (r : Option Nat) (h : c.lookup y = some r) :
    (c.record id none).lookup y = some r := by
  rw [Compiler.lookup_record, if_neg]
  · exact h
  · rintro rfl
    simp [hid] at h

theorem Sound.record_none {c : Compiler} (hc : src.Sound c) {id : NodeId}
    (hid : c.lookup id = none) : src.Sound (c.record id none) := by
  refine ⟨fun x i h => ?_, fun i st h => ?_, hc.stages, hc.memoize_iff, hc.blank⟩
  · rw [Compiler.lookup_record] at h
    split at h
    · cases h
    · exact hc.stage_of_record x i h
  · exact keeps_record_none hid _ _ (hc.record_of_stage i st h)

theorem Stage.memoize_addConsumer_iff {st : Stage} (h : st.memoize = true ↔ 2 ≤ st.consumers) :
    st.addConsumer.memoize = true ↔ 2 ≤ st.addConsumer.consumers := by
  simp only [Stage.addConsumer, Bool.or_eq_true, decide_eq_true_eq, h]
  omega

/-- A stage after handing stage `i` out once more: the old stage, handed out again if it is `i`. -/
theorem Compiler.getElem?_addConsumer {c : Compiler} {i j : Nat} {st : Stage}
    (h : (c.addConsumer i).program.stages[j]? = some st) :
    ∃ st₀, c.program.stages[j]? = some st₀ ∧ st = if i = j then st₀.addConsumer else st₀ := by
  simp only [Compiler.stages_addConsumer, Array.getElem?_modify] at h
  split at h
  · obtain ⟨st₀, h₀, rfl⟩ := Option.map_eq_some_iff.mp h
    exact ⟨st₀, h₀, by simp [*]⟩
  · exact ⟨st, h, by simp [*]⟩

theorem Sound.addConsumer {c : Compiler} (hc : src.Sound c) (i : Nat) :
    src.Sound (c.addConsumer i) := by
  have hg := Compiler.grows_addConsumer c i
  refine ⟨fun x j h => ?_, fun j st h => ?_, fun j st h => ?_, fun j st h => ?_,
    by simpa [Compiler.addConsumer] using hc.blank⟩
  · obtain ⟨st, hst, hnode⟩ := hc.stage_of_record x j h
    obtain ⟨st', h', hn, -⟩ := hg.keeps j st hst
    exact ⟨st', h', hn.trans hnode⟩
  -- handing a stage out again changes no node, plan or inputs
  all_goals obtain ⟨st₀, h₀, rfl⟩ := Compiler.getElem?_addConsumer h
  · have hr := hc.record_of_stage j st₀ h₀
    split <;> exact hr
  · obtain ⟨n, hnode, herr, hplan, hins⟩ := (hc.stages j st₀ h₀).grows hg
    split <;> exact ⟨n, hnode, herr, hplan, hins⟩
  · have hm := hc.memoize_iff j st₀ h₀
    split
    · exact Stage.memoize_addConsumer_iff hm
    · exact hm

theorem Sound.push {c : Compiler} (hc : src.Sound c) {st : Stage}
    (hst : src.CompiledAt c.program.stages c.program.stages.size st)
    (hfresh : ∀ i, c.lookup st.node ≠ some (some i))
    (hmemo : st.memoize = true ↔ 2 ≤ st.consumers) : src.Sound (c.push st).1 := by
  have hg := Compiler.grows_push c st
  -- the new stage comes with an empty place for its results
  have hblank : (c.push st).1.program.memos =
      Array.replicate (c.push st).1.program.stages.size none := by
    simp only [Compiler.push, Compiler.record, Array.size_push, hc.blank, Array.replicate_succ]
  refine ⟨fun x i h => ?_, fun i s h => ?_, fun i s h => ?_, fun i s h => ?_, hblank⟩
  · simp only [Compiler.push, Compiler.lookup_record] at h
    split at h
    · cases h
      rename_i hx
      exact ⟨st, by simp [Compiler.push, Compiler.record], hx.symm⟩
    · obtain ⟨s, hs, hnode⟩ := hc.stage_of_record x i h
      obtain ⟨s', hs', hn, -⟩ := hg.keeps i s hs
      exact ⟨s', hs', hn.trans hnode⟩
  all_goals rw [Compiler.stages_push, Array.getElem?_push] at h
  · simp only [Compiler.push, Compiler.lookup_record]
    split at h
    · cases h
      simp_all
    · -- an older stage belongs to another node, whose record the push keeps
      have hr := hc.record_of_stage i s h
      have hne : s.node ≠ st.node := fun he => hfresh i (he ▸ hr)
      rw [if_neg hne]
      exact hr
  · split at h
    · cases h
      rename_i hi
      exact hi ▸ hst.grows hg
    · exact (hc.stages i s h).grows hg
  · split at h
    · cases h
      exact hmemo
    · exact hc.memoize_iff i s h

/-- What compiling a node from state `c` gives: a sound state that grows `c` and keeps its
records, a stage of that node if any, and one more hand-out than slot use of the stage it gives. -/
structure CompileOk (src : Source) (c : Compiler) (id : NodeId) (x : Option Nat × Compiler) :
    Prop where
  sound : src.Sound x.2
  grows : c.Grows x.2
  keeps : ∀ (y : NodeId) (r : Option Nat), c.lookup y = some r → x.2.lookup y = some r
  stage : ∀ i, x.1 = some i → ∃ st : Stage, x.2.program.stages[i]? = some st ∧ st.node = id
  tally : ∀ j, c.Tally x.2 j (if x.1 = some j then 1 else 0)

/-- What compiling a list of inputs from state `c` gives: a sound state that grows `c` and keeps
its records, slots each holding, if anything, a stage of the node its input reads, and one more
hand-out than slot use of each stage for each slot that holds it. -/
structure InputsOk (src : Source) (c : Compiler) (ls : List Link)
    (x : Option (List (Option Nat)) × Compiler) : Prop where
  sound : src.Sound x.2
  grows : c.Grows x.2
  keeps : ∀ (y : NodeId) (r : Option Nat), c.lookup y = some r → x.2.lookup y = some r
  slots : ∀ ins, x.1 = some ins → ∀ (k j : Nat), (ins[k]?).join = some j →
    ∃ (sj : Stage) (l : Link), x.2.program.stages[j]? = some sj ∧ ls[k]? = some l ∧
      sj.node = l.target
  tally : ∀ j, c.Tally x.2 j ((x.1.map (·.count (some j))).getD 0)

theorem compileOk_none {c c' : Compiler} {id : NodeId} (hs : src.Sound c') (hg : c.Grows c')
    (hk : ∀ (y : NodeId) (r : Option Nat), c.lookup y = some r → c'.lookup y = some r)
    (ht : ∀ j, c.Tally c' j 0) : src.CompileOk c id (none, c') :=
  ⟨hs, hg, hk, (fun _ h => nomatch h), by simpa using ht⟩

theorem compileOk_same {c : Compiler} {id : NodeId} (hc : src.Sound c) :
    src.CompileOk c id (none, c) :=
  compileOk_none hc (.refl c) (fun _ _ h => h) (Compiler.Tally.of_program rfl)

/-- A node met before hands its stage out once more. -/
theorem compileOk_hit {c : Compiler} {id : NodeId} {i : Nat} (hc : src.Sound c)
    (hlook : c.lookup id = some (some i)) : src.CompileOk c id (some i, c.addConsumer i) := by
  obtain ⟨st, hst, hnode⟩ := hc.stage_of_record id i hlook
  have hi : i < c.program.stages.size := (Array.getElem?_eq_some_iff.mp hst).1
  obtain ⟨st', hst', hn, -⟩ := (Compiler.grows_addConsumer c i).keeps i st hst
  refine ⟨hc.addConsumer i, Compiler.grows_addConsumer c i, fun _ _ h => h, ?_, fun j => ?_⟩
  · intro j h
    cases h
    exact ⟨st', hst', hn.trans hnode⟩
  · have ht := Compiler.tally_addConsumer c hi j
    simp only [Option.some.injEq]
    by_cases hj : j = i
    · subst hj
      simpa using ht
    · simpa [hj, Ne.symm hj] using ht

/-- Compiling the inputs of a node, each with a compilation that does what `CompileOk` says, does
what `InputsOk` says. -/
theorem compileInputs_sound {compileNode : NodeId → CompileM (Option Nat)}
    (hnode : ∀ target c, src.Sound c → src.CompileOk c target ((compileNode target).run c))
    (id : NodeId) (ls : List Link) (index : Nat) (c : Compiler) (hc : src.Sound c) :
    src.InputsOk c ls ((compileInputs compileNode id ls index).run c) := by
  induction ls generalizing index c with
  | nil =>
    rw [compileInputs, CompileM.run_pure]
    refine ⟨hc, .refl c, fun _ _ h => h, fun ins h k j hk => ?_,
      fun j => by simpa using Compiler.Tally.of_program rfl j⟩
    cases h
    simp at hk
  | cons l ls ih =>
    rw [compileInputs, CompileM.run_bind]
    obtain ⟨hs1, hg1, hk1, hr1, ht1⟩ := hnode l.target c hc
    generalize StateT.run (compileNode l.target) c = p at hs1 hg1 hk1 hr1 ht1 ⊢
    obtain ⟨s, c1⟩ := p
    dsimp only at hs1 hg1 hk1 hr1 ht1 ⊢
    split
    · -- a required input without a stage: the pass only reports it
      simp only [CompileM.run_bind, CompileM.run_modify, CompileM.run_pure]
      refine ⟨hs1.of_program rfl rfl, hg1.trans (.of_program rfl), fun y r h => ?_,
        (fun _ h => nomatch h), fun j => ?_⟩
      · simpa only [Compiler.lookup] using hk1 y r h
      · exact ((ht1 j).trans (Compiler.Tally.of_program rfl j)).weaken (Nat.zero_le _)
    · rw [CompileM.run_bind]
      obtain ⟨hs2, hg2, hk2, hr2, ht2⟩ := ih (index + 1) c1 hs1
      generalize StateT.run (compileInputs compileNode id ls (index + 1)) c1 = q
        at hs2 hg2 hk2 hr2 ht2 ⊢
      obtain ⟨r, c2⟩ := q
      dsimp only at hs2 hg2 hk2 hr2 ht2 ⊢
      split
      · rw [CompileM.run_pure]
        exact ⟨hs2, hg1.trans hg2, fun y r h => hk2 y r (hk1 y r h), (fun _ h => nomatch h),
          fun j => ((ht1 j).trans (ht2 j)).weaken (Nat.zero_le _)⟩
      · rename_i rest
        rw [CompileM.run_pure]
        refine ⟨hs2, hg1.trans hg2, fun y r h => hk2 y r (hk1 y r h), fun ins h k j hk => ?_,
          fun j => ?_⟩
        · cases h
          cases k with
          | zero =>
            -- the first slot holds the stage compiled for this input, kept by the rest of the pass
            obtain ⟨st, hst, hnode⟩ := hr1 j (by simpa using hk)
            obtain ⟨st', hst', hn, -⟩ := hg2.keeps j st hst
            exact ⟨st', l, hst', rfl, hn.trans hnode⟩
          | succ k => simpa using hr2 rest rfl k j (by simpa using hk)
        · have ht := (ht1 j).trans (ht2 j)
          simp only [Option.map_some, Option.getD_some, List.count_cons, beq_iff_eq] at ht ⊢
          rwa [Nat.add_comm] at ht

/-- The stage a node compiles to, once its inputs compiled: appended last, after the stages of its
inputs, and handed out once. -/
theorem compileOk_push {c c₂ : Compiler} {id : NodeId} {n : Node} {plan : Plan}
    {inputs : List (Option Nat)} (hlook : c.lookup id = none)
    (hn : src.node? id = some n) (herr : n.type ≠ .error)
    (hplan : n.kind.plan id n.type (src.inputTypes n) src.hasProps = some plan)
    (hins : src.InputsOk (c.record id none) n.inputs (some inputs, c₂)) :
    src.CompileOk c id (some c₂.program.stages.size,
      (c₂.push { node := id, plan := plan, inputs := inputs }).1) := by
  obtain ⟨hs2, hg2, hk2, hr2, ht2⟩ := hins
  dsimp only at hs2 hg2 hk2 hr2 ht2
  have hg1 : c.Grows (c.record id none) := .of_program rfl
  have hnew : src.CompiledAt c₂.program.stages c₂.program.stages.size
      { node := id, plan := plan, inputs := inputs } := by
    refine ⟨n, hn, herr, hplan, fun k j hk => ?_⟩
    obtain ⟨sj, l, hsj, hl, hnode⟩ := hr2 inputs rfl k j hk
    exact ⟨(Array.getElem?_eq_some_iff.mp hsj).1, sj, l, hsj, hl, hnode⟩
  -- the node is still marked as being compiled, so no stage of it was built meanwhile
  have hmark : c₂.lookup id = some none :=
    hk2 id none (by rw [Compiler.lookup_record, if_pos rfl])
  refine ⟨hs2.push hnew (fun i => by simp [hmark]) (by simp), hg1.trans (hg2.trans
    (Compiler.grows_push _ _)), fun y r h => ?_, fun i h => ?_, fun j => ?_⟩
  · have hy : y ≠ id := by
      rintro rfl
      simp [hlook] at h
    simp only [Compiler.push, Compiler.lookup_record, if_neg hy]
    exact hk2 y r (keeps_record_none hlook y r h)
  · cases h
    exact ⟨{ node := id, plan := plan, inputs := inputs }, by simp [Compiler.push, Compiler.record],
      rfl⟩
  · have ht := ht2 j
    simp only [Compiler.Tally, Compiler.consumersAt_push, Compiler.slotRefs_push,
      Option.map_some, Option.getD_some, Option.some.injEq] at ht ⊢
    have hc1 : (c.record id none).consumersAt j = c.consumersAt j := rfl
    have hr1 : (c.record id none).slotRefs j = c.slotRefs j := rfl
    split <;> split <;> omega

/-- Compiling a node from a sound state does what `CompileOk` says; by induction on the depth
bound, through the node's inputs. -/
theorem compile_sound (fuel : Nat) (id : NodeId) (c : Compiler) (hc : src.Sound c) :
    src.CompileOk c id ((src.compile fuel id).run c) := by
  induction fuel generalizing id c with
  | zero =>
    rw [Source.compile]
    exact compileOk_same hc
  | succ fuel ih =>
    rw [Source.compile]
    split
    · exact compileOk_same hc
    rw [CompileM.run_bind, CompileM.run_get]
    dsimp only
    split
    · rw [CompileM.run_pure]
      exact compileOk_same hc
    · rename_i i hlook
      simp only [CompileM.run_bind, CompileM.run_modify, CompileM.run_pure]
      exact compileOk_hit hc hlook
    · rename_i hlook
      split
      · exact compileOk_same hc
      · rename_i n hn
        simp only [CompileM.run_bind, CompileM.run_modify]
        -- the failures after marking the node leave only the mark
        have hmarked : src.CompileOk c id (none, c.record id none) :=
          compileOk_none (hc.record_none hlook) (.of_program rfl) (keeps_record_none hlook)
            (Compiler.Tally.of_program rfl)
        split
        · exact hmarked
        · rename_i herr
          split
          · exact hmarked
          · rename_i plan hplan
            rw [CompileM.run_bind]
            have hins := compileInputs_sound (fun t c hc => ih t c hc) id n.inputs 0 _
              (hc.record_none hlook)
            generalize StateT.run (compileInputs (src.compile fuel) id n.inputs 0)
              (c.record id none) = q at hins ⊢
            obtain ⟨r, c₂⟩ := q
            dsimp only at hins ⊢
            split
            · obtain ⟨hs2, hg2, hk2, -, ht2⟩ := hins
              exact compileOk_none hs2 (hmarked.grows.trans hg2)
                (fun y r h => hk2 y r (hmarked.keeps y r h))
                fun j => by simpa using (hmarked.tally j).trans (ht2 j)
            · rename_i inputs
              simp only [CompileM.run_bind, CompileM.run_get, CompileM.run_set,
                CompileM.run_pure]
              exact compileOk_push hlook hn herr hplan hins

theorem sound_empty : src.Sound {} :=
  ⟨fun _ _ h => by simp [Compiler.lookup] at h, fun _ _ h => by simp at h,
    fun _ _ h => by simp at h, fun _ _ h => by simp at h, rfl⟩

/-- Compiling a list of roots in one pass keeps a sound state sound. -/
theorem compileAll_sound (roots : List NodeId) (c : Compiler) (hc : src.Sound c) :
    src.Sound ((src.compileAll roots).run c).2 := by
  unfold compileAll
  induction roots generalizing c with
  | nil => exact hc
  | cons r rs ih =>
    simp only [List.mapM_cons, CompileM.run_bind, CompileM.run_pure]
    exact ih _ (compile_sound _ r c hc).sound

/-- Compiling a list of outputs in one pass keeps a sound state sound and hands each stage out
once more than its slots use it for each output compiled to it. -/
theorem compileRoots_ok (name : String) (ids : List NodeId) (c : Compiler) (hc : src.Sound c) :
    src.Sound ((Graph.compileRoots src name ids).run c).2 ∧
      ∀ j, c.Tally ((Graph.compileRoots src name ids).run c).2 j
        (((Graph.compileRoots src name ids).run c).1.count j) := by
  unfold Graph.compileRoots
  induction ids generalizing c with
  | nil => exact ⟨hc, Compiler.Tally.of_program rfl⟩
  | cons id ids ih =>
    rw [List.filterMapM_cons]
    have h1 := compile_sound (src.nodes.length + 1) id c hc
    simp only [CompileM.run_bind]
    generalize StateT.run (src.compile (src.nodes.length + 1) id) c = p at h1 ⊢
    obtain ⟨s, c₁⟩ := p
    cases s with
    | none =>
      -- an output that does not compile is only reported
      simp only [Option.isNone_none, if_true, CompileM.run_bind, CompileM.run_modify,
        CompileM.run_pure]
      obtain ⟨hs, ht⟩ := ih { c₁ with events := c₁.events ++ [.outputFailed name id] }
        (h1.sound.of_program rfl rfl)
      exact ⟨hs, fun j => (((h1.tally j).trans ((Compiler.Tally.of_program rfl j).trans
        (ht j))).weaken (by simp))⟩
    | some i =>
      simp only [Option.isNone_some, Bool.false_eq_true, if_false, CompileM.run_bind,
        CompileM.run_pure]
      obtain ⟨hs, ht⟩ := ih c₁ h1.sound
      refine ⟨hs, fun j => ((h1.tally j).trans (ht j)).weaken ?_⟩
      simp only [List.count_cons, beq_iff_eq, Option.some.injEq]
      omega

end Source

end NodeGraph
