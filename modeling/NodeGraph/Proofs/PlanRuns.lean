import NodeGraph.Proofs.PlanTyping

/-!
# One run of a plan

A plan's computation, run once with readers for its slots, reads each slot at most once and only
slots `Plan.reads` lists, gives a value of the type the plan produces, and besides its reads
changes the state of its own node only. The statements are triples over the evaluation state
(`EvalM.Triple`); the readers are described by predicates `Φ used` indexed by the slots read so far
(`Reads.Once`), and a computation `Uses` a list of slots when it reads only slots of that list, each
once.
-/

namespace NodeGraph

/-- A type that has values: a missing input of this type reads as its zero. -/
def ValueType.HasValues (t : ValueType) : Prop := (Value.zeroOf? t).isSome

instance (t : ValueType) : Decidable t.HasValues :=
  inferInstanceAs (Decidable ((Value.zeroOf? t).isSome = true))

theorem type_zeroValue {t : ValueType} (h : t.HasValues) : (zeroValue t).type = t := by
  cases t <;> simp_all [ValueType.HasValues, Value.zeroOf?, zeroValue, Value.type]

@[simp] theorem Shape.type_ofLanes (s : Shape) (v : Lanes) : (Shape.ofLanes s v).type = s.type := by
  cases s <;> rfl

@[simp] theorem Shape.hasValues_type (s : Shape) : s.type.HasValues := by
  cases s <;> decide

/-! ## Triples -/

namespace EvalM

/-- From a state where `P` holds, a run of `m` that succeeds ends in a state where `Q` holds of its
result. A run that faults satisfies every triple. -/
def Triple {α : Type} (P : Run → Prop) (m : EvalM α) (Q : α → Run → Prop) : Prop :=
  ∀ s, P s → ∀ a s', m.run s = .ok (a, s') → Q a s'

variable {α β : Type} {P : Run → Prop} {Q : α → Run → Prop}

theorem Triple.pure {a : α} (h : ∀ s, P s → Q a s) : Triple P (pure a) Q := by
  intro s hs a' s' hr
  cases hr
  exact h s hs

theorem Triple.bind {m : EvalM α} {f : α → EvalM β} {R : β → Run → Prop} (hm : Triple P m Q)
    (hf : ∀ a, Triple (Q a) (f a) R) : Triple P (m >>= f) R := by
  intro s hs b s' hr
  rw [StateT.run_bind] at hr
  cases hms : m.run s with
  | error e =>
    rw [hms] at hr
    cases hr
  | ok p =>
    rw [hms] at hr
    exact hf p.1 p.2 (hm s hs p.1 p.2 hms) b s' hr

theorem run_bind_ok {m : EvalM α} {f : α → EvalM β} {s s' : Run} {b : β}
    (h : (m >>= f).run s = .ok (b, s')) :
    ∃ a σ, m.run s = .ok (a, σ) ∧ (f a).run σ = .ok (b, s') := by
  rw [StateT.run_bind] at h
  cases hms : m.run s with
  | error e =>
    rw [hms] at h
    cases h
  | ok p =>
    rw [hms] at h
    exact ⟨p.1, p.2, rfl, h⟩

/-- A step that, when it succeeds, ends in a state related to the one it started in. -/
theorem Triple.of_run {m : EvalM α} {Rel : Run → Run → Prop} {R : α → Prop} {Q' : Run → Prop}
    (h : ∀ s a s', m.run s = .ok (a, s') → Rel s s' ∧ R a)
    (hP : ∀ s s', Rel s s' → P s → Q' s') :
    Triple P m fun a s => Q' s ∧ R a := by
  intro s hs a s' hr
  obtain ⟨hrel, ha⟩ := h s a s' hr
  exact ⟨hP s s' hrel hs, ha⟩

end EvalM

/-! ## Steps that change only one node's state -/

namespace Run

/-- From `s` to `s'` only the state of node `n` (if any), the host properties and the events
changed: not the log of runs, the kept results or the state of any other node. -/
structure Steps (n : Option NodeId) (s s' : Run) : Prop where
  ran : s'.ran = s.ran
  memos : s'.memos = s.memos
  kinds : ∀ x, n ≠ some x → s'.kindOf x = s.kindOf x

theorem Steps.refl (n : Option NodeId) (s : Run) : Steps n s s := ⟨rfl, rfl, fun _ _ => rfl⟩

theorem kindOf_setKind_ne (s : Run) {id x : NodeId} (k : Kind) (h : x ≠ id) :
    (s.setKind id k).kindOf x = s.kindOf x := by
  simp only [kindOf, setKind, List.find?_map]
  have hp : ((fun n : Node => n.id == x) ∘ fun n : Node =>
      if n.id == id then { n with kind := k } else n) = fun n => n.id == x := by
    funext n
    simp only [Function.comp]
    split <;> rfl
  rw [hp]
  cases hf : s.nodes.find? (·.id == x) with
  | none => rfl
  | some n =>
    have hn : n.id = x := by simpa using List.find?_some hf
    simp [hn, h]

theorem steps_setKind (s : Run) (id : NodeId) (k : Kind) : Steps (some id) s (s.setKind id k) :=
  ⟨rfl, rfl, fun _ hx => kindOf_setKind_ne s k fun h => hx (h ▸ rfl)⟩

end Run

/-- The node whose state a plan keeps from tick to tick, if any. -/
def Plan.stateNode? : Plan → Option NodeId
  | .store node _ | .boolOp _ node | .spring node .. | .delta node _ | .dozer node .. => some node
  | .timer node _ => some node
  | _ => none

/-! ## Reading slots once -/

section Reads

variable (Φ : List Nat → Run → Prop)

/-- A state in which none of the slots `A` was read: `Φ used` holds for a list `used` of read
slots that `A` avoids. -/
def Free (A : List Nat) (s : Run) : Prop := ∃ used, Φ used s ∧ ∀ k ∈ A, k ∉ used

/-- `m`, run from a state in which none of the slots `A` was read, ends in a state in which none
of the slots `B` was read, with a result satisfying `R`. -/
def Uses {α : Type} (A : List Nat) (m : EvalM α) (B : List Nat) (R : α → Prop) : Prop :=
  EvalM.Triple (Free Φ A) m fun a s => Free Φ B s ∧ R a

/-- Readers of slots: reading a slot not read yet gives a value of the type asked for, and the
slot is read after; and the steps that change only node `n`, properties and events keep each
`Φ used`. -/
structure Reads.Once (r : Reads) (n : Option NodeId) : Prop where
  get : ∀ used k t, k ∉ used → t.HasValues →
    EvalM.Triple (Φ used) (r.get k t) fun v s => Φ (k :: used) s ∧ v.type = t
  tryGet : ∀ used k t, k ∉ used → t.HasValues →
    EvalM.Triple (Φ used) (r.tryGet k t) fun v s => Φ (k :: used) s ∧ ∀ w ∈ v, w.type = t
  steps : ∀ used s s', Run.Steps n s s' → Φ used s → Φ used s'

variable {Φ} {α β : Type} {A B C : List Nat} {R : α → Prop}

theorem Free.mono {s : Run} (h : Free Φ A s) (hB : B ⊆ A) : Free Φ B s := by
  obtain ⟨used, hu, hA⟩ := h
  exact ⟨used, hu, fun k hk => hA k (hB hk)⟩

namespace Uses

theorem pure {a : α} (h : R a) (hB : B ⊆ A) : Uses Φ A (pure a) B R :=
  EvalM.Triple.pure fun _ hs => ⟨hs.mono hB, h⟩

theorem bind {m : EvalM α} {f : α → EvalM β} {Q : β → Prop} (hm : Uses Φ A m B R)
    (hf : ∀ a, R a → Uses Φ B (f a) C Q) : Uses Φ A (m >>= f) C Q :=
  EvalM.Triple.bind hm fun a s ⟨hs, ha⟩ => hf a ha s hs

theorem weaken {m : EvalM α} (h : Uses Φ A m B R) (hC : C ⊆ B) : Uses Φ A m C R :=
  fun s hs a s' hr => ⟨(h s hs a s' hr).1.mono hC, (h s hs a s' hr).2⟩

/-- A step that changes only node `n`, properties and events reads nothing. -/
theorem steps {n : Option NodeId} {r : Reads} (hr : Reads.Once Φ r n) {m : EvalM α}
    (h : ∀ s a s', m.run s = .ok (a, s') → Run.Steps n s s' ∧ R a) : Uses Φ A m A R := by
  refine EvalM.Triple.of_run h fun s s' hst hs => ?_
  obtain ⟨used, hu, hA⟩ := hs
  exact ⟨used, hr.steps used s s' hst hu, hA⟩

theorem get {n : Option NodeId} {r : Reads} (hr : Reads.Once Φ r n) {k : Nat} {t : ValueType}
    (hk : k ∈ A) (ht : t.HasValues) :
    Uses Φ A (r.get k t) (A.filter (· != k)) fun v => v.type = t := by
  intro s ⟨used, hu, hA⟩ v s' hrun
  obtain ⟨hu', hv⟩ := hr.get used k t (hA k hk) ht s hu v s' hrun
  refine ⟨⟨k :: used, hu', fun k' hk' hmem => ?_⟩, hv⟩
  obtain ⟨hk'A, hne⟩ := List.mem_filter.mp hk'
  rcases List.mem_cons.mp hmem with rfl | hmem
  · simp at hne
  · exact hA k' hk'A hmem

theorem tryGet {n : Option NodeId} {r : Reads} (hr : Reads.Once Φ r n) {k : Nat} {t : ValueType}
    (hk : k ∈ A) (ht : t.HasValues) :
    Uses Φ A (r.tryGet k t) (A.filter (· != k)) fun v => ∀ w ∈ v, w.type = t := by
  intro s ⟨used, hu, hA⟩ v s' hrun
  obtain ⟨hu', hv⟩ := hr.tryGet used k t (hA k hk) ht s hu v s' hrun
  refine ⟨⟨k :: used, hu', fun k' hk' hmem => ?_⟩, hv⟩
  obtain ⟨hk'A, hne⟩ := List.mem_filter.mp hk'
  rcases List.mem_cons.mp hmem with rfl | hmem
  · simp at hne
  · exact hA k' hk'A hmem

/-- A run that starts with no slot read ends in a state of the family, with a result satisfying
`R`. -/
theorem run {m : EvalM α} (h : Uses Φ A m B R) {s s' : Run} {a : α} (hs : Φ [] s)
    (hr : m.run s = .ok (a, s')) : (∃ used, Φ used s') ∧ R a := by
  obtain ⟨⟨used, hu, -⟩, ha⟩ := h s ⟨[], hs, fun _ _ h => nomatch h⟩ a s' hr
  exact ⟨⟨used, hu⟩, ha⟩

variable {n : Option NodeId} {r : Reads}

/-- A step that leaves the state as it is reads nothing. -/
theorem unchanged (hr : Reads.Once Φ r n) {m : EvalM α}
    (h : ∀ s a s', m.run s = .ok (a, s') → s' = s) : Uses Φ A m A fun _ => True :=
  steps hr fun s a s' hrun => ⟨h s a s' hrun ▸ Run.Steps.refl n s, trivial⟩

theorem kindAt (hr : Reads.Once Φ r n) (id : NodeId) : Uses Φ A (kindAt id) A fun _ => True :=
  unchanged hr fun _ _ _ h => by cases h; rfl

theorem getState (hr : Reads.Once Φ r n) : Uses Φ A (MonadState.get : EvalM Run) A fun _ => True :=
  unchanged hr fun _ _ _ h => by cases h; rfl

theorem liftFault (hr : Reads.Once Φ r n) (x : Except Fault α) :
    Uses Φ A (liftFault x) A fun _ => True := by
  refine unchanged hr fun s a s' h => ?_
  cases x with
  | ok =>
    simp only [NodeGraph.liftFault] at h
    cases h
    rfl
  | error =>
    simp only [NodeGraph.liftFault] at h
    cases h

theorem putKind {node : NodeId} (hr : Reads.Once Φ r (some node)) (k : Kind) :
    Uses Φ A (putKind node k) A fun _ => True :=
  steps hr fun s _ s' h => by cases h; exact ⟨Run.steps_setKind s node k, trivial⟩

/-- Writing the host properties or the events reads nothing. -/
theorem modifyOutside (hr : Reads.Once Φ r n) (f : Run → Run)
    (hf : ∀ s, (f s).ran = s.ran ∧ (f s).memos = s.memos ∧ (f s).nodes = s.nodes) :
    Uses Φ A (modifyThe Run f) A fun _ => True :=
  steps hr fun s _ s' h => by
    cases h
    obtain ⟨h1, h2, h3⟩ := hf s
    exact ⟨⟨h1, h2, fun x _ => by simp only [Run.kindOf, h3]⟩, trivial⟩

theorem scalar (hr : Reads.Once Φ r n) {k : Nat} (hk : k ∈ A) (t : ValueType) :
    Uses Φ A (r.scalar k t) (A.filter (· != k)) fun _ => True := by
  unfold Reads.scalar
  split
  · exact bind (get hr hk (by decide)) fun _ _ => pure trivial (List.Subset.refl _)
  · exact bind (get hr hk (by decide)) fun _ _ => pure trivial (List.Subset.refl _)

theorem lanes (hr : Reads.Once Φ r n) {k : Nat} (hk : k ∈ A) (s : Shape) :
    Uses Φ A (r.lanes k s) (A.filter (· != k)) fun _ => True :=
  bind (get hr hk (Shape.hasValues_type s)) fun _ _ => pure trivial (List.Subset.refl _)

/-- A pure step reads nothing. -/
theorem pass {a : α} : Uses Φ A (Pure.pure a : EvalM α) A fun _ => True :=
  Uses.pure trivial (List.Subset.refl _)

/-- The last step of a run, after which no slot is counted as unread. -/
theorem done {R : α → Prop} {a : α} (h : R a) : Uses Φ A (Pure.pure a : EvalM α) [] R :=
  Uses.pure h (List.nil_subset _)

/-- The last step of a run that gives no result of interest. -/
theorem stop {a : α} : Uses Φ A (Pure.pure a : EvalM α) [] fun _ => True := done trivial

/-- A read of one slot converted to another form. -/
theorem getAs (hr : Reads.Once Φ r n) {k : Nat} {t : ValueType} (hk : k ∈ A) (ht : t.HasValues)
    (f : Value → β) :
    Uses Φ A (r.get k t >>= fun v => Pure.pure (f v)) (A.filter (· != k)) fun _ => True :=
  Uses.bind (Uses.get hr hk ht) fun _ _ => pass

/-- Reading one slot per element of a list, each slot once, in a fold. -/
theorem foldlM {γ : Type} {f : α → γ → EvalM α} (hr : Reads.Once Φ r n) (slot : γ → Nat)
    (hf : ∀ x a (A : List Nat), slot x ∈ A →
      Uses Φ A (f a x) (A.filter (· != slot x)) fun _ => True) :
    ∀ (L : List γ) (a : α) (A : List Nat), (L.map slot).Nodup → (∀ x ∈ L, slot x ∈ A) →
      Uses Φ A (L.foldlM f a) [] fun _ => True
  | [], _, _, _, _ => pure trivial (List.nil_subset _)
  | x :: L, a, A, hnd, hA => by
    rw [List.foldlM_cons]
    have hnd' := List.nodup_cons.mp hnd
    refine bind (hf x a A (hA x (List.mem_cons_self ..))) fun b _ => ?_
    refine foldlM hr slot hf L b _ hnd'.2 fun y hy =>
      List.mem_filter.mpr ⟨hA y (List.mem_cons_of_mem _ hy), ?_⟩
    have hne : slot y ≠ slot x := fun he => hnd'.1 (he ▸ List.mem_map_of_mem hy)
    simpa using hne

/-- Reading one slot per element of a list, each slot once, in a map. -/
theorem mapM {γ : Type} {f : γ → EvalM α} (hr : Reads.Once Φ r n) (slot : γ → Nat)
    (hf : ∀ x (A : List Nat), slot x ∈ A → Uses Φ A (f x) (A.filter (· != slot x)) fun _ => True) :
    ∀ (L : List γ) (A : List Nat), (L.map slot).Nodup → (∀ x ∈ L, slot x ∈ A) →
      Uses Φ A (L.mapM f) [] fun _ => True
  | [], _, _, _ => pure trivial (List.nil_subset _)
  | x :: L, A, hnd, hA => by
    rw [List.mapM_cons]
    have hnd' := List.nodup_cons.mp hnd
    refine bind (hf x A (hA x (List.mem_cons_self ..))) fun b _ => ?_
    refine bind (mapM hr slot hf L _ hnd'.2 fun y hy => List.mem_filter.mpr
      ⟨hA y (List.mem_cons_of_mem _ hy), ?_⟩) fun _ _ => pure trivial (List.nil_subset _)
    have hne : slot y ≠ slot x := fun he => hnd'.1 (he ▸ List.mem_map_of_mem hy)
    simpa using hne

end Uses

end Reads

/-! ## Plans -/

/-- The constant a value or default node holds. -/
def Kind.constant? : Kind → Option Constant
  | .value _ _ _ c | .fallback c => some c
  | _ => none

theorem Constant.type_toValue (c : Constant) : c.toValue.type = c.type := by cases c <;> rfl

/-- In state `s`, node `node` holds no constant of a type other than `t`. -/
def Run.ConstantFits (s : Run) (node : NodeId) (t : ValueType) : Prop :=
  ∀ c, (s.kindOf node).bind Kind.constant? = some c → c.type = t

/-- The conditions under which a plan's run gives a value of its type and reads each slot once:
the types it reads and produces as a whole have values, and a quaternion product reads its two
operands from two different slots. -/
def Plan.WellFormed : Plan → Prop
  | .constant _ t | .store _ t | .branch t | .propertyRead _ t | .propertyWrite _ t => t.HasValues
  | .multiply q v t => q ≠ v ∧ (t = .vector2 ∨ t = .vector3 ∨ t = .vector4)
  | .swizzle source _ => source.HasValues
  | _ => True

theorem Constant.hasValues_type (c : Constant) : c.type.HasValues := by cases c <;> rfl

theorem hasValues_of_propertyType? {t t' : ValueType} (h : propertyType? t = some t') :
    t'.HasValues := by
  cases t <;> simp [propertyType?] at h <;> subst h <;> rfl

/-- A plan fit to be compiled for node `node` of kind `k`: it is well formed, keeps no state but
that node's, and reads a constant only as that node's own, at the constant's type. -/
structure Kind.OwnPlan (k : Kind) (node : NodeId) (p : Plan) : Prop where
  wellFormed : p.WellFormed
  stateNode : ∀ x, p.stateNode? = some x → x = node
  constant : ∀ n t, p = .constant n t → n = node ∧ ∃ c, k.constant? = some c ∧ c.type = t

namespace Kind.OwnPlan

variable {k : Kind} {node : NodeId} {p : Plan}

/-- A well-formed plan that keeps no state and reads no constant. -/
theorem free (hwf : p.WellFormed) (hs : p.stateNode? = none) (hc : ∀ n t, p ≠ .constant n t) :
    k.OwnPlan node p :=
  ⟨hwf, fun _ hx => (by rw [hs] at hx; cases hx), fun n t hp => absurd hp (hc n t)⟩

/-- A well-formed plan that keeps the state of its own node. -/
theorem keeping (hwf : p.WellFormed) (hs : p.stateNode? = some node)
    (hc : ∀ n t, p ≠ .constant n t) : k.OwnPlan node p :=
  ⟨hwf, fun _ hx => (by rw [hs] at hx; exact (Option.some.inj hx).symm),
    fun n t hp => absurd hp (hc n t)⟩

/-- The plan that reads the constant its node holds, at that constant's type. -/
theorem holding {c : Constant} (hk : k.constant? = some c) :
    k.OwnPlan node (.constant node c.type) :=
  ⟨Constant.hasValues_type c, (fun _ h => by cases h),
    fun _ _ hp => by cases hp; exact ⟨rfl, c, hk, rfl⟩⟩

theorem of_map {o : Option Shape} {f : Shape → Plan} (h : o.map f = some p)
    (hf : ∀ s, k.OwnPlan node (f s)) : k.OwnPlan node p := by
  obtain ⟨s, -, rfl⟩ := Option.map_eq_some_iff.mp h
  exact hf s

end Kind.OwnPlan

theorem Kind.multiplyPlan_own {k : Kind} {node : NodeId} {a b : ValueType} {p : Plan}
    (h : multiplyPlan a b = some p) : k.OwnPlan node p := by
  unfold multiplyPlan at h
  -- the quaternion and the vector come from two different slots
  by_cases ha : a = .vector4 <;> simp only [ha, if_true, if_false] at h <;> split at h <;>
    cases h <;> exact .free (by simp [Plan.WellFormed]) rfl (by simp)

theorem Kind.mathBinary_own {k : Kind} {node : NodeId} {op : MathOp} {out a b : ValueType}
    {p : Plan} (h : mathBinary op out a b = some p) : k.OwnPlan node p := by
  unfold mathBinary at h
  split at h
  · cases h
    exact .free trivial rfl (by simp)
  · cases h
    exact .free trivial rfl (by simp)
  · -- a lane operation, with the scalar on either side
    refine OwnPlan.of_map h fun _ => ?_
    split
    · exact .free trivial rfl (by simp)
    · split <;> exact .free trivial rfl (by simp)

/-- Every plan a kind compiles a node to is one of that node's own. -/
theorem Kind.plan_own {k : Kind} {node : NodeId} {out : ValueType} {ins : List ValueType}
    {hp : Bool} {p : Plan} (h : k.plan node out ins hp = some p) : k.OwnPlan node p := by
  cases k with
  | value _ _ io c =>
    obtain rfl := Option.some.inj h
    -- an output value stores what it is sent; any other reads its own constant
    split
    · exact .keeping (Constant.hasValues_type c) rfl (by simp)
    · exact .holding rfl
  | fallback c =>
    obtain rfl := Option.some.inj h
    exact .holding rfl
  -- the kinds that keep state from tick to tick keep it in their own node
  | boolOperator | timer =>
    obtain rfl := Option.some.inj h
    exact .keeping trivial rfl (by simp)
  | spring | delta | dozer => exact .of_map h fun _ => .keeping trivial rfl (by simp)
  | curve | ramp | vecConstructor | colorHsv | condition | random | perlin =>
    obtain rfl := Option.some.inj h
    exact .free trivial rfl (by simp)
  | convert => exact .of_map h fun _ => .free trivial rfl (by simp)
  | quaternion op =>
    simp only [Kind.plan] at h
    split at h
    · exact Kind.multiplyPlan_own h
    · obtain rfl := Option.some.inj h
      exact .free trivial rfl (by simp)
  | swizzle components =>
    simp only [Kind.plan] at h
    split at h
    · obtain rfl := Option.some.inj h
      rename_i hsrc
      -- the source is an integer or has lanes, so it has values
      refine .free ?_ rfl (by simp)
      rcases hsrc with hint | hlanes
      · rw [Plan.WellFormed, hint]; rfl
      · obtain ⟨s, hs⟩ := Option.isSome_iff_exists.mp hlanes
        rw [Plan.WellFormed, ← Shape.type_of_ofType? hs]
        exact Shape.hasValues_type s
    · cases h
  | branch =>
    simp only [Kind.plan] at h
    split at h
    · obtain rfl := Option.some.inj h
      rename_i hout
      refine .free ?_ rfl (by simp)
      rcases hout with hint | hlanes
      · rw [Plan.WellFormed, hint]; rfl
      · obtain ⟨s, hs⟩ := Option.isSome_iff_exists.mp hlanes
        rw [Plan.WellFormed, ← Shape.type_of_ofType? hs]
        exact Shape.hasValues_type s
    · cases h
  | propertyInput address =>
    simp only [Kind.plan] at h
    split at h
    · obtain ⟨t, ht, rfl⟩ := Option.map_eq_some_iff.mp h
      exact .free (hasValues_of_propertyType? ht) rfl (by simp)
    · cases h
  | propertyOutput address =>
    simp only [Kind.plan] at h
    split at h
    · obtain ⟨t, ht, rfl⟩ := Option.map_eq_some_iff.mp h
      exact .free (hasValues_of_propertyType? ht) rfl (by simp)
    · cases h
  | math op =>
    simp only [Kind.plan] at h
    split at h
    · exact Kind.mathBinary_own h
    · split at h
      · obtain rfl := Option.some.inj h
        exact .free trivial rfl (by simp)
      · exact .of_map h fun _ => .free trivial rfl (by simp)
  | lerp =>
    simp only [Kind.plan] at h
    split at h
    · obtain rfl := Option.some.inj h
      exact .free trivial rfl (by simp)
    · exact .of_map h fun _ => .free trivial rfl (by simp)
  | vectorMath op =>
    simp only [Kind.plan] at h
    split at h
    · obtain rfl := Option.some.inj h
      exact .free trivial rfl (by simp)
    · obtain rfl := Option.some.inj h
      exact .free trivial rfl (by simp)
    · exact .of_map h fun _ => .free trivial rfl (by simp)
  | vecModify =>
    simp only [Kind.plan] at h
    split at h
    · cases h
    · exact .of_map h fun _ => .free trivial rfl (by simp)

/-- A well-formed plan that produces something produces a type with values. -/
theorem Plan.hasValues_output {p : Plan} (hwf : p.WellFormed) (h : p.output ≠ .none) :
    p.output.HasValues := by
  cases p with
  -- a type the plan carries, which well-formedness asks to have values
  | constant | branch | propertyRead => exact hwf
  | multiply q v t =>
    simp only [Plan.output]
    rcases hwf.2 with rfl | rfl | rfl <;> decide
  -- the type of a lane shape
  | mathUnary | mathLanes | convert | lerpLanes | modify | construct | spring | delta | dozer
    | swizzle => exact Shape.hasValues_type _
  | vector op s =>
    -- a measure is a float and a cross product a Vector3; the rest keep the operands' type
    cases op with
    | dot | length | distance | cross | projectOnPlane =>
      simp only [Plan.output]
      decide
    | normalize | project | reflect => exact Shape.hasValues_type _
  | hsv op | quaternion op =>
    simp only [Plan.output]
    split <;> decide
  | random op => cases op <;> decide
  -- the plans that produce nothing
  | store | propertyWrite => exact absurd rfl h
  | curve | ramp | mathInt | mathFloat | lerpInt | condition | boolOp | timer | perlin =>
    simp only [Plan.output]
    decide

section Compute

variable {Φ : List Nat → Run → Prop} {r : Reads} {n : Option NodeId}

/-- Looking up a node's kind reads nothing, and gives the kind it has in the current state. -/
theorem Uses.kindAt_of {A : List Nat} {id : NodeId} {P : Option Kind → Prop}
    (hP : ∀ used s, Φ used s → P (s.kindOf id)) : Uses Φ A (NodeGraph.kindAt id) A P := by
  intro s ⟨used, hu, hA⟩ k s' h
  cases h
  exact ⟨⟨used, hu, hA⟩, hP used s hu⟩

namespace Plan

theorem uses_constantValue {A : List Nat} {node : NodeId}
    {t : ValueType} (ht : t.HasValues) (hfits : ∀ used s, Φ used s → s.ConstantFits node t) :
    Uses Φ A (constantValue node t) [] fun v => v.type = t := by
  unfold constantValue
  refine Uses.bind (Uses.kindAt_of (P := fun k => ∀ c, k.bind Kind.constant? = some c → c.type = t)
    hfits) fun k hk => ?_
  split
  all_goals refine Uses.pure ?_ (List.nil_subset _)
  · exact (Constant.type_toValue _).trans (hk _ (by simp_all [Kind.constant?]))
  · exact (Constant.type_toValue _).trans (hk _ (by simp_all [Kind.constant?]))
  · exact type_zeroValue ht

theorem typed_some {v : Value} {t : ValueType} (h : v.type = t) : ∀ w ∈ some v, w.type = t := by
  intro w hw
  cases hw
  exact h

theorem typed_none (t : ValueType) : ∀ w ∈ (none : Option Value), w.type = t :=
  fun _ hw => absurd hw (Option.not_mem_none _)

theorem uses_mathLanesValue {op : MathOp} {s : Shape} {operands : Operands}
    (hr : Reads.Once Φ r n) :
    Uses Φ ((Plan.mathLanes op s operands).reads.map Prod.fst) (mathLanesValue op s operands r) []
      fun v => v.type = s.type := by
  unfold mathLanesValue
  cases operands with
  | both =>
    exact Uses.bind (Uses.lanes hr (by simp [Plan.reads]) s) fun _ _ =>
      Uses.bind (Uses.lanes hr (by simp [Plan.reads]) s) fun _ _ =>
        Uses.bind (Uses.liftFault hr _) fun _ _ => Uses.done (Shape.type_ofLanes s _)
  | scalarRight b =>
    exact Uses.bind (Uses.scalar hr (by simp [Plan.reads]) b) fun _ _ =>
      Uses.bind (Uses.lanes hr (by simp [Plan.reads]) s) fun _ _ =>
        Uses.bind (Uses.liftFault hr _) fun _ _ => Uses.done (Shape.type_ofLanes s _)
  | scalarLeft a =>
    exact Uses.bind (Uses.scalar hr (by simp [Plan.reads]) a) fun _ _ =>
      Uses.bind (Uses.lanes hr (by simp [Plan.reads]) s) fun _ _ =>
        Uses.bind (Uses.liftFault hr _) fun _ _ => Uses.done (Shape.type_ofLanes s _)

theorem uses_vectorValue {op : VectorOp} {s : Shape} (hr : Reads.Once Φ r n) :
    Uses Φ ((Plan.vector op s).reads.map Prod.fst) (vectorValue op s r) []
      fun v => v.type = (Plan.vector op s).output := by
  unfold vectorValue
  cases op with
  | dot | distance =>
    exact Uses.bind (Uses.lanes hr (by simp [Plan.reads]) s) fun _ _ =>
      Uses.bind (Uses.lanes hr (by simp [Plan.reads]) s) fun _ _ => Uses.done rfl
  | project | reflect =>
    exact Uses.bind (Uses.lanes hr (by simp [Plan.reads]) s) fun _ _ =>
      Uses.bind (Uses.lanes hr (by simp [Plan.reads]) s) fun _ _ =>
        Uses.done (Shape.type_ofLanes s _)
  | normalize =>
    exact Uses.bind (Uses.lanes hr (by simp [Plan.reads]) s) fun _ _ =>
      Uses.done (Shape.type_ofLanes s _)
  | length => exact Uses.bind (Uses.lanes hr (by simp [Plan.reads]) s) fun _ _ => Uses.done rfl
  | cross =>
    exact Uses.bind (Uses.get hr (by simp [Plan.reads]) (by decide)) fun _ _ =>
      Uses.bind (Uses.get hr (by simp [Plan.reads]) (by decide)) fun _ _ => Uses.done rfl
  | projectOnPlane =>
    exact Uses.bind (Uses.lanes hr (by simp [Plan.reads]) .vector3) fun _ _ =>
      Uses.bind (Uses.lanes hr (by simp [Plan.reads]) .vector3) fun _ _ => Uses.done rfl

theorem uses_quaternionValue {op : QuaternionOp} (hr : Reads.Once Φ r n) :
    Uses Φ ((Plan.quaternion op).reads.map Prod.fst) (quaternionValue op r) []
      fun v => v.type = (Plan.quaternion op).output := by
  unfold quaternionValue
  -- each operand is one read, as a rotation, a direction or a float
  cases op with
  | fromEuler | toEuler | inverse =>
    exact Uses.bind (Uses.getAs hr (by simp [Plan.reads]) (by decide) _) fun _ _ => Uses.done rfl
  | fromToRotation | axisAngle | multiply =>
    exact Uses.bind (Uses.getAs hr (by simp [Plan.reads]) (by decide) _) fun _ _ =>
      Uses.bind (Uses.getAs hr (by simp [Plan.reads]) (by decide) _) fun _ _ => Uses.done rfl
  | lerpUnclamped | slerpUnclamped =>
    exact Uses.bind (Uses.getAs hr (by simp [Plan.reads]) (by decide) _) fun _ _ =>
      Uses.bind (Uses.getAs hr (by simp [Plan.reads]) (by decide) _) fun _ _ =>
        Uses.bind (Uses.getAs hr (by simp [Plan.reads]) (by decide) _) fun _ _ => Uses.done rfl
  | lookRotation =>
    -- the up direction is optional
    exact Uses.bind (Uses.tryGet hr (by simp [Plan.reads]) (by decide)) fun _ _ =>
      Uses.bind (Uses.getAs hr (by simp [Plan.reads]) (by decide) _) fun _ _ => Uses.done rfl

theorem uses_multiplyValue {q v : Nat} {t : ValueType} (hr : Reads.Once Φ r n)
    (hwf : (Plan.multiply q v t).WellFormed) :
    Uses Φ ((Plan.multiply q v t).reads.map Prod.fst) (multiplyValue q v t r) []
      fun x => x.type = t := by
  obtain ⟨hqv, ht⟩ := hwf
  unfold multiplyValue
  -- the rotation and the vector it turns are read from two different slots
  rcases ht with rfl | rfl | rfl
  · exact Uses.bind (Uses.get hr (by simp [Plan.reads]) (by decide)) fun _ _ =>
      Uses.bind (Uses.get hr (by simp [Plan.reads, hqv.symm]) (by decide)) fun _ _ => Uses.done rfl
  · exact Uses.bind (Uses.get hr (by simp [Plan.reads]) (by decide)) fun _ _ =>
      Uses.bind (Uses.get hr (by simp [Plan.reads, hqv.symm]) (by decide)) fun _ _ => Uses.done rfl
  · exact Uses.bind (Uses.get hr (by simp [Plan.reads]) (by decide)) fun _ _ =>
      Uses.bind (Uses.get hr (by simp [Plan.reads]) (by decide)) fun _ _ => Uses.done rfl

theorem uses_boolValue {op : BoolOp} {node : NodeId} (hr : Reads.Once Φ r (some node)) :
    Uses Φ ((Plan.boolOp op node).reads.map Prod.fst) (boolValue op node r) [] fun _ => True := by
  unfold boolValue
  dsimp only
  cases op with
  | invertA =>
    exact Uses.bind (Uses.getAs hr (by simp [Plan.reads]) (by decide) _) fun _ _ => Uses.stop
  | triggerA =>
    -- a trigger keeps the input it saw last in its node
    refine Uses.bind (Uses.getAs hr (by simp [Plan.reads]) (by decide) _) fun _ _ =>
      Uses.bind (Uses.kindAt hr node) fun _ _ => ?_
    split
    · exact Uses.bind (Uses.putKind hr _) fun _ _ => Uses.stop
    · exact Uses.stop
  | equal | xor =>
    exact Uses.bind (Uses.getAs hr (by simp [Plan.reads]) (by decide) _) fun _ _ =>
      Uses.bind (Uses.getAs hr (by simp [Plan.reads, BoolOp.usesB]) (by decide) _) fun _ _ =>
        Uses.stop
  | or =>
    -- the second input is read only when the first does not decide
    refine Uses.bind (Uses.getAs hr (by simp [Plan.reads]) (by decide) _) fun _ _ => ?_
    split
    · exact Uses.stop
    · exact Uses.weaken (Uses.getAs hr (by simp [Plan.reads, BoolOp.usesB]) (by decide) _)
        (List.nil_subset _)
  | and =>
    refine Uses.bind (Uses.getAs hr (by simp [Plan.reads]) (by decide) _) fun _ _ => ?_
    split
    · exact Uses.weaken (Uses.getAs hr (by simp [Plan.reads, BoolOp.usesB]) (by decide) _)
        (List.nil_subset _)
    · exact Uses.stop

/-- A plan's run reads each slot it lists at most once and no other, and gives a value of the
type it produces, or nothing for a plan that produces nothing. -/
theorem compute_uses (p : Plan) (hp : p.WellFormed) (hr : Reads.Once Φ r p.stateNode?)
    (hfits : ∀ node t, p = .constant node t → ∀ used s, Φ used s → s.ConstantFits node t)
    (dt : Float32) :
    Uses Φ (p.reads.map Prod.fst) (p.compute dt r) [] fun v => ∀ w ∈ v, w.type = p.output := by
  -- each case reads the plan's slots in the order its run does; the state steps in between touch
  -- only the plan's own node
  cases p with
  | constant node t =>
    exact Uses.bind (uses_constantValue hp (hfits node t rfl)) fun _ hv => Uses.done (typed_some hv)
  | store node t =>
    refine Uses.bind (Uses.get hr (by simp [Plan.reads]) hp) fun _ _ =>
      Uses.bind (Uses.kindAt hr node) fun _ _ => ?_
    split
    · exact Uses.bind (Uses.putKind hr _) fun _ _ => Uses.done (typed_none _)
    · exact Uses.done (typed_none _)
  | curve node =>
    refine Uses.bind (Uses.get hr (by simp [Plan.reads]) (by decide)) fun _ _ =>
      Uses.bind (Uses.kindAt hr node) fun _ _ => ?_
    split
    · exact Uses.bind (Uses.liftFault hr _) fun _ _ => Uses.done (typed_some rfl)
    · exact Uses.done (typed_some rfl)
  | ramp node =>
    refine Uses.bind (Uses.get hr (by simp [Plan.reads]) (by decide)) fun _ _ =>
      Uses.bind (Uses.kindAt hr node) fun _ _ => ?_
    split
    · exact Uses.bind (Uses.liftFault hr _) fun _ _ => Uses.done (typed_some rfl)
    · exact Uses.done (typed_some rfl)
  | mathInt op binary =>
    refine Uses.bind (Uses.get hr (by simp [Plan.reads]) (by decide)) fun _ _ => ?_
    dsimp only
    -- the second operand is read only by a two-operand operation
    split
    · next hb =>
      exact Uses.bind (Uses.get hr (by simp [Plan.reads, hb]) (by decide)) fun _ _ =>
        Uses.bind Uses.pass fun _ _ => Uses.bind (Uses.liftFault hr _) fun _ _ =>
          Uses.done (typed_some rfl)
    · exact Uses.bind Uses.pass fun _ _ => Uses.bind (Uses.liftFault hr _) fun _ _ =>
        Uses.done (typed_some rfl)
  | mathFloat op a b =>
    exact Uses.bind (Uses.scalar hr (by simp [Plan.reads]) a) fun _ _ =>
      Uses.bind (Uses.scalar hr (by simp [Plan.reads]) b) fun _ _ =>
        Uses.bind (Uses.liftFault hr _) fun _ _ => Uses.done (typed_some rfl)
  | mathUnary op s =>
    exact Uses.bind (Uses.lanes hr (by simp [Plan.reads]) s) fun _ _ =>
      Uses.bind (Uses.liftFault hr _) fun _ _ => Uses.done (typed_some (Shape.type_ofLanes s _))
  | mathLanes op s operands =>
    exact Uses.bind (uses_mathLanesValue hr) fun _ hv => Uses.done (typed_some hv)
  | convert factor s =>
    exact Uses.bind (Uses.lanes hr (by simp [Plan.reads]) s) fun _ _ =>
      Uses.done (typed_some (Shape.type_ofLanes s _))
  | lerpInt =>
    exact Uses.bind (Uses.get hr (by simp [Plan.reads]) (by decide)) fun _ _ =>
      Uses.bind (Uses.get hr (by simp [Plan.reads]) (by decide)) fun _ _ =>
        Uses.bind (Uses.get hr (by simp [Plan.reads]) (by decide)) fun _ _ =>
          Uses.done (typed_some rfl)
  | lerpLanes s =>
    exact Uses.bind (Uses.get hr (by simp [Plan.reads]) (by decide)) fun _ _ =>
      Uses.bind (Uses.lanes hr (by simp [Plan.reads]) s) fun _ _ =>
        Uses.bind (Uses.lanes hr (by simp [Plan.reads]) s) fun _ _ =>
          Uses.done (typed_some (Shape.type_ofLanes s _))
  | condition op invert =>
    exact Uses.bind (Uses.get hr (by simp [Plan.reads]) (by decide)) fun _ _ =>
      Uses.bind (Uses.get hr (by simp [Plan.reads]) (by decide)) fun _ _ =>
        Uses.done (typed_some rfl)
  | branch t =>
    -- the flag picks which of the two other inputs is read
    refine Uses.bind (Uses.get hr (by simp [Plan.reads]) (by decide)) fun _ _ => ?_
    split
    · exact Uses.bind (Uses.get hr (by simp [Plan.reads]) hp) fun _ hv => Uses.done (typed_some hv)
    · exact Uses.bind (Uses.get hr (by simp [Plan.reads]) hp) fun _ hv => Uses.done (typed_some hv)
  | boolOp op node =>
    exact Uses.bind (uses_boolValue hr) fun _ _ => Uses.done (typed_some rfl)
  | modify s =>
    -- the base vector, then one optional float per lane
    simp only [Plan.compute, Plan.reads, Plan.output, List.map_cons, List.map_map]
    refine Uses.bind (Uses.tryGet hr (List.mem_cons_self ..) (Shape.hasValues_type s)) fun _ _ => ?_
    refine Uses.bind (Uses.foldlM hr (· + 1) (fun c acc A hc => ?_) (List.range s.count) _ _ ?_ ?_)
      fun _ _ => Uses.pure (by simp) (List.nil_subset _)
    · refine Uses.bind (Uses.tryGet hr hc (by decide)) fun _ _ => ?_
      split <;> exact Uses.pass
    · exact List.Pairwise.map (· + 1) (fun _ _ hne he => hne (Nat.succ.inj he)) List.nodup_range
    · intro c hc
      simpa using hc
  | construct s =>
    -- one float per lane
    simp only [Plan.compute, Plan.reads, Plan.output, List.map_map]
    refine Uses.bind (Uses.mapM hr id (fun c A hc => ?_) (List.range s.count) _ ?_ ?_)
      fun _ _ => Uses.pure (by simp) (List.nil_subset _)
    · exact Uses.getAs hr hc (by decide) _
    · simpa using List.nodup_range
    · intro c hc
      simpa using hc
  | hsv op =>
    cases op with
    | rgbToHsv =>
      refine Uses.bind (Uses.get hr (by simp [Plan.reads]) (by decide)) fun _ _ => ?_
      split <;> exact Uses.done (typed_some rfl)
    | hsvToRgb =>
      exact Uses.bind (Uses.get hr (by simp [Plan.reads]) (by decide)) fun _ _ =>
        Uses.done (typed_some rfl)
    | hsvValuesToRgb =>
      exact Uses.bind (Uses.get hr (by simp [Plan.reads]) (by decide)) fun _ _ =>
        Uses.bind (Uses.get hr (by simp [Plan.reads]) (by decide)) fun _ _ =>
          Uses.bind (Uses.get hr (by simp [Plan.reads]) (by decide)) fun _ _ =>
            Uses.done (typed_some rfl)
  | vector op s => exact Uses.bind (uses_vectorValue hr) fun _ hv => Uses.done (typed_some hv)
  | multiply q v t =>
    exact Uses.bind (uses_multiplyValue hr hp) fun _ hv => Uses.done (typed_some hv)
  | quaternion op => exact Uses.bind (uses_quaternionValue hr) fun _ hv => Uses.done (typed_some hv)
  | swizzle source s =>
    -- an integer source is read as an integer and spread over the lanes
    dsimp only [Plan.compute]
    split
    · next hint =>
      exact Uses.bind (Uses.get hr (by simp [Plan.reads, hint]) (by decide)) fun _ _ =>
        Uses.bind Uses.pass fun _ _ => Uses.done (typed_some (Shape.type_ofLanes _ _))
    · exact Uses.bind (Uses.get hr (by simp [Plan.reads]) hp) fun _ _ =>
        Uses.bind Uses.pass fun _ _ => Uses.done (typed_some (Shape.type_ofLanes _ _))
  | spring node s hardness factor =>
    refine Uses.bind (Uses.lanes hr (by simp [Plan.reads]) s) fun _ _ =>
      Uses.bind (Uses.kindAt hr node) fun _ _ => ?_
    split
    · exact Uses.bind (Uses.putKind hr _) fun _ _ => Uses.done (typed_some (Shape.type_ofLanes s _))
    · exact Uses.done (typed_some (type_zeroValue (Shape.hasValues_type s)))
  | delta node s =>
    refine Uses.bind (Uses.lanes hr (by simp [Plan.reads]) s) fun _ _ =>
      Uses.bind (Uses.kindAt hr node) fun _ _ => ?_
    split
    · exact Uses.bind (Uses.putKind hr _) fun _ _ => Uses.done (typed_some (Shape.type_ofLanes s _))
    · exact Uses.done (typed_some (type_zeroValue (Shape.hasValues_type s)))
  | dozer node s freeze =>
    refine Uses.bind (Uses.get hr (by simp [Plan.reads]) (by decide)) fun _ _ => ?_
    lift_lets
    intro update jp
    -- either way the node's held value is read and written back
    have hjp : ∀ fresh A, Uses Φ A (jp fresh) [] fun v => ∀ w ∈ v, w.type = s.type := by
      intro fresh A
      simp only [jp]
      refine Uses.bind (Uses.kindAt hr node) fun _ _ => ?_
      split
      · exact Uses.bind (Uses.putKind hr _) fun _ _ =>
          Uses.done (typed_some (Shape.type_ofLanes s _))
      · exact Uses.done (typed_some (type_zeroValue (Shape.hasValues_type s)))
    clear_value jp
    -- a fresh value is read only when the update input is set
    split
    · exact Uses.bind (Uses.lanes hr (by simp [Plan.reads]) s) fun _ _ =>
        Uses.bind Uses.pass fun _ _ => hjp _ _
    · exact Uses.bind Uses.pass fun _ _ => hjp _ _
  | timer node settings =>
    refine Uses.bind (Uses.kindAt hr node) fun _ _ => ?_
    split
    · refine Uses.bind (Uses.putKind hr _) fun _ _ =>
        Uses.bind (Uses.get hr (by simp [Plan.reads]) (by decide)) fun _ _ => ?_
      dsimp only
      -- the reset input sets the time back to zero before it is shown
      split
      · exact Uses.bind (Uses.putKind hr _) fun _ _ => Uses.bind Uses.pass fun _ _ =>
          Uses.bind (Uses.liftFault hr _) fun _ _ => Uses.done (typed_some rfl)
      · exact Uses.bind Uses.pass fun _ _ => Uses.bind (Uses.liftFault hr _) fun _ _ =>
          Uses.done (typed_some rfl)
    · exact Uses.done (typed_some rfl)
  | random op => exact Uses.done (typed_some (RandomOp.type_sample op))
  | perlin =>
    exact Uses.bind (Uses.get hr (by simp [Plan.reads]) (by decide)) fun _ _ =>
      Uses.bind (Uses.get hr (by simp [Plan.reads]) (by decide)) fun _ _ =>
        Uses.bind (Uses.get hr (by simp [Plan.reads]) (by decide)) fun _ _ =>
          Uses.bind (Uses.get hr (by simp [Plan.reads]) (by decide)) fun _ _ =>
            Uses.bind (Uses.get hr (by simp [Plan.reads]) (by decide)) fun _ _ =>
              Uses.done (typed_some rfl)
  | propertyRead address t =>
    -- a stored value of another type reads as the zero of the tap's type
    refine Uses.bind (Uses.getState hr) fun _ _ => ?_
    split
    · refine Uses.done (typed_some ?_)
      split
      · assumption
      · exact type_zeroValue hp
    · exact Uses.done (typed_some (type_zeroValue hp))
  | propertyWrite address t =>
    refine Uses.bind (Uses.get hr (by simp [Plan.reads]) hp) fun _ _ =>
      Uses.bind (Uses.getState hr) fun _ _ => ?_
    dsimp only
    split
    · split
      all_goals exact Uses.bind (Uses.modifyOutside hr _ fun _ => ⟨rfl, rfl, rfl⟩) fun _ _ =>
        Uses.done (typed_none _)
    · exact Uses.done (typed_none _)

end Plan

end Compute

end NodeGraph
