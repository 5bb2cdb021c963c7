import NodeGraph.Proofs.WellTyped

/-!
# Plans read what their inputs produce

A node whose type is what its kind resolves from its inputs' types, and is not `error`, compiles to
a plan that fits it: the plan produces the node's type, and every read asks an input for the type
it has or reads an input of type `none`, which "exact type or nothing" lets through
(`Kind.plan_fits`, by cases on the kind). When the input types are concrete the plan exists
(`Kind.plan_isSome`), so a node that passed the type pass never drops out of compilation, and its
plan produces nothing exactly when its type is `none` (`Kind.typeChecked_compiles`).
-/

namespace NodeGraph

/-- A read of slot `k` as type `t` fits input types `ins`: the input there has type `t`, or has
type `none`. -/
def ReadFits (ins : List ValueType) (kt : Nat × ValueType) : Prop :=
  typeAt ins kt.1 = kt.2 ∨ typeAt ins kt.1 = .none

/-- A plan fits a node of output type `out` whose inputs have types `ins`. -/
structure Plan.Fits (p : Plan) (out : ValueType) (ins : List ValueType) : Prop where
  output_eq : p.output = out
  reads_fit : ∀ kt ∈ p.reads, ReadFits ins kt

/-! ## The typing rules, read backwards -/

theorem Shape.type_of_ofType? {t : ValueType} {s : Shape} (h : Shape.ofType? t = some s) :
    s.type = t := by
  cases t <;> simp [Shape.ofType?] at h <;> subst h <;> rfl

/-- A vector shape has one lane per component name. -/
theorem Shape.count_eq_length_componentNames {t : ValueType} {s : Shape}
    (h : Shape.ofType? t = some s) (hne : t ≠ .float) : s.count = (componentNames t).length := by
  cases t <;> simp [Shape.ofType?] at h <;> first | exact absurd rfl hne | (subst h; rfl)

@[simp] theorem Typing.exactOrNone_iff {a t : ValueType} :
    Typing.exactOrNone a t = true ↔ a = t ∨ a = .none := by
  simp [Typing.exactOrNone]

/-- A rule that gives `t` when a check passes and `error` otherwise. -/
theorem eq_of_ite_error {c : Prop} [Decidable c] {t out : ValueType}
    (h : (if c then t else .error) = out) (herr : out ≠ .error) : c ∧ t = out := by
  split at h
  · exact ⟨‹c›, h⟩
  · exact absurd h.symm herr

theorem Typing.eq_of_same_pair {a b out : ValueType} (h : Typing.same [a, b] = out)
    (herr : out ≠ .error) : a = out ∧ b = out := by
  simp only [Typing.same, List.all_cons, List.all_nil, Bool.and_true, beq_iff_eq] at h
  split at h
  · rename_i hb
    exact ⟨h, hb ▸ h⟩
  · exact absurd h.symm herr

theorem Typing.eq_of_valueOnly {a out : ValueType} (h : Typing.valueOnly a = out)
    (herr : out ≠ .error) : a = out :=
  (eq_of_ite_error h herr).2

theorem Typing.eq_of_vectorOnly {a out : ValueType} (h : Typing.vectorOnly a = out)
    (herr : out ≠ .error) : a = out :=
  (eq_of_ite_error h herr).2

theorem eq_of_floatOrVector {a out : ValueType} (h : floatOrVector a = out) (herr : out ≠ .error) :
    a = out := by
  cases a <;> simp_all [floatOrVector]

/-- The type rule of a two-operand math node: two integers, two scalars, or a vector with a vector
of its type or with a scalar. -/
theorem mathType_cases {a b out : ValueType}
    (h : (match Typing.floatOrInt a b with | .error => Typing.vectorFloatOrInt a b | r => r) = out)
    (herr : out ≠ .error) :
    (out = .int ∧ a = .int ∧ b = .int) ∨ (out = .float ∧ a.isFloatOrInt ∧ b.isFloatOrInt) ∨
    (out.isVector ∧ ((a = out ∧ b = out) ∨ (a = out ∧ b.isFloatOrInt) ∨
      (b = out ∧ a.isFloatOrInt))) := by
  subst h
  cases a <;> cases b <;>
    simp_all [Typing.floatOrInt, Typing.vectorFloatOrInt, ValueType.isFloatOrInt,
      ValueType.isVector]

theorem scalarRead_of_isFloatOrInt {a : ValueType} (h : a.isFloatOrInt = true) :
    scalarRead a = a := by
  cases a <;> simp_all [ValueType.isFloatOrInt, scalarRead]

theorem ne_of_isVector_of_isFloatOrInt {a b : ValueType} (ha : a.isVector = true)
    (hb : b.isFloatOrInt = true) : b ≠ a := by
  rintro rfl
  cases b <;> simp_all [ValueType.isVector, ValueType.isFloatOrInt]

/-! ## Reads that fit -/

section Reads

variable {ins : List ValueType}

/-- A read of any slot as `t` fits inputs that all have type `t` or `none`. -/
theorem readFits_of_all {t : ValueType} (h : ins.all (Typing.exactOrNone · t) = true) (k : Nat) :
    ReadFits ins (k, t) := by
  simp only [ReadFits, typeAt, List.getD_eq_getElem?_getD]
  cases hk : ins[k]? with
  | none => exact .inr rfl
  | some a => simpa using List.all_eq_true.mp h a (List.mem_of_getElem? hk)

/-- A read of any slot as `t` fits inputs whose common type is `t`. -/
theorem readFits_of_same {t : ValueType} (h : Typing.same ins = t) (hne : t ≠ .none)
    (herr : t ≠ .error) (k : Nat) : ReadFits ins (k, t) := by
  cases ins with
  | nil => exact absurd h.symm hne
  | cons a rest =>
    simp only [Typing.same] at h
    split at h
    · rename_i hall
      subst h
      refine readFits_of_all ?_ k
      simp only [List.all_cons, Typing.exactOrNone, beq_self_eq_true, Bool.true_or, Bool.true_and]
      exact List.all_eq_true.mpr fun x hx => by simp [beq_iff_eq.mp (List.all_eq_true.mp hall x hx)]
    · exact absurd h.symm herr

end Reads

/-! ## Kinds with a rule over several inputs -/

section Families

variable {node : NodeId} {out : ValueType} {ins : List ValueType} {hp : Bool} {p : Plan}

theorem mathBinary_fits {op : MathOp}
    (hres : (match Typing.floatOrInt (typeAt ins 0) (typeAt ins 1) with
      | .error => Typing.vectorFloatOrInt (typeAt ins 0) (typeAt ins 1) | r => r) = out)
    (herr : out ≠ .error) (hplan : Kind.mathBinary op out (typeAt ins 0) (typeAt ins 1) = some p) :
    p.Fits out ins := by
  rcases mathType_cases hres herr with ⟨rfl, ha, hb⟩ | ⟨rfl, ha, hb⟩ | ⟨hv, hops⟩
  · simp only [Kind.mathBinary, Option.some.injEq] at hplan
    subst hplan
    exact ⟨rfl, by simp [Plan.reads, ReadFits, ha, hb]⟩
  · simp only [Kind.mathBinary, Option.some.injEq] at hplan
    subst hplan
    refine ⟨rfl, ?_⟩
    simp [Plan.reads, ReadFits, scalarRead_of_isFloatOrInt ha, scalarRead_of_isFloatOrInt hb]
  · -- lanes of the output's shape, with the other operand of that shape or a scalar
    have hplan' : ((lanesOf? out).map fun s =>
        if typeAt ins 0 = typeAt ins 1 then Plan.mathLanes op s .both
        else if typeAt ins 0 = out then .mathLanes op s (.scalarRight (typeAt ins 1))
        else .mathLanes op s (.scalarLeft (typeAt ins 0))) = some p := by
      unfold Kind.mathBinary at hplan
      split at hplan <;> simp_all [ValueType.isVector]
    obtain ⟨s, hs, rfl⟩ := Option.map_eq_some_iff.mp hplan'
    have hst : s.type = out := Shape.type_of_ofType? hs
    rcases hops with ⟨ha, hb⟩ | ⟨ha, hb⟩ | ⟨hb, ha⟩
    · rw [if_pos (ha.trans hb.symm)]
      exact ⟨hst, by simp [Plan.reads, ReadFits, ha, hb, hst]⟩
    · have hne : typeAt ins 1 ≠ typeAt ins 0 := ha ▸ ne_of_isVector_of_isFloatOrInt hv hb
      rw [if_neg (Ne.symm hne), if_pos ha]
      exact ⟨hst, by simp [Plan.reads, ReadFits, ha, hst, scalarRead_of_isFloatOrInt hb]⟩
    · have hne : typeAt ins 0 ≠ typeAt ins 1 := hb ▸ ne_of_isVector_of_isFloatOrInt hv ha
      have hne' : typeAt ins 0 ≠ out := hb ▸ hne
      rw [if_neg hne, if_neg hne']
      exact ⟨hst, by simp [Plan.reads, ReadFits, hb, hst, scalarRead_of_isFloatOrInt ha]⟩

theorem vectorMath_fits {op : VectorOp} (hres : Kind.vectorMathType op ins = out)
    (herr : out ≠ .error) (hplan : (Kind.vectorMath op).plan node out ins hp = some p) :
    p.Fits out ins := by
  cases op <;> simp only [Kind.vectorMathType, VectorOp.arity, Kind.plan, Option.some.injEq,
    reduceCtorEq, if_true, if_false] at hres hplan
  case cross | projectOnPlane =>
    subst hplan
    obtain ⟨hsame, rfl⟩ := eq_of_ite_error hres herr
    obtain ⟨ha, hb⟩ := Typing.eq_of_same_pair hsame (by decide)
    exact ⟨hsame.symm, by simp [Plan.reads, ReadFits, ha, hb]⟩
  -- every other operation takes the shape of its first operand
  all_goals
    obtain ⟨s, hs, rfl⟩ := Option.map_eq_some_iff.mp hplan
    have hst := Shape.type_of_ofType? hs
  case normalize =>
    split at hres
    · exact absurd hres.symm herr
    · have ha := Typing.eq_of_vectorOnly hres herr
      exact ⟨by simp [Plan.output, hst, ha], by simp [Plan.reads, ReadFits, hst]⟩
  case length =>
    split at hres
    · exact absurd hres.symm herr
    · exact ⟨by simp [Plan.output, hres], by simp [Plan.reads, ReadFits, hst]⟩
  case dot | distance =>
    obtain ⟨hv, rfl⟩ := eq_of_ite_error hres herr
    have hsame : Typing.same [typeAt ins 0, typeAt ins 1] ≠ .error := fun h =>
      hv (by simp [h, Typing.vectorOnly, ValueType.isVector])
    obtain ⟨ha, hb⟩ := Typing.eq_of_same_pair rfl hsame
    exact ⟨rfl, by simp [Plan.reads, ReadFits, hst, hb.trans ha.symm]⟩
  case project | reflect =>
    obtain ⟨hv, rfl⟩ := eq_of_ite_error hres herr
    obtain ⟨ha, hb⟩ := Typing.eq_of_same_pair rfl herr
    exact ⟨hst.trans ha, by simp [Plan.reads, ReadFits, hst, hb.trans ha.symm]⟩

theorem quaternion_fits {op : QuaternionOp} (hres : Kind.quaternionType op ins = out)
    (herr : out ≠ .error) (hplan : (Kind.quaternion op).plan node out ins hp = some p) :
    p.Fits out ins := by
  cases op <;> simp only [Kind.quaternionType, Kind.plan, Option.some.injEq, reduceCtorEq,
    if_true, if_false] at hres hplan
  case multiply =>
    -- the operand that is a Vector4 is the quaternion, the other the vector it rotates
    generalize ha : typeAt ins 0 = a at hres hplan
    generalize hb : typeAt ins 1 = b at hres hplan
    cases a <;> cases b <;> simp only [Kind.multiplyPlan, reduceCtorEq, if_true, if_false,
      Option.some.injEq] at hres hplan <;> first
      | exact absurd hres.symm herr
      | (subst hres hplan; exact ⟨rfl, by simp [Plan.reads, ReadFits, ha, hb]⟩)
  all_goals
    subst hplan
    obtain ⟨hok, rfl⟩ := eq_of_ite_error hres herr
    refine ⟨rfl, ?_⟩
    simp_all [Plan.reads, ReadFits]

theorem vecModify_fits {inputs : List Link} {props : Option Properties}
    (hres : (Kind.vecModify.resolve inputs ins props).1 = out) (herr : out ≠ .error)
    (hplan : Kind.vecModify.plan node out ins hp = some p) : p.Fits out ins := by
  simp only [Kind.resolve, Kind.plan] at hres hplan
  obtain ⟨hok, hout⟩ := eq_of_ite_error hres herr
  have ha : typeAt ins 0 = out := Typing.eq_of_vectorOnly hout herr
  split at hplan
  · cases hplan
  · rename_i hfloat
    obtain ⟨s, hs, rfl⟩ := Option.map_eq_some_iff.mp hplan
    have hst := Shape.type_of_ofType? hs
    have hcount := Shape.count_eq_length_componentNames hs hfloat
    -- the component inputs are those the resolve step checked: one per lane of the shape
    have hcomp : ∀ c < s.count, ReadFits ins (c + 1, .float) := by
      intro c hc
      simp only [List.all_eq_true, List.mem_range, List.length_mapIdx, length_resizeInputs,
        decide_eq_true_eq] at hok
      rcases hok (c + 1) (by rw [ha]; omega) with h | h
      · omega
      · simpa [ReadFits] using h
    refine ⟨hst, ?_⟩
    simp only [Plan.reads, List.mem_cons, List.mem_map, List.mem_range]
    rintro kt (rfl | ⟨c, hc, rfl⟩)
    · exact .inl (ha.trans hst.symm)
    · exact hcomp c hc

end Families

/-- The plan of a node whose type is what its kind resolves from its inputs' types, and is not
`error`, fits the node: it produces the node's type, and each read it lists asks an input for the
type it has or reads an input of type `none`. -/
theorem Kind.plan_fits {k : Kind} {node : NodeId} {out : ValueType} {ins : List ValueType}
    {hp : Bool} {p : Plan} {inputs : List Link} {props : Option Properties}
    (hres : (k.resolve inputs ins props).1 = out) (herr : out ≠ .error)
    (hplan : k.plan node out ins hp = some p) : p.Fits out ins := by
  cases k with
  | math op =>
    simp only [Kind.resolve, Kind.plan] at hres hplan
    split at hres
    · rw [if_pos ‹_›] at hplan
      split at hres <;> exact mathBinary_fits (by simp_all) herr hplan
    · rw [if_neg ‹_›] at hplan
      have ha := Typing.eq_of_valueOnly hres herr
      split at hplan
      · rename_i hint
        cases hplan
        exact ⟨hint.symm, by simp [Plan.reads, ReadFits, ha, hint]⟩
      · obtain ⟨s, hs, rfl⟩ := Option.map_eq_some_iff.mp hplan
        have hst := Shape.type_of_ofType? hs
        exact ⟨hst, by simp [Plan.reads, ReadFits, hst, ha]⟩
  | vectorMath op => exact vectorMath_fits hres herr hplan
  | quaternion op => exact quaternion_fits hres herr hplan
  | vecModify => exact vecModify_fits hres herr hplan
  | value name external io c =>
    simp only [Kind.resolve, Kind.plan, Option.some.injEq] at hres hplan
    subst hplan
    by_cases hio : io = .output
    · simp only [hio, ne_eq, not_true_eq_false, if_false, if_true] at hres ⊢
      obtain ⟨hin, rfl⟩ := eq_of_ite_error hres herr
      exact ⟨rfl, by simpa [Plan.reads, ReadFits] using hin⟩
    · simp only [hio, ne_eq, not_false_eq_true, if_false, if_true] at hres ⊢
      subst hres
      exact ⟨rfl, by simp [Plan.reads]⟩
  | fallback c =>
    simp only [Kind.resolve, Kind.plan, Option.some.injEq] at hres hplan
    subst hplan hres
    exact ⟨rfl, by simp [Plan.reads]⟩
  | random op =>
    simp only [Kind.resolve, Kind.plan, Option.some.injEq] at hres hplan
    subst hplan hres
    exact ⟨rfl, by simp [Plan.reads]⟩
  | curve | ramp | condition | boolOperator | timer | perlin =>
    -- a fixed output type, after a check of the inputs' types
    simp only [Kind.resolve, Kind.plan, Option.some.injEq] at hres hplan
    subst hplan
    obtain ⟨hin, rfl⟩ := eq_of_ite_error hres herr
    refine ⟨rfl, ?_⟩
    simp_all [Plan.reads, ReadFits, typeAt, List.head?_eq_getElem?, Kind.perlinLayout]
  | colorHsv op =>
    simp only [Kind.resolve, Kind.plan, Option.some.injEq] at hres hplan
    subst hplan
    obtain ⟨hin, rfl⟩ := eq_of_ite_error hres herr
    refine ⟨by cases op <;> rfl, ?_⟩
    cases op
    case hsvValuesToRgb =>
      have hsame : Typing.same ins = .float := by simpa using hin
      simp only [Plan.reads, List.mem_cons, List.mem_nil_iff, or_false]
      rintro kt (rfl | rfl | rfl) <;> exact readFits_of_same hsame (by decide) (by decide) _
    all_goals simp_all [Plan.reads, ReadFits]
  | vecConstructor shape =>
    simp only [Kind.resolve, Kind.plan, Option.some.injEq] at hres hplan
    subst hplan
    obtain ⟨hin, rfl⟩ := eq_of_ite_error hres herr
    refine ⟨by cases shape <;> rfl, ?_⟩
    simp only [Plan.reads, List.mem_map, List.mem_range]
    rintro kt ⟨c, -, rfl⟩
    exact readFits_of_all hin c
  | swizzle components =>
    simp only [Kind.resolve, Kind.plan] at hres hplan
    split at hres
    · exact absurd hres.symm herr
    · split at hplan
      · cases hplan
        subst hres
        refine ⟨?_, by simp [Plan.reads, ReadFits]⟩
        simp only [Plan.output, Swizzle.shape, Swizzle.outputType]
        split <;> (try split) <;> rfl
      · cases hplan
  | convert op =>
    simp only [Kind.resolve, Kind.plan] at hres hplan
    obtain ⟨-, ha⟩ := eq_of_ite_error hres herr
    obtain ⟨s, hs, rfl⟩ := Option.map_eq_some_iff.mp hplan
    have hst := Shape.type_of_ofType? hs
    exact ⟨hst, by simp [Plan.reads, ReadFits, hst, ha]⟩
  | lerp =>
    simp only [Kind.resolve, Kind.plan] at hres hplan
    obtain ⟨ht, hr⟩ := eq_of_ite_error hres herr
    obtain ⟨ha, hb⟩ := Typing.eq_of_same_pair (Typing.eq_of_valueOnly hr herr) herr
    split at hplan
    · rename_i hint
      cases hplan
      exact ⟨hint.symm, by simp [Plan.reads, ReadFits, ha, hb, ht, hint]⟩
    · obtain ⟨s, hs, rfl⟩ := Option.map_eq_some_iff.mp hplan
      have hst := Shape.type_of_ofType? hs
      exact ⟨hst, by simp [Plan.reads, ReadFits, ha, hb, ht, hst]⟩
  | branch =>
    simp only [Kind.resolve, Kind.plan] at hres hplan
    split at hres
    · exact absurd hres.symm herr
    · rename_i hbool
      obtain ⟨ha, hb⟩ := Typing.eq_of_same_pair (Typing.eq_of_valueOnly hres herr) herr
      split at hplan
      · cases hplan
        exact ⟨rfl, by simp_all [Plan.reads, ReadFits]⟩
      · cases hplan
  | spring | delta =>
    simp only [Kind.resolve, Kind.plan] at hres hplan
    have ha := eq_of_floatOrVector hres herr
    obtain ⟨s, hs, rfl⟩ := Option.map_eq_some_iff.mp hplan
    have hst : s.type = out := by
      unfold vectorsOf? at hs
      split at hs
      · cases hs
      · exact Shape.type_of_ofType? hs
    exact ⟨hst, by simp [Plan.reads, ReadFits, hst, ha]⟩
  | dozer freeze held =>
    simp only [Kind.resolve, Kind.plan] at hres hplan
    split at hres
    · exact absurd hres.symm herr
    · rename_i hupdate
      have ha : typeAt ins 0 = out := by
        split at hres
        · simp_all
        · exact eq_of_floatOrVector hres herr
      obtain ⟨s, hs, rfl⟩ := Option.map_eq_some_iff.mp hplan
      have hst := Shape.type_of_ofType? hs
      refine ⟨hst, ?_⟩
      simp_all [Plan.reads, ReadFits, typeAt]
  | propertyInput address =>
    simp only [Kind.plan] at hplan
    split at hplan
    · obtain ⟨t, ht, rfl⟩ := Option.map_eq_some_iff.mp hplan
      refine ⟨?_, by simp [Plan.reads]⟩
      unfold propertyType? at ht
      split at ht <;> simp_all [Plan.output]
    · cases hplan
  | propertyOutput address =>
    simp only [Kind.resolve, Kind.plan] at hres hplan
    have hnone : out = .none := by
      split at hres
      · exact absurd hres.symm herr
      · exact (eq_of_ite_error hres herr).2.symm
    split at hplan
    · obtain ⟨t, ht, rfl⟩ := Option.map_eq_some_iff.mp hplan
      refine ⟨hnone.symm ▸ rfl, ?_⟩
      unfold propertyType? at ht
      split at ht <;> simp_all [Plan.reads, ReadFits]
    · cases hplan

/-! ## Plans exist for concrete input types -/

/-- A type that is neither of the wildcards an input may declare. -/
def ValueType.Concrete (t : ValueType) : Prop := t ≠ .anyScalar ∧ t ≠ .anyVector

instance : DecidablePred ValueType.Concrete := fun t =>
  inferInstanceAs (Decidable (t ≠ .anyScalar ∧ t ≠ .anyVector))

theorem concrete_typeAt {ins : List ValueType} (h : ∀ t ∈ ins, t.Concrete) (i : Nat) :
    (typeAt ins i).Concrete := by
  simp only [typeAt, List.getD_eq_getElem?_getD]
  cases hi : ins[i]? with
  | none => exact ⟨by decide, by decide⟩
  | some t => exact h t (List.mem_of_getElem? hi)

theorem lanesOf?_isSome_of_isVector {t : ValueType} (hc : t.Concrete) (hv : t.isVector) :
    (lanesOf? t).isSome := by
  obtain ⟨-, hav⟩ := hc
  cases t <;> simp_all [ValueType.isVector, Shape.ofType?]

theorem int_or_lanes_of_isValue {t : ValueType} (hc : t.Concrete) (hv : t.isValue) :
    t = .int ∨ (lanesOf? t).isSome := by
  obtain ⟨has, hav⟩ := hc
  cases t <;> simp_all [ValueType.isValue, Shape.ofType?]

theorem int_or_lanes_of_valueOnly {a out : ValueType} (hc : a.Concrete)
    (h : Typing.valueOnly a = out) (herr : out ≠ .error) : out = .int ∨ (lanesOf? out).isSome := by
  obtain ⟨hv, rfl⟩ := eq_of_ite_error h herr
  exact int_or_lanes_of_isValue hc hv

theorem int_or_lanes_of_valueOnly_same {a b out : ValueType} (hc : a.Concrete)
    (h : Typing.valueOnly (Typing.same [a, b]) = out) (herr : out ≠ .error) :
    out = .int ∨ (lanesOf? out).isSome := by
  have hsame := Typing.eq_of_valueOnly h herr
  obtain ⟨ha, -⟩ := Typing.eq_of_same_pair hsame herr
  have h' : Typing.valueOnly a = out := by
    rw [ha]
    rwa [hsame] at h
  exact int_or_lanes_of_valueOnly hc h' herr

theorem isSome_of_int_or_lanes {α : Type} {out : ValueType} {x : α} {f : Shape → α}
    (h : out = .int ∨ (lanesOf? out).isSome) :
    (if out = .int then some x else (lanesOf? out).map f).isSome := by
  by_cases hi : out = .int
  · simp [hi]
  · simpa [hi] using h

theorem mathBinary_isSome {op : MathOp} {a b out : ValueType} (ha : a.Concrete) (hb : b.Concrete)
    (hres : (match Typing.floatOrInt a b with
      | .error => Typing.vectorFloatOrInt a b
      | r => r) = out)
    (herr : out ≠ .error) : (Kind.mathBinary op out a b).isSome := by
  rcases mathType_cases hres herr with ⟨rfl, -, -⟩ | ⟨rfl, -, -⟩ | ⟨hv, hops⟩
  · rfl
  · rfl
  · -- the output is one of the operands, so it is a concrete vector
    have hc : out.Concrete := by
      rcases hops with ⟨rfl, -⟩ | ⟨rfl, -⟩ | ⟨rfl, -⟩
      · exact ha
      · exact ha
      · exact hb
    have hl := lanesOf?_isSome_of_isVector hc hv
    unfold Kind.mathBinary
    split <;> simp_all [ValueType.isVector]

theorem Typing.isVector_of_vectorOnly {a : ValueType} (h : Typing.vectorOnly a ≠ .error) :
    a.isVector := by
  unfold Typing.vectorOnly at h
  split at h
  · assumption
  · exact absurd rfl h

theorem vectorMath_isSome {op : VectorOp} {ins : List ValueType} {node : NodeId} {hp : Bool}
    (hat : ∀ i, (typeAt ins i).Concrete) (herr : Kind.vectorMathType op ins ≠ .error) :
    ((Kind.vectorMath op).plan node (Kind.vectorMathType op ins) ins hp).isSome := by
  cases op <;> simp only [Kind.vectorMathType, VectorOp.arity, Kind.plan, reduceCtorEq, if_true,
    if_false, Nat.reduceEqDiff] at herr ⊢
  case cross | projectOnPlane => rfl
  -- every other operation takes the shape of its first operand, which must be a vector
  all_goals
    rw [Option.isSome_map]
    apply lanesOf?_isSome_of_isVector (hat 0)
  case normalize | length =>
    split at herr
    · exact absurd rfl herr
    · exact Typing.isVector_of_vectorOnly ‹_›
  case dot | distance =>
    obtain ⟨hv, -⟩ := eq_of_ite_error rfl herr
    have hsame : Typing.same [typeAt ins 0, typeAt ins 1] ≠ .error := fun h => hv (by rw [h]; rfl)
    obtain ⟨ha, -⟩ := Typing.eq_of_same_pair rfl hsame
    exact ha ▸ Typing.isVector_of_vectorOnly hv
  case project | reflect =>
    obtain ⟨hc, -⟩ := eq_of_ite_error rfl herr
    obtain ⟨ha, -⟩ := Typing.eq_of_same_pair rfl (by rcases hc with h | h <;> rw [h] <;> decide)
    rw [ha]
    rcases hc with h | h <;> rw [h] <;> rfl

theorem quaternion_isSome {op : QuaternionOp} {ins : List ValueType} {node : NodeId} {hp : Bool}
    (herr : Kind.quaternionType op ins ≠ .error) :
    ((Kind.quaternion op).plan node (Kind.quaternionType op ins) ins hp).isSome := by
  by_cases hm : op = .multiply
  · -- a product needs a Vector4 on one side and a vector on the other
    subst hm
    simp only [Kind.quaternionType, Kind.plan, if_true] at herr ⊢
    generalize typeAt ins 0 = a at herr ⊢
    generalize typeAt ins 1 = b at herr ⊢
    cases a <;> cases b <;> simp_all [Kind.multiplyPlan]
  · simp [Kind.plan, hm]

/-- Every value a property map can hold has a type that a property tap carries. -/
theorem propertyType?_isSome_of_bind {props : Option Properties} {address : String}
    {w : ValueType} (h : props.bind (·.typeAt? address) = some w) : (propertyType? w).isSome := by
  obtain ⟨p, -, hp⟩ := Option.bind_eq_some_iff.mp h
  obtain ⟨v, -, rfl⟩ := Option.map_eq_some_iff.mp hp
  cases v <;> rfl

theorem Kind.plan_isSome {k : Kind} {inputs : List Link} {ins : List ValueType}
    {props : Option Properties} {out : ValueType} (node : NodeId) (hins : ∀ t ∈ ins, t.Concrete)
    (hprops : k.category = .property → props.isSome)
    (hres : (k.resolve inputs ins props).1 = out) (herr : out ≠ .error) :
    (k.plan node out ins props.isSome).isSome := by
  have hat := concrete_typeAt hins
  cases k with
  | math op =>
    simp only [Kind.resolve, Kind.plan] at hres ⊢
    split at hres
    · rw [if_pos ‹_›]
      split at hres <;> exact mathBinary_isSome (hat 0) (hat 1) (by simp_all) herr
    · rw [if_neg ‹_›]
      exact isSome_of_int_or_lanes (int_or_lanes_of_valueOnly (hat 0) hres herr)
  | vectorMath op =>
    simp only [Kind.resolve] at hres
    subst hres
    exact vectorMath_isSome hat herr
  | quaternion op =>
    simp only [Kind.resolve] at hres
    subst hres
    exact quaternion_isSome herr
  | convert op =>
    simp only [Kind.resolve, Kind.plan] at hres ⊢
    obtain ⟨hv, ha⟩ := eq_of_ite_error hres herr
    rw [← ha, Option.isSome_map]
    obtain ⟨has, hav⟩ := hat 0
    revert hv has hav
    cases typeAt ins 0 <;> simp [ValueType.isValueExceptInt, Shape.ofType?]
  | lerp =>
    simp only [Kind.resolve, Kind.plan] at hres ⊢
    obtain ⟨-, hr⟩ := eq_of_ite_error hres herr
    exact isSome_of_int_or_lanes (int_or_lanes_of_valueOnly_same (hat 0) hr herr)
  | vecModify =>
    simp only [Kind.resolve, Kind.plan] at hres ⊢
    obtain ⟨-, hout⟩ := eq_of_ite_error hres herr
    have ha := Typing.eq_of_vectorOnly hout herr
    have hv := Typing.isVector_of_vectorOnly (hout ▸ herr)
    have hne : out ≠ .float := by
      rintro rfl
      rw [ha] at hv
      exact absurd hv (by decide)
    rw [if_neg hne, Option.isSome_map, ← ha]
    exact lanesOf?_isSome_of_isVector (hat 0) hv
  | swizzle components =>
    simp only [Kind.resolve, Kind.plan] at hres ⊢
    split at hres
    · exact absurd hres.symm herr
    · rename_i hv
      simp only [Bool.not_eq_true', Bool.not_eq_false] at hv
      rcases int_or_lanes_of_isValue (hat 0) hv with h | h <;> simp [h]
  | branch =>
    simp only [Kind.resolve, Kind.plan] at hres ⊢
    split at hres
    · exact absurd hres.symm herr
    · rcases int_or_lanes_of_valueOnly_same (hat 1) hres herr with h | h <;> simp [h]
  | spring | delta =>
    simp only [Kind.resolve, Kind.plan] at hres ⊢
    rw [Option.isSome_map]
    have hc := hat 0
    generalize typeAt ins 0 = a at hres hc
    subst hres
    obtain ⟨has, hav⟩ := hc
    cases a <;> simp_all [floatOrVector, vectorsOf?, Shape.ofType?]
  | dozer freeze held =>
    simp only [Kind.resolve, Kind.plan] at hres ⊢
    rw [Option.isSome_map]
    split at hres
    · exact absurd hres.symm herr
    · split at hres
      · subst hres
        rfl
      · have hc := hat 0
        generalize typeAt ins 0 = a at hres hc
        subst hres
        obtain ⟨has, hav⟩ := hc
        cases a <;> simp_all [floatOrVector, Shape.ofType?]
  | propertyInput address =>
    simp only [Kind.resolve, Kind.plan, hprops rfl, if_true] at hres ⊢
    rw [Option.isSome_map]
    cases hw : props.bind (·.typeAt? address) with
    | none => simp [hw] at hres; exact absurd hres.symm herr
    | some w =>
      simp only [hw, Option.getD_some] at hres
      exact hres ▸ propertyType?_isSome_of_bind hw
  | propertyOutput address =>
    simp only [Kind.resolve, Kind.plan, hprops rfl, if_true] at hres ⊢
    rw [Option.isSome_map]
    split at hres
    · exact absurd hres.symm herr
    · rename_i w hw
      obtain ⟨hhead, -⟩ := eq_of_ite_error hres herr
      have h0 : typeAt ins 0 = w := by
        simp only [typeAt, List.getD_eq_getElem?_getD, ← List.head?_eq_getElem?, hhead,
          Option.getD_some]
      exact h0 ▸ propertyType?_isSome_of_bind hw
  | value | curve | ramp | fallback | vecConstructor | colorHsv | condition | boolOperator
  | timer | random | perlin => simp [Kind.plan]

theorem Kind.typeChecked_compiles {k : Kind} {inputs : List Link} {ins : List ValueType}
    {props : Option Properties} (node : NodeId) (hins : ∀ t ∈ ins, t.Concrete)
    (hprops : k.category = .property → props.isSome)
    (herr : (k.resolve inputs ins props).1 ≠ .error) :
    ∃ p, k.plan node (k.resolve inputs ins props).1 ins props.isSome = some p ∧
      p.output = (k.resolve inputs ins props).1 ∧
      (p.isVoid ↔ (k.resolve inputs ins props).1 = .none) := by
  obtain ⟨p, hp⟩ := Option.isSome_iff_exists.mp (Kind.plan_isSome node hins hprops rfl herr)
  have hfit := Kind.plan_fits rfl herr hp
  refine ⟨p, hp, hfit.output_eq, ?_⟩
  simp [Plan.isVoid, hfit.output_eq]

/-- A property tap reading a float from an installed property map compiles to a read of that
float. -/
theorem propertyInput_compiles :
    (∀ t ∈ ([] : List ValueType), t.Concrete) ∧
      ((Kind.propertyInput "speed").category = .property →
        (some (⟨[("speed", .float 2)]⟩ : Properties)).isSome) ∧
      ((Kind.propertyInput "speed").resolve [] [] (some ⟨[("speed", .float 2)]⟩)).1 ≠ .error ∧
      ∃ p, (Kind.propertyInput "speed").plan 1
          ((Kind.propertyInput "speed").resolve [] [] (some ⟨[("speed", .float 2)]⟩)).1 [] true =
            some p ∧
        p.output = .float ∧ (p.isVoid ↔ ValueType.float = .none) :=
  ⟨by decide, by decide, by decide,
    Kind.typeChecked_compiles 1 (by decide) (by decide) (by decide)⟩

end NodeGraph
