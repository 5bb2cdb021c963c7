import Mathlib.Data.Fintype.Card
import Mathlib.Data.Fintype.Sets
import Mathlib.Data.Fintype.EquivFin
import NodeGraph.Proofs.Arena

/-!
# Settled types of acyclic graphs

A node *settles* from the types its inputs read as a type pass leaves it: resolved, its inputs as
its kind adjusts them, and of type `error` when a required input reads an error (`Node.settle`). On
an acyclic graph (`Graph.Acyclic`), recursion along the links gives every node the type it settles
to (`Graph.Acyclic.exists_settles`), and a node settled from those types is stable under declaring
its inputs again and settling once more (`Node.settle_stable`), the vector modifier and the
property output included.
-/

namespace NodeGraph

namespace Node

/-- The node as a type pass leaves it once the nodes its inputs read have the types `ts`: resolved,
and of type `error` when a required input reads an error. -/
def settle (n : Node) (ts : List ValueType) (props : Option Properties) : Node :=
  let n := n.resolve ts props
  let tainted := (n.inputs.zip ts).any fun (l, t) => l.required && t == .error
  if tainted then { n with type := .error } else n

variable {n m : Node} {ts : List ValueType} {p : Option Properties}

theorem settle_eq (n : Node) (ts : List ValueType) (p : Option Properties) :
    n.settle ts p = { n with
      inputs := (n.kind.resolve n.inputs ts p).2
      type := if ((n.kind.resolve n.inputs ts p).2.zip ts).any
          (fun (l, t) => l.required && t == .error) then .error
        else (n.kind.resolve n.inputs ts p).1 } := by
  unfold settle resolve
  dsimp only
  split <;> simp_all

@[simp] theorem id_settle : (n.settle ts p).id = n.id := by rw [settle_eq]
@[simp] theorem kind_settle : (n.settle ts p).kind = n.kind := by rw [settle_eq]
@[simp] theorem inputs_settle : (n.settle ts p).inputs = (n.kind.resolve n.inputs ts p).2 := by
  rw [settle_eq]
@[simp] theorem position_settle : (n.settle ts p).position = n.position := by rw [settle_eq]

theorem settle_congr (hid : m.id = n.id) (hpos : m.position = n.position) (hk : m.kind = n.kind)
    (hin : m.inputs = n.inputs) : m.settle ts p = n.settle ts p := by
  rw [settle_eq, settle_eq, hid, hpos, hk, hin]

end Node

namespace Graph

/-- Resolving a node in a graph replaces it by the node settled. -/
theorem resolveAt_eq (g : Graph) (id : NodeId) (ts : List ValueType) :
    g.resolveAt id ts = match g.node? id with
      | none => (.none, g)
      | some n => ((n.settle ts g.props).type, g.updateNode id fun _ => n.settle ts g.props) := rfl

/-- Updating a node keeping its id changes what that id finds and nothing else. -/
theorem node?_updateNode {g : Graph} {id x : NodeId} {f : Node → Node}
    (hf : ∀ n, n.id = id → (f n).id = id) :
    (g.updateNode id f).node? x = if x = id then (g.node? id).map f else g.node? x := by
  unfold updateNode node?
  rw [List.find?_map]
  have hkeep : ∀ n : Node, (if n.id == id then f n else n).id = n.id := by
    intro n
    by_cases h : n.id = id
    · simp [h, hf n h]
    · simp [h]
  have hpred : ((fun n : Node => n.id == x) ∘ fun n => if n.id == id then f n else n) =
      fun n => n.id == x := by
    funext n
    simp only [Function.comp_apply, hkeep]
  rw [hpred]
  cases hfind : g.nodes.find? (·.id == x) with
  | none =>
    by_cases hx : x = id
    · subst hx; simp [hfind]
    · simp [hx]
  | some n =>
    have hn : n.id = x := by simpa using List.find?_some hfind
    by_cases hx : x = id
    · subst hx; simp [hfind, hn]
    · simp [hx, hn]

@[simp] theorem ids_updateNode {g : Graph} {id : NodeId} {f : Node → Node}
    (hf : ∀ n, n.id = id → (f n).id = id) : (g.updateNode id f).ids = g.ids := by
  unfold updateNode ids
  simp only [List.map_map]
  apply List.map_congr_left
  intro n _
  by_cases h : n.id = id
  · simp [h, hf n h]
  · simp [h]

theorem node?_eq_some {g : Graph} {id : NodeId} {n : Node} (h : g.node? id = some n) :
    n ∈ g.nodes ∧ n.id = id :=
  ⟨List.mem_of_find?_eq_some h, by simpa using List.find?_some h⟩

theorem node?_eq_none {g : Graph} {id : NodeId} : g.node? id = none ↔ id ∉ g.ids := by
  simp [node?, List.find?_eq_none, ids]

theorem mem_ids_of_node? {g : Graph} {x : NodeId} {n : Node} (h : g.node? x = some n) :
    x ∈ g.ids :=
  mem_ids.mpr ⟨n, (node?_eq_some h).1, (node?_eq_some h).2⟩

theorem node?_eq_of_nodes {g g' : Graph} (h : g'.nodes = g.nodes) (x : NodeId) :
    g'.node? x = g.node? x := by
  unfold node?
  rw [h]

theorem node?_of_mem {g : Graph} (hnd : g.ids.Nodup) {n : Node} (hn : n ∈ g.nodes) :
    g.node? n.id = some n := by
  obtain ⟨m, hm⟩ := Option.ne_none_iff_exists'.mp fun h =>
    node?_eq_none.mp h (mem_ids.mpr ⟨n, hn, rfl⟩)
  obtain ⟨hmem, hid⟩ := node?_eq_some hm
  rw [hm, List.inj_on_of_nodup_map hnd hmem hn hid]

/-- Node lists with the same ids, in order and pairwise distinct, and the same node under every
id are equal. -/
theorem nodes_eq_of_find? : ∀ {ns ns' : List Node}, ns'.map (·.id) = ns.map (·.id) →
    (ns.map (·.id)).Nodup → (∀ x, ns'.find? (·.id == x) = ns.find? (·.id == x)) → ns' = ns
  | [], [], _, _, _ => rfl
  | _ :: _, [], h, _, _ => by simp at h
  | [], _ :: _, h, _, _ => by simp at h
  | a :: as, b :: bs, h, hnd, hfind => by
    simp only [List.map_cons, List.cons.injEq] at h
    have hab : b = a := by
      simpa [h.1] using hfind b.id
    subst hab
    simp only [List.map_cons, List.nodup_cons] at hnd
    refine congrArg _ (nodes_eq_of_find? h.2 hnd.2 fun x => ?_)
    by_cases hx : b.id = x
    · -- the id of the heads occurs in neither tail
      subst hx
      have hnone : ∀ l : List Node, l.map (·.id) = as.map (·.id) →
          l.find? (·.id == b.id) = none := by
        intro l hl
        refine List.find?_eq_none.mpr fun n hn hb => hnd.1 ?_
        rw [← hl, ← (beq_iff_eq.mp hb)]
        exact List.mem_map_of_mem hn
      rw [hnone bs h.2, hnone as rfl]
    · simpa [hx] using hfind x

/-- Node `b` reads node `a`: an input of `b` reads `a`, and `a` is a node of the graph. -/
def Reads (g : Graph) (a b : NodeId) : Prop := a ∈ g.ids ∧ ∃ n, g.node? b = some n ∧ a ∈ n.targets

/-- The links between the nodes of a graph form no cycle. -/
def Acyclic (g : Graph) : Prop := ∀ x, ¬ Relation.TransGen g.Reads x x

theorem Reads.mem_right {g : Graph} {a b : NodeId} (h : g.Reads a b) : b ∈ g.ids := by
  obtain ⟨-, n, hn, -⟩ := h
  exact (mem_ids.mpr ⟨n, (node?_eq_some hn).1, (node?_eq_some hn).2⟩)

/-- A rank that grows along every link shows a graph acyclic. -/
theorem Acyclic.of_rank {g : Graph} (rank : NodeId → Int)
    (h : ∀ a b, g.Reads a b → rank a < rank b) :
    g.Acyclic := by
  intro x hx
  have hlt : ∀ a b, Relation.TransGen g.Reads a b → rank a < rank b := by
    intro a b hab
    induction hab with
    | single hs => exact h _ _ hs
    | tail _ hs ih => exact Int.lt_trans ih (h _ _ hs)
  exact Int.lt_irrefl _ (hlt x x hx)

/-- On the finitely many nodes of an acyclic graph, following links ends. -/
theorem Acyclic.wellFounded {g : Graph} (h : g.Acyclic) : WellFounded g.Reads := by
  let r : {x // x ∈ g.ids} → {x // x ∈ g.ids} → Prop := fun a b => Relation.TransGen g.Reads a b
  have : IsTrans {x // x ∈ g.ids} r := ⟨fun _ _ _ hab hbc => hab.trans hbc⟩
  have : Std.Irrefl r := ⟨fun a => h a⟩
  have hwf : WellFounded r := Finite.wellFounded_of_trans_of_irrefl r
  refine ⟨fun b => ?_⟩
  by_cases hb : b ∈ g.ids
  · -- an id with a node: induction along the closure of links among nodes
    suffices ∀ c : {x // x ∈ g.ids}, Acc g.Reads c.1 from this ⟨b, hb⟩
    intro c
    induction c using hwf.induction with
    | _ c ih => exact ⟨_, fun a hac => ih ⟨a, hac.1⟩ (.single hac)⟩
  · exact ⟨_, fun a hab => absurd hab.mem_right hb⟩

/-- `σ` gives every node the type it settles to: what it resolves to, with tainting, from the
settled types of the nodes its inputs read; an id without a node has type `none`. -/
def Settles (g : Graph) (σ : NodeId → ValueType) : Prop :=
  ∀ id, σ id = match g.node? id with
    | none => .none
    | some n => (n.settle (n.targets.map σ) g.props).type

theorem Settles.none {g : Graph} {σ : NodeId → ValueType} (h : g.Settles σ) {id : NodeId}
    (hid : id ∉ g.ids) : σ id = .none := by
  rw [h id, node?_eq_none.mpr hid]

/-- An acyclic graph has settled types, by recursion along its links. -/
theorem Acyclic.exists_settles {g : Graph} (h : g.Acyclic) : ∃ σ, g.Settles σ := by
  let F : (b : NodeId) → ((a : NodeId) → g.Reads a b → ValueType) → ValueType := fun b rec =>
    match hb : g.node? b with
    | none => .none
    | some n => (n.settle (n.targets.attach.map fun a =>
        if ha : a.1 ∈ g.ids then rec a.1 ⟨ha, n, hb, a.2⟩ else .none) g.props).type
  let σ := h.wellFounded.fix F
  have hfix : ∀ b, σ b = F b fun a _ => σ a := h.wellFounded.fix_eq F
  -- ids without a node settle to `none`, so reading one through `σ` is the same
  have hout : ∀ a, a ∉ g.ids → σ a = .none := by
    intro a ha
    rw [hfix a]
    simp only [F]
    split
    · rfl
    · rename_i n hn
      exact absurd (mem_ids.mpr ⟨n, (node?_eq_some hn).1, (node?_eq_some hn).2⟩) ha
  refine ⟨σ, fun b => ?_⟩
  rw [hfix b]
  simp only [F]
  split
  · rename_i hb
    rw [hb]
  · rename_i n hb
    rw [hb]
    have hread : (fun a : {x // x ∈ n.targets} => if ha : a.1 ∈ g.ids then σ a.1 else .none) =
        fun a => σ a.1 := by
      funext a
      split
      · rfl
      · exact (hout _ ‹_›).symm
    simp only [hread, List.map_attach_eq_pmap, List.pmap_eq_map]

end Graph

namespace Node

variable {n : Node} {ts : List ValueType} {p : Option Properties}

theorem mem_targets {x : NodeId} : x ∈ n.targets ↔ ∃ l ∈ n.inputs, l.target = x := by
  simp [targets]

theorem target_of_inherits {ls ls' : List Link} (h : ∀ l ∈ ls', l.Inherits ls) {l : Link}
    (hl : l ∈ ls') : l.target = noNode ∨ ∃ l₀ ∈ ls, l₀.target = l.target := by
  rcases h l hl with ⟨ht, -⟩ | ⟨l₀, hl₀, ht, -⟩
  · exact .inl ht
  · exact .inr ⟨l₀, hl₀, ht.symm⟩

theorem target_mem_of_inherits {ls : List Link} (h : ∀ l ∈ ls, l.Inherits n.inputs) {l : Link}
    (hl : l ∈ ls) : l.target = noNode ∨ l.target ∈ n.targets := by
  rcases target_of_inherits h hl with h | ⟨l₀, hl₀, h⟩
  · exact .inl h
  · exact .inr (mem_targets.mpr ⟨l₀, hl₀, h⟩)

theorem targets_configure {x : NodeId} (hx : x ∈ n.configure.targets) :
    x = noNode ∨ x ∈ n.targets := by
  obtain ⟨l, hl, rfl⟩ := mem_targets.mp hx
  exact target_mem_of_inherits (Kind.inherits_configure n.kind n.inputs) hl

theorem targets_settle {x : NodeId} (hx : x ∈ (n.settle ts p).targets) :
    x = noNode ∨ x ∈ n.targets := by
  obtain ⟨l, hl, rfl⟩ := mem_targets.mp hx
  rw [inputs_settle] at hl
  exact target_mem_of_inherits (Kind.inherits_resolve n.kind n.inputs ts p) hl

theorem targets_configure_settle {x : NodeId} (hx : x ∈ (n.settle ts p).configure.targets) :
    x = noNode ∨ x ∈ n.targets :=
  (targets_configure hx).elim .inl targets_settle

end Node

namespace Kind

theorem resolve_snd {k : Kind} (hm : k ≠ .vecModify) (ho : ∀ a, k ≠ .propertyOutput a)
    (ins : List Link) (ts : List ValueType) (p : Option Properties) :
    (k.resolve ins ts p).2 = ins := by
  cases k <;> simp only [resolve] <;> (try split) <;> (try split) <;> simp_all

/-- A property output resolves to a type its links do not change, and declares its written link
with the property's type. -/
theorem resolve_propertyOutput (a : String) (ins : List Link) (ts : List ValueType)
    (p : Option Properties) :
    (Kind.propertyOutput a).resolve ins ts p = (((Kind.propertyOutput a).resolve [] ts p).1,
      ins.mapIdx fun i l => if i = 0 then { l with valueType := (p.bind (·.typeAt? a)).getD .error }
        else l) := by
  simp only [Kind.resolve]
  split <;> rename_i h <;> simp [h]

end Kind

namespace Node

variable {p : Option Properties}

theorem inputs_configure (n : Node) : n.configure.inputs = n.kind.configure n.inputs := rfl

theorem configure_eq_self_iff {n : Node} :
    n.configure = n ↔ n.kind.configure n.inputs = n.inputs := by
  cases n
  simp [configure]

/-- The links of a vector modifier as resolving leaves them for a vector of type `t`: the vector
input, then one float input per component. -/
def vecModifyLinks (ins : List Link) (t : ValueType) : List Link :=
  (resizeInputs ins (1 + (componentNames t).length)).mapIdx fun i l =>
    if i = 0 then l else l.declare .float ((componentNames t).getD (i - 1) "") .bare

theorem vecModify_resolve (ins : List Link) (ts : List ValueType) (p : Option Properties) :
    Kind.vecModify.resolve ins ts p =
      (if (List.range (vecModifyLinks ins (typeAt ts 0)).length).all
          (fun i => i = 0 ∨ Typing.exactOrNone (typeAt ts i) .float) then
        Typing.vectorOnly (typeAt ts 0) else .error, vecModifyLinks ins (typeAt ts 0)) := rfl

theorem length_vecModifyLinks (ins : List Link) (t : ValueType) :
    (vecModifyLinks ins t).length = 1 + (componentNames t).length := by
  simp [vecModifyLinks]

theorem getElem?_vecModifyLinks {ins : List Link} {t : ValueType} {i : Nat} :
    (vecModifyLinks ins t)[i]? = ((resizeInputs ins (1 + (componentNames t).length))[i]?).map
      fun l =>
        if i = 0 then l else l.declare .float ((componentNames t).getD (i - 1) "") .bare := by
  simp [vecModifyLinks]

theorem vecModifyLinks_idem (ins : List Link) (t : ValueType) :
    vecModifyLinks (vecModifyLinks ins t) t = vecModifyLinks ins t := by
  apply List.ext_getElem?
  intro i
  have hre : resizeInputs (vecModifyLinks ins t) (1 + (componentNames t).length) =
      vecModifyLinks ins t := by
    simp [resizeInputs, length_vecModifyLinks]
  rw [getElem?_vecModifyLinks, hre, getElem?_vecModifyLinks]
  cases (resizeInputs ins (1 + (componentNames t).length))[i]? with
  | none => rfl
  | some l => by_cases hi : i = 0 <;> simp [hi, Link.declare]

theorem vecModify_configure_of_ne_nil {ins : List Link} (h : ins ≠ []) :
    Kind.vecModify.configure ins =
      ins.mapIdx fun i l => if i = 0 then l.declare .anyVector "Vec" .bare else l := by
  simp [Kind.configure, List.isEmpty_iff, h]

theorem vecModify_declared {ins : List Link} (hk : Kind.vecModify.configure ins = ins) :
    ∃ l rest, ins = l :: rest ∧ l.declare .anyVector "Vec" .bare = l := by
  cases ins with
  | nil => simp [Kind.configure, resizeInputs] at hk
  | cons l rest =>
    rw [vecModify_configure_of_ne_nil (List.cons_ne_nil l rest), List.mapIdx_cons] at hk
    exact ⟨l, rest, rfl, by simpa using (List.cons.inj hk).1⟩

theorem getElem?_resizeInputs {ins : List Link} {n i : Nat} (hi : i < n) :
    (resizeInputs ins n)[i]? = some (ins[i]?.getD {}) := by
  unfold resizeInputs
  by_cases hl : i < ins.length
  · rw [List.getElem?_append_left (by simp; omega)]
    simp [hl, hi]
  · rw [List.getElem?_append_right (by simp; omega)]
    simp only [List.length_take, List.getElem?_replicate]
    rw [if_pos (by omega), List.getElem?_eq_none (by omega)]
    rfl

theorem typeAt_vecModifyLinks (σ : NodeId → ValueType) (hσ : σ noNode = .none) (ins : List Link)
    (t : ValueType) {i : Nat} (hi : i < 1 + (componentNames t).length) :
    typeAt ((vecModifyLinks ins t).map (σ ·.target)) i = typeAt (ins.map (σ ·.target)) i := by
  simp only [typeAt, List.getD_eq_getElem?_getD, List.getElem?_map, getElem?_vecModifyLinks,
    getElem?_resizeInputs hi]
  cases ins[i]? with
  | none => by_cases h0 : i = 0 <;> simpa [h0] using hσ
  | some l => by_cases h0 : i = 0 <;> simp [h0]

theorem configure_with (n : Node) :
    { n.configure with inputs := n.inputs, type := n.type, kind := n.kind } = n := rfl

/-- No link of a vector modifier is required once its vector input is declared bare. -/
theorem required_vecModifyLinks {l : Link} {rest : List Link} {t : ValueType}
    (hl : l.declare .anyVector "Vec" .bare = l) :
    ∀ l' ∈ vecModifyLinks (l :: rest) t, l'.required = false := by
  intro l' hl'
  obtain ⟨i, hi⟩ := List.mem_iff_getElem?.mp hl'
  have hlt : i < 1 + (componentNames t).length := by
    rw [← length_vecModifyLinks (l :: rest) t]
    exact (List.getElem?_eq_some_iff.mp hi).1
  rw [getElem?_vecModifyLinks, getElem?_resizeInputs hlt] at hi
  by_cases h0 : i = 0
  · subst h0
    simp only [List.getElem?_cons_zero, Option.getD_some, Option.map_some, if_true,
      Option.some.injEq] at hi
    rw [← hi, ← hl]
    rfl
  · simp only [h0, if_false, Option.map_some, Option.some.injEq] at hi
    rw [← hi]
    rfl

/-- Declaring the links of a vector modifier again leaves them as they are. -/
theorem configure_vecModifyLinks {l : Link} {rest : List Link} {t : ValueType}
    (hl : l.declare .anyVector "Vec" .bare = l) :
    Kind.vecModify.configure (vecModifyLinks (l :: rest) t) = vecModifyLinks (l :: rest) t := by
  have hpos : 0 < 1 + (componentNames t).length := by omega
  have hne : vecModifyLinks (l :: rest) t ≠ [] := by
    rw [Ne, ← List.length_eq_zero_iff, length_vecModifyLinks]
    omega
  have hhead : (vecModifyLinks (l :: rest) t)[0]? = some l := by
    rw [getElem?_vecModifyLinks, getElem?_resizeInputs hpos]
    rfl
  rw [vecModify_configure_of_ne_nil hne]
  apply List.ext_getElem?
  intro i
  rw [List.getElem?_mapIdx]
  by_cases h0 : i = 0
  · subst h0
    simp [hhead, hl]
  · cases (vecModifyLinks (l :: rest) t)[i]? <;> simp [h0]

theorem untainted_of_not_required {ls : List Link} (h : ∀ l ∈ ls, l.required = false)
    (ts : List ValueType) : (ls.zip ts).any (fun (l, t) => l.required && t == .error) = false := by
  apply List.any_eq_false.mpr
  rintro ⟨l, t⟩ hmem
  simp [h l (List.of_mem_zip hmem).1]

/-- The check of a vector modifier's component inputs reads the same types through the links it
resolved to. -/
theorem componentCheck_vecModifyLinks (σ : NodeId → ValueType) (hσ : σ noNode = .none)
    (ins : List Link) (t : ValueType) :
    ((List.range (1 + (componentNames t).length)).all fun i =>
        i = 0 ∨ Typing.exactOrNone (typeAt ((vecModifyLinks ins t).map (σ ·.target)) i) .float) =
      (List.range (1 + (componentNames t).length)).all fun i =>
        i = 0 ∨ Typing.exactOrNone (typeAt (ins.map (σ ·.target)) i) .float := by
  rw [Bool.eq_iff_iff, List.all_eq_true, List.all_eq_true]
  refine forall_congr' fun i => imp_congr_right fun hi => ?_
  rw [typeAt_vecModifyLinks σ hσ _ t (List.mem_range.mp hi)]

/-- The vector modifier settled from a list of links declared for it is declared again as it is
and settles to itself. -/
theorem vecModify_stable (σ : NodeId → ValueType) (hσ : σ noNode = .none) {id : NodeId} {pos : Vec2}
    {ins : List Link} {ty : ValueType} (hk : Kind.vecModify.configure ins = ins) :
    let f := (Node.mk id pos ins ty .vecModify).settle (ins.map (σ ·.target)) p
    f.configure.settle (f.configure.targets.map σ) p = f := by
  obtain ⟨l, rest, rfl, hl⟩ := vecModify_declared hk
  intro f
  -- the links resolved for the type of the vector input
  generalize ht0 : typeAt ((l :: rest).map (σ ·.target)) 0 = t0
  have hkind : f.kind = .vecModify := kind_settle
  have hfin : f.inputs = vecModifyLinks (l :: rest) t0 := by
    rw [inputs_settle, vecModify_resolve, ht0]
  have hcfg : f.configure.inputs = vecModifyLinks (l :: rest) t0 := by
    rw [inputs_configure, hkind, hfin, configure_vecModifyLinks hl]
  have ht0' : typeAt ((vecModifyLinks (l :: rest) t0).map (σ ·.target)) 0 = t0 :=
    (typeAt_vecModifyLinks σ hσ _ t0 (by omega)).trans ht0
  -- no link of a vector modifier is required, so its type is never tainted
  have hreq : ∀ l' ∈ vecModifyLinks (l :: rest) t0, l'.required = false :=
    required_vecModifyLinks hl
  have huntainted := untainted_of_not_required hreq
  have hftype : f.type = if (List.range (1 + (componentNames t0).length)).all (fun i =>
        i = 0 ∨ Typing.exactOrNone (typeAt ((l :: rest).map (σ ·.target)) i) .float) then
      Typing.vectorOnly t0 else .error := by
    simp only [f, settle_eq, vecModify_resolve, ht0, huntainted, length_vecModifyLinks]
    rfl
  have htargets : f.configure.targets.map σ =
      (vecModifyLinks (l :: rest) t0).map (σ ·.target) := by
    simp [targets, hcfg, Function.comp_def]
  -- settling again resolves the same links for the same vector type, with the same check
  have hres := vecModify_resolve (vecModifyLinks (l :: rest) t0)
    ((vecModifyLinks (l :: rest) t0).map (σ ·.target)) p
  rw [ht0', vecModifyLinks_idem, length_vecModifyLinks, componentCheck_vecModifyLinks σ hσ] at hres
  rw [htargets, settle_eq, kind_configure, hkind, hcfg, hres, huntainted]
  simp only [Bool.false_eq_true, if_false]
  rw [← hfin, ← hftype, ← hkind]
  exact configure_with f

theorem propertyOutput_stable (σ : NodeId → ValueType) {id : NodeId} {pos : Vec2}
    {ins : List Link} {ty : ValueType} {a : String}
    (hk : (Kind.propertyOutput a).configure ins = ins) :
    let f := (Node.mk id pos ins ty (.propertyOutput a)).settle (ins.map (σ ·.target)) p
    f.configure.settle (f.configure.targets.map σ) p = f := by
  -- the inputs are one link declared as the written value; resolving retypes only that link
  have hlen : ins.length = 1 := by
    rw [← hk]
    simp [Kind.configure, declareAll]
  obtain ⟨l, rfl⟩ := List.length_eq_one_iff.mp hlen
  have hl : l.declare .none "In" .wired = l := by
    simpa [Kind.configure, declareAll, resizeInputs] using hk
  intro f
  have hfc : f.configure.inputs = [l] := by
    simp only [f, configure, inputs_settle, kind_settle, Kind.resolve]
    split <;> simp only [Kind.configure, declareAll, resizeInputs, List.mapIdx_cons,
      List.mapIdx_nil,
      if_true, List.length_singleton, List.take_succ_cons, List.take_zero, Nat.sub_self,
      List.replicate_zero, List.append_nil, List.zipWith_cons_cons, List.zipWith_nil_left] <;>
      exact congrArg (· :: []) hl
  have hft : f.configure.targets.map σ = [l].map (σ ·.target) := by
    simp [targets, hfc]
  rw [hft]
  exact settle_congr (by simp [configure, f]) (by simp [configure, f, settle_eq])
    (by simp [configure, f]) hfc

/-- A node whose inputs are declared for its kind, settled from the settled types of what it
reads, is declared again as it is up to its links' declared types, and settles to itself. -/
theorem settle_stable (σ : NodeId → ValueType) (hσ : σ noNode = .none) {n : Node}
    (hn : n.configure = n) :
    let f := n.settle (n.targets.map σ) p
    f.configure.settle (f.configure.targets.map σ) p = f := by
  obtain ⟨id, pos, ins, ty, k⟩ := n
  have hk : k.configure ins = ins := congrArg Node.inputs hn
  have htargets : (Node.mk id pos ins ty k).targets.map σ = ins.map (σ ·.target) := by
    simp [targets, Function.comp_def]
  rw [htargets]
  by_cases hm : k = .vecModify
  · subst hm
    exact vecModify_stable σ hσ hk
  by_cases ho : ∃ a, k = .propertyOutput a
  · obtain ⟨a, rfl⟩ := ho
    exact propertyOutput_stable σ hk
  · -- every other kind keeps its links while resolving, so settling changes only the type
    have hres := Kind.resolve_snd hm (fun a h => ho ⟨a, h⟩) ins (ins.map (σ ·.target)) p
    intro f
    have hfin : f.inputs = ins := by simp [f, hres]
    have hfc : f.configure = f := by
      rw [configure_eq_self_iff, hfin, show f.kind = k from kind_settle, hk]
    have hft : f.targets.map σ = ins.map (σ ·.target) := by
      simp [targets, hfin, Function.comp_def]
    rw [hfc, hft]
    exact settle_congr (by simp [f]) (by simp [f, settle_eq]) (by simp [f]) hfin

/-- A node with its inputs declared, other than a property output, settles to a node declared as
it is: the vector modifier keeps its vector input first, and the other kinds keep their links. -/
theorem configure_settle {n : Node} (hn : n.configure = n) (ho : ∀ a, n.kind ≠ .propertyOutput a)
    (ts : List ValueType) : (n.settle ts p).configure = n.settle ts p := by
  rw [configure_eq_self_iff, kind_settle, inputs_settle]
  obtain ⟨id, pos, ins, ty, k⟩ := n
  have hk : k.configure ins = ins := congrArg Node.inputs hn
  by_cases hm : k = .vecModify
  · subst hm
    obtain ⟨l, rest, rfl, hl⟩ := vecModify_declared hk
    exact configure_vecModifyLinks hl
  · rw [Kind.resolve_snd hm ho]
    exact hk

/-- Settling a property output twice from the same types settles it once: the second time retypes
the written link as the first did. -/
theorem settle_settle_propertyOutput {n : Node} {ts : List ValueType} {a : String}
    (hk : n.kind = .propertyOutput a) : (n.settle ts p).settle ts p = n.settle ts p := by
  have hin : (n.settle ts p).inputs = n.inputs.mapIdx fun i l =>
      if i = 0 then { l with valueType := (p.bind (·.typeAt? a)).getD .error } else l := by
    rw [inputs_settle, hk, Kind.resolve_propertyOutput]
  have hin' :
      ((n.settle ts p).kind.resolve (n.settle ts p).inputs ts p).2 = (n.settle ts p).inputs := by
    rw [kind_settle, hk, Kind.resolve_propertyOutput, hin]
    apply List.ext_getElem (by simp)
    intro i h₁ h₂
    by_cases hi : i = 0 <;> simp [hi]
  have hty : ((n.settle ts p).kind.resolve (n.settle ts p).inputs ts p).1 =
      (n.kind.resolve n.inputs ts p).1 := by
    rw [kind_settle, hk, Kind.resolve_propertyOutput, Kind.resolve_propertyOutput a n.inputs]
  rw [settle_eq (n.settle ts p), hin', hty, inputs_settle]
  conv_rhs => rw [settle_eq]
  rw [id_settle, kind_settle, position_settle]

/-- A node whose inputs are declared for its kind, settled from the settled types of what it
reads, settles to itself again. -/
theorem settle_settle (σ : NodeId → ValueType) (hσ : σ noNode = .none) {n : Node}
    (hn : n.configure = n) :
    let f := n.settle (n.targets.map σ) p
    f.settle (f.targets.map σ) p = f := by
  intro f
  by_cases ho : ∃ a, n.kind = .propertyOutput a
  · obtain ⟨a, ha⟩ := ho
    -- retyping the written link keeps what it reads
    have htargets : f.targets = n.targets := by
      rw [targets, inputs_settle, ha, Kind.resolve_propertyOutput]
      apply List.ext_getElem (by simp [targets])
      intro i h₁ h₂
      by_cases hi : i = 0 <;> simp [targets, hi]
    rw [htargets]
    exact settle_settle_propertyOutput ha
  · -- any other kind settles to a node declared as it is, which `settle_stable` settles again
    have hfc : f.configure = f := configure_settle hn (fun a h => ho ⟨a, h⟩) _
    have hst : f.configure.settle (f.configure.targets.map σ) p = f := settle_stable σ hσ hn
    rwa [hfc] at hst

end Node

end NodeGraph
