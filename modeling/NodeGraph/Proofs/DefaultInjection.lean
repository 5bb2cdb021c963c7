import NodeGraph.Proofs.DeclaredInputs
import NodeGraph.Proofs.IdAllocation

/-!
# Injecting defaults

An input is *served* (`Graph.Serves`) when injection has nothing to create for it. Injecting a
default into one input leaves the graph as it is or points the input at a default that fits it,
found or created (`Graph.run_fillInput`). The outer loop keeps `Graph.Injecting` on the nodes done
and the inner loop `Graph.Filling` on the inputs done, so injection serves every input of a graph
whose inputs are declared (`Graph.injectFallbacks_served`), and creates no node in a graph whose
inputs are all served (`Graph.injectFallbacks_of_served`).
-/

namespace NodeGraph

namespace Link

/-- The default an input would reuse: the default it reads, or else the one it last read. -/
def candidate (l : Link) : NodeId := if isDefaultId l.target then l.target else l.lastDefault

/-- An input reading `t` and remembering it as its last default. -/
def setDefault (t : NodeId) (l : Link) : Link := { l with target := t, lastDefault := t }

@[simp] theorem candidate_setDefault (l : Link) (t : NodeId) : (l.setDefault t).candidate = t := by
  unfold candidate setDefault
  split <;> rfl

@[simp] theorem valueType_setDefault (l : Link) (t : NodeId) :
    (l.setDefault t).valueType = l.valueType := rfl

theorem setDefault_declare (l : Link) (t : NodeId) (ty : ValueType) (n : String)
    (s : LinkSettings) :
    (l.setDefault t).declare ty n s = (l.declare ty n s).setDefault t := rfl

end Link

theorem fallback_fits (t : ValueType) :
    (Kind.fallbackId? t).all (fun kindId => (Kind.create? kindId).any
      fun k => k.isDefault && Typing.accepts t k.declaredType) = true := by
  cases t <;> decide

namespace Graph

/-- An input is served when injecting defaults changes at most its source to the candidate it
has: it takes no default, reads a user node, has a type without a default kind, or its candidate
default fits. -/
def Serves (g : Graph) (l : Link) : Prop :=
  l.noDefaults = true ∨ l.isConnected = true ∨ Kind.fallbackId? l.valueType = none ∨
    g.fits l.candidate l.valueType = true

/-- A default created for an input of type `t` is a new default node that fits `t`. -/
theorem run_createFallback_fits {g g₁ : Graph} {t : ValueType} {kindId : String} {c : NodeId}
    (hk : Kind.fallbackId? t = some kindId) (hok : IdsOk g)
    (h : (createFallback kindId).run g = .ok (some c, g₁)) :
    c ∉ g.ids ∧ (∃ m : Node, g₁.nodes = g.nodes ++ [m] ∧ m.id = c ∧ m.inputs = [] ∧
      m.configure = m ∧ m.kind.isDefault = true) ∧
      g₁.fits c t = true := by
  unfold createFallback at h
  split at h
  · cases h
  · rename_i k hcreate
    simp only [bind_pure_comp, StateT.run_bind, StateT.run_get, StateT.run_lift, StateT.run_map,
      StateT.run_set, map_pure, Functor.map_map, pure_bind] at h
    cases hsub : idSub g.nextFallbackId 1 with
    | error e =>
      rw [hsub] at h
      cases h
    | ok next =>
      rw [hsub] at h
      cases h
      have hfresh := hok.nextFallbackId_fresh
      have hfind : g.nodes.find? (·.id == g.nextFallbackId) = none := node?_eq_none.mpr hfresh
      have hfit := fallback_fits t
      rw [hk, Option.all_some, hcreate, Option.any_some] at hfit
      -- a default kind is a hidden constant, which has no inputs
      obtain ⟨c, rfl⟩ : ∃ c, k = .fallback c := by
        cases k <;> simp_all [Kind.isDefault]
      refine ⟨hfresh, ⟨_, rfl, rfl, rfl, rfl, rfl⟩, ?_⟩
      simp [fits, node?, emit, List.find?_append, hfind, Node.new, hfit]

theorem createFallback_ne_none {g g₁ : Graph} {kindId : String} {k : Kind}
    (hk : Kind.create? kindId = some k) : (createFallback kindId).run g ≠ .ok (none, g₁) := by
  unfold createFallback
  rw [hk]
  simp only [bind_pure_comp, StateT.run_bind, StateT.run_get, StateT.run_lift, StateT.run_map,
    StateT.run_set, map_pure, Functor.map_map, pure_bind]
  cases idSub g.nextFallbackId 1 <;> simp

/-- Injecting a default into one input leaves the graph as it is, the input being served, or
points the input at a default that fits it: one found, or one just created as a new default node
with no inputs. -/
theorem run_fillInput {g g' : Graph} {id : NodeId} {index : Nat} {u : Unit} (hok : IdsOk g)
    (h : (fillInput id index).run g = .ok (u, g')) :
    (g' = g ∧ ∀ n l, g.node? id = some n → n.inputs[index]? = some l → g.Serves l) ∨ ∃ n l,
      g.node? id = some n ∧ n.inputs[index]? = some l ∧
      ∃ (g₁ : Graph) (ms : List Node) (t : NodeId),
      g₁.nodes = g.nodes ++ ms ∧
      (∀ m ∈ ms, m.id ∉ g.ids ∧ m.inputs = [] ∧ m.configure = m ∧ m.kind.isDefault = true) ∧
      g₁.fits t l.valueType = true ∧ g' = g₁.setLink id index (Link.setDefault t) := by
  unfold fillInput at h
  simp only [StateT.run_bind, StateT.run_get, pure_bind] at h
  split at h
  · rename_i n hn
    -- every early return below leaves the input at `index` of node `n` served
    have hserved : ∀ l, n.inputs[index]? = some l → g.Serves l →
        ∀ n' l', g.node? id = some n' → n'.inputs[index]? = some l' → g.Serves l' := by
      intro l hl hs n' l' hn' hl'
      rw [hn] at hn'
      cases hn'
      rw [hl] at hl'
      cases hl'
      exact hs
    split at h
    · rename_i l hl
      split at h
      · -- the input takes no default or reads a user node
        rename_i hskip
        cases h
        refine .inl ⟨rfl, hserved l hl ?_⟩
        rcases Bool.or_eq_true_iff.mp hskip with h' | h'
        · exact .inl h'
        · exact .inr (.inl h')
      · split at h
        · rename_i kindId hk
          rw [show (if isDefaultId l.target = true then l.target else l.lastDefault) = l.candidate
            from rfl] at h
          by_cases hfit : g.fits l.candidate l.valueType = true
          · -- the candidate fits and is kept
            rw [if_pos hfit] at h
            cases h
            exact .inr ⟨n, l, hn, hl, g, [], l.candidate, (List.append_nil _).symm, by simp, hfit,
              rfl⟩
          · -- a new default is created: its kind exists, so the creation gives a node
            rw [if_neg hfit] at h
            obtain ⟨r, g₁, hc, hrest⟩ := run_bind_eq_ok h
            cases r with
            | none =>
              have hkind := fallback_fits l.valueType
              rw [hk, Option.all_some] at hkind
              cases hcr : Kind.create? kindId with
              | none =>
                rw [hcr] at hkind
                cases hkind
              | some k => exact absurd hc (createFallback_ne_none hcr)
            | some t =>
              cases hrest
              obtain ⟨hfresh, ⟨m, hm, hmid, hmin, hmc, hmd⟩, hfit⟩ :=
                run_createFallback_fits hk hok hc
              refine .inr ⟨n, l, hn, hl, g₁, [m], t, hm, ?_, hfit, rfl⟩
              intro m' hm'
              rw [List.mem_singleton] at hm'
              subst hm'
              exact ⟨hmid ▸ hfresh, hmin, hmc, hmd⟩
        · -- the declared type has no default kind
          rename_i hk
          cases h
          refine .inl ⟨rfl, hserved l hl (.inr (.inr (.inl ?_)))⟩
          cases hk' : Kind.fallbackId? l.valueType with
          | none => rfl
          | some kindId => exact absurd hk' (hk kindId)
    · rename_i hl
      cases h
      refine .inl ⟨rfl, fun n' l' hn' hl' => ?_⟩
      rw [hn] at hn'
      cases hn'
      exact absurd hl' (hl l')
  · rename_i hn
    cases h
    exact .inl ⟨rfl, fun n' _ hn' _ => absurd hn' (hn n')⟩

/-- Injecting a default into a served input creates nothing: it leaves the graph as it is or
points the input at its candidate again. -/
theorem fillInput_of_serves {g : Graph} {id : NodeId} {index : Nat}
    (h : ∀ n l, g.node? id = some n → n.inputs[index]? = some l → g.Serves l) :
    (fillInput id index).run g = .ok ((), g) ∨ ∃ n l, g.node? id = some n ∧
      n.inputs[index]? = some l ∧ g.fits l.candidate l.valueType = true ∧
      (fillInput id index).run g = .ok ((), g.setLink id index (Link.setDefault l.candidate)) := by
  unfold fillInput
  simp only [StateT.run_bind, StateT.run_get, pure_bind]
  cases hn : g.node? id with
  | none => exact .inl rfl
  | some n =>
    dsimp only
    cases hl : n.inputs[index]? with
    | none => exact .inl rfl
    | some l =>
      dsimp only
      by_cases hskip : (l.noDefaults || l.isConnected) = true
      · rw [if_pos hskip]
        exact .inl rfl
      rw [if_neg hskip]
      cases hk : Kind.fallbackId? l.valueType with
      | none => exact .inl rfl
      | some kindId =>
        -- a served input that takes a default of some kind has a candidate that fits
        have hfit : g.fits l.candidate l.valueType = true := by
          rcases h n l hn hl with h' | h' | h' | h'
          · simp [h'] at hskip
          · simp [h'] at hskip
          · rw [hk] at h'
            cases h'
          · exact h'
        dsimp only
        rw [show (if isDefaultId l.target = true then l.target else l.lastDefault) = l.candidate
          from rfl, if_pos hfit]
        exact .inr ⟨n, l, rfl, hl, hfit, rfl⟩

/-! ### Lookups after a default is injected -/

theorem node?_setLink (g : Graph) (id : NodeId) (i : Nat) (f : Link → Link) (x : NodeId) :
    (g.setLink id i f).node? x =
      if x = id then (g.node? id).map fun n => { n with inputs := n.inputs.modify i f }
      else g.node? x :=
  node?_updateNode fun _ h => h

@[simp] theorem ids_setLink (g : Graph) (id : NodeId) (i : Nat) (f : Link → Link) :
    (g.setLink id i f).ids = g.ids :=
  ids_updateNode fun _ h => h

theorem fits_setLink (g : Graph) (id : NodeId) (i : Nat) (f : Link → Link) (c : NodeId)
    (t : ValueType) : (g.setLink id i f).fits c t = g.fits c t := by
  unfold fits
  rw [node?_setLink]
  by_cases hc : c = id
  · subst hc
    rw [if_pos rfl]
    cases g.node? c <;> rfl
  · rw [if_neg hc]

theorem node?_append {g g₁ : Graph} {ms : List Node} (h : g₁.nodes = g.nodes ++ ms) {x : NodeId}
    {n : Node} (hx : g.node? x = some n) : g₁.node? x = some n := by
  unfold node? at hx ⊢
  rw [h, List.find?_append, hx, Option.some_or]

theorem node?_append_cases {g g₁ : Graph} {ms : List Node} (h : g₁.nodes = g.nodes ++ ms)
    {x : NodeId} {n : Node} (hx : g₁.node? x = some n) : g.node? x = some n ∨ n ∈ ms := by
  unfold node? at hx ⊢
  rw [h, List.find?_append] at hx
  cases hg : g.nodes.find? (·.id == x) with
  | some m =>
    rw [hg, Option.some_or] at hx
    exact .inl hx
  | none =>
    rw [hg, Option.none_or] at hx
    exact .inr (List.mem_of_find?_eq_some hx)

theorem fits_of_kind {g g' : Graph} {c : NodeId} {t : ValueType}
    (h : ∀ n, g.node? c = some n → ∃ n', g'.node? c = some n' ∧ n'.kind = n.kind)
    (hfit : g.fits c t = true) : g'.fits c t = true := by
  unfold fits at hfit ⊢
  cases hc : g.node? c with
  | none =>
    rw [hc] at hfit
    cases hfit
  | some n =>
    obtain ⟨n', hn', hk⟩ := h n hc
    rw [hc] at hfit
    rw [hn']
    dsimp only at hfit ⊢
    rw [hk]
    exact hfit

theorem fits_of_append {g g₁ : Graph} {ms : List Node} (h : g₁.nodes = g.nodes ++ ms) {c : NodeId}
    {t : ValueType} (hfit : g.fits c t = true) : g₁.fits c t = true :=
  fits_of_kind (fun n hn => ⟨n, node?_append h hn, rfl⟩) hfit

theorem node?_fill {g g₁ : Graph} {ms : List Node} (hms : g₁.nodes = g.nodes ++ ms) {id x : NodeId}
    {i : Nat} {t : NodeId} {n n' : Node} (hn : g.node? id = some n)
    (hx : (g₁.setLink id i (Link.setDefault t)).node? x = some n') :
    (x = id ∧ n' = { n with inputs := n.inputs.modify i (Link.setDefault t) }) ∨
      (x ≠ id ∧ (g.node? x = some n' ∨ n' ∈ ms)) := by
  rw [node?_setLink] at hx
  by_cases hxid : x = id
  · rw [if_pos hxid, node?_append hms hn, Option.map_some, Option.some_inj] at hx
    exact .inl ⟨hxid, hx.symm⟩
  · rw [if_neg hxid] at hx
    exact .inr ⟨hxid, node?_append_cases hms hx⟩

theorem fits_fill {g g₁ : Graph} {ms : List Node} (hms : g₁.nodes = g.nodes ++ ms) (id : NodeId)
    (i : Nat) (t c : NodeId) (ty : ValueType) (h : g.fits c ty = true) :
    (g₁.setLink id i (Link.setDefault t)).fits c ty = true := by
  rw [fits_setLink]
  exact fits_of_append hms h

/-! ### Served inputs -/

theorem Serves.mono {g g' : Graph} {l : Link} (h : g.Serves l)
    (hfit : ∀ c t, g.fits c t = true → g'.fits c t = true) : g'.Serves l := by
  rcases h with h | h | h | h
  · exact .inl h
  · exact .inr (.inl h)
  · exact .inr (.inr (.inl h))
  · exact .inr (.inr (.inr (hfit _ _ h)))

theorem serves_setDefault {g : Graph} {l : Link} {t : NodeId} (h : g.fits t l.valueType = true) :
    g.Serves (l.setDefault t) :=
  .inr (.inr (.inr (by simpa using h)))

/-- The inputs of a node before position `k` are served. -/
def ServedBelow (g : Graph) (n : Node) (k : Nat) : Prop :=
  ∀ j < k, ∀ l, n.inputs[j]? = some l → g.Serves l

theorem ServedBelow.mono {g g' : Graph} {n : Node} {k : Nat} (h : g.ServedBelow n k)
    (hfit : ∀ c t, g.fits c t = true → g'.fits c t = true) : g'.ServedBelow n k :=
  fun j hj l hl => (h j hj l hl).mono hfit

theorem servedBelow_of_nil {g : Graph} {n : Node} (h : n.inputs = []) (k : Nat) :
    g.ServedBelow n k := by
  intro j _ l hl
  simp [h] at hl

theorem ServedBelow.serves {g : Graph} {n : Node} (h : g.ServedBelow n n.inputs.length) :
    ∀ l ∈ n.inputs, g.Serves l := by
  intro l hl
  obtain ⟨j, hj, rfl⟩ := List.getElem_of_mem hl
  exact h j hj _ (List.getElem?_eq_getElem hj)

/-- Every input of every node is served. -/
def InputsServed (g : Graph) : Prop := ∀ x n, g.node? x = some n → ∀ l ∈ n.inputs, g.Serves l

/-- Every input a node declares, once declared again, is served. -/
def Served (g : Graph) : Prop := ∀ x n, g.node? x = some n → ∀ l ∈ n.configure.inputs, g.Serves l

theorem servedBelow_modify {g : Graph} {n : Node} {i k : Nat} {l : Link} {t : NodeId}
    (hl : n.inputs[i]? = some l) (hfit : g.fits t l.valueType = true)
    (h : ∀ j < k, j ≠ i → ∀ l', n.inputs[j]? = some l' → g.Serves l') :
    g.ServedBelow { n with inputs := n.inputs.modify i (Link.setDefault t) } k := by
  intro j hj l' hl'
  simp only [List.getElem?_modify] at hl'
  by_cases hij : i = j
  · subst hij
    rw [hl] at hl'
    simp only [if_true, Option.map_eq_map, Option.map_some, Option.some_inj] at hl'
    exact hl' ▸ serves_setDefault hfit
  · simp only [hij, if_false, Option.map_eq_map, Option.map_id'] at hl'
    exact h j hj (Ne.symm hij) l' hl'

theorem served_setLink {g : Graph} {id : NodeId} {i : Nat} {n : Node} {l : Link} {t : NodeId}
    (hn : g.node? id = some n) (hl : n.inputs[i]? = some l) (hfit : g.fits t l.valueType = true)
    (hS : g.InputsServed) : (g.setLink id i (Link.setDefault t)).InputsServed := by
  have hfits : ∀ c ty, g.fits c ty = true → (g.setLink id i (Link.setDefault t)).fits c ty = true :=
    fun c ty h => by rw [fits_setLink]; exact h
  intro x n' hx
  rcases node?_fill (List.append_nil g.nodes).symm hn hx with ⟨-, rfl⟩ | ⟨-, hx | hx⟩
  · have hmod := servedBelow_modify (k := n.inputs.length) hl (hfits _ _ hfit) fun j _ _ l' hl' =>
      (hS id n hn l' (List.mem_of_getElem? hl')).mono hfits
    rw [← List.length_modify (Link.setDefault t) n.inputs i] at hmod
    exact hmod.serves
  · exact fun l' hl' => (hS x n' hx l' hl').mono hfits
  · cases hx

theorem configure_setDefault {n : Node} (hn : n.configure = n) {i : Nat} (hi : i < n.inputs.length)
    (t : NodeId) : ({ n with inputs := n.inputs.modify i (Link.setDefault t) } : Node).configure =
      { n with inputs := n.inputs.modify i (Link.setDefault t) } := by
  rw [Node.configure_eq_self_iff]
  dsimp only
  rw [Kind.configure_modify (fun l ty nm s => Link.setDefault_declare l t ty nm s) n.kind hi,
    Node.configure_eq_self_iff.mp hn]

/-! ### Loops over a list with an invariant on what is done -/

section Loops

variable {β : Type} (xs₀ : List β) (I : List β → Graph → Prop)
  (b : β → PUnit → GraphM (ForInStep PUnit))

/-- A loop over `xs₀` whose body always goes on keeps an invariant of the part of `xs₀` it has
done. -/
theorem forIn_inv
    (hb : ∀ pre x rest g r g', pre ++ x :: rest = xs₀ → I pre g →
      (b x PUnit.unit).run g = .ok (r, g') → r = .yield PUnit.unit ∧ I (pre ++ [x]) g') :
    ∀ (xs pre : List β) (g g' : Graph) (u : PUnit), pre ++ xs = xs₀ → I pre g →
      (forIn xs PUnit.unit b).run g = .ok (u, g') → I xs₀ g'
  | [], pre, g, g', u, hxs, hI, h => by
    cases h
    simpa [← hxs] using hI
  | x :: xs, pre, g, g', u, hxs, hI, h => by
    rw [List.forIn_cons] at h
    obtain ⟨r, g₁, h₁, h₂⟩ := run_bind_eq_ok h
    obtain ⟨rfl, hI₁⟩ := hb pre x xs g r g₁ hxs hI h₁
    exact forIn_inv hb xs (pre ++ [x]) g₁ g' u (by simpa using hxs) hI₁ h₂

theorem forIn_total
    (hb : ∀ pre x rest g, pre ++ x :: rest = xs₀ → I pre g →
      ∃ g', (b x PUnit.unit).run g = .ok (.yield PUnit.unit, g') ∧ I (pre ++ [x]) g') :
    ∀ (xs pre : List β) (g : Graph), pre ++ xs = xs₀ → I pre g →
      ∃ g', (forIn xs PUnit.unit b).run g = .ok (PUnit.unit, g') ∧ I xs₀ g'
  | [], pre, g, hxs, hI => ⟨g, rfl, by simpa [← hxs] using hI⟩
  | x :: xs, pre, g, hxs, hI => by
    obtain ⟨g₁, h₁, hI₁⟩ := hb pre x xs g hxs hI
    obtain ⟨g', h', hI'⟩ := forIn_total hb xs (pre ++ [x]) g₁ (by simpa using hxs) hI₁
    refine ⟨g', ?_, hI'⟩
    rw [List.forIn_cons, run_bind_of_ok h₁]
    exact h'

theorem forIn_inv_pure {γ : Type} {c : γ} {g g' : Graph} {r : γ}
    (hb : ∀ pre x rest g r g', pre ++ x :: rest = xs₀ → I pre g →
      (b x PUnit.unit).run g = .ok (r, g') → r = .yield PUnit.unit ∧ I (pre ++ [x]) g')
    (hI : I [] g) (h : (forIn xs₀ PUnit.unit b >>= fun _ => pure c).run g = .ok (r, g')) :
    r = c ∧ I xs₀ g' := by
  obtain ⟨u, g₁, hloop, hend⟩ := run_bind_eq_ok h
  cases hend
  exact ⟨rfl, forIn_inv xs₀ I b hb xs₀ [] g _ u rfl hI hloop⟩

theorem forIn_total_pure {γ : Type} (c : γ) {g : Graph} {P : Graph → Prop}
    (hb : ∀ pre x rest g, pre ++ x :: rest = xs₀ → I pre g →
      ∃ g', (b x PUnit.unit).run g = .ok (.yield PUnit.unit, g') ∧ I (pre ++ [x]) g')
    (hI : I [] g) (hP : ∀ g', I xs₀ g' → P g') :
    ∃ g', (forIn xs₀ PUnit.unit b >>= fun _ => pure c).run g = .ok (c, g') ∧ P g' := by
  obtain ⟨g', hloop, hI'⟩ := forIn_total xs₀ I b hb xs₀ [] g rfl hI
  exact ⟨g', by rw [run_bind_of_ok hloop]; rfl, hP g' hI'⟩

/-- A loop whose body leaves the state as it is, on every element, is skipped by what follows
it. -/
theorem forIn_then_of_stays {γ : Type} {k : GraphM γ} {g : Graph}
    (hb : ∀ x ∈ xs₀, (b x PUnit.unit).run g = .ok (.yield PUnit.unit, g)) :
    (forIn xs₀ PUnit.unit b >>= fun _ => k).run g = k.run g := by
  obtain ⟨g', hloop, rfl⟩ := forIn_total xs₀ (fun _ g' => g' = g) b
    (fun pre x rest g₁ hsplit hg => ⟨g₁, by
      rw [hg]
      exact hb x (hsplit ▸ List.mem_append_right _ (List.mem_cons_self ..)), hg⟩) xs₀ [] g rfl rfl
  exact run_bind_of_ok hloop

end Loops

theorem run_get (g : Graph) : (get : GraphM Graph).run g = .ok (g, g) := rfl

theorem eq_length_of_append_eq_range {pre rest : List Nat} {x n : Nat}
    (h : pre ++ x :: rest = List.range n) : x = pre.length ∧ x < n := by
  have hlt : pre.length < n := by
    have := congrArg List.length h
    simp only [List.length_append, List.length_cons, List.length_range] at this
    omega
  have hx : (pre ++ x :: rest)[pre.length]? = some x := by simp
  rw [h, List.getElem?_range hlt, Option.some_inj] at hx
  exact ⟨hx.symm, hx ▸ hlt⟩

/-! ### Injection serves every input -/

section Injection

variable (ids₀ : List NodeId)

/-- The graph as injection over the nodes `ids₀` leaves it once the nodes of `done` are filled:
its ids keep to the counters, every node has its inputs declared, and every node is served but
those of `ids₀` not yet done. -/
structure Injecting (done : List NodeId) (g : Graph) : Prop where
  ok : IdsOk g
  configured : ∀ x n, g.node? x = some n → n.configure = n
  served : ∀ x n, g.node? x = some n → (x ∈ ids₀ ∧ x ∉ done) ∨ g.ServedBelow n n.inputs.length

/-- Injection inside node `id`, which has `count` inputs, once its inputs before `k` are filled. -/
structure Filling (done : List NodeId) (id : NodeId) (count k : Nat) (g : Graph) : Prop where
  outer : Injecting ids₀ done g
  length : ∀ n, g.node? id = some n → n.inputs.length = count
  below : ∀ n, g.node? id = some n → g.ServedBelow n k

variable {ids₀} {done : List NodeId} {id : NodeId} {count : Nat}

/-- One input filled: the step of the inner loop. -/
theorem Filling.fill {index : Nat} {g g' : Graph} (hF : Filling ids₀ done id count index g)
    (hrun : (fillInput id index).run g = .ok ((), g')) :
    Filling ids₀ done id count (index + 1) g' := by
  have hok : IdsOk g' := hF.outer.ok.arenaRun (moves_fillInput id index g () g' hrun)
  rcases run_fillInput hF.outer.ok hrun with ⟨rfl, hserved⟩ |
    ⟨n, l, hn, hl, g₁, ms, t, hms, hnew, hfit, rfl⟩
  · refine ⟨hF.outer, hF.length, fun n hn j hj l hl => ?_⟩
    rcases Nat.lt_succ_iff_lt_or_eq.mp hj with hj | rfl
    · exact hF.below n hn j hj l hl
    · exact hserved n l hn hl
  -- the input is pointed at a default, found or appended
  have hfits := fits_fill hms id index t
  have hfit' : (g₁.setLink id index (Link.setDefault t)).fits t l.valueType = true := by
    rw [fits_setLink]
    exact hfit
  have hi : index < n.inputs.length := (List.getElem?_eq_some_iff.mp hl).1
  have hmod : ∀ k, (∀ j < k, j ≠ index → ∀ l', n.inputs[j]? = some l' → g.Serves l') →
      (g₁.setLink id index (Link.setDefault t)).ServedBelow
        { n with inputs := n.inputs.modify index (Link.setDefault t) } k :=
    fun k hk => servedBelow_modify hl hfit' fun j hj hji l' hl' => (hk j hj hji l' hl').mono hfits
  refine ⟨⟨hok, fun x n' hx => ?_, fun x n' hx => ?_⟩, fun n' hx => ?_, fun n' hx => ?_⟩
  · rcases node?_fill hms hn hx with ⟨-, rfl⟩ | ⟨-, hx | hx⟩
    · exact configure_setDefault (hF.outer.configured id n hn) hi t
    · exact hF.outer.configured x n' hx
    · exact (hnew n' hx).2.2.1
  · rcases node?_fill hms hn hx with ⟨rfl, rfl⟩ | ⟨-, hx | hx⟩
    · refine (hF.outer.served x n hn).imp (fun h => h) fun hs => ?_
      have := hmod n.inputs.length fun j hj _ l' hl' => hs j hj l' hl'
      rwa [← List.length_modify (Link.setDefault t) n.inputs index] at this
    · exact (hF.outer.served x n' hx).imp (fun h => h) fun hs => hs.mono hfits
    · exact .inr (servedBelow_of_nil (hnew n' hx).2.1 _)
  · rcases node?_fill hms hn hx with ⟨-, rfl⟩ | ⟨hne, -⟩
    · exact (List.length_modify _ _ _).trans (hF.length n hn)
    · exact absurd rfl hne
  · rcases node?_fill hms hn hx with ⟨-, rfl⟩ | ⟨hne, -⟩
    · exact hmod (index + 1) fun j hj _ l' hl' =>
        hF.below n hn j (by omega) l' hl'
    · exact absurd rfl hne

theorem Filling.finish {g : Graph} (hF : Filling ids₀ done id count count g) :
    Injecting ids₀ (done ++ [id]) g := by
  refine ⟨hF.outer.ok, hF.outer.configured, fun x n hx => ?_⟩
  by_cases hxid : x = id
  · subst hxid
    refine .inr ?_
    rw [hF.length n hx]
    exact hF.below n hx
  · refine (hF.outer.served x n hx).imp (fun ⟨h₀, hd⟩ => ⟨h₀, ?_⟩) fun h => h
    simpa [hxid] using hd

/-- The inputs of one node filled in order: the step of the outer loop. -/
theorem Injecting.node {g g' : Graph} {r : ForInStep PUnit} (hI : Injecting ids₀ done g)
    (hrun : (do
      let g ← get
      forIn (List.range (((g.node? id).map fun x => x.inputs.length).getD 0)) PUnit.unit
        fun index _ => do
          fillInput id index
          pure (ForInStep.yield PUnit.unit)
      pure (ForInStep.yield PUnit.unit) : GraphM (ForInStep PUnit)).run g = .ok (r, g')) :
    r = .yield PUnit.unit ∧ Injecting ids₀ (done ++ [id]) g' := by
  obtain ⟨d, g₁, hget, h⟩ := run_bind_eq_ok hrun
  cases hget
  obtain ⟨u, g₂, hloop, hend⟩ := run_bind_eq_ok h
  cases hend
  refine ⟨rfl, ?_⟩
  generalize hcount : ((g.node? id).map fun x => x.inputs.length).getD 0 = count at hloop
  -- the loop over the inputs keeps the node's length and serves the inputs it has done
  have hinit : Filling ids₀ done id count 0 g := by
    refine ⟨hI, fun n hn => ?_, fun n _ j hj => absurd hj (Nat.not_lt_zero j)⟩
    rw [← hcount, hn]
    rfl
  have hF := forIn_inv (List.range count) (fun pre g => Filling ids₀ done id count pre.length g)
    (fun index _ => do
      fillInput id index
      pure (ForInStep.yield PUnit.unit))
    (fun pre x rest g r g' hsplit hF h => by
      obtain ⟨rfl, -⟩ := eq_length_of_append_eq_range hsplit
      obtain ⟨u, g₁, hfill, hend⟩ := run_bind_eq_ok h
      cases hend
      refine ⟨rfl, ?_⟩
      rw [List.length_append, List.length_singleton]
      exact hF.fill hfill)
    (List.range count) [] g _ u rfl hinit hloop
  rw [List.length_range] at hF
  exact hF.finish

theorem injecting_injectFallbacks {g g' : Graph} (hok : IdsOk g)
    (hconf : ∀ x n, g.node? x = some n → n.configure = n)
    (h : injectFallbacks.run g = .ok ((), g')) : Injecting g.ids g.ids g' := by
  unfold injectFallbacks at h
  rw [run_bind_of_ok (run_get g)] at h
  have hinit : Injecting g.ids [] g :=
    ⟨hok, hconf, fun _ _ hx => .inl ⟨mem_ids_of_node? hx, List.not_mem_nil⟩⟩
  exact (forIn_inv_pure _ _ _ (fun pre x rest g r g' _ hI h => hI.node h) hinit h).2

/-- Injecting defaults into a graph whose nodes have their inputs declared serves every input. -/
theorem injectFallbacks_served {g g' : Graph} (hok : IdsOk g)
    (hconf : ∀ x n, g.node? x = some n → n.configure = n)
    (h : injectFallbacks.run g = .ok ((), g')) : g'.Served := by
  have hI := injecting_injectFallbacks hok hconf h
  intro x n hx l hl
  rcases hI.served x n hx with ⟨h₀, hd⟩ | hs
  · exact absurd h₀ hd
  · rw [hI.configured x n hx] at hl
    exact hs.serves l hl

end Injection

/-- Injecting defaults into a graph whose inputs are all served creates no node. -/
theorem injectFallbacks_of_served {g : Graph} (hS : g.InputsServed) :
    ∃ g', injectFallbacks.run g = .ok ((), g') ∧ g'.ids = g.ids := by
  unfold injectFallbacks
  rw [run_bind_of_ok (run_get g)]
  -- every step keeps the ids and every input served
  refine forIn_total_pure _ (fun _ g' => g'.ids = g.ids ∧ g'.InputsServed) _ () ?_ ⟨rfl, hS⟩
    fun _ h => h.1
  intro _ id _ g₁ _ hS₁
  rw [run_bind_of_ok (run_get g₁)]
  refine forIn_total_pure _ (fun _ g' => g'.ids = g.ids ∧ g'.InputsServed) _ _ ?_ hS₁
    fun _ h => h
  intro _ index _ g₂ _ ⟨hids, hS₂⟩
  rcases fillInput_of_serves (fun n l hn hl => hS₂ id n hn l (List.mem_of_getElem? hl)) with
    hrun | ⟨n, l, hn, hl, hfit, hrun⟩
  · exact ⟨g₂, by rw [run_bind_of_ok hrun]; rfl, hids, hS₂⟩
  · exact ⟨_, by rw [run_bind_of_ok hrun]; rfl, (ids_setLink ..).trans hids,
      served_setLink hn hl hfit hS₂⟩

end Graph

end NodeGraph
