import NodeGraph.Proofs.LinkIntegrity
import NodeGraph.Proofs.Preparation

/-!
# Which default each input gets

Injection visits inputs node by node in arena order (`Graph.inputSlots`). An input that skips
injection is left as it is; any other is pointed at its candidate when that is a default fitting
its type, and otherwise at a new default under the next default id (`Graph.run_fillInput_cases`).
When every candidate is a node or lies above the default counter (`Graph.CandidatesKnown`), the
graph injection starts from decides the whole pass (`Graph.Injects`, proved through the invariant
`Graph.Treated` over the inputs visited), and it succeeds exactly when the default ids left cover
the inputs that need a new default (`Graph.injectFallbacks_outcome`).
-/

namespace NodeGraph

namespace Link

/-- Injection leaves an input as it is: the input takes no default, reads a user node, or declares a
type without a default kind. -/
def skipsInjection (l : Link) : Bool :=
  l.noDefaults || l.isConnected || (Kind.fallbackId? l.valueType).isNone

end Link

namespace Graph

/-! ### One input -/

theorem run_createFallback_of_create {g : Graph} {kindId : String} {k : Kind}
    (hk : Kind.create? kindId = some k) :
    (createFallback kindId).run g = (idSub g.nextFallbackId 1).map fun next =>
      (some g.nextFallbackId,
        { g with nodes := g.nodes ++ [Node.new g.nextFallbackId k],
                 nextFallbackId := next }.emit (.fallbackCreated g.nextFallbackId kindId)) := by
  unfold createFallback
  rw [hk]
  simp only [bind_pure_comp, StateT.run_bind, StateT.run_get, StateT.run_lift, StateT.run_map,
    StateT.run_set, map_pure, Functor.map_map, pure_bind]
  cases idSub g.nextFallbackId 1 <;> rfl

/-- The graph once injection has created a default of kind `k` (registered as `kindId`) for input
`index` of node `id`: the default is appended under the next default id, the counter moves on to
`next`, the creation is logged, and the input reads and remembers the new default. -/
def withFallback (g : Graph) (id : NodeId) (index : Nat) (kindId : String) (k : Kind)
    (next : NodeId) : Graph :=
  ({ g with nodes := g.nodes ++ [Node.new g.nextFallbackId k], nextFallbackId := next }.emit
    (.fallbackCreated g.nextFallbackId kindId)).setLink id index (Link.setDefault g.nextFallbackId)

/-- What injection does to input `index` of node `id`, which reads `l`: nothing when the input
skips injection; otherwise it points the input at its candidate when that fits, and else at a new
default of the type's default kind, created under the next default id. -/
theorem run_fillInput_cases {g : Graph} {id : NodeId} {index : Nat} {n : Node} {l : Link}
    (hn : g.node? id = some n) (hl : n.inputs[index]? = some l) :
    (l.skipsInjection = true ∧ (fillInput id index).run g = .ok ((), g)) ∨
    (l.skipsInjection = false ∧ g.fits l.candidate l.valueType = true ∧
      (fillInput id index).run g = .ok ((), g.setLink id index (Link.setDefault l.candidate))) ∨
    (l.skipsInjection = false ∧ g.fits l.candidate l.valueType = false ∧
      ∃ kindId k, Kind.fallbackId? l.valueType = some kindId ∧ Kind.create? kindId = some k ∧
        (fillInput id index).run g = (idSub g.nextFallbackId 1).map fun next =>
          ((), g.withFallback id index kindId k next)) := by
  unfold fillInput
  simp only [StateT.run_bind, StateT.run_get, pure_bind, hn, hl]
  by_cases hskip : (l.noDefaults || l.isConnected) = true
  · refine .inl ⟨by simp [Link.skipsInjection, hskip], ?_⟩
    rw [if_pos hskip]
    rfl
  rw [if_neg hskip]
  cases hk : Kind.fallbackId? l.valueType with
  | none =>
    refine .inl ⟨by simp [Link.skipsInjection, hk], rfl⟩
  | some kindId =>
    have hs : l.skipsInjection = false := by simpa [Link.skipsInjection, hk] using hskip
    dsimp only
    rw [show (if isDefaultId l.target = true then l.target else l.lastDefault) = l.candidate
      from rfl]
    by_cases hfit : g.fits l.candidate l.valueType = true
    · rw [if_pos hfit]
      exact .inr (.inl ⟨hs, hfit, rfl⟩)
    · -- the default kind of a type is registered, so a default is created
      have hkind := fallback_fits l.valueType
      rw [hk, Option.all_some] at hkind
      cases hcreate : Kind.create? kindId with
      | none =>
        rw [hcreate] at hkind
        cases hkind
      | some k =>
        refine .inr (.inr ⟨hs, Bool.eq_false_iff.mpr hfit, kindId, k, rfl, hcreate, ?_⟩)
        rw [if_neg hfit, StateT.run_bind, run_createFallback_of_create hcreate]
        cases idSub g.nextFallbackId 1 <;> rfl

theorem fallback_kind {t : ValueType} {kindId : String} {k : Kind}
    (hid : Kind.fallbackId? t = some kindId) (hk : Kind.create? kindId = some k) :
    k.isDefault = true ∧ Typing.accepts t k.declaredType = true := by
  have h := fallback_fits t
  rw [hid, Option.all_some, hk, Option.any_some] at h
  exact Bool.and_eq_true_iff.mp h

theorem inputs_new_of_isDefault {k : Kind} (hk : k.isDefault = true) (x : NodeId) :
    (Node.new x k).inputs = [] := by
  obtain ⟨c, rfl⟩ := Kind.eq_fallback_of_isDefault hk
  rfl

/-! ### Links by position -/

theorem linkAt?_eq_some {g : Graph} {x : NodeId} {i : Nat} {l : Link} :
    g.linkAt? x i = some l ↔ ∃ n, g.node? x = some n ∧ n.inputs[i]? = some l :=
  Option.bind_eq_some_iff

theorem linkAt?_of_lt {g : Graph} {x : NodeId} {n : Node} (hn : g.node? x = some n) {i : Nat}
    (hi : i < n.inputs.length) : g.linkAt? x i = some n.inputs[i] :=
  linkAt?_eq_some.mpr ⟨n, hn, List.getElem?_eq_getElem hi⟩

theorem linkAt?_setLink (g : Graph) (x : NodeId) (k : Nat) (f : Link → Link) (y : NodeId)
    (i : Nat) : (g.setLink x k f).linkAt? y i =
      if y = x ∧ i = k then (g.linkAt? x k).map f else g.linkAt? y i := by
  unfold linkAt?
  rw [node?_setLink]
  by_cases hy : y = x
  · subst hy
    cases g.node? y with
    | none => simp
    | some n =>
      by_cases hi : i = k
      · subst hi
        simp [Node.input?]
      · simp [Node.input?, hi, Ne.symm hi]
  · simp [hy]

theorem linkAt?_append {g g₁ : Graph} {ms : List Node} (h : g₁.nodes = g.nodes ++ ms)
    (hms : ∀ m ∈ ms, m.inputs = []) (y : NodeId) (i : Nat) : g₁.linkAt? y i = g.linkAt? y i := by
  unfold linkAt?
  cases hy : g.node? y with
  | some n => rw [node?_append h hy]
  | none =>
    cases hy₁ : g₁.node? y with
    | none => rfl
    | some m =>
      rcases node?_append_cases h hy₁ with hm | hm
      · rw [hy] at hm
        cases hm
      · simp [Node.input?, hms m hm]

/-! ### Inputs and the defaults they need -/

/-- The positions of the inputs of node `x`, in order. -/
def inputsOf (g : Graph) (x : NodeId) : List (NodeId × Nat) :=
  (List.range (((g.node? x).map (·.inputs.length)).getD 0)).map (x, ·)

/-- Every input, in the order injection visits them: node by node in arena order, and the inputs
of each node in order. -/
def inputSlots (g : Graph) : List (NodeId × Nat) := g.ids.flatMap g.inputsOf

/-- The input at `slot` takes a default and its candidate does not fit, so injection creates a
default for it. -/
def needsFresh (g : Graph) (slot : NodeId × Nat) : Bool :=
  (g.linkAt? slot.1 slot.2).any fun l => !l.skipsInjection && !g.fits l.candidate l.valueType

/-- The inputs injection creates a default for, in the order it creates them. -/
def freshSlots (g : Graph) : List (NodeId × Nat) := g.inputSlots.filter g.needsFresh

/-- The node the input at `slot` reads. -/
def targetAt (g : Graph) (slot : NodeId × Nat) : NodeId :=
  ((g.linkAt? slot.1 slot.2).map (·.target)).getD noNode

/-- Every candidate is a node of the graph or lies above the default counter, where no default is
created. -/
def CandidatesKnown (g : Graph) : Prop :=
  ∀ n ∈ g.nodes, ∀ l ∈ n.inputs, l.candidate ∈ g.ids ∨ g.nextFallbackId < l.candidate

instance : DecidablePred CandidatesKnown := fun g =>
  inferInstanceAs (Decidable (∀ n ∈ g.nodes, ∀ l ∈ n.inputs,
    l.candidate ∈ g.ids ∨ g.nextFallbackId < l.candidate))

/-- In a graph whose links name nodes of the arena every candidate is a node or names none, which
lies above the default counter: so every graph edits reach has its candidates known. -/
theorem LinksResolved.candidatesKnown {g : Graph} (hok : IdsOk g) (h : g.LinksResolved) :
    g.CandidatesKnown := by
  intro n hn l hl
  have hmem : l.candidate ∈ g.refs := by
    refine mem_refs.mpr ⟨n, hn, mem_linkRefs.mpr ⟨l, hl, ?_⟩⟩
    unfold Link.candidate
    split
    · exact .inl rfl
    · exact .inr rfl
  rcases h _ hmem with hc | hc
  · have := hok.fallback_le
    rw [hc]
    exact .inr (by unfold noNode; omega)
  · exact .inl hc

theorem mem_inputsOf {g : Graph} {x : NodeId} {s : NodeId × Nat} (h : s ∈ g.inputsOf x) :
    s.1 = x := by
  obtain ⟨i, -, rfl⟩ := List.mem_map.mp h
  rfl

/-- What injection into `g`, ending in `g'`, does to input `l`, which becomes `l'`: an input that
skips injection is kept; any other reads and remembers a default `d` that fits it in `g'`, which
is its candidate when that fits in `g`, and otherwise a node new to `g` of the type's default
kind. -/
def Injected (g g' : Graph) (l l' : Link) : Prop :=
  if l.skipsInjection then l' = l
  else ∃ d, l' = l.setDefault d ∧ g'.fits d l.valueType = true ∧
    if g.fits l.candidate l.valueType then d = l.candidate
    else d ∉ g.ids ∧ ∃ m, g'.node? d = some m ∧
      (Kind.fallbackId? l.valueType).bind Kind.create? = some m.kind

/-! ### Graphs that keep their nodes -/

/-- `g'` keeps every node of `g` with all it holds but the links of its inputs, adds only new
default nodes, and changes nothing else but the default counter and the log. -/
structure Reshapes (g g' : Graph) : Prop where
  kept : ∀ x n, g.node? x = some n → ∃ n', g'.node? x = some n' ∧
    { n' with inputs := [] } = { n with inputs := [] } ∧ n'.inputs.length = n.inputs.length
  added : ∀ x m, g'.node? x = some m → g.node? x = none →
    m = Node.new x m.kind ∧ m.kind.isDefault = true
  rest : { g' with nodes := [], nextFallbackId := 0, events := [] } =
    { g with nodes := [], nextFallbackId := 0, events := [] }

theorem Node.eq_of_inputs {m m' : Node} (h : { m with inputs := [] } = { m' with inputs := [] })
    (hin : m.inputs = m'.inputs) : m = m' := by
  obtain ⟨_, _, _, _, _⟩ := m
  obtain ⟨_, _, _, _, _⟩ := m'
  simp only [Node.mk.injEq] at h hin ⊢
  exact ⟨h.1, h.2.1, hin, h.2.2.2⟩

namespace Reshapes

variable {g g₁ g₂ : Graph}

theorem refl (g : Graph) : Reshapes g g :=
  ⟨fun _ n hn => ⟨n, hn, rfl, rfl⟩, fun _ _ hm hn => (by rw [hn] at hm; cases hm), rfl⟩

theorem kind (h : Reshapes g g₁) (x : NodeId) (n : Node) (hn : g.node? x = some n) :
    ∃ n', g₁.node? x = some n' ∧ n'.kind = n.kind := by
  obtain ⟨n', hn', hs, -⟩ := h.kept x n hn
  have hk := congrArg Node.kind hs
  exact ⟨n', hn', hk⟩

theorem trans (h₁ : Reshapes g g₁) (h₂ : Reshapes g₁ g₂) : Reshapes g g₂ := by
  refine ⟨fun x n hn => ?_, fun x m hm hn => ?_, h₂.rest.trans h₁.rest⟩
  · obtain ⟨n₁, hn₁, hs₁, hl₁⟩ := h₁.kept x n hn
    obtain ⟨n₂, hn₂, hs₂, hl₂⟩ := h₂.kept x n₁ hn₁
    exact ⟨n₂, hn₂, hs₂.trans hs₁, hl₂.trans hl₁⟩
  · cases hn₁ : g₁.node? x with
    | none => exact h₂.added x m hm hn₁
    | some m₁ =>
      -- a default added first is kept after: it has no inputs, so it stays as it was made
      obtain ⟨hm₁, hd₁⟩ := h₁.added x m₁ hn₁ hn
      obtain ⟨m₂, hm₂, hs, hlen⟩ := h₂.kept x m₁ hn₁
      rw [hm, Option.some_inj] at hm₂
      subst hm₂
      have hin₁ : m₁.inputs = [] := by
        rw [hm₁]
        exact inputs_new_of_isDefault hd₁ x
      have hin : m.inputs = m₁.inputs := by
        rw [hin₁, ← List.length_eq_zero_iff, hlen, hin₁]
        rfl
      rw [Node.eq_of_inputs hs hin]
      exact ⟨hm₁, hd₁⟩

theorem inputCount (h : Reshapes g g₁) (x : NodeId) :
    ((g₁.node? x).map (·.inputs.length)).getD 0 = ((g.node? x).map (·.inputs.length)).getD 0 := by
  cases hx : g.node? x with
  | some n =>
    obtain ⟨n', hn', -, hlen⟩ := h.kept x n hx
    rw [hn']
    exact hlen
  | none =>
    cases hx₁ : g₁.node? x with
    | none => rfl
    | some m =>
      obtain ⟨hm, hd⟩ := h.added x m hx₁ hx
      show m.inputs.length = 0
      rw [hm, inputs_new_of_isDefault hd]
      rfl

end Reshapes

theorem reshapes_setLink (g : Graph) (x : NodeId) (k : Nat) (f : Link → Link) :
    Reshapes g (g.setLink x k f) := by
  refine ⟨fun y n hn => ?_, fun y m hm hn => ?_, rfl⟩
  · rw [node?_setLink]
    by_cases hy : y = x
    · subst hy
      rw [if_pos rfl, hn]
      exact ⟨_, rfl, rfl, List.length_modify ..⟩
    · rw [if_neg hy]
      exact ⟨n, hn, rfl, rfl⟩
  · rw [node?_setLink] at hm
    by_cases hy : y = x
    · subst hy
      rw [if_pos rfl, hn] at hm
      cases hm
    · rw [if_neg hy, hn] at hm
      cases hm

theorem reshapes_addDefault {g : Graph} {N next : NodeId} {k : Kind} (e : Event)
    (hN : N ∉ g.ids) (hk : k.isDefault = true) :
    Reshapes g ({ g with nodes := g.nodes ++ [Node.new N k], nextFallbackId := next }.emit e) := by
  refine ⟨fun y n hn => ⟨n, node?_append rfl hn, rfl, rfl⟩, fun y m hm hn => ?_, rfl⟩
  rw [node?_snoc (x := N) rfl rfl hN] at hm
  by_cases hy : y = N
  · rw [if_pos hy, Option.some_inj] at hm
    subst hm hy
    exact ⟨rfl, hk⟩
  · rw [if_neg hy, hn] at hm
    cases hm

theorem linkAt?_withFallback {g : Graph} {x : NodeId} {k : Nat} {kindId : String} {kd : Kind}
    (next : NodeId) (hkd : kd.isDefault = true) (y : NodeId) (i : Nat) :
    (g.withFallback x k kindId kd next).linkAt? y i =
      if y = x ∧ i = k then (g.linkAt? x k).map (Link.setDefault g.nextFallbackId)
      else g.linkAt? y i := by
  -- the new default has no inputs, so appending it changes no input
  have hnodes : ∀ m ∈ [Node.new g.nextFallbackId kd], m.inputs = [] := fun m hm => by
    rw [List.mem_singleton.mp hm]
    exact inputs_new_of_isDefault hkd _
  rw [withFallback, linkAt?_setLink, linkAt?_append (g := g) rfl hnodes x k,
    linkAt?_append (g := g) rfl hnodes y i]

theorem node?_withFallback {g : Graph} {x : NodeId} {k : Nat} {kindId : String} {kd : Kind}
    (next : NodeId) (hN : g.nextFallbackId ∉ g.ids) (hx : x ∈ g.ids) :
    (g.withFallback x k kindId kd next).node? g.nextFallbackId =
      some (Node.new g.nextFallbackId kd) := by
  have hxN : g.nextFallbackId ≠ x := fun h => hN (h ▸ hx)
  rw [withFallback, node?_setLink, if_neg hxN, node?_snoc (x := g.nextFallbackId) rfl rfl hN,
    if_pos rfl]

theorem ids_withFallback (g : Graph) (x : NodeId) (k : Nat) (kindId : String) (kd : Kind)
    (next : NodeId) : (g.withFallback x k kindId kd next).ids = g.ids ++ [g.nextFallbackId] := by
  rw [withFallback, ids_setLink]
  show (g.nodes ++ [Node.new g.nextFallbackId kd]).map (·.id) = g.ids ++ _
  rw [List.map_append]
  rfl

theorem reshapes_withFallback {g : Graph} {x : NodeId} {k : Nat} {kindId : String} {kd : Kind}
    (next : NodeId) (hN : g.nextFallbackId ∉ g.ids) (hkd : kd.isDefault = true) :
    Reshapes g (g.withFallback x k kindId kd next) :=
  (reshapes_addDefault _ hN hkd).trans (reshapes_setLink ..)

theorem Injected.mono {g g₁ g₂ : Graph} {l l' : Link} (h : g.Injected g₁ l l')
    (hR : Reshapes g₁ g₂) : g.Injected g₂ l l' := by
  unfold Injected at h ⊢
  by_cases hs : l.skipsInjection = true
  · rw [if_pos hs] at h ⊢
    exact h
  rw [if_neg hs] at h ⊢
  obtain ⟨d, rfl, hfit, hd⟩ := h
  refine ⟨d, rfl, fits_of_kind (hR.kind d) hfit, ?_⟩
  by_cases hc : g.fits l.candidate l.valueType = true
  · rw [if_pos hc] at hd ⊢
    exact hd
  · rw [if_neg hc] at hd ⊢
    obtain ⟨hnew, m, hm, hk⟩ := hd
    obtain ⟨m', hm', hk'⟩ := hR.kind d m hm
    exact ⟨hnew, m', hm', hk'.symm ▸ hk⟩

/-! ### The invariant of the pass -/

/-- The graph `gt` that injection into `g` has made once it has visited the inputs `done`: its ids
keep to the counters; it keeps the nodes of `g` and adds new defaults; the inputs visited are
treated as `Injected` says and the others read what they read; and the defaults it created are
the targets of the inputs visited that needed one, under ids counting down from the counter of
`g`. -/
structure Treated (g : Graph) (done : List (NodeId × Nat)) (gt : Graph) : Prop where
  ok : IdsOk gt
  reshapes : Reshapes g gt
  links : ∀ x i l, g.linkAt? x i = some l → ∃ l', gt.linkAt? x i = some l' ∧
    if (x, i) ∈ done then g.Injected gt l l' else l' = l
  ids : gt.ids = g.ids ++ (done.filter g.needsFresh).map gt.targetAt
  descending : (done.filter g.needsFresh).map gt.targetAt =
    (List.range (done.filter g.needsFresh).length).map fun j : Nat => g.nextFallbackId - j
  counter : gt.nextFallbackId = g.nextFallbackId - (done.filter g.needsFresh).length

namespace Treated

variable {g gt gt' : Graph} {done : List (NodeId × Nat)} {x : NodeId} {k : Nat} {l : Link}

theorem start (hok : IdsOk g) : g.Treated [] g :=
  ⟨hok, .refl g, fun _ _ l hl => ⟨l, hl, by simp⟩, by simp, rfl, by simp⟩

theorem nodup (hT : g.Treated done gt) : g.ids.Nodup := by
  have h := hT.ok.nodup
  rw [hT.ids] at h
  exact (List.nodup_append.mp h).1

theorem linkAt?_eq (hT : g.Treated done gt) (hs : (x, k) ∉ done) (hl : g.linkAt? x k = some l) :
    gt.linkAt? x k = some l := by
  obtain ⟨l', hl', hll⟩ := hT.links x k l hl
  rw [if_neg hs] at hll
  rwa [hll] at hl'

theorem mem_ids (hT : g.Treated done gt) {y : NodeId} (hy : y ∈ gt.ids) :
    y ∈ g.ids ∨ y ≤ g.nextFallbackId := by
  rw [hT.ids, hT.descending, List.mem_append, List.mem_map] at hy
  rcases hy with hy | ⟨j, -, rfl⟩
  · exact .inl hy
  · right
    show g.nextFallbackId - (j : Int) ≤ g.nextFallbackId
    omega

theorem fits_candidate (hknown : g.CandidatesKnown) (hT : g.Treated done gt)
    (hl : g.linkAt? x k = some l) (t : ValueType) :
    gt.fits l.candidate t = g.fits l.candidate t := by
  obtain ⟨n, hn, hnl⟩ := linkAt?_eq_some.mp hl
  by_cases hc : l.candidate ∈ g.ids
  · obtain ⟨m, hm⟩ := Option.ne_none_iff_exists'.mp fun h => node?_eq_none.mp h hc
    obtain ⟨m', hm', hk⟩ := hT.reshapes.kind _ m hm
    simp only [fits, hm, hm', hk]
  · have habove := (hknown n (node?_eq_some hn).1 l (List.mem_of_getElem? hnl)).resolve_left hc
    have hgt : l.candidate ∉ gt.ids := fun hm => by
      rcases hT.mem_ids hm with hm | hm
      · exact hc hm
      · exact absurd hm (Int.not_le.mpr habove)
    simp only [fits, node?_eq_none.mpr hc, node?_eq_none.mpr hgt]

/-- What injection does at an input of `g` it has not visited, in the graph it has made so far:
the input skips injection; or its candidate fits and is kept; or it needs a new default, which is
created under the next default id. -/
theorem fill_cases (hknown : g.CandidatesKnown) (hT : g.Treated done gt) (hs : (x, k) ∉ done)
    (hl : g.linkAt? x k = some l) :
    (g.needsFresh (x, k) = false ∧ l.skipsInjection = true ∧
      (fillInput x k).run gt = .ok ((), gt)) ∨
    (g.needsFresh (x, k) = false ∧ l.skipsInjection = false ∧
      g.fits l.candidate l.valueType = true ∧
      (fillInput x k).run gt = .ok ((), gt.setLink x k (Link.setDefault l.candidate))) ∨
    (g.needsFresh (x, k) = true ∧ l.skipsInjection = false ∧
      g.fits l.candidate l.valueType = false ∧
      ∃ kindId kd, Kind.fallbackId? l.valueType = some kindId ∧ Kind.create? kindId = some kd ∧
        (fillInput x k).run gt = (idSub gt.nextFallbackId 1).map fun next =>
          ((), gt.withFallback x k kindId kd next)) := by
  obtain ⟨n, hn, hnl⟩ := linkAt?_eq_some.mp (hT.linkAt?_eq hs hl)
  have hfits := hT.fits_candidate hknown hl l.valueType
  have hfresh : g.needsFresh (x, k) = (!l.skipsInjection && !g.fits l.candidate l.valueType) := by
    simp [needsFresh, hl]
  rcases run_fillInput_cases hn hnl with ⟨hskip, hr⟩ | ⟨hskip, hfit, hr⟩ | ⟨hskip, hfit, hr⟩
  · exact .inl ⟨by simp [hfresh, hskip], hskip, hr⟩
  · rw [hfits] at hfit
    exact .inr (.inl ⟨by simp [hfresh, hskip, hfit], hskip, hfit, hr⟩)
  · rw [hfits] at hfit
    exact .inr (.inr ⟨by simp [hfresh, hskip, hfit], hskip, hfit, hr⟩)

/-- One input visited: `gt'` keeps the nodes and the other inputs of `gt`, treats the input as
`Injected` says, and adds the next default when the input needs a new one. -/
theorem step (hT : g.Treated done gt) (hs : (x, k) ∉ done) (hl : g.linkAt? x k = some l)
    (hok : IdsOk gt') (hR : Reshapes gt gt')
    (hframe : ∀ y i, (y, i) ≠ (x, k) → gt'.linkAt? y i = gt.linkAt? y i)
    (hlink : ∃ l', gt'.linkAt? x k = some l' ∧ g.Injected gt' l l')
    (hfresh : g.needsFresh (x, k) = true → gt'.ids = gt.ids ++ [gt.nextFallbackId] ∧
      gt'.nextFallbackId = gt.nextFallbackId - 1 ∧ gt'.targetAt (x, k) = gt.nextFallbackId)
    (hkeep : g.needsFresh (x, k) = false → gt'.ids = gt.ids ∧
      gt'.nextFallbackId = gt.nextFallbackId) :
    g.Treated (done ++ [(x, k)]) gt' := by
  -- the inputs visited before keep their targets
  have hmap : (done.filter g.needsFresh).map gt'.targetAt =
      (done.filter g.needsFresh).map gt.targetAt := by
    refine List.map_congr_left fun s hsd => ?_
    have hne : s ≠ (x, k) := fun h => hs (h ▸ (List.mem_filter.mp hsd).1)
    unfold targetAt
    rw [hframe s.1 s.2 hne]
  have hlinks : ∀ y i l₀, g.linkAt? y i = some l₀ → ∃ l', gt'.linkAt? y i = some l' ∧
      if (y, i) ∈ done ++ [(x, k)] then g.Injected gt' l₀ l' else l' = l₀ := by
    intro y i l₀ h₀
    by_cases hyi : (y, i) = (x, k)
    · obtain ⟨rfl, rfl⟩ := Prod.mk.inj hyi
      rw [hl, Option.some_inj] at h₀
      subst h₀
      obtain ⟨l', hl', hI⟩ := hlink
      refine ⟨l', hl', ?_⟩
      rw [if_pos (List.mem_append_right _ (List.mem_singleton_self _))]
      exact hI
    · obtain ⟨l', hl', hI⟩ := hT.links y i l₀ h₀
      refine ⟨l', (hframe y i hyi).trans hl', ?_⟩
      have hmem : (y, i) ∈ done ++ [(x, k)] ↔ (y, i) ∈ done := by simp [hyi]
      by_cases hd : (y, i) ∈ done
      · rw [if_pos (hmem.mpr hd)]
        rw [if_pos hd] at hI
        exact hI.mono hR
      · rw [if_neg (mt hmem.mp hd)]
        rw [if_neg hd] at hI
        exact hI
  cases hf : g.needsFresh (x, k) with
  | false =>
    obtain ⟨hids, hcounter⟩ := hkeep hf
    have hfilter : (done ++ [(x, k)]).filter g.needsFresh = done.filter g.needsFresh := by
      simp [List.filter_append, hf]
    refine ⟨hok, hT.reshapes.trans hR, hlinks, ?_, ?_, ?_⟩ <;> rw [hfilter]
    · rw [hmap, hids, hT.ids]
    · rw [hmap, hT.descending]
    · rw [hcounter, hT.counter]
  | true =>
    -- the new default comes last, under the next id down
    obtain ⟨hids, hcounter, htarget⟩ := hfresh hf
    have hfilter : (done ++ [(x, k)]).filter g.needsFresh =
        done.filter g.needsFresh ++ [(x, k)] := by
      simp [List.filter_append, hf]
    refine ⟨hok, hT.reshapes.trans hR, hlinks, ?_, ?_, ?_⟩ <;>
      rw [hfilter]
    · rw [List.map_append, hmap, List.map_singleton, htarget, hids, hT.ids, List.append_assoc]
    · rw [List.map_append, hmap, List.map_singleton, htarget, hT.descending, hT.counter,
        List.length_append, List.length_singleton, List.range_succ, List.map_append,
        List.map_singleton]
    · rw [hcounter, hT.counter, List.length_append, List.length_singleton]
      omega

/-- The invariant after injection visits one more input. -/
theorem fill (hknown : g.CandidatesKnown) (hT : g.Treated done gt) (hs : (x, k) ∉ done)
    (hl : g.linkAt? x k = some l) (hrun : (fillInput x k).run gt = .ok ((), gt')) :
    g.Treated (done ++ [(x, k)]) gt' := by
  have hok : IdsOk gt' := hT.ok.arenaRun (moves_fillInput x k gt () gt' hrun)
  have hlx : gt.linkAt? x k = some l := hT.linkAt?_eq hs hl
  have hother : ∀ (g₀ : Graph) (f : Link → Link) y i, (y, i) ≠ (x, k) →
      (g₀.setLink x k f).linkAt? y i = g₀.linkAt? y i := fun g₀ f y i hne => by
    rw [linkAt?_setLink, if_neg fun h => hne (by rw [h.1, h.2])]
  rcases hT.fill_cases hknown hs hl with ⟨hf, hskip, hr⟩ | ⟨hf, hskip, hfit, hr⟩ |
    ⟨hf, hskip, hfit, kindId, kd, hkind, hcreate, hr⟩
  · -- the input is left as it is
    rw [hr] at hrun
    cases hrun
    refine hT.step hs hl hok (.refl gt) (fun _ _ _ => rfl) ⟨l, hlx, ?_⟩
      (fun h => by rw [hf] at h; cases h) fun _ => ⟨rfl, rfl⟩
    unfold Injected
    rw [if_pos hskip]
  · -- the candidate fits and is kept
    rw [hr] at hrun
    cases hrun
    refine hT.step hs hl hok (reshapes_setLink ..) (hother gt _)
      ⟨l.setDefault l.candidate, by rw [linkAt?_setLink, if_pos ⟨rfl, rfl⟩, hlx]; rfl, ?_⟩
      (fun h => by rw [hf] at h; cases h) fun _ => ⟨ids_setLink .., rfl⟩
    unfold Injected
    rw [if_neg (by rw [hskip]; decide)]
    refine ⟨l.candidate, rfl, ?_, by rw [if_pos hfit]⟩
    rw [fits_setLink, hT.fits_candidate hknown hl]
    exact hfit
  · -- a new default of the type's default kind is created under the next default id
    cases hsub : idSub gt.nextFallbackId 1 with
    | error e =>
      rw [hr, hsub] at hrun
      cases hrun
    | ok next =>
      rw [hr, hsub] at hrun
      cases hrun
      have hkd := fallback_kind hkind hcreate
      have hN : gt.nextFallbackId ∉ gt.ids := hT.ok.nextFallbackId_fresh
      have hx : x ∈ gt.ids := by
        obtain ⟨n, hn, -⟩ := linkAt?_eq_some.mp hlx
        exact mem_ids_of_node? hn
      have hlink : (gt.withFallback x k kindId kd next).linkAt? x k =
          some (l.setDefault gt.nextFallbackId) := by
        rw [linkAt?_withFallback next hkd.1, if_pos ⟨rfl, rfl⟩, hlx]
        rfl
      have hnew : (gt.withFallback x k kindId kd next).node? gt.nextFallbackId =
          some (Node.new gt.nextFallbackId kd) :=
        node?_withFallback next hN hx
      refine hT.step hs hl hok (reshapes_withFallback next hN hkd.1)
        (fun y i hne => by
          rw [linkAt?_withFallback next hkd.1, if_neg fun h => hne (by rw [h.1, h.2])])
        ⟨_, hlink, ?_⟩ (fun _ => ⟨ids_withFallback .., (idSub_eq_ok.mp hsub).1, ?_⟩)
        (fun h => by rw [hf] at h; cases h)
      · unfold Injected
        rw [if_neg (by rw [hskip]; decide)]
        refine ⟨gt.nextFallbackId, rfl, ?_, ?_⟩
        · simp only [fits, hnew]
          exact Bool.and_eq_true_iff.mpr hkd
        rw [if_neg (by rw [hfit]; decide)]
        refine ⟨fun h => hN ?_, _, hnew, ?_⟩
        · rw [hT.ids]
          exact List.mem_append_left _ h
        · rw [hkind, Option.bind_some]
          exact hcreate
      · unfold targetAt
        rw [hlink]
        rfl

theorem fill_ok (hknown : g.CandidatesKnown) (hT : g.Treated done gt) (hs : (x, k) ∉ done)
    (hl : g.linkAt? x k = some l)
    (hroom : (((done ++ [(x, k)]).filter g.needsFresh).length : Int) ≤
      g.nextFallbackId - idMin) :
    ∃ gt', (fillInput x k).run gt = .ok ((), gt') := by
  rcases hT.fill_cases hknown hs hl with ⟨-, -, hr⟩ | ⟨-, -, -, hr⟩ |
    ⟨hf, -, -, kindId, kd, -, -, hr⟩
  · exact ⟨_, hr⟩
  · exact ⟨_, hr⟩
  · -- the counter has room for one more default
    have hlen : ((done ++ [(x, k)]).filter g.needsFresh).length =
        (done.filter g.needsFresh).length + 1 := by
      simp [List.filter_append, hf]
    have hsub : idSub gt.nextFallbackId 1 = .ok (gt.nextFallbackId - 1) := by
      have hle := hT.ok.fallback_le
      have hcounter := hT.counter
      rw [hlen] at hroom
      rw [idSub_eq_ok]
      refine ⟨rfl, ?_, ?_⟩ <;> simp only [idMin, idMax] at * <;> omega
    rw [hr, hsub]
    exact ⟨_, rfl⟩

/-- Where the inner loop stands at input `k` of node `x`, past the nodes `pre` and the inputs `js`
of `x`: the input exists and has not been visited, and the inputs visited with it come first in the
visiting order. -/
theorem visit (hnd : g.ids.Nodup) {pre rest : List NodeId} {js ks : List Nat}
    (hsplit : pre ++ x :: rest = g.ids)
    (hsplit' : js ++ k :: ks = List.range (((g.node? x).map (·.inputs.length)).getD 0)) :
    (∃ l, g.linkAt? x k = some l) ∧ (x, k) ∉ pre.flatMap g.inputsOf ++ js.map (x, ·) ∧
      pre.flatMap g.inputsOf ++ js.map (x, ·) ++ [(x, k)] <+: g.inputSlots := by
  have hx : x ∈ g.ids := hsplit ▸ List.mem_append_right _ (List.mem_cons_self ..)
  obtain ⟨n, hn⟩ := Option.ne_none_iff_exists'.mp fun h => node?_eq_none.mp h hx
  have hxs : g.inputsOf x = (js ++ k :: ks).map (x, ·) := by
    rw [hsplit']
    rfl
  refine ⟨?_, ?_, ks.map (x, ·) ++ rest.flatMap g.inputsOf, ?_⟩
  · rw [hn, Option.map_some, Option.getD_some] at hsplit'
    exact ⟨_, linkAt?_of_lt hn (eq_length_of_append_eq_range hsplit').2⟩
  · -- `x` comes once in the ids and `k` once in the range
    have hpre : x ∉ pre := by
      have h : (pre ++ x :: rest).Nodup := by rw [hsplit]; exact hnd
      exact fun hm => (List.nodup_append.mp h).2.2 x hm x (List.mem_cons_self ..) rfl
    have hjs : k ∉ js := by
      have h : (js ++ k :: ks).Nodup := by rw [hsplit']; exact List.nodup_range
      exact fun hm => (List.nodup_append.mp h).2.2 k hm k (List.mem_cons_self ..) rfl
    rw [List.mem_append, List.mem_flatMap, List.mem_map]
    rintro (⟨y, hy, hmem⟩ | ⟨j, hj, hjk⟩)
    · exact hpre (by rw [show x = y from mem_inputsOf hmem]; exact hy)
    · exact hjs ((Prod.mk.inj hjk).2 ▸ hj)
  · rw [inputSlots, ← hsplit, List.flatMap_append, List.flatMap_cons, hxs]
    simp

/-- The inputs of node `x` visited in order: the step of the outer loop. -/
theorem node (hknown : g.CandidatesKnown) {pre rest : List NodeId}
    (hsplit : pre ++ x :: rest = g.ids) (hT : g.Treated (pre.flatMap g.inputsOf) gt)
    {r : ForInStep PUnit}
    (hrun : (do
      let g ← get
      forIn (List.range (((g.node? x).map fun x => x.inputs.length).getD 0)) PUnit.unit
        fun index _ => do
          fillInput x index
          pure (ForInStep.yield PUnit.unit)
      pure (ForInStep.yield PUnit.unit) : GraphM (ForInStep PUnit)).run gt = .ok (r, gt')) :
    r = .yield PUnit.unit ∧ g.Treated ((pre ++ [x]).flatMap g.inputsOf) gt' := by
  obtain ⟨d, g₁, hget, h⟩ := run_bind_eq_ok hrun
  cases hget
  obtain ⟨u, g₂, hloop, hend⟩ := run_bind_eq_ok h
  cases hend
  refine ⟨rfl, ?_⟩
  rw [hT.reshapes.inputCount x] at hloop
  -- the inner loop visits the inputs of `x` in order
  have hF := forIn_inv (List.range (((g.node? x).map fun x => x.inputs.length).getD 0))
    (fun js gt => g.Treated (pre.flatMap g.inputsOf ++ js.map (x, ·)) gt)
    (fun index _ => do
      fillInput x index
      pure (ForInStep.yield PUnit.unit))
    (fun js k ks gt₁ r gt₂ hsplit' hT₁ h => by
      obtain ⟨⟨l, hl⟩, hs, -⟩ := visit hT.nodup hsplit hsplit'
      obtain ⟨u, g₃, hfill, hend⟩ := run_bind_eq_ok h
      cases hend
      refine ⟨rfl, ?_⟩
      rw [List.map_append, List.map_singleton, ← List.append_assoc]
      exact hT₁.fill hknown hs hl hfill)
    _ [] gt _ u rfl (by rw [List.map_nil, List.append_nil]; exact hT) hloop
  rw [List.flatMap_append, List.flatMap_singleton]
  exact hF

theorem node_total (hknown : g.CandidatesKnown)
    (hroom : (g.freshSlots.length : Int) ≤ g.nextFallbackId - idMin) {pre rest : List NodeId}
    (hsplit : pre ++ x :: rest = g.ids) (hT : g.Treated (pre.flatMap g.inputsOf) gt) :
    ∃ gt', (do
      let g ← get
      forIn (List.range (((g.node? x).map fun x => x.inputs.length).getD 0)) PUnit.unit
        fun index _ => do
          fillInput x index
          pure (ForInStep.yield PUnit.unit)
      pure (ForInStep.yield PUnit.unit) : GraphM (ForInStep PUnit)).run gt =
        .ok (.yield PUnit.unit, gt') ∧ g.Treated ((pre ++ [x]).flatMap g.inputsOf) gt' := by
  rw [run_bind_of_ok (run_get gt), hT.reshapes.inputCount x]
  refine forIn_total_pure _ (fun js gt => g.Treated (pre.flatMap g.inputsOf ++ js.map (x, ·)) gt)
    (fun index _ => do
      fillInput x index
      pure (ForInStep.yield PUnit.unit)) (ForInStep.yield PUnit.unit)
    (fun js k ks gt₁ hsplit' hT₁ => ?_) (by rw [List.map_nil, List.append_nil]; exact hT)
    fun gt' hF => by rw [List.flatMap_append, List.flatMap_singleton]; exact hF
  obtain ⟨⟨l, hl⟩, hs, hpre⟩ := visit hT.nodup hsplit hsplit'
  -- the inputs visited so far that need a new default are among those of the whole graph
  have hle := (hpre.filter g.needsFresh).length_le
  unfold freshSlots inputSlots at hroom
  obtain ⟨gt₂, hfill⟩ := hT₁.fill_ok hknown hs hl (by unfold inputSlots at hle; omega)
  refine ⟨gt₂, by rw [run_bind_of_ok hfill]; rfl, ?_⟩
  rw [List.map_append, List.map_singleton, ← List.append_assoc]
  exact hT₁.fill hknown hs hl hfill

end Treated

/-! ### The whole pass -/

/-- What injecting defaults into `g` gives, said of `g` alone: every node keeps its place and all
it holds but the links of its inputs, and each input is treated as `Injected` says; the nodes added
are new default nodes, one for each input that needs one, in the order the inputs are visited,
under ids counting down from the default counter; and nothing else changes but the log. -/
structure Injects (g g' : Graph) : Prop where
  nodes : ∀ x n, g.node? x = some n → ∃ n', g'.node? x = some n' ∧
    { n' with inputs := [] } = { n with inputs := [] } ∧
    List.Forall₂ (g.Injected g') n.inputs n'.inputs
  added : ∀ x m, g'.node? x = some m → x ∉ g.ids →
    m = Node.new x m.kind ∧ m.kind.isDefault = true
  ids : g'.ids = g.ids ++ g.freshSlots.map g'.targetAt
  descending : g.freshSlots.map g'.targetAt =
    (List.range g.freshSlots.length).map fun j : Nat => g.nextFallbackId - j
  counter : g'.nextFallbackId = g.nextFallbackId - g.freshSlots.length
  rest : { g' with nodes := [], nextFallbackId := 0, events := [] } =
    { g with nodes := [], nextFallbackId := 0, events := [] }

theorem Treated.injects {g g' : Graph} (hT : g.Treated g.inputSlots g') : g.Injects g' := by
  refine ⟨fun x n hn => ?_, fun x m hm hx => hT.reshapes.added x m hm (node?_eq_none.mpr hx),
    hT.ids, hT.descending, hT.counter, hT.reshapes.rest⟩
  obtain ⟨n', hn', hs, hlen⟩ := hT.reshapes.kept x n hn
  refine ⟨n', hn', hs, List.forall₂_of_length_eq_of_get hlen.symm fun i h₁ h₂ => ?_⟩
  obtain ⟨l', hl', hI⟩ := hT.links x i _ (linkAt?_of_lt hn h₁)
  -- every input of a node of `g` is visited
  have hmem : (x, i) ∈ g.inputSlots :=
    List.mem_flatMap.mpr ⟨x, mem_ids_of_node? hn, by simp [inputsOf, hn, h₁]⟩
  rw [if_pos hmem] at hI
  rw [linkAt?_of_lt hn' h₂, Option.some_inj] at hl'
  subst hl'
  exact hI

theorem injectFallbacks_treated {g g' : Graph} (hok : IdsOk g) (hknown : g.CandidatesKnown)
    (h : injectFallbacks.run g = .ok ((), g')) : g.Treated g.inputSlots g' := by
  unfold injectFallbacks at h
  rw [run_bind_of_ok (run_get g)] at h
  exact (forIn_inv_pure _ (fun pre gt => g.Treated (pre.flatMap g.inputsOf) gt) _
    (fun _ _ _ _ _ _ hsplit hT h => hT.node hknown hsplit h) (Treated.start hok) h).2

theorem injectFallbacks_ok {g : Graph} (hok : IdsOk g) (hknown : g.CandidatesKnown)
    (hroom : (g.freshSlots.length : Int) ≤ g.nextFallbackId - idMin) :
    ∃ g', injectFallbacks.run g = .ok ((), g') := by
  unfold injectFallbacks
  rw [run_bind_of_ok (run_get g)]
  exact (forIn_total_pure _ (fun pre gt => g.Treated (pre.flatMap g.inputsOf) gt) _ ()
    (fun _ _ _ _ hsplit hT => hT.node_total hknown hroom hsplit) (Treated.start hok)
    fun _ hT => hT).imp fun _ h => h.1

/-- Injecting defaults into a graph whose ids keep to the counters and whose candidates are known
does what `Injects` says; it succeeds exactly when the default ids left cover the inputs that need
a new default. -/
theorem injectFallbacks_outcome {g : Graph} (hok : IdsOk g) (hknown : g.CandidatesKnown) :
    (∀ g', injectFallbacks.run g = .ok ((), g') → g.Injects g') ∧
    ((∃ g', injectFallbacks.run g = .ok ((), g')) ↔
      (g.freshSlots.length : Int) ≤ g.nextFallbackId - idMin) := by
  refine ⟨fun g' h => (injectFallbacks_treated hok hknown h).injects, fun ⟨g', h⟩ => ?_,
    injectFallbacks_ok hok hknown⟩
  -- the counter ends as many ids down as defaults were made, and stays in range
  have hT := injectFallbacks_treated hok hknown h
  have hge := hT.ok.fallback_ge
  rw [hT.counter] at hge
  unfold freshSlots
  omega

theorem redeclaredAdd_injects : IdsOk addGraph.redeclared ∧
    addGraph.redeclared.CandidatesKnown ∧ ∃ g', injectFallbacks.run addGraph.redeclared =
      .ok ((), g') ∧ addGraph.redeclared.Injects g' := by
  have hok := idsOk_addGraph.redeclared
  have hknown : addGraph.redeclared.CandidatesKnown := by decide
  obtain ⟨hinj, hiff⟩ := injectFallbacks_outcome hok hknown
  obtain ⟨g', h⟩ := hiff.mpr (by decide)
  exact ⟨hok, hknown, g', h, hinj g' h⟩

/-- Loading `math|1|0 0|-2 -2|2` gives node 1 two inputs whose candidate `-2` is no node but the
next default id, so the candidates are not known. Both inputs need a new default, yet injection
creates `-2` for the first and then finds it as the candidate of the second: the two inputs share
one default where ids counting down would give them `-2` and `-3`. -/
theorem ofText_shares_new_default :
    ((ofText "math|1|0 0|-2 -2|2").toOption.bind (·.toOption)).bind (fun g =>
      (injectFallbacks.run g.redeclared).toOption.map fun r =>
        (decide g.redeclared.CandidatesKnown, g.redeclared.freshSlots,
          g.redeclared.freshSlots.map r.2.targetAt)) =
      some (false, [(1, 0), (1, 1)], [-2, -2]) := by
  decide +kernel

end Graph

end NodeGraph
