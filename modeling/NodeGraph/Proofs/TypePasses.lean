import NodeGraph.Proofs.SettledTypes

/-!
# The light type pass agrees with the full one

The full pass resolves a node once for every path that reaches it; the light pass resolves each
node once. On an acyclic graph of declared nodes both settle everything upstream of their roots to
the types of `Graph.Settles`, read as visits from a `Ready` state to a `Visited` one, so the light
pass returns the types and leaves the graph that the full pass does
(`Graph.lightPass_eq_fullPass`). This needs no node under `noNode`: an input that a resolve adds
reads `noNode`, and may close a cycle through such a node (`Graph.noNode_chain_splits_passes`).
-/

namespace NodeGraph

namespace Graph

/-- `g'` differs from `g` in its nodes only, which keep their ids in order. -/
def NodesOnly (g g' : Graph) : Prop := g' = { g with nodes := g'.nodes } ∧ g'.ids = g.ids

theorem NodesOnly.refl (g : Graph) : g.NodesOnly g := ⟨rfl, rfl⟩

theorem NodesOnly.trans {g g₁ g₂ : Graph} (h₁ : g.NodesOnly g₁) (h₂ : g₁.NodesOnly g₂) :
    g.NodesOnly g₂ := by
  obtain ⟨h₁, i₁⟩ := h₁
  obtain ⟨h₂, i₂⟩ := h₂
  refine ⟨?_, i₂.trans i₁⟩
  rw [h₁] at h₂
  exact h₂

theorem NodesOnly.updateNode {g g' : Graph} (h : g.NodesOnly g') {id : NodeId} {f : Node → Node}
    (hf : ∀ n, n.id = id → (f n).id = id) : g.NodesOnly (g'.updateNode id f) :=
  h.trans ⟨rfl, ids_updateNode hf⟩

theorem NodesOnly.props_eq {g g' : Graph} (h : g.NodesOnly g') : g'.props = g.props := by
  rw [h.1]

theorem NodesOnly.node?_eq_none {g g' : Graph} (h : g.NodesOnly g') {x : NodeId} (hx : x ∉ g.ids) :
    g'.node? x = none :=
  Graph.node?_eq_none.mpr (h.2 ▸ hx)

/-- Node `x` is upstream of node `t`: following links up from `t` reaches `x`. -/
def Below (g : Graph) (x t : NodeId) : Prop := Relation.ReflTransGen g.Reads x t

/-- Node `x` is upstream of one of the nodes `ts`. -/
def Under (g : Graph) (ts : List NodeId) (x : NodeId) : Prop := ∃ t ∈ ts, g.Below x t

/-- The node under an id once it has settled from the types `σ`. -/
def final (g : Graph) (σ : NodeId → ValueType) (x : NodeId) : Option Node :=
  (g.node? x).map fun n => n.settle (n.targets.map σ) g.props

/-- The full pass from each of the nodes `ids` in turn, each from an empty path. -/
def fullPass (g : Graph) : List NodeId → List ValueType × Graph
  | [] => ([], g)
  | id :: rest =>
    let (t, g) := g.updateTypesFrom id
    let (ts, g) := g.fullPass rest
    (t :: ts, g)

section Passes

variable {g₀ : Graph} {σ : NodeId → ValueType}

theorem Below.refl (g : Graph) (x : NodeId) : g.Below x x := Relation.ReflTransGen.refl

theorem Below.trans {g : Graph} {x y t : NodeId} (h₁ : g.Below x y) (h₂ : g.Below y t) :
    g.Below x t :=
  Relation.ReflTransGen.trans h₁ h₂

theorem Below.of_reads {g : Graph} {x y t : NodeId} (h : g.Below x y) (hr : g.Reads y t) :
    g.Below x t :=
  Relation.ReflTransGen.tail h hr

theorem Below.mem_left {g : Graph} {x t : NodeId} (h : g.Below x t) (ht : t ∈ g.ids) :
    x ∈ g.ids := by
  rcases Relation.ReflTransGen.cases_head h with rfl | ⟨c, hc, -⟩
  · exact ht
  · exact hc.1

theorem Below.mem_right {g : Graph} {x t : NodeId} (h : g.Below x t) (hx : x ∈ g.ids) :
    t ∈ g.ids := by
  rcases Relation.ReflTransGen.cases_tail h with rfl | ⟨c, -, hc⟩
  · exact hx
  · exact hc.mem_right

theorem below_iff {g : Graph} {t x : NodeId} {n : Node} (ht : g.node? t = some n)
    (hx : x ∈ g.ids) : g.Below x t ↔ x = t ∨ g.Under n.targets x := by
  constructor
  · intro h
    rcases Relation.ReflTransGen.cases_tail h with h | ⟨c, hc, -, m, hm, hcm⟩
    · exact .inl h.symm
    · rw [ht] at hm
      cases hm
      exact .inr ⟨c, hcm, hc⟩
  · rintro (rfl | ⟨c, hc, hxc⟩)
    · exact Below.refl g x
    · exact hxc.of_reads ⟨hxc.mem_right hx, n, ht, hc⟩

@[simp] theorem under_singleton {g : Graph} {t x : NodeId} : g.Under [t] x ↔ g.Below x t := by
  simp [Under]

theorem under_cons {g : Graph} {t x : NodeId} {ts : List NodeId} :
    g.Under (t :: ts) x ↔ g.Below x t ∨ g.Under ts x := by
  simp [Under]

theorem Acyclic.under {g : Graph} (hacyc : g.Acyclic) {t x : NodeId} {ts : List NodeId}
    (hts : ∀ y ∈ ts, y ∈ g.ids → g.Reads y t) (hx : x ∈ g.ids) (h : g.Under ts x) :
    g.Below x t ∧ x ≠ t := by
  obtain ⟨y, hy, hxy⟩ := h
  have hr := hts y hy (hxy.mem_right hx)
  refine ⟨hxy.of_reads hr, ?_⟩
  rintro rfl
  exact hacyc x (Relation.TransGen.tail' hxy hr)

/-- A state of a pass, for the nodes upstream of `ts`: the nodes `D` are settled, the others are
as in `g₀`, and what is upstream of a settled node is settled. -/
structure Ready (g₀ : Graph) (σ : NodeId → ValueType) (D : NodeId → Prop) (ts : List NodeId)
    (g : Graph) : Prop where
  shape : g₀.NodesOnly g
  done : ∀ x ∈ g₀.ids, g₀.Under ts x → D x → g.node? x = g₀.final σ x
  todo : ∀ x ∈ g₀.ids, g₀.Under ts x → ¬ D x → g.node? x = g₀.node? x
  closed : ∀ x ∈ g₀.ids, g₀.Under ts x → D x → ∀ y, g₀.Below y x → D y

/-- A pass from `g` to `g'` over the nodes upstream of `ts`: those are settled, the others kept. -/
structure Visited (g₀ : Graph) (σ : NodeId → ValueType) (ts : List NodeId) (g g' : Graph) :
    Prop where
  shape : g₀.NodesOnly g'
  inside : ∀ x ∈ g₀.ids, g₀.Under ts x → g'.node? x = g₀.final σ x
  outside : ∀ x ∈ g₀.ids, ¬ g₀.Under ts x → g'.node? x = g.node? x

theorem Ready.init {D : NodeId → Prop} (hD : ∀ x ∈ g₀.ids, ¬ D x) (ts : List NodeId) :
    Ready g₀ σ D ts g₀ where
  shape := NodesOnly.refl g₀
  done x hx _ hd := absurd hd (hD x hx)
  todo _ _ _ _ := rfl
  closed x hx _ hd := absurd hd (hD x hx)

theorem Ready.mono {D : NodeId → Prop} {ts ts' : List NodeId} {g : Graph}
    (h : Ready g₀ σ D ts g) (hs : ∀ x ∈ g₀.ids, g₀.Under ts' x → g₀.Under ts x) :
    Ready g₀ σ D ts' g where
  shape := h.shape
  done x hx hu := h.done x hx (hs x hx hu)
  todo x hx hu := h.todo x hx (hs x hx hu)
  closed x hx hu := h.closed x hx (hs x hx hu)

theorem Ready.congr {D D' : NodeId → Prop} {ts : List NodeId} {g : Graph}
    (h : Ready g₀ σ D ts g) (hD : ∀ x ∈ g₀.ids, g₀.Under ts x → (D x ↔ D' x)) :
    Ready g₀ σ D' ts g where
  shape := h.shape
  done x hx hu hd := h.done x hx hu ((hD x hx hu).mpr hd)
  todo x hx hu hd := h.todo x hx hu (mt (hD x hx hu).mp hd)
  closed x hx hu hd y hy := by
    have hy' := hy.mem_left hx
    obtain ⟨t, ht, hxt⟩ := hu
    exact (hD y hy' ⟨t, ht, hy.trans hxt⟩).mp
      (h.closed x hx ⟨t, ht, hxt⟩ ((hD x hx ⟨t, ht, hxt⟩).mpr hd) y hy)

/-- After a visit of `t`, everything upstream of `t` counts as settled too. -/
theorem Ready.step {D : NodeId → Prop} {t : NodeId} {ts : List NodeId} {g g₁ : Graph}
    (h : Ready g₀ σ D (t :: ts) g) (hv : Visited g₀ σ [t] g g₁) :
    Ready g₀ σ (fun x => D x ∨ g₀.Below x t) ts g₁ where
  shape := hv.shape
  done x hx hu hd := by
    by_cases hxt : g₀.Below x t
    · exact hv.inside x hx (under_singleton.mpr hxt)
    · rw [hv.outside x hx (mt under_singleton.mp hxt)]
      exact h.done x hx (under_cons.mpr (.inr hu)) (hd.resolve_right hxt)
  todo x hx hu hd := by
    rw [hv.outside x hx (mt under_singleton.mp (fun h => hd (.inr h)))]
    exact h.todo x hx (under_cons.mpr (.inr hu)) (fun h => hd (.inl h))
  closed x hx hu hd y hy := by
    rcases hd with hd | hd
    · exact .inl (h.closed x hx (under_cons.mpr (.inr hu)) hd y hy)
    · exact .inr (hy.trans hd)

theorem Visited.cons {t : NodeId} {ts : List NodeId} {g g₁ g₂ : Graph}
    (h₁ : Visited g₀ σ [t] g g₁) (h₂ : Visited g₀ σ ts g₁ g₂) : Visited g₀ σ (t :: ts) g g₂ where
  shape := h₂.shape
  inside x hx hu := by
    by_cases h : g₀.Under ts x
    · exact h₂.inside x hx h
    · rw [h₂.outside x hx h]
      exact h₁.inside x hx (under_singleton.mpr ((under_cons.mp hu).resolve_right h))
  outside x hx hu := by
    rw [h₂.outside x hx (fun h => hu (under_cons.mpr (.inr h))),
      h₁.outside x hx (fun h => hu (under_cons.mpr (.inl (under_singleton.mp h))))]

theorem Visited.nil {g : Graph} (h : g₀.NodesOnly g) : Visited g₀ σ [] g g where
  shape := h
  inside _ _ hu := by simp [Under] at hu
  outside _ _ _ := rfl

theorem Visited.missing {t : NodeId} {g : Graph} (h : g₀.NodesOnly g) (ht : t ∉ g₀.ids) :
    Visited g₀ σ [t] g g where
  shape := h
  inside _ hx hu := absurd ((under_singleton.mp hu).mem_right hx) ht
  outside _ _ _ := rfl

theorem run_mapM_cons {α β S : Type} (f : α → StateM S β) (x : α) (xs : List α) (s : S) :
    ((x :: xs).mapM f).run s = (((f x).run s).1 :: ((xs.mapM f).run ((f x).run s).2).1,
      ((xs.mapM f).run ((f x).run s).2).2) := by
  rw [List.mapM_cons]
  rfl

theorem Ready.toTargets (hacyc : g₀.Acyclic) {D : NodeId → Prop} {t : NodeId} {ts : List NodeId}
    {g gc : Graph} (h : Ready g₀ σ D [t] g) (hts : ∀ y ∈ ts, y ∈ g₀.ids → g₀.Reads y t)
    (hs : g₀.NodesOnly gc) (hc : ∀ x, x ≠ t → gc.node? x = g.node? x) : Ready g₀ σ D ts gc where
  shape := hs
  done x hx hu hd := by
    obtain ⟨hb, hne⟩ := hacyc.under hts hx hu
    rw [hc x hne]
    exact h.done x hx (under_singleton.mpr hb) hd
  todo x hx hu hd := by
    obtain ⟨hb, hne⟩ := hacyc.under hts hx hu
    rw [hc x hne]
    exact h.todo x hx (under_singleton.mpr hb) hd
  closed x hx hu := h.closed x hx (under_singleton.mpr (hacyc.under hts hx hu).1)

/-- Visiting many nodes in turn, each visit settling what is upstream of its node. -/
theorem mapM_visit (f : NodeId → StateM Graph ValueType) :
    ∀ (xs : List NodeId), (∀ x ∈ xs, ∀ g D, Ready g₀ σ D [x] g →
      ((f x).run g).1 = σ x ∧ Visited g₀ σ [x] g ((f x).run g).2) →
    ∀ (g : Graph) (D : NodeId → Prop), Ready g₀ σ D xs g →
      ((xs.mapM f).run g).1 = xs.map σ ∧ Visited g₀ σ xs g ((xs.mapM f).run g).2
  | [], _, _, _, h => ⟨rfl, Visited.nil h.shape⟩
  | x :: xs, hf, g, D, h => by
    have hx := hf x List.mem_cons_self g D
      (h.mono fun y _ hy => under_cons.mpr (.inl (under_singleton.mp hy)))
    have hrest := mapM_visit f xs (fun y hy => hf y (List.mem_cons_of_mem x hy)) _ _ (h.step hx.2)
    rw [run_mapM_cons]
    exact ⟨by rw [hx.1, hrest.1, List.map_cons], hx.2.cons hrest.2⟩

/-- The last step of a visit of `t`: with what the current node `m` of `t` reads visited, settling
`t` leaves everything upstream of `t` settled and the rest as it was. -/
theorem visited_resolveAt (hacyc : g₀.Acyclic) (hσ : g₀.Settles σ) {t : NodeId} {n₀ m : Node}
    {g gc gl : Graph} (ht : g₀.node? t = some n₀) (hm : gc.node? t = some m)
    (hsettle : m.settle (m.targets.map σ) g₀.props = n₀.settle (n₀.targets.map σ) g₀.props)
    (hreads : ∀ y ∈ m.targets, y ∈ g₀.ids → g₀.Reads y t)
    (hcover : ∀ x ∈ g₀.ids, g₀.Below x t → x ≠ t →
      g₀.Under m.targets x ∨ g.node? x = g₀.final σ x)
    (hc : ∀ x, x ≠ t → gc.node? x = g.node? x) (hl : Visited g₀ σ m.targets gc gl) :
    (gl.resolveAt t (m.targets.map σ)).1 = σ t ∧
      Visited g₀ σ [t] g (gl.resolveAt t (m.targets.map σ)).2 := by
  have htid : t ∈ g₀.ids := mem_ids.mpr ⟨n₀, (node?_eq_some ht).1, (node?_eq_some ht).2⟩
  have htl : gl.node? t = some m := by
    rw [hl.outside t htid fun hu => (hacyc.under hreads htid hu).2 rfl, hm]
  have hid : ∀ n : Node, n.id = t → (n₀.settle (n₀.targets.map σ) g₀.props).id = t :=
    fun _ _ => by rw [Node.id_settle, (node?_eq_some ht).2]
  rw [resolveAt_eq, htl, hl.shape.props_eq]
  dsimp only
  rw [hsettle]
  refine ⟨by rw [hσ t, ht], hl.shape.updateNode hid, ?_, ?_⟩
  · intro x hx hu
    rw [node?_updateNode hid]
    by_cases hxt : x = t
    · subst hxt
      simp [htl, final, ht]
    · rw [if_neg hxt]
      by_cases hum : g₀.Under m.targets x
      · exact hl.inside x hx hum
      · rw [hl.outside x hx hum, hc x hxt]
        exact (hcover x hx (under_singleton.mp hu) hxt).resolve_left hum
  · intro x hx hu
    have hxt : x ≠ t := by
      rintro rfl
      exact hu (under_singleton.mpr (Below.refl _ _))
    rw [node?_updateNode hid, if_neg hxt,
      hl.outside x hx fun h => hu (under_singleton.mpr (hacyc.under hreads hx h).1), hc x hxt]

theorem transGen_mem {g : Graph} {t p : NodeId} (h : Relation.TransGen g.Reads t p) :
    p ∈ g.ids := by
  induction h with
  | single h => exact h.mem_right
  | tail _ h _ => exact h.mem_right

theorem length_le_of_transGen {g : Graph} {t : NodeId} {path : List NodeId} (hnd : path.Nodup)
    (hpath : ∀ p ∈ path, Relation.TransGen g.Reads t p) : path.length ≤ g.ids.length :=
  (hnd.subperm fun p hp => transGen_mem (hpath p hp)).length_le

theorem updateTypes_missing {g : Graph} {t : NodeId} (ht : t ∉ g.ids) (fuel : Nat)
    (path : List NodeId) : updateTypes fuel t path g = (.none, g) := by
  cases fuel with
  | zero => rfl
  | succ fuel => simp only [updateTypes, node?_eq_none.mpr ht]

/-- The node the full pass meets at a node `t` ready to be visited: declared again, it settles
as `t` does, reads below `t`, and whatever is upstream of `t` is upstream of what it reads or
already settled. A settled node is declared again as it is up to its links' declared types
(`Node.settle_stable`); a node not yet settled is as in `g₀`, where declaring changes nothing. -/
theorem Ready.current (hσ : g₀.Settles σ) (hno : noNode ∉ g₀.ids)
    (hconf : ∀ n ∈ g₀.nodes, n.configure = n) {D : NodeId → Prop} {t : NodeId} {g : Graph}
    {n₀ : Node} (h : Ready g₀ σ D [t] g) (ht : g₀.node? t = some n₀) :
    ∃ m, g.node? t = some m ∧
      m.configure.settle (m.configure.targets.map σ) g₀.props =
        n₀.settle (n₀.targets.map σ) g₀.props ∧
      (∀ y ∈ m.configure.targets, y ∈ g₀.ids → g₀.Reads y t) ∧
      ∀ x ∈ g₀.ids, g₀.Below x t → x ≠ t →
        g₀.Under m.configure.targets x ∨ g.node? x = g₀.final σ x := by
  have htid : t ∈ g₀.ids := mem_ids.mpr ⟨n₀, (node?_eq_some ht).1, (node?_eq_some ht).2⟩
  have hut : g₀.Under [t] t := under_singleton.mpr (Below.refl _ _)
  have hn₀ := hconf n₀ (node?_eq_some ht).1
  by_cases hd : D t
  · refine ⟨n₀.settle (n₀.targets.map σ) g₀.props, ?_, Node.settle_stable σ (hσ.none hno) hn₀,
      ?_, ?_⟩
    · rw [h.done t htid hut hd]
      simp [final, ht]
    · intro y hy hyid
      rcases Node.targets_configure_settle hy with rfl | hy
      · exact absurd hyid hno
      · exact ⟨hyid, n₀, ht, hy⟩
    · intro x hx hxt _
      exact .inr (h.done x hx (under_singleton.mpr hxt) (h.closed t htid hut hd x hxt))
  · refine ⟨n₀, (h.todo t htid hut hd).trans ht, by rw [hn₀], ?_, ?_⟩
    · intro y hy hyid
      rw [hn₀] at hy
      exact ⟨hyid, n₀, ht, hy⟩
    · intro x hx hxt hne
      rw [hn₀]
      exact .inl (((below_iff ht hx).mp hxt).resolve_left hne)

/-- The full pass from a node `t` ready to be visited, along a path of nodes that `t` is upstream
of, settles everything upstream of `t` and returns the settled type of `t`. The induction is on
the fuel, which stays above the number of nodes not on the path. -/
theorem updateTypes_visit (hacyc : g₀.Acyclic) (hσ : g₀.Settles σ) (hno : noNode ∉ g₀.ids)
    (hconf : ∀ n ∈ g₀.nodes, n.configure = n) (fuel : Nat) :
    ∀ (t : NodeId) (path : List NodeId) (g : Graph) (D : NodeId → Prop),
      Ready g₀ σ D [t] g → path.Nodup → (∀ p ∈ path, Relation.TransGen g₀.Reads t p) →
      g₀.ids.length + 2 ≤ path.length + fuel →
      (updateTypes fuel t path g).1 = σ t ∧ Visited g₀ σ [t] g (updateTypes fuel t path g).2 := by
  induction fuel with
  | zero =>
    intro t path g D _ hnd hpath hfuel
    have := length_le_of_transGen hnd hpath
    omega
  | succ fuel ih =>
    intro t path g D h hnd hpath hfuel
    by_cases htid : t ∈ g₀.ids
    · obtain ⟨n₀, ht⟩ := Option.ne_none_iff_exists'.mp (mt node?_eq_none.mp (not_not.mpr htid))
      obtain ⟨m, hm, hsettle, hreads, hcover⟩ := h.current hσ hno hconf ht
      have htp : t ∉ path := fun hp => hacyc t (hpath t hp)
      have hmid : ∀ n : Node, n.id = t → n.configure.id = t := fun _ h => h
      let gc := g.updateNode t Node.configure
      have hgc : gc.node? t = some m.configure := by simp [gc, node?_updateNode hmid, hm]
      have hc : ∀ x, x ≠ t → gc.node? x = g.node? x := fun x hx => by
        simp [gc, node?_updateNode hmid, hx]
      -- each node `m` reads is visited along the path extended by `t`
      have hvisit : ∀ x ∈ m.configure.targets, ∀ gx Dx, Ready g₀ σ Dx [x] gx →
          (updateTypes fuel x (t :: path) gx).1 = σ x ∧
            Visited g₀ σ [x] gx (updateTypes fuel x (t :: path) gx).2 := by
        intro x hx gx Dx hr
        by_cases hxid : x ∈ g₀.ids
        · have hxt := hreads x hx hxid
          refine ih x (t :: path) gx Dx hr (List.nodup_cons.mpr ⟨htp, hnd⟩) ?_
            (by simp only [List.length_cons]; omega)
          intro p hp
          rcases List.mem_cons.mp hp with rfl | hp
          · exact .single hxt
          · exact .head hxt (hpath p hp)
        · rw [updateTypes_missing (hr.shape.2 ▸ hxid), hσ.none hxid]
          exact ⟨rfl, Visited.missing hr.shape hxid⟩
      have hl := mapM_visit (fun x => updateTypes fuel x (t :: path)) _ hvisit gc D
        (h.toTargets hacyc hreads (h.shape.updateNode hmid) hc)
      rw [updateTypes, hm]
      dsimp only
      rw [if_neg htp, show g.updateNode t Node.configure = gc from rfl, hgc, Option.map_some,
        Option.getD_some]
      generalize StateT.run _ _ = p at hl ⊢
      obtain ⟨ts, gl⟩ := p
      obtain ⟨rfl, hl⟩ := hl
      exact visited_resolveAt hacyc hσ ht hgc hsettle hreads hcover hc hl
    · rw [updateTypes_missing (h.shape.2 ▸ htid), hσ.none htid]
      exact ⟨rfl, Visited.missing h.shape htid⟩

/-- The resolved list of the light pass grows from `R` to `R'` by the nodes upstream of `ts`,
each once. -/
structure Grows (g₀ : Graph) (ts : List NodeId) (R R' : List NodeId) : Prop where
  keeps : R <+: R'
  nodup : R'.Nodup
  sub : ∀ x ∈ R', x ∈ g₀.ids
  mem : ∀ x ∈ g₀.ids, x ∈ R' ↔ x ∈ R ∨ g₀.Under ts x

theorem Grows.nil {R : List NodeId} (hnd : R.Nodup) (hsub : ∀ x ∈ R, x ∈ g₀.ids) :
    Grows g₀ [] R R where
  keeps := List.prefix_refl R
  nodup := hnd
  sub := hsub
  mem _ _ := by simp [Under]

theorem Grows.cons {t : NodeId} {ts R R₁ R₂ : List NodeId} (h₁ : Grows g₀ [t] R R₁)
    (h₂ : Grows g₀ ts R₁ R₂) : Grows g₀ (t :: ts) R R₂ where
  keeps := h₁.keeps.trans h₂.keeps
  nodup := h₂.nodup
  sub := h₂.sub
  mem x hx := by rw [h₂.mem x hx, h₁.mem x hx, under_singleton, under_cons, or_assoc]

/-- Visiting many nodes in turn with the light pass, each visit settling and resolving what is
upstream of its node; `P` is what the visits ask of the resolved list and keep as it grows. -/
theorem mapM_visitLight (f : NodeId → StateM (List NodeId × Graph) ValueType)
    (P : List NodeId → Prop) (hP : ∀ {R R'}, R <+: R' → P R → P R') :
    ∀ (xs : List NodeId), (∀ x ∈ xs, ∀ R g, Ready g₀ σ (· ∈ R) [x] g → R.Nodup →
      (∀ y ∈ R, y ∈ g₀.ids) → P R →
      ((f x).run (R, g)).1 = σ x ∧ Visited g₀ σ [x] g ((f x).run (R, g)).2.2 ∧
        Grows g₀ [x] R ((f x).run (R, g)).2.1) →
    ∀ (R : List NodeId) (g : Graph), Ready g₀ σ (· ∈ R) xs g → R.Nodup →
      (∀ y ∈ R, y ∈ g₀.ids) → P R →
      ((xs.mapM f).run (R, g)).1 = xs.map σ ∧ Visited g₀ σ xs g ((xs.mapM f).run (R, g)).2.2 ∧
        Grows g₀ xs R ((xs.mapM f).run (R, g)).2.1
  | [], _, R, _, h, hnd, hsub, _ => ⟨rfl, Visited.nil h.shape, Grows.nil hnd hsub⟩
  | x :: xs, hf, R, g, h, hnd, hsub, hR => by
    obtain ⟨hx, hv, hg⟩ := hf x List.mem_cons_self R g
      (h.mono fun y _ hy => under_cons.mpr (.inl (under_singleton.mp hy))) hnd hsub hR
    have hready : Ready g₀ σ (· ∈ ((f x).run (R, g)).2.1) xs ((f x).run (R, g)).2.2 :=
      (h.step hv).congr fun y hy _ => by rw [hg.mem y hy, under_singleton]
    have hrest := mapM_visitLight f P hP xs (fun y hy => hf y (List.mem_cons_of_mem x hy)) _ _
      hready hg.nodup hg.sub (hP hg.keeps hR)
    rw [run_mapM_cons]
    exact ⟨by rw [hx, hrest.1, List.map_cons], hv.cons hrest.2.1, hg.cons hrest.2.2⟩

theorem updateTypesLight_missing {g : Graph} {t : NodeId} (ht : t ∉ g.ids) (fuel : Nat)
    (R : List NodeId) : updateTypesLight fuel t R g = (.none, R, g) := by
  cases fuel with
  | zero => rfl
  | succ fuel => simp only [updateTypesLight, node?_eq_none.mpr ht]

/-- The light pass from a node `t` ready to be visited, with the settled nodes resolved, settles
everything upstream of `t`, resolves it, and returns the settled type of `t`. The induction is on
the fuel, which stays above the number of nodes not resolved. -/
theorem updateTypesLight_visit (hacyc : g₀.Acyclic) (hσ : g₀.Settles σ) (fuel : Nat) :
    ∀ (t : NodeId) (R : List NodeId) (g : Graph), Ready g₀ σ (· ∈ R) [t] g → R.Nodup →
      (∀ x ∈ R, x ∈ g₀.ids) → g₀.ids.length < fuel + R.length →
      (updateTypesLight fuel t R g).1 = σ t ∧
        Visited g₀ σ [t] g (updateTypesLight fuel t R g).2.2 ∧
        Grows g₀ [t] R (updateTypesLight fuel t R g).2.1 := by
  induction fuel with
  | zero =>
    intro t R g _ hnd hsub hfuel
    have := (hnd.subperm hsub).length_le
    omega
  | succ fuel ih =>
    intro t R g h hnd hsub hfuel
    by_cases htid : t ∈ g₀.ids
    · obtain ⟨n₀, ht⟩ := Option.ne_none_iff_exists'.mp (mt node?_eq_none.mp (not_not.mpr htid))
      have hut : g₀.Under [t] t := under_singleton.mpr (Below.refl _ _)
      by_cases hR : t ∈ R
      · -- resolved before: everything upstream of `t` is settled already
        have hg : g.node? t = some (n₀.settle (n₀.targets.map σ) g₀.props) := by
          rw [h.done t htid hut hR]
          simp [final, ht]
        rw [updateTypesLight, hg]
        dsimp only
        rw [if_pos hR]
        refine ⟨by rw [hσ t, ht], ⟨h.shape, ?_, fun _ _ _ => rfl⟩,
          ⟨List.prefix_refl R, hnd, hsub, ?_⟩⟩
        · intro x hx hu
          exact h.done x hx hu (h.closed t htid hut hR x (under_singleton.mp hu))
        · intro x hx
          refine ⟨.inl, ?_⟩
          rintro (hx' | hu)
          · exact hx'
          · exact h.closed t htid hut hR x (under_singleton.mp hu)
      · -- not resolved: `t` is as in `g₀`, and what it reads is visited with `t` resolved
        have hg : g.node? t = some n₀ := (h.todo t htid hut hR).trans ht
        have hreads : ∀ y ∈ n₀.targets, y ∈ g₀.ids → g₀.Reads y t :=
          fun y hy hyid => ⟨hyid, n₀, ht, hy⟩
        have hvisit : ∀ x ∈ n₀.targets, ∀ R' g', Ready g₀ σ (· ∈ R') [x] g' → R'.Nodup →
            (∀ y ∈ R', y ∈ g₀.ids) → g₀.ids.length < fuel + R'.length →
            (updateTypesLight fuel x R' g').1 = σ x ∧
              Visited g₀ σ [x] g' (updateTypesLight fuel x R' g').2.2 ∧
              Grows g₀ [x] R' (updateTypesLight fuel x R' g').2.1 :=
          fun x _ => ih x
        have hready : Ready g₀ σ (· ∈ R ++ [t]) n₀.targets g :=
          (h.toTargets hacyc hreads h.shape fun _ _ => rfl).congr fun x hx hu => by
            simp [(hacyc.under hreads hx hu).2]
        have hl := mapM_visitLight (fun x s => updateTypesLight fuel x s.1 s.2)
          (fun R' => g₀.ids.length < fuel + R'.length)
          (fun hp h => Nat.lt_of_lt_of_le h (Nat.add_le_add_left hp.length_le _))
          n₀.targets hvisit (R ++ [t]) g hready
          (List.nodup_append_comm.mpr (List.nodup_cons.mpr ⟨hR, hnd⟩))
          (fun x hx =>
            (List.mem_append.mp hx).elim (hsub x) fun hx => List.mem_singleton.mp hx ▸ htid)
          (by simp only [List.length_append, List.length_singleton]; omega)
        rw [updateTypesLight, hg]
        dsimp only
        rw [if_neg hR]
        generalize StateT.run _ _ = p at hl ⊢
        obtain ⟨ts, R₁, gl⟩ := p
        obtain ⟨rfl, hl, hgrow⟩ := hl
        obtain ⟨htype, hv⟩ := visited_resolveAt hacyc hσ ht hg rfl hreads
          (fun x hx hxt hne => .inl (((below_iff ht hx).mp hxt).resolve_left hne))
          (fun _ _ => rfl) hl
        refine ⟨htype, hv, (List.prefix_append R [t]).trans hgrow.keeps, hgrow.nodup, hgrow.sub,
          fun x hx => ?_⟩
        rw [hgrow.mem x hx, under_singleton, below_iff ht hx, List.mem_append,
          List.mem_singleton, or_assoc]
    · rw [updateTypesLight_missing (h.shape.2 ▸ htid), hσ.none htid]
      refine ⟨rfl, Visited.missing h.shape htid, List.prefix_refl R, hnd, hsub, fun x hx => ?_⟩
      simp only [under_singleton, iff_self_or]
      exact fun hb => absurd (hb.mem_right hx) htid

/-- The light pass over many roots sharing one resolved list settles everything upstream of them. -/
theorem lightPass_visit (hacyc : g₀.Acyclic) (hσ : g₀.Settles σ) (roots : List NodeId) :
    ∀ (R : List NodeId) (g : Graph), Ready g₀ σ (· ∈ R) roots g → R.Nodup →
      (∀ x ∈ R, x ∈ g₀.ids) →
      (g.lightPass roots R).1 = roots.map σ ∧ Visited g₀ σ roots g (g.lightPass roots R).2.2 ∧
        Grows g₀ roots R (g.lightPass roots R).2.1 := by
  induction roots with
  | nil => exact fun R g h hnd hsub => ⟨rfl, Visited.nil h.shape, Grows.nil hnd hsub⟩
  | cons r rest ih =>
    intro R g h hnd hsub
    have hlen : g.nodes.length = g₀.ids.length := by
      rw [← h.shape.2, ids, List.length_map]
    obtain ⟨hr, hv, hg⟩ := updateTypesLight_visit hacyc hσ (g.nodes.length + 2) r R g
      (h.mono fun y _ hy => under_cons.mpr (.inl (under_singleton.mp hy))) hnd hsub (by omega)
    rw [lightPass]
    generalize updateTypesLight _ r R g = p at hr hv hg ⊢
    obtain ⟨t, R₁, g₁⟩ := p
    dsimp only at hr hv hg ⊢
    obtain ⟨hts, hrest, hgrow⟩ := ih R₁ g₁
      ((h.step hv).congr fun y hy _ => by rw [hg.mem y hy, under_singleton]) hg.nodup hg.sub
    generalize g₁.lightPass rest R₁ = q at hts hrest hgrow ⊢
    obtain ⟨ts, R₂, g₂⟩ := q
    dsimp only at hts hrest hgrow ⊢
    exact ⟨by rw [hr, hts, List.map_cons], hv.cons hrest, hg.cons hgrow⟩

/-- The full pass from many roots in turn, each from an empty path, settles everything upstream of
them. -/
theorem fullPass_visit (hacyc : g₀.Acyclic) (hσ : g₀.Settles σ) (hno : noNode ∉ g₀.ids)
    (hconf : ∀ n ∈ g₀.nodes, n.configure = n) (roots : List NodeId) :
    ∀ (g : Graph) (D : NodeId → Prop), Ready g₀ σ D roots g →
      (g.fullPass roots).1 = roots.map σ ∧ Visited g₀ σ roots g (g.fullPass roots).2 := by
  induction roots with
  | nil => exact fun g _ h => ⟨rfl, Visited.nil h.shape⟩
  | cons r rest ih =>
    intro g D h
    have hlen : g.nodes.length = g₀.ids.length := by
      rw [← h.shape.2, ids, List.length_map]
    obtain ⟨hr, hv⟩ := updateTypes_visit hacyc hσ hno hconf (g.nodes.length + 2) r [] g D
      (h.mono fun y _ hy => under_cons.mpr (.inl (under_singleton.mp hy))) List.nodup_nil
      (fun _ h => absurd h List.not_mem_nil) (by simp [hlen])
    rw [fullPass, updateTypesFrom]
    generalize updateTypes _ r [] g = p at hr hv ⊢
    obtain ⟨t, g₁⟩ := p
    dsimp only at hr hv ⊢
    obtain ⟨hts, hrest⟩ := ih g₁ _ (h.step hv)
    generalize g₁.fullPass rest = q at hts hrest ⊢
    obtain ⟨ts, g₂⟩ := q
    dsimp only at hts hrest ⊢
    exact ⟨by rw [hr, hts, List.map_cons], hv.cons hrest⟩

theorem Visited.unique (hnd : g₀.ids.Nodup) {ts : List NodeId} {g g₁ g₂ : Graph}
    (h₁ : Visited g₀ σ ts g g₁) (h₂ : Visited g₀ σ ts g g₂) : g₁ = g₂ := by
  have hnode : ∀ x, g₁.node? x = g₂.node? x := by
    intro x
    by_cases hx : x ∈ g₀.ids
    · by_cases hu : g₀.Under ts x
      · rw [h₁.inside x hx hu, h₂.inside x hx hu]
      · rw [h₁.outside x hx hu, h₂.outside x hx hu]
    · rw [h₁.shape.node?_eq_none hx, h₂.shape.node?_eq_none hx]
  have hnodes : g₁.nodes = g₂.nodes :=
    nodes_eq_of_find? (h₁.shape.2.trans h₂.shape.2.symm)
      (show g₂.ids.Nodup from h₂.shape.2 ▸ hnd) hnode
  rw [h₁.shape.1, h₂.shape.1, hnodes]

end Passes

/-- On an acyclic graph of nodes with their inputs declared, the light pass over a list of roots
returns the types the full pass from each root in turn returns, and leaves the same graph. -/
theorem lightPass_eq_fullPass {g : Graph} (hnd : g.ids.Nodup) (hno : noNode ∉ g.ids)
    (hconf : ∀ n ∈ g.nodes, n.configure = n) (hacyc : g.Acyclic) (roots : List NodeId) :
    (g.lightPass roots).1 = (g.fullPass roots).1 ∧ (g.lightPass roots).2.2 = (g.fullPass roots).2 := by
  obtain ⟨σ, hσ⟩ := hacyc.exists_settles
  obtain ⟨hl, hlv, -⟩ := lightPass_visit hacyc hσ roots [] g
    (Ready.init (fun _ _ h => List.not_mem_nil h) roots) List.nodup_nil
    (fun _ h => absurd h List.not_mem_nil)
  obtain ⟨hf, hfv⟩ := fullPass_visit hacyc hσ hno hconf roots g (fun _ => False)
    (Ready.init (fun _ _ h => h) roots)
  exact ⟨hl.trans hf.symm, hlv.unique hnd hfv⟩

/-- A random value (node 1) read by an absolute value (node 2), and a sum (node 3) of both: node 1
is upstream of node 3 along two paths. -/
def diamond : Graph where
  nodes :=
    [Node.new 1 (.random .value01),
     { Node.new 2 (.math .abs) with
        inputs := (Node.new 2 (.math .abs)).inputs.map fun l => { l with target := 1 } },
     { Node.new 3 (.math .add) with
        inputs := List.zipWith (fun l t => { l with target := t }) (Node.new 3 (.math .add)).inputs
          [1, 2] }]
  nextId := 4

theorem diamond_reads_below : ∀ n ∈ diamond.nodes, ∀ a ∈ n.targets, a < n.id := by decide

theorem diamond_lightPass_eq_fullPass :
    diamond.ids.Nodup ∧ noNode ∉ diamond.ids ∧ (∀ n ∈ diamond.nodes, n.configure = n) ∧
      diamond.Acyclic ∧ ((diamond.lightPass [3]).1 = (diamond.fullPass [3]).1 ∧
        (diamond.lightPass [3]).2.2 = (diamond.fullPass [3]).2) := by
  have hconf : ∀ n ∈ diamond.nodes, n.configure = n := by
    intro n hn
    simp only [diamond, List.mem_cons, List.not_mem_nil, or_false] at hn
    rcases hn with rfl | rfl | rfl <;> rfl
  have hacyc : diamond.Acyclic := Acyclic.of_rank id fun a b ⟨_, n, hn, ha⟩ => by
    obtain ⟨hmem, rfl⟩ := node?_eq_some hn
    exact diamond_reads_below n hmem a ha
  exact ⟨by decide, by decide, hconf, hacyc,
    lightPass_eq_fullPass (by decide) (by decide) hconf hacyc [3]⟩

/-- An absolute value with id `noNode` (node -1) reading a vector modifier (node 1) that reads a
vector (node 2): the graph of `math|-1|0 0|1|13#vec_modify|1|0 0|2#vector3|2|0 0|||f|0|1,2,3`. -/
def noNodeChain : Graph where
  nodes :=
    [{ Node.new noNode (.math .abs) with
        inputs := (Node.new noNode (.math .abs)).inputs.map fun l => { l with target := 1 } },
     { Node.new 1 .vecModify with
        inputs := (Node.new 1 .vecModify).inputs.map fun l => { l with target := 2 } },
     Node.new 2 (.value "" false .none (.vector3 ⟨1, 2, 3⟩))]
  nextId := 3

theorem noNodeChain_reads_above : ∀ n ∈ noNodeChain.nodes, ∀ a ∈ n.targets, n.id < a := by
  decide

/-- With a node under `noNode`, the passes part on an acyclic graph of declared nodes. Resolving
the vector modifier adds one input per component, each reading `noNode`, that is node -1: the
light pass has already resolved node -1 and reads its type back, while the full pass from node 1
walks up through node -1 to node 1 again and marks the cycle with `error`. -/
theorem noNode_chain_splits_passes :
    noNode ∈ noNodeChain.ids ∧ noNodeChain.ids.Nodup ∧
      (∀ n ∈ noNodeChain.nodes, n.configure = n) ∧ noNodeChain.Acyclic ∧
      (noNodeChain.lightPass [noNode, 1]).1 = [.vector3, .vector3] ∧
      (noNodeChain.fullPass [noNode, 1]).1 = [.vector3, .error] := by
  have hconf : ∀ n ∈ noNodeChain.nodes, n.configure = n := by
    intro n hn
    simp only [noNodeChain, List.mem_cons, List.not_mem_nil, or_false] at hn
    rcases hn with rfl | rfl | rfl <;> rfl
  have hacyc : noNodeChain.Acyclic := Acyclic.of_rank (fun x => -x) fun a b ⟨_, n, hn, ha⟩ => by
    obtain ⟨hmem, rfl⟩ := node?_eq_some hn
    exact Int.neg_lt_neg (noNodeChain_reads_above n hmem a ha)
  exact ⟨by decide, by decide, hconf, hacyc, by decide +kernel, by decide +kernel⟩

end Graph

end NodeGraph
