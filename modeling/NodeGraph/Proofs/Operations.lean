import NodeGraph.Proofs.Arena
import NodeGraph.Graph.Host

/-!
# Every operation is a run of arena steps

Each operation a host can call changes the arena by a run of arena steps (`Graph.ArenaRun`):
editing settings, positions, links and slot values keeps the arena; adding a node or a default
appends one under the next id; removing a node or finishing a session takes nodes out with the
links naming them cleared; duplicating appends a block of copies; rebuilding, ticking, compiling
and evaluating keep it apart from the defaults they add. `Graph.Edit` lists the operations and
`Graph.Edit.arenaRun` is the statement for all of them; loading a text is treated on its own.
-/

namespace NodeGraph

namespace Graph

/-- Marking the graph for a rebuild keeps the arena. -/
theorem Keeps.dirty {g g₁ : Graph} (h : Keeps g g₁) {b : Bool} : Keeps g { g₁ with dirty := b } :=
  h.trans (Keeps.of_nodes rfl rfl rfl)

theorem mem_modify {α : Type} {ls : List α} {i : Nat} {f : α → α} {a : α}
    (h : a ∈ ls.modify i f) : a ∈ ls ∨ ∃ b ∈ ls, a = f b := by
  obtain ⟨j, hj, rfl⟩ := List.mem_iff_getElem.mp h
  have hj' : j < ls.length := by simpa using hj
  rw [List.getElem_modify]
  split
  · exact .inr ⟨ls[j], List.getElem_mem hj', rfl⟩
  · exact .inl (List.getElem_mem hj')

/-- Changing one link of a node keeps the arena when each name it gets is the one it had, nothing,
or the id of a node. -/
theorem keeps_setLink {g : Graph} {node : NodeId} {input : Nat} {f : Link → Link}
    (hf : ∀ l, ((f l).target = l.target ∨ (f l).target = noNode ∨ (f l).target ∈ g.ids) ∧
      ((f l).lastDefault = l.lastDefault ∨ (f l).lastDefault = noNode ∨
        (f l).lastDefault ∈ g.ids)) :
    Keeps g (g.setLink node input f) := by
  refine keeps_updateNode fun n hn _ => ⟨rfl, fun x hx => ?_⟩
  obtain ⟨l', hl', hx'⟩ := mem_linkRefs.mp hx
  -- a name a link of the node had before is covered
  have hold : ∀ y, ∀ l ∈ n.inputs, (y = l.target ∨ y = l.lastDefault) → g.Covers y :=
    fun y l hl h => .inr (.inl (mem_refs.mpr ⟨n, hn, mem_linkRefs.mpr ⟨l, hl, h⟩⟩))
  rcases mem_modify hl' with hl | ⟨l, hl, rfl⟩
  · exact hold x l' hl hx'
  · -- a name the change gives is one the link had, nothing, or a node
    have hgiven :
        ∀ y, (y = l.target ∨ y = l.lastDefault) ∨ y = noNode ∨ y ∈ g.ids → g.Covers y := by
      rintro y (h | h | h)
      · exact hold y l hl h
      · exact .inl h
      · exact .inr (.inr h)
    rcases hx' with rfl | rfl
    · exact hgiven _ ((hf l).1.imp_left .inl)
    · exact hgiven _ ((hf l).2.imp_left .inr)

theorem contains_iff_mem_ids {g : Graph} {id : NodeId} : g.contains id = true ↔ id ∈ g.ids := by
  simp [contains, Graph.ids]

theorem keeps_connect {g g' : Graph} {node : NodeId} {input : Nat} {source : NodeId}
    (h : g.connect node input source = .ok g') : Keeps g g' := by
  unfold connect at h
  by_cases hs : g.contains source = true
  · simp only [hs, Bool.not_true, Bool.false_eq_true, if_false] at h
    cases hc : g.checkInput node input with
    | error e =>
      rw [hc] at h
      cases h
    | ok n =>
      simp only [hc] at h
      cases h
      have hset : Keeps g (g.setLink node input fun l => { l with target := source }) :=
        keeps_setLink fun _ => ⟨.inr (.inr (contains_iff_mem_ids.mp hs)), .inl rfl⟩
      exact hset.dirty
  · rw [Bool.not_eq_true] at hs
    simp only [hs, Bool.not_false, if_true] at h
    cases h

theorem keeps_disconnect {g g' : Graph} {node : NodeId} {input : Nat}
    (h : g.disconnect node input = .ok g') : Keeps g g' := by
  unfold disconnect at h
  cases hc : g.checkInput node input with
  | error e =>
    rw [hc] at h
    cases h
  | ok n =>
    simp only [hc] at h
    cases h
    have hset : Keeps g (g.setLink node input Link.clear) :=
      keeps_setLink fun _ => ⟨.inr (.inl rfl), .inl rfl⟩
    exact hset.dirty

/-- Changing the kind of a node keeps the arena. -/
theorem keeps_setKind (g : Graph) (id : NodeId) (k : Node → Kind) :
    Keeps g (g.updateNode id fun n => { n with kind := k n }) :=
  (Tame.of_inputs (fun _ => rfl) (fun _ => rfl) :
    g.Tame fun n => { n with kind := k n }).updateNode id

theorem keeps_setPosition {g g' : Graph} {id : NodeId} {p : Vec2}
    (h : g.setPosition id p = .ok g') : Keeps g g' := by
  unfold setPosition at h
  split at h
  · cases h
    exact (Tame.of_inputs (fun _ => rfl) (fun _ => rfl) :
      g.Tame fun n => { n with position := p }).updateNode id
  · cases h

theorem keeps_setFields (g : Graph) (id : NodeId) (fs : List String) (declare : Bool) :
    Keeps g (g.setFields id fs declare).1 := by
  -- each outcome has the node's kind replaced, and perhaps its inputs declared again
  have hkind :
      ∀ k, Keeps g { g.updateNode id (fun n => { n with kind := k }) with dirty := true } :=
    fun k => (keeps_setKind g id fun _ => k).dirty
  unfold setFields
  split
  · exact Keeps.refl g
  · dsimp only
    split
    · exact hkind _
    · split
      · exact hkind _
      · cases declare
        · exact hkind _
        · exact (hkind _).trans ((tame_configure _).updateNode id)

/-- Writing a node found in the graph, changed by `f`, in its place keeps the arena when `f` keeps
the node's id and names nothing new. -/
theorem keeps_replaceFound {g : Graph} {id : NodeId} {n : Node} (hn : g.node? id = some n)
    {f : Node → Node} (hf : (f n).id = n.id) (hrefs : ∀ x ∈ (f n).refs, x = noNode ∨ x ∈ n.refs) :
    Keeps g (g.updateNode id fun _ => f n) := by
  have hmem : n ∈ g.nodes := List.mem_of_find?_eq_some hn
  have hid : n.id = id := by simpa using List.find?_some hn
  refine keeps_updateNode fun m _ hm => ⟨hf.trans (hid.trans hm.symm), fun x hx => ?_⟩
  exact (hrefs x hx).elim .inl fun h => .inr (.inl (mem_refs.mpr ⟨n, hmem, h⟩))

theorem keeps_configureNode {g g' : Graph} {id : NodeId} {k : Nat}
    (h : g.configureNode id = .ok (g', k)) : Keeps g g' := by
  unfold configureNode at h
  split at h
  · cases h
  · rename_i n hn
    cases h
    exact (keeps_replaceFound hn rfl fun _ hx => Node.refs_configure hx).dirty

theorem keeps_setConstant (g : Graph) (id : NodeId) (c : Constant) :
    Keeps g (g.setConstant id c).1 := by
  have hdirty : Keeps g { g with dirty := true } := (Keeps.refl g).dirty
  unfold setConstant
  split
  · exact Keeps.refl g
  · dsimp only
    split
    · split
      · exact hdirty.trans (keeps_setKind _ id _)
      · exact hdirty
    · exact hdirty

theorem keeps_writeSlot {g g' : Graph} {id : NodeId} {v : SlotValue}
    (h : g.writeSlot id v = .ok g') : Keeps g g' := by
  unfold writeSlot at h
  split at h
  · cases h
  · split at h
    · cases h
      exact keeps_setKind g id _
    · cases h

/-- Threading a state through a failing fold keeps any reflexive and transitive relation that each
successful call keeps. -/
theorem rel_foldlM {ε σ α : Type} (R : σ → σ → Prop) (hrefl : ∀ s, R s s)
    (htrans : ∀ {a b c}, R a b → R b c → R a c) (f : σ → α → Except ε σ)
    (hf : ∀ s a s', f s a = .ok s' → R s s') :
    ∀ (xs : List α) (s s' : σ), xs.foldlM f s = .ok s' → R s s'
  | [], s, s', h => by
    cases h
    exact hrefl s
  | x :: xs, s, s', h => by
    rw [List.foldlM_cons] at h
    cases hx : f s x with
    | error e =>
      rw [hx] at h
      cases h
    | ok s₁ =>
      rw [hx] at h
      exact htrans (hf s x s₁ hx) (rel_foldlM R hrefl htrans f hf xs s₁ s' h)

theorem keeps_applySlots {g g' : Graph} {s : SlotInputs} (h : s.apply g = .ok g') : Keeps g g' := by
  refine rel_foldlM Keeps Keeps.refl Keeps.trans _ (fun g₁ t g₂ ht => ?_) _ g g' h
  exact rel_foldlM Keeps Keeps.refl Keeps.trans _ (fun _ _ _ hw => keeps_writeSlot hw) _ g₁ g₂ ht

theorem keeps_insertProp {g g' : Graph} {name : String} {v : Value}
    (h : g.insertProp name v = some g') : Keeps g g' := by
  unfold insertProp at h
  obtain ⟨p, -, rfl⟩ := Option.map_eq_some_iff.mp h
  exact Keeps.of_nodes rfl rfl rfl

/-- Removing a node that the editor controls takes it out with the links naming it cleared. -/
theorem removeNode_eq_detach {g g' : Graph} {id : NodeId} {n : Node}
    (h : g.removeNode id = .ok (g', n)) : g' = g.detach id := by
  unfold removeNode at h
  split at h
  · cases h
  · split at h
    · cases h
    · cases h
      rfl

theorem arenaStep_removeNode {g g' : Graph} {id : NodeId} {n : Node}
    (h : g.removeNode id = .ok (g', n)) : ArenaStep g g' := by
  rw [removeNode_eq_detach h]
  exact .remove id rfl rfl rfl

/-! ### Operations that add nodes -/

section Runs

variable {α β : Type} {x : GraphM α} {f : α → GraphM β} {g g₁ : Graph}

theorem run_bind_of_ok {a : α} (hx : x.run g = .ok (a, g₁)) : (x >>= f).run g = (f a).run g₁ := by
  rw [StateT.run_bind, hx]
  rfl

theorem run_bind_of_error {e : Fault} (hx : x.run g = .error e) : (x >>= f).run g = .error e := by
  rw [StateT.run_bind, hx]
  rfl

theorem run_lift_ok {e : Except Fault α} {a : α} (he : e = .ok a) :
    (StateT.lift e : GraphM α).run g = .ok (a, g) := by
  subst he
  rfl

theorem run_bind_eq_ok {b : β} {g' : Graph} (h : (x >>= f).run g = .ok (b, g')) :
    ∃ a g₁, x.run g = .ok (a, g₁) ∧ (f a).run g₁ = .ok (b, g') := by
  rw [StateT.run_bind] at h
  cases hx : x.run g with
  | error e =>
    rw [hx] at h
    cases h
  | ok p =>
    rw [hx] at h
    exact ⟨p.1, p.2, rfl, h⟩

theorem run_lift_eq_ok {e : Except Fault α} {a : α}
    (h : (StateT.lift e : GraphM α).run g = .ok (a, g₁)) : e = .ok a ∧ g₁ = g := by
  cases e with
  | error e' => cases h
  | ok a' =>
    cases h
    exact ⟨rfl, rfl⟩

end Runs

theorem idAdd_eq_ok {a b c : Int} :
    idAdd a b = .ok c ↔ c = a + b ∧ idMin ≤ a + b ∧ a + b ≤ idMax := by
  unfold idAdd
  split <;> simp <;> omega

theorem idSub_eq_ok {a b c : Int} :
    idSub a b = .ok c ↔ c = a - b ∧ idMin ≤ a - b ∧ a - b ≤ idMax := by
  unfold idSub
  split <;> simp <;> omega

/-- Adding a node appends it under the next user id, which moves on by one without leaving the
32-bit range. -/
theorem run_addNode {g g' : Graph} {k : Kind} {id : NodeId}
    (h : (addNode k).run g = .ok (id, g')) :
    id = g.nextId ∧ g'.nodes = g.nodes ++ [Node.new g.nextId k] ∧ g'.nextId = g.nextId + 1 ∧
      g.nextId + 1 ≤ idMax ∧ g'.nextFallbackId = g.nextFallbackId := by
  simp only [addNode, bind_pure_comp, StateT.run_bind, StateT.run_get, StateT.run_lift,
    StateT.run_map, StateT.run_set, map_pure, Functor.map_map, pure_bind] at h
  cases hadd : idAdd g.nextId 1 with
  | error e =>
    rw [hadd] at h
    cases h
  | ok next =>
    rw [hadd] at h
    cases h
    obtain ⟨rfl, -, hle⟩ := idAdd_eq_ok.mp hadd
    exact ⟨rfl, rfl, rfl, hle, rfl⟩

theorem arenaStep_addNode {g g' : Graph} {k : Kind} {id : NodeId}
    (h : (addNode k).run g = .ok (id, g')) : ArenaStep g g' := by
  obtain ⟨-, hn, hi, hle, hf⟩ := run_addNode h
  refine .addUsers [Node.new g.nextId k] hn (by simp [Node.new]) (by simp [hi]) (by simpa [hi]) hf
    ?_
  intro n hn' x hx
  rw [List.mem_singleton.mp hn'] at hx
  exact .inl (Node.refs_new _ k x hx)

theorem moves_createNode (kindId : String) : Moves (createNode kindId) := by
  unfold createNode
  split
  · exact Moves.pure _
  · exact Moves.bind (fun g _ _ h => .single (arenaStep_addNode h)) fun _ => Moves.pure _

/-- Creating a default either does nothing or appends it under the next default id, which moves
down by one without leaving the 32-bit range. -/
theorem run_createFallback {g g' : Graph} {kindId : String} {r : Option NodeId}
    (h : (createFallback kindId).run g = .ok (r, g')) :
    (r = none ∧ g' = g) ∨ ∃ k, r = some g.nextFallbackId ∧
      g'.nodes = g.nodes ++ [{ Node.new g.nextFallbackId k with type := k.declaredType }] ∧
      g'.nextFallbackId = g.nextFallbackId - 1 ∧ idMin ≤ g.nextFallbackId - 1 ∧
      g'.nextId = g.nextId := by
  unfold createFallback at h
  split at h
  · cases h
    exact .inl ⟨rfl, rfl⟩
  · rename_i k _
    simp only [bind_pure_comp, StateT.run_bind, StateT.run_get, StateT.run_lift, StateT.run_map,
      StateT.run_set, map_pure, Functor.map_map, pure_bind] at h
    cases hsub : idSub g.nextFallbackId 1 with
    | error e =>
      rw [hsub] at h
      cases h
    | ok next =>
      rw [hsub] at h
      cases h
      obtain ⟨rfl, hge, -⟩ := idSub_eq_ok.mp hsub
      exact .inr ⟨k, rfl, rfl, rfl, hge, rfl⟩

theorem moves_createFallback (kindId : String) : Moves (createFallback kindId) := by
  intro g r g' h
  rcases run_createFallback h with ⟨-, rfl⟩ | ⟨k, -, hn, hf, hge, hi⟩
  · exact .refl
  · exact .single (.addDefault _ hn rfl hf (hf ▸ hge) hi fun x hx => Node.refs_new _ k x hx)

theorem createFallback_mem {g g' : Graph} {kindId : String} {t : NodeId}
    (h : (createFallback kindId).run g = .ok (some t, g')) : t ∈ g'.ids := by
  rcases run_createFallback h with ⟨h₁, -⟩ | ⟨k, h₁, hn, -⟩
  · cases h₁
  · cases h₁
    simp [Graph.ids, hn, Node.new]

/-- A node that fits as a default is a node of the graph. -/
theorem fits_mem {g : Graph} {c : NodeId} {t : ValueType} (h : g.fits c t = true) : c ∈ g.ids := by
  unfold fits at h
  split at h
  · rename_i n hn
    have hid : n.id = c := by simpa using List.find?_some hn
    exact List.mem_map.mpr ⟨n, List.mem_of_find?_eq_some hn, hid⟩
  · cases h

theorem moves_fillInput (id : NodeId) (index : Nat) : Moves (fillInput id index) := by
  unfold fillInput
  refine Moves.get_bind fun g => ?_
  split
  · split
    · split
      · exact Moves.pure () g
      · split
        · rename_i kindId _
          dsimp only
          -- the default written is a node of the graph: one found fitting, or one just created
          have hwrite : ∀ g₁ (t : NodeId), t ∈ g₁.ids → MovesFrom g₁ (modify fun g : Graph =>
              g.setLink id index fun l => { l with target := t, lastDefault := t }) :=
            fun g₁ t ht => MovesFrom.modify (ArenaRun.of_keeps
              (keeps_setLink fun _ => ⟨.inr (.inr ht), .inr (.inr ht)⟩))
          refine MovesFrom.ite (fun hfit => ?_) fun _ => ?_
          · refine MovesFrom.bind (Moves.pure _ g) fun a g₁ h => ?_
            cases h
            exact hwrite g _ (fits_mem hfit)
          · refine MovesFrom.bind (moves_createFallback kindId g) fun a g₁ h => ?_
            cases a with
            | none => exact Moves.pure () g₁
            | some t => exact hwrite g₁ t (createFallback_mem h)
        · exact Moves.pure () g
    · exact Moves.pure () g
  · exact Moves.pure () g

theorem moves_injectFallbacks : Moves injectFallbacks := by
  unfold injectFallbacks
  refine Moves.get_bind fun g => MovesFrom.bind (Moves.forIn _ _ _ (fun id _ => ?_) g)
    fun _ _ _ => Moves.pure _ _
  refine Moves.get_bind fun g₁ => MovesFrom.bind (Moves.forIn _ _ _ (fun index _ => ?_) g₁)
    fun _ _ _ => Moves.pure _ _
  exact Moves.bind (moves_fillInput id index) fun _ => Moves.pure _

/-! ### Rebuilding, ticking and compiling -/

theorem keeps_foldl {α : Type} (f : Graph → α → Graph) (hf : ∀ g a, Keeps g (f g a)) :
    ∀ (xs : List α) (g : Graph), Keeps g (xs.foldl f g)
  | [], g => Keeps.refl g
  | x :: xs, g => (hf g x).trans (keeps_foldl f hf xs (f g x))

theorem keeps_compileOutputs (g : Graph) : Keeps g g.compileOutputs := by
  have hl := keeps_lightPass g g.outputs []
  unfold compileOutputs
  generalize g.lightPass g.outputs [] = p at hl ⊢
  obtain ⟨_, _, g₁⟩ := p
  exact hl.trans (Keeps.of_nodes rfl rfl rfl)

theorem Keeps.compileOutputs {g₁ g₂ : Graph} (h : Keeps g₁ g₂) : Keeps g₁ g₂.compileOutputs :=
  h.trans (keeps_compileOutputs g₂)

theorem keeps_foldl_updateTypesFrom (ids : List NodeId) (g : Graph) :
    Keeps g (ids.foldl (fun g s => (g.updateTypesFrom s).2) g) :=
  keeps_foldl _ (fun g s => keeps_updateTypesFrom g s) ids g

theorem moves_rebuild : Moves rebuild := by
  unfold rebuild
  refine Moves.bind (Moves.modify _ fun g => ArenaRun.of_keeps ?_) fun _ => ?_
  · exact Keeps.of_map Node.configure rfl rfl rfl (fun _ _ => rfl) fun n hn =>
      (tame_configure g n hn).2
  refine Moves.bind moves_injectFallbacks fun _ => Moves.get_bind fun g => ?_
  dsimp only
  -- the passes over the types keep the arena, and the rest writes outputs, slots and events
  generalize hg₁ : List.foldl (fun g s => (g.updateTypesFrom s).2) g _ = g₁
  generalize hg₂ : List.foldl (fun g s => (g.updateTypesFrom s).2) g₁ _ = g₂
  have hk₁ : Keeps g g₁ := hg₁ ▸ keeps_foldl_updateTypesFrom _ g
  have hk₂ : Keeps g₁ g₂ := hg₂ ▸ keeps_foldl_updateTypesFrom _ g₁
  split
  exact MovesFrom.set (ArenaRun.of_keeps
    (Keeps.compileOutputs (hk₁.trans (hk₂.trans (Keeps.of_nodes rfl rfl rfl)))))

theorem moves_prepare : Moves prepare := by
  unfold prepare
  exact Moves.get_bind fun g =>
    Moves.ite moves_rebuild (Moves.modify _ fun g => ArenaRun.of_keeps (keeps_compileOutputs g)) g

/-- Running stages runs the body from the graph's nodes and properties and the program's kept
results, then writes back the nodes, properties and results it leaves and appends its events. -/
theorem run_runStages {α : Type} {p p' : Program} {body : EvalM α} {g g' : Graph} {a : α}
    (h : (runStages p body).run g = .ok ((a, p'), g')) :
    ∃ r : Run, body.run { nodes := g.nodes, props := g.props, memos := p.memos } = .ok (a, r) ∧
      p' = { p with memos := r.memos } ∧
      g' = { g with nodes := r.nodes, props := r.props, events := g.events ++ r.events } := by
  simp only [runStages, bind_pure_comp, StateT.run_bind, StateT.run_get, StateT.run_lift,
    StateT.run_map, StateT.run_set, map_pure, Functor.map_map, pure_bind] at h
  cases hr : body.run { nodes := g.nodes, props := g.props, memos := p.memos } with
  | error e =>
    rw [hr] at h
    cases h
  | ok ar =>
    obtain ⟨a, r⟩ := ar
    rw [hr] at h
    cases h
    exact ⟨r, rfl, rfl, rfl⟩

/-- Running stages writes back the nodes they leave, which keep their ids and links when the run
keeps the shape. -/
theorem moves_runStages {α : Type} (p : Program) {body : EvalM α} (hb : KeepsShape body) :
    Moves (runStages p body) := by
  intro g ⟨a, p'⟩ g' h
  obtain ⟨r, hr, -, rfl⟩ := run_runStages h
  exact ArenaRun.of_keeps (Keeps.of_links (hb _ _ r hr) rfl rfl)

theorem moves_process (elapsed : Float32) : Moves (process elapsed) := by
  unfold process
  refine Moves.get_bind fun g => ?_
  refine Moves.ite (Moves.bind moves_rebuild fun _ => ?_) ?_ g
  -- after the rebuild, if any: the tick moves on and the compiled outputs run
  all_goals
    refine Moves.bind (Moves.modify _ fun g => ArenaRun.of_keeps (Keeps.of_nodes rfl rfl rfl))
      fun _ => Moves.get_bind fun g₁ => ?_
    refine MovesFrom.bind (MovesFrom.set (ArenaRun.of_keeps (Keeps.of_nodes rfl rfl rfl)))
      fun _ g₂ _ => ?_
    have hbody := KeepsShape.forM g₁.roots _ fun i =>
      Program.keepsShape_run g₁.program.stages g₁.tick g₁.dt i
    refine Moves.bind (moves_runStages _ hbody) (fun x => ?_) g₂
    exact Moves.modify _ fun g => ArenaRun.of_keeps (Keeps.of_nodes rfl rfl rfl)

theorem moves_compile (id : NodeId) : Moves (compile id) := by
  unfold compile
  refine Moves.get_bind fun g => ?_
  refine Moves.ite (Moves.bind moves_rebuild fun _ => ?_) ?_ g
  -- after the rebuild, if any: the light pass keeps the arena and compiling writes only events
  all_goals
    refine Moves.get_bind fun g₁ => ?_
    have hl := keeps_lightPass g₁ [id] []
    generalize g₁.lightPass [id] [] = p at hl ⊢
    obtain ⟨_, _, g₂⟩ := p
    exact MovesFrom.bind (MovesFrom.set (ArenaRun.of_keeps (hl.trans (Keeps.of_nodes rfl rfl rfl))))
      fun _ g₃ _ => Moves.pure _ g₃

theorem moves_evaluate (id : NodeId) : Moves (evaluate id) := by
  unfold evaluate
  refine Moves.bind (moves_compile id) fun ⟨p, s⟩ => ?_
  cases s with
  | none => exact Moves.pure _
  | some i =>
    refine Moves.get_bind fun g => ?_
    exact Moves.bind (moves_runStages p (Program.keepsShape_evalValue _ _ _ _))
      (fun _ => Moves.pure _) g

/-! ### Declaring host inputs and outputs -/

theorem moves_declareIo (s : IoSession) (t : ValueType) (name : String) (mode : IoMode) :
    Moves (declareIo s t name mode) := by
  unfold declareIo
  split
  · rename_i kindId _
    refine Moves.get_bind fun g => ?_
    lift_lets
    intro reused output jp
    -- the node declared, reused or created, gets its mode and name and its inputs declared again
    have hjp : ∀ x, Moves (jp x) := by
      rintro ⟨found, s'⟩
      simp only [jp]
      cases found with
      | error e => exact Moves.pure _
      | ok id =>
        refine Moves.get_bind fun g₁ => ?_
        split
        · exact Moves.pure _ g₁
        · split
          · exact MovesFrom.bind (MovesFrom.set (ArenaRun.of_keeps (Keeps.refl g₁).dirty))
              fun _ g₂ _ => Moves.pure _ g₂
          · rename_i k _
            have hk : Keeps g₁ (g₁.updateNode id fun n => Node.configure { n with kind := k }) :=
              (Tame.of_refs (fun _ => rfl)
                (fun n _ hx => @Node.refs_configure { n with kind := k } _ hx) :
                g₁.Tame fun n => Node.configure { n with kind := k }).updateNode id
            exact MovesFrom.bind (MovesFrom.set (ArenaRun.of_keeps hk.dirty))
              fun _ g₂ _ => Moves.pure _ g₂
    intro row x
    clear_value reused
    cases reused with
    | some i => exact Moves.bind (Moves.pure _) hjp g
    | none =>
      refine Moves.bind (moves_createNode kindId) (fun r => ?_) g
      cases r with
      | error e => exact Moves.bind (Moves.pure _) hjp
      | ok id =>
        refine Moves.get_bind fun g₁ => ?_
        split
        · rename_i g₂ hpos
          exact MovesFrom.bind (MovesFrom.set (ArenaRun.of_keeps (keeps_setPosition hpos)))
            fun _ g₃ _ => Moves.bind (Moves.pure _) hjp g₃
        · exact Moves.bind (Moves.pure _) hjp g₁
  · exact Moves.pure _

/-- Finishing a declaration session takes out the pending nodes that are not listed, one arena
step each, and prepares the graph. -/
theorem moves_finishIo (s : IoSession) : Moves (finishIo s) := by
  unfold finishIo
  refine Moves.bind (Moves.forIn _ _ _ fun entry _ => ?_) fun _ => moves_prepare
  obtain ⟨name, id⟩ := entry
  refine Moves.get_bind fun g => ?_
  dsimp only
  refine MovesFrom.ite (fun _ => ?_) fun _ => Moves.pure _ g
  exact MovesFrom.bind (MovesFrom.modify (.single (.remove id rfl rfl rfl)))
    fun _ g₁ _ => Moves.pure _ g₁

/-! ### Duplicating -/

/-- Making copies only reads the graph; the copies get consecutive ids from `first + offset`. -/
theorem run_copies {first : NodeId} {shift : Vec2} :
    ∀ {offset : Nat} {ns : List Node} {g g' : Graph} {r : Except GraphError (List (NodeId × Node))},
      (copies first shift offset ns).run g = .ok (r, g') →
      g' = g ∧ ∀ pairs, r = .ok pairs →
        pairs.map (·.2.id) = (List.range pairs.length).map fun k : Nat => first + (offset + k : Nat)
  | _, [], g, g', r, h => by
    cases h
    exact ⟨rfl, fun pairs hp => by cases hp; rfl⟩
  | offset, n :: rest, g, g', r, h => by
    cases hadd : idAdd first offset with
    | error e =>
      rw [copies, StateT.run_bind, StateT.run_lift, hadd] at h
      cases h
    | ok id =>
      obtain ⟨rfl, -, -⟩ := idAdd_eq_ok.mp hadd
      rw [copies, run_bind_of_ok (run_lift_ok hadd)] at h
      cases hk : copyKind n.kind (first + offset) with
      | error e =>
        rw [hk] at h
        cases h
        exact ⟨rfl, fun pairs hp => by cases hp⟩
      | ok k =>
        rw [hk] at h
        dsimp only at h
        cases hc : (copies first shift (offset + 1) rest).run g with
        | error e =>
          rw [run_bind_of_error hc] at h
          cases h
        | ok p =>
          obtain ⟨r', g''⟩ := p
          obtain ⟨rfl, hpairs⟩ := run_copies hc
          rw [run_bind_of_ok hc] at h
          cases r' with
          | error e =>
            cases h
            exact ⟨rfl, fun pairs hp => by cases hp⟩
          | ok more =>
            cases h
            refine ⟨rfl, fun pairs hp => ?_⟩
            cases hp
            -- the first copy takes `first + offset`, the others follow it
            have hmore := hpairs more rfl
            simp only [List.map_cons, List.length_cons, List.range_succ_eq_map, List.map_map]
            rw [hmore]
            refine congrArg₂ List.cons (by simp [Node.new]) (List.map_congr_left fun j _ => ?_)
            simp only [Function.comp_apply]
            congr 2
            omega

/-- Putting nodes under ids the graph does not have, and that differ from one another, appends
them. -/
theorem nodes_foldl_insertNode :
    ∀ (made : List Node) (g : Graph), (made.map (·.id)).Nodup → (∀ n ∈ made, n.id ∉ g.ids) →
      (made.foldl insertNode g).nodes = g.nodes ++ made ∧
        (made.foldl insertNode g).nextFallbackId = g.nextFallbackId
  | [], g, _, _ => ⟨(List.append_nil _).symm, rfl⟩
  | n :: made, g, hnd, hfresh => by
    rw [List.map_cons, List.nodup_cons] at hnd
    have hins : insertNode g n = { g with nodes := g.nodes ++ [n] } := by
      have hn : g.contains n.id = false :=
        Bool.eq_false_iff.mpr fun h => hfresh n List.mem_cons_self (contains_iff_mem_ids.mp h)
      simp [insertNode, hn]
    -- the rest is fresh for the graph with `n` appended, since its ids differ from `n.id`
    have hfresh' : ∀ m ∈ made, m.id ∉ (insertNode g n).ids := by
      intro m hm
      rw [hins]
      simp only [Graph.ids, List.map_append, List.mem_append, List.map_cons, List.map_nil,
        List.mem_singleton, not_or]
      exact ⟨hfresh m (List.mem_cons_of_mem n hm),
        fun he => hnd.1 (he ▸ List.mem_map_of_mem hm)⟩
    obtain ⟨ih, ihf⟩ := nodes_foldl_insertNode made (insertNode g n) hnd.2 hfresh'
    rw [List.foldl_cons, ih, ihf, hins]
    exact ⟨List.append_assoc _ _ _, rfl⟩

/-- A link of a copy reads the copy of its source, or nothing. -/
theorem remapTarget_mem (pairs : List (NodeId × Node)) (t : NodeId) :
    remapTarget pairs t = noNode ∨ remapTarget pairs t ∈ pairs.map (·.2.id) := by
  unfold remapTarget
  cases h : pairs.reverse.find? (·.1 == t) with
  | none => exact .inl rfl
  | some p =>
    exact .inr (List.mem_map.mpr ⟨p, List.mem_reverse.mp (List.mem_of_find?_eq_some h), rfl⟩)

/-- The ids of a block of `n` nodes under consecutive ids from `a`. -/
theorem nodup_offsets (a : Int) (n : Nat) : ((List.range n).map fun k : Nat => a + k).Nodup :=
  List.Pairwise.map _ (fun _ _ hab he => hab (Int.natCast_inj.mp (Int.add_left_cancel he)))
    List.nodup_range

theorem mem_offsets {a x : Int} {n : Nat} (hx : x ∈ (List.range n).map fun k : Nat => a + k) :
    a ≤ x ∧ x < a + n := by
  obtain ⟨k, hk, rfl⟩ := List.mem_map.mp hx
  have := List.mem_range.mp hk
  omega

/-- When every id lies below the user counter, the ids from the counter on are free. -/
theorem offsets_fresh {g : Graph} (hbelow : ∀ x : Int, x ∈ g.ids → x < g.nextId) {x : Int}
    {n : Nat} (hx : x ∈ (List.range n).map fun k : Nat => g.nextId + k) : x ∉ g.ids := by
  intro hin
  have := (mem_offsets hx).1
  have := hbelow x hin
  omega

/-- Nodes under the ids that follow the user counter, when every id lies below it, are appended. -/
theorem nodes_insertBlock {g : Graph} {made : List Node}
    (hbelow : ∀ x : Int, x ∈ g.ids → x < g.nextId)
    (hids : made.map (·.id) = (List.range made.length).map fun k : Nat => g.nextId + k) :
    (made.foldl insertNode g).nodes = g.nodes ++ made ∧
      (made.foldl insertNode g).nextFallbackId = g.nextFallbackId :=
  nodes_foldl_insertNode made g (hids ▸ nodup_offsets _ _) fun _ hn =>
    offsets_fresh hbelow (hids ▸ List.mem_map_of_mem hn)

theorem run_duplicate {sel : List NodeId} {g g' : Graph} {r : Except GraphError (List NodeId)}
    (h : (duplicate sel).run g = .ok (r, g')) (hbelow : ∀ x : Int, x ∈ g.ids → x < g.nextId) :
    ((∃ e, r = .error e) ∧ g' = g) ∨ ∃ made : List Node, r = .ok (made.map (·.id)) ∧
      g'.nodes = g.nodes ++ made ∧
      made.map (·.id) = (List.range made.length).map (fun k : Nat => g.nextId + k) ∧
      g'.nextId = g.nextId + made.length ∧ g'.nextId ≤ idMax ∧
      g'.nextFallbackId = g.nextFallbackId ∧
      ∀ n ∈ made, ∀ x ∈ n.refs, x = noNode ∨ x ∈ made.map (·.id) := by
  unfold duplicate at h
  rw [run_bind_of_ok (rfl : (get : GraphM Graph).run g = .ok (g, g))] at h
  dsimp only at h
  split at h
  · cases h
    exact .inl ⟨⟨_, rfl⟩, rfl⟩
  -- the copies are made without touching the graph, then put in under the next ids
  · obtain ⟨r', g₁, hc, h₁⟩ := run_bind_eq_ok h
    obtain ⟨rfl, hpairs⟩ := run_copies hc
    cases r' with
    | error e =>
      cases h₁
      exact .inl ⟨⟨_, rfl⟩, rfl⟩
    | ok pairs =>
      obtain ⟨next, g₂, hlift, h₂⟩ := run_bind_eq_ok h₁
      obtain ⟨hadd, rfl⟩ := run_lift_eq_ok hlift
      obtain ⟨rfl, -, hle⟩ := idAdd_eq_ok.mp hadd
      obtain ⟨_, g₃, hset, h₃⟩ := run_bind_eq_ok h₂
      cases hset
      cases h₃
      refine .inr ⟨_, rfl, ?_⟩
      generalize hm : List.map _ pairs = made
      have hids : made.map (·.id) = pairs.map (·.2.id) := by
        rw [← hm, List.map_map]
        rfl
      have hlen : made.length = pairs.length := by rw [← hm, List.length_map]
      have hrange :
          made.map (·.id) = (List.range made.length).map fun k : Nat => g₂.nextId + k := by
        rw [hids, hpairs pairs rfl, hlen]
        simp
      obtain ⟨hnodes, hfb⟩ := nodes_insertBlock hbelow hrange
      refine ⟨hnodes, hrange, by simp only [hlen], by simpa only [hlen] using hle, hfb, ?_⟩
      -- a link of a copy reads the copy of its source, or nothing, and remembers no default
      intro n hn x hx
      rw [← hm] at hn
      obtain ⟨p, -, rfl⟩ := List.mem_map.mp hn
      obtain ⟨l, hl, hxl⟩ := mem_linkRefs.mp hx
      obtain ⟨l₀, -, rfl⟩ := List.mem_map.mp hl
      rcases hxl with rfl | rfl
      · rw [hids]
        exact remapTarget_mem pairs l₀.target
      · exact .inl rfl

/-- Duplicating appends the copies under the next user ids, when every id lies below the counter. -/
theorem movesFrom_duplicate (sel : List NodeId) {g : Graph}
    (hbelow : ∀ x : Int, x ∈ g.ids → x < g.nextId) :
    MovesFrom g (duplicate sel) := by
  intro r g' h
  rcases run_duplicate h hbelow with ⟨-, rfl⟩ | ⟨made, -, hn, hids, hi, hle, hf, hrefs⟩
  · exact .refl
  · exact .single (.addUsers made hn hids hi hle hf hrefs)

/-! ### All operations -/

/-- One operation a host performs on a graph, loading a text apart: `Edit g g'` when the operation,
run on `g`, succeeds and leaves `g'`. Stages may be run with any evaluation that keeps the nodes'
ids and links, as runs of compiled programs do (`Program.keepsShape_run`). -/
inductive Edit : Graph → Graph → Prop
  | create {g g' : Graph} (kindId : String) {r : Except GraphError NodeId} :
      (createNode kindId).run g = .ok (r, g') → Edit g g'
  | add {g g' : Graph} (k : Kind) {id : NodeId} : (addNode k).run g = .ok (id, g') → Edit g g'
  | remove {g g' : Graph} (id : NodeId) {n : Node} : g.removeNode id = .ok (g', n) → Edit g g'
  | connect {g g' : Graph} (node : NodeId) (input : Nat) (source : NodeId) :
      g.connect node input source = .ok g' → Edit g g'
  | disconnect {g g' : Graph} (node : NodeId) (input : Nat) :
      g.disconnect node input = .ok g' → Edit g g'
  | setPosition {g g' : Graph} (id : NodeId) (p : Vec2) : g.setPosition id p = .ok g' → Edit g g'
  | setFields (g : Graph) (id : NodeId) (fs : List String) (declare : Bool) :
      Edit g (g.setFields id fs declare).1
  | configure {g g' : Graph} (id : NodeId) {k : Nat} :
      g.configureNode id = .ok (g', k) → Edit g g'
  | duplicate {g g' : Graph} (sel : List NodeId) {r : Except GraphError (List NodeId)} :
      (duplicate sel).run g = .ok (r, g') → Edit g g'
  | rebuild {g g' : Graph} : rebuild.run g = .ok ((), g') → Edit g g'
  | prepare {g g' : Graph} : prepare.run g = .ok ((), g') → Edit g g'
  | process {g g' : Graph} (elapsed : Float32) : (process elapsed).run g = .ok ((), g') →
      Edit g g'
  | compile {g g' : Graph} (id : NodeId) {r : Program × Option Nat} :
      (compile id).run g = .ok (r, g') → Edit g g'
  | evaluate {g g' : Graph} (id : NodeId) {v : Option Value} :
      (evaluate id).run g = .ok (v, g') → Edit g g'
  | runStages {α : Type} {g g' : Graph} (p : Program) (body : EvalM α) {r : α × Program} :
      KeepsShape body → (runStages p body).run g = .ok (r, g') → Edit g g'
  | writeSlot {g g' : Graph} (id : NodeId) (v : SlotValue) : g.writeSlot id v = .ok g' → Edit g g'
  | applySlots {g g' : Graph} (s : SlotInputs) : s.apply g = .ok g' → Edit g g'
  | setConstant (g : Graph) (id : NodeId) (c : Constant) : Edit g (g.setConstant id c).1
  | setClock (g : Graph) (c : Clock) : Edit g (g.setClock c)
  | setProps (g : Graph) (p : Properties) : Edit g (g.setProps p)
  | insertProp {g g' : Graph} (name : String) (v : Value) :
      g.insertProp name v = some g' → Edit g g'
  | updateTypes (g : Graph) (id : NodeId) : Edit g (g.updateTypesFrom id).2
  | lightPass (g : Graph) (ids : List NodeId) : Edit g (g.lightPass ids).2.2
  | declareIo {g g' : Graph} (s : IoSession) (t : ValueType) (name : String) (mode : IoMode)
      {r : Except GraphError NodeId × IoSession} :
      (declareIo s t name mode).run g = .ok (r, g') → Edit g g'
  | finishIo {g g' : Graph} (s : IoSession) : (finishIo s).run g = .ok ((), g') → Edit g g'

/-- Every operation is a run of arena steps, provided every id lies below the user counter (which
only duplicating needs). -/
theorem Edit.arenaRun {g g' : Graph} (h : Edit g g')
    (hbelow : ∀ x : Int, x ∈ g.ids → x < g.nextId) :
    ArenaRun g g' := by
  cases h with
  | create kindId h => exact moves_createNode kindId g _ _ h
  | add k h => exact .single (arenaStep_addNode h)
  | remove id h => exact .single (arenaStep_removeNode h)
  | connect node input source h => exact .of_keeps (keeps_connect h)
  | disconnect node input h => exact .of_keeps (keeps_disconnect h)
  | setPosition id p h => exact .of_keeps (keeps_setPosition h)
  | setFields _ id fs declare => exact .of_keeps (keeps_setFields g id fs declare)
  | configure id h => exact .of_keeps (keeps_configureNode h)
  | duplicate sel h => exact movesFrom_duplicate sel hbelow _ _ h
  | rebuild h => exact moves_rebuild g _ _ h
  | prepare h => exact moves_prepare g _ _ h
  | process elapsed h => exact moves_process elapsed g _ _ h
  | compile id h => exact moves_compile id g _ _ h
  | evaluate id h => exact moves_evaluate id g _ _ h
  | runStages p body hb h => exact moves_runStages p hb g _ _ h
  | writeSlot id v h => exact .of_keeps (keeps_writeSlot h)
  | applySlots s h => exact .of_keeps (keeps_applySlots h)
  | setConstant _ id c => exact .of_keeps (keeps_setConstant g id c)
  | setClock _ c => exact .of_keeps (Keeps.of_nodes rfl rfl rfl)
  | setProps _ p => exact .of_keeps (Keeps.of_nodes rfl rfl rfl)
  | insertProp name v h => exact .of_keeps (keeps_insertProp h)
  | updateTypes _ id => exact .of_keeps (keeps_updateTypesFrom g id)
  | lightPass _ ids => exact .of_keeps (keeps_lightPass g ids [])
  | declareIo s t name mode h => exact moves_declareIo s t name mode g _ _ h
  | finishIo s h => exact moves_finishIo s g _ _ h

end Graph

end NodeGraph
