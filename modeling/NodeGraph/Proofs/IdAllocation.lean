import Mathlib.Data.List.Nodup
import NodeGraph.Proofs.Operations
import NodeGraph.Graph.Text

/-!
# Id allocation

User nodes take ids counting up from 1 under `nextId`, hidden defaults ids counting down from -2
under `nextFallbackId`. `Graph.IdsOk` says the arena keeps to this, within the 32-bit range. Every
arena step keeps it, so every operation does (`Graph.IdsOk.edit`), and loading a text gives it
afresh (`Graph.idsOk_loadText`): in every state a host reaches, a node added takes a fresh id
(`Graph.reachable_allocates_fresh`). The counters fault rather than wrap at the ends of the range.
-/

namespace NodeGraph

namespace Graph

/-- The arena keeps to the id counters. -/
structure IdsOk (g : Graph) : Prop where
  nodup : g.ids.Nodup
  users : ∀ x : Int, x ∈ g.ids → -1 < x → x < g.nextId
  defaults : ∀ x : Int, x ∈ g.ids → x < -1 → g.nextFallbackId < x
  nextId_pos : 1 ≤ g.nextId
  nextId_le : g.nextId ≤ idMax
  fallback_ge : idMin ≤ g.nextFallbackId
  fallback_le : g.nextFallbackId ≤ -2

namespace IdsOk

variable {g g' : Graph}

theorem below (h : IdsOk g) : ∀ x : Int, x ∈ g.ids → x < g.nextId := by
  intro x hx
  by_cases hu : -1 < x
  · exact h.users x hx hu
  · have := h.nextId_pos
    omega

theorem above (h : IdsOk g) : ∀ x : Int, x ∈ g.ids → g.nextFallbackId < x := by
  intro x hx
  by_cases hd : x < -1
  · exact h.defaults x hx hd
  · have := h.fallback_le
    omega

theorem nextId_fresh (h : IdsOk g) : g.nextId ∉ g.ids := fun hm => Int.lt_irrefl _ (h.below _ hm)

theorem nextFallbackId_fresh (h : IdsOk g) : g.nextFallbackId ∉ g.ids :=
  fun hm => Int.lt_irrefl _ (h.above _ hm)

theorem keeps (h : IdsOk g) (hk : Keeps g g') : IdsOk g' := by
  have hids := hk.ids
  have hi := hk.nextId
  have hf := hk.nextFallbackId
  refine ⟨hids ▸ h.nodup, fun x hx => ?_, fun x hx => ?_, hi ▸ h.nextId_pos, hi ▸ h.nextId_le,
    hf ▸ h.fallback_ge, hf ▸ h.fallback_le⟩
  · rw [hi]
    exact h.users x (hids ▸ hx)
  · rw [hf]
    exact h.defaults x (hids ▸ hx)

/-- A block of user nodes appended under the next ids keeps the arena to the counters. -/
theorem addUsers (h : IdsOk g) {made : List Node} (hn : g'.nodes = g.nodes ++ made)
    (hids : made.map (·.id) = (List.range made.length).map (fun k : Nat => g.nextId + k))
    (hi : g'.nextId = g.nextId + made.length) (hle : g'.nextId ≤ idMax)
    (hf : g'.nextFallbackId = g.nextFallbackId) : IdsOk g' := by
  have hg' : g'.ids = g.ids ++ (List.range made.length).map (fun k : Nat => g.nextId + k) := by
    rw [Graph.ids, hn, List.map_append, ← hids]
    rfl
  have hpos := h.nextId_pos
  refine ⟨?_, fun x hx _ => ?_, fun x hx hx' => ?_, by omega, hle, hf ▸ h.fallback_ge,
    hf ▸ h.fallback_le⟩
  · rw [hg', List.nodup_append]
    refine ⟨h.nodup, nodup_offsets _ _, fun a ha b hb => ?_⟩
    rintro rfl
    exact offsets_fresh h.below hb ha
  · rw [hg', List.mem_append] at hx
    rcases hx with hx | hx
    · have := h.below x hx
      omega
    · have := (mem_offsets hx).2
      omega
  · rw [hg', List.mem_append] at hx
    rcases hx with hx | hx
    · exact hf ▸ h.defaults x hx hx'
    · have := (mem_offsets hx).1
      omega

/-- A default appended under the next default id keeps the arena to the counters. -/
theorem addDefault (h : IdsOk g) {n : Node} (hn : g'.nodes = g.nodes ++ [n])
    (hid : n.id = g.nextFallbackId) (hf : g'.nextFallbackId = g.nextFallbackId - 1)
    (hge : idMin ≤ g'.nextFallbackId) (hi : g'.nextId = g.nextId) : IdsOk g' := by
  have hg' : g'.ids = g.ids ++ [g.nextFallbackId] := by
    rw [Graph.ids, hn, List.map_append, List.map_singleton, hid]
    rfl
  have hneg := h.fallback_le
  refine ⟨?_, fun x hx hx' => ?_, fun x hx _ => ?_, hi ▸ h.nextId_pos, hi ▸ h.nextId_le, hge,
    by omega⟩
  · rw [hg', ← List.concat_eq_append]
    exact h.nodup.concat h.nextFallbackId_fresh
  · rw [hg', List.mem_append, List.mem_singleton] at hx
    rcases hx with hx | rfl
    · exact hi ▸ h.users x hx hx'
    · omega
  · rw [hg', List.mem_append, List.mem_singleton] at hx
    rcases hx with hx | rfl
    · have := h.above x hx
      omega
    · omega

theorem remove (h : IdsOk g) {id : NodeId} (hn : g'.nodes = (g.detach id).nodes)
    (hi : g'.nextId = g.nextId) (hf : g'.nextFallbackId = g.nextFallbackId) : IdsOk g' := by
  have hg' : g'.ids = g.ids.filter (· != id) := by
    rw [← ids_detach, Graph.ids, hn]
    rfl
  have hsub : ∀ x, x ∈ g'.ids → x ∈ g.ids := fun x hx => by
    rw [hg'] at hx
    exact (List.mem_filter.mp hx).1
  refine ⟨hg' ▸ h.nodup.sublist (List.filter_sublist), fun x hx hx' => ?_, fun x hx hx' => ?_,
    hi ▸ h.nextId_pos, hi ▸ h.nextId_le, hf ▸ h.fallback_ge, hf ▸ h.fallback_le⟩
  · exact hi ▸ h.users x (hsub x hx) hx'
  · exact hf ▸ h.defaults x (hsub x hx) hx'

theorem step (h : IdsOk g) (hs : ArenaStep g g') : IdsOk g' := by
  cases hs with
  | keeps hk => exact h.keeps hk
  | addUsers made hn hids hi hle hf _ => exact h.addUsers hn hids hi hle hf
  | addDefault n hn hid hf hge hi _ => exact h.addDefault hn hid hf hge hi
  | remove id hn hi hf => exact h.remove hn hi hf

theorem arenaRun (h : IdsOk g) (hr : ArenaRun g g') : IdsOk g' := by
  induction hr with
  | refl => exact h
  | tail _ hs ih => exact ih.step hs

theorem edit (h : IdsOk g) (he : Edit g g') : IdsOk g' :=
  h.arenaRun (he.arenaRun h.below)

/-! Each allocation from such an arena takes ids it does not have and appends. -/

theorem addNode_fresh (h : IdsOk g) {k : Kind} {id : NodeId}
    (hr : (addNode k).run g = .ok (id, g')) :
    id ∉ g.ids ∧ g'.nodes = g.nodes ++ [Node.new id k] := by
  obtain ⟨rfl, hn, -⟩ := run_addNode hr
  exact ⟨h.nextId_fresh, hn⟩

/-- Adding a node faults exactly when the user counter is at the top of the range. -/
theorem addNode_ok_iff (h : IdsOk g) (k : Kind) :
    (∃ p, (addNode k).run g = .ok p) ↔ g.nextId < idMax := by
  constructor
  · rintro ⟨⟨id, g'⟩, hr⟩
    have := (run_addNode hr).2.2.2.1
    omega
  · intro hlt
    have hpos := h.nextId_pos
    have hadd : idAdd g.nextId 1 = .ok (g.nextId + 1) :=
      idAdd_eq_ok.mpr ⟨rfl, by unfold idMin; omega, by omega⟩
    refine ⟨(g.nextId,
      { g with nodes := g.nodes ++ [Node.new g.nextId k], nextId := g.nextId + 1, dirty := true }),
      ?_⟩
    simp only [addNode, bind_pure_comp, StateT.run_bind, StateT.run_get, StateT.run_lift,
      StateT.run_map, StateT.run_set, map_pure, Functor.map_map, pure_bind, hadd]
    rfl

theorem createFallback_fresh (h : IdsOk g) {kindId : String} {id : NodeId}
    (hr : (createFallback kindId).run g = .ok (some id, g')) :
    id ∉ g.ids ∧ g'.ids = g.ids ++ [id] := by
  rcases run_createFallback hr with ⟨h₁, -⟩ | ⟨k, h₁, hn, -⟩
  · cases h₁
  · cases h₁
    refine ⟨h.nextFallbackId_fresh, ?_⟩
    simp [Graph.ids, hn, Node.new]

theorem duplicate_fresh (h : IdsOk g) {sel xs : List NodeId}
    (hr : (duplicate sel).run g = .ok (.ok xs, g')) :
    xs.Nodup ∧ (∀ x ∈ xs, x ∉ g.ids) ∧ g'.ids = g.ids ++ xs := by
  rcases run_duplicate hr h.below with ⟨⟨e, he⟩, -⟩ | ⟨made, hxs, hn, hids, -⟩
  · cases he
  · cases hxs
    rw [hids]
    refine ⟨nodup_offsets _ _, fun x hx => offsets_fresh h.below hx, ?_⟩
    rw [← hids, Graph.ids, hn, List.map_append]
    rfl

end IdsOk

/-! ### Loading a text -/

theorem nextUserId_spec {ids : List NodeId} {next : Int} (h : nextUserId ids = .ok next) :
    (∀ x : Int, x ∈ ids → -1 < x → x < next) ∧ next ≤ idMax := by
  have hmem : ∀ x : Int, x ∈ ids → -1 < x → x ∈ ids.filter isUserId := fun x hx hx' =>
    List.mem_filter.mpr ⟨hx, by simpa [isUserId] using hx'⟩
  unfold nextUserId at h
  split at h
  · rename_i m hm
    obtain ⟨rfl, -, hle⟩ := idAdd_eq_ok.mp h
    refine ⟨fun x hx hx' => ?_, hle⟩
    have := (List.max?_eq_some_iff.mp hm).2 x (hmem x hx hx')
    simp only [NodeId] at this
    omega
  · rename_i hm
    cases h
    refine ⟨fun x hx hx' => ?_, by decide⟩
    -- with a user id among the ids, the largest one would exist
    have := hmem x hx hx'
    rw [List.max?_eq_none_iff.mp hm] at this
    cases this

theorem nextDefaultId_spec {ids : List NodeId} {next : Int} (h : nextDefaultId ids = .ok next) :
    (∀ x : Int, x ∈ ids → x < -1 → next < x) ∧ idMin ≤ next := by
  have hmem : ∀ x : Int, x ∈ ids → x < -1 → x ∈ ids.filter isDefaultId := fun x hx hx' =>
    List.mem_filter.mpr ⟨hx, by simpa [isDefaultId] using hx'⟩
  unfold nextDefaultId at h
  split at h
  · rename_i m hm
    obtain ⟨rfl, hge, -⟩ := idSub_eq_ok.mp h
    refine ⟨fun x hx hx' => ?_, hge⟩
    have := (List.min?_eq_some_iff.mp hm).2 x (hmem x hx hx')
    simp only [NodeId] at this
    omega
  · rename_i hm
    cases h
    refine ⟨fun x hx hx' => ?_, by decide⟩
    have := hmem x hx hx'
    rw [List.min?_eq_none_iff.mp hm] at this
    cases this

/-- Reading the records refuses an id read before, so the ids read differ from one another. -/
theorem decodeNodes_nodup :
    ∀ (rs : List String) (acc nodes : List Node), (acc.map (·.id)).Nodup →
      decodeNodes rs acc = .ok nodes → (nodes.map (·.id)).Nodup
  | [], acc, nodes, hacc, h => by
    cases h
    exact hacc
  | r :: rs, acc, nodes, hacc, h => by
    rw [decodeNodes] at h
    cases hn : decodeNode r with
    | error e =>
      rw [hn] at h
      cases h
    | ok n =>
      simp only [hn, bind, Except.bind] at h
      by_cases hany : acc.any (·.id == n.id) = true
      · rw [if_pos hany] at h
        cases h
      · rw [if_neg hany] at h
        refine decodeNodes_nodup rs (acc ++ [n]) nodes ?_ h
        rw [List.map_append, List.map_singleton, ← List.concat_eq_append]
        refine hacc.concat fun hin => hany ?_
        obtain ⟨m, hm, he⟩ := List.mem_map.mp hin
        exact List.any_eq_true.mpr ⟨m, hm, by simpa using he⟩

/-- Loading a text leaves the graph as it was, or puts in nodes with ids that differ from one
another and counters past them. -/
theorem idsOk_loadText {text : String} {g g' : Graph} {r : Except GraphError Unit}
    (h : (loadText text).run g = .ok (r, g')) (hg : IdsOk g) : IdsOk g' := by
  unfold loadText at h
  dsimp only at h
  split at h
  · cases h
    exact hg
  · rename_i nodes hd
    -- the counters are computed first, then the nodes put in
    obtain ⟨next, g₁, hlift, h₁⟩ := run_bind_eq_ok h
    obtain ⟨hn, rfl⟩ := run_lift_eq_ok hlift
    obtain ⟨nf, g₂, hlift', h₂⟩ := run_bind_eq_ok h₁
    obtain ⟨hf, rfl⟩ := run_lift_eq_ok hlift'
    obtain ⟨_, g₃, hm₁, h₃⟩ := run_bind_eq_ok h₂
    cases hm₁
    obtain ⟨_, g₄, hm₂, h₄⟩ := run_bind_eq_ok h₃
    cases hm₂
    cases h₄
    obtain ⟨husers, hle⟩ := nextUserId_spec hn
    obtain ⟨hdefaults, hge⟩ := nextDefaultId_spec hf
    refine ⟨decodeNodes_nodup _ [] nodes List.nodup_nil hd,
      fun x hx hx' => Int.lt_of_lt_of_le (husers x hx hx') (Int.le_max_left next 1),
      fun x hx hx' => Int.lt_of_le_of_lt (Int.min_le_left nf (-2)) (hdefaults x hx hx'),
      Int.le_max_right next 1, Int.max_le.mpr ⟨hle, by decide⟩, Int.le_min.mpr ⟨hge, by decide⟩,
      Int.min_le_right nf (-2)⟩

/-! ### Reachable states -/

/-- A step of a host session: an operation, or loading a text. -/
inductive Step : Graph → Graph → Prop
  | edit {g g' : Graph} : Edit g g' → Step g g'
  | load {g g' : Graph} (text : String) {r : Except GraphError Unit} :
      (loadText text).run g = .ok (r, g') → Step g g'

/-- The states a host reaches from the empty graph. -/
def Reachable (g : Graph) : Prop := Relation.ReflTransGen Step {} g

theorem idsOk_empty : IdsOk ({} : Graph) :=
  ⟨List.nodup_nil, (fun _ hx _ => by cases hx), (fun _ hx _ => by cases hx), by decide, by decide,
    by decide, by decide⟩

theorem Reachable.idsOk {g : Graph} (h : Reachable g) : IdsOk g := by
  induction h with
  | refl => exact idsOk_empty
  | tail _ hs ih =>
    cases hs with
    | edit he => exact ih.edit he
    | load text hl => exact idsOk_loadText hl ih

/-- In every state a host reaches the arena keeps to the id counters; adding a node faults only
when the user counter is at the top of the range; and a node added, a default created or a block
of copies takes ids the arena did not have, appended after its nodes. -/
theorem reachable_allocates_fresh {g : Graph} (h : Reachable g) :
    IdsOk g ∧
      (∀ k : Kind, (∃ p, (addNode k).run g = .ok p) ↔ g.nextId < idMax) ∧
      (∀ (k : Kind) (id : NodeId) (g' : Graph), (addNode k).run g = .ok (id, g') →
        id ∉ g.ids ∧ g'.nodes = g.nodes ++ [Node.new id k]) ∧
      (∀ (kindId : String) (id : NodeId) (g' : Graph),
        (createFallback kindId).run g = .ok (some id, g') → id ∉ g.ids ∧ g'.ids = g.ids ++ [id]) ∧
      (∀ (sel xs : List NodeId) (g' : Graph), (duplicate sel).run g = .ok (.ok xs, g') →
        xs.Nodup ∧ (∀ x ∈ xs, x ∉ g.ids) ∧ g'.ids = g.ids ++ xs) := by
  have hok := h.idsOk
  exact ⟨hok, hok.addNode_ok_iff, fun _ _ _ hr => hok.addNode_fresh hr,
    fun _ _ _ hr => hok.createFallback_fresh hr, fun _ _ _ hr => hok.duplicate_fresh hr⟩

theorem reachable_of_edits {g : Graph} (h : Relation.ReflTransGen Edit {} g) : Reachable g :=
  Relation.ReflTransGen.mono (fun _ _ => Step.edit) _ _ h

/-- A random value (node 1) wired into an absolute value (node 2). -/
def wiredPair : Graph where
  nodes :=
    [Node.new 1 (.random .value01),
     { Node.new 2 (.math .abs) with
        inputs := (Node.new 2 (.math .abs)).inputs.map fun l => { l with target := 1 } }]
  nextId := 3
  dirty := true

theorem edits_wiredPair : Relation.ReflTransGen Edit {} wiredPair := by
  have h₁ : Relation.ReflTransGen Edit {}
      { nodes := [Node.new 1 (.random .value01)], nextId := 2, dirty := true } :=
    .single (.add (.random .value01) rfl)
  have h₂ : Relation.ReflTransGen Edit {}
      { nodes := [Node.new 1 (.random .value01), Node.new 2 (.math .abs)], nextId := 3,
        dirty := true } :=
    h₁.tail (.add (.math .abs) rfl)
  exact h₂.tail (.connect 2 0 1 rfl)

/-- Once node 1 of the wired pair is removed, a node added takes id 3 and a copy of node 2 takes
id 3 too: the freed id 1 is not handed out again. -/
theorem unwiredPair_allocates_fresh :
    Reachable (wiredPair.detach 1) ∧ (wiredPair.detach 1).ids = [2] ∧ IdsOk (wiredPair.detach 1) ∧
      ∃ g₁ g₂, (addNode .perlin).run (wiredPair.detach 1) = .ok (3, g₁) ∧
        3 ∉ (wiredPair.detach 1).ids ∧ g₁.nodes = (wiredPair.detach 1).nodes ++ [Node.new 3 .perlin] ∧
        (duplicate [2]).run (wiredPair.detach 1) = .ok (.ok [3], g₂) ∧ g₂.ids = [2, 3] := by
  have hreach : Reachable (wiredPair.detach 1) :=
    reachable_of_edits (edits_wiredPair.tail (.remove 1 (n := Node.new 1 (.random .value01)) rfl))
  obtain ⟨hok, -, hadd, -, hdup⟩ := reachable_allocates_fresh hreach
  obtain ⟨hfresh, hnodes⟩ := hadd .perlin 3 _ rfl
  obtain ⟨-, -, hids⟩ := hdup [2] [3] _ rfl
  exact ⟨hreach, by decide, hok, _, _, rfl, hfresh, hnodes, rfl, hids⟩

/-- Loading a text whose user node has id `idMax` faults: the next user id would leave the range. -/
theorem ofText_overflows_at_idMax :
    (match ofText "random|2147483647|0 0||4" with
      | .error f => some f.message
      | .ok _ => none) = some "attempt to add with overflow" := by
  decide +kernel

end Graph

end NodeGraph
