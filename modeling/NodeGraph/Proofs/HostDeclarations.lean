import NodeGraph.Proofs.RepeatedRebuild

/-!
# Host declarations

What one declaration of a session does (`Graph.run_declareIo`): a type without a value kind gives
an error and changes nothing; otherwise it reuses the first pending entry of its key (name, kind
and mode), or else the first of its name and kind, or else creates a value node, sets the node's
mode and name and declares its inputs again (`Graph.DeclaredAt`). A reuse always succeeds
(`Graph.run_declareIo_of_reuse`), and an entry of the key left pending comes after the one reused
(`Graph.reuse?_first`), which lets a second session find the nodes of the first.
-/

namespace NodeGraph

theorem pair_sublist_of_lt {α : Type} {l : List α} {a b : α} {i j : Nat} (hij : i < j)
    (hi : l[i]? = some a) (hj : l[j]? = some b) : [a, b].Sublist l := by
  refine List.cons_sublist_iff.mpr ⟨l.take (i + 1), l.drop (i + 1),
    (List.take_append_drop _ _).symm, List.mem_iff_getElem?.mpr ⟨i, ?_⟩,
    List.singleton_sublist.mpr (List.mem_iff_getElem?.mpr ⟨j - (i + 1), ?_⟩)⟩
  · rw [List.getElem?_take, if_pos (by omega), hi]
  · rw [List.getElem?_drop, show i + 1 + (j - (i + 1)) = j by omega, hj]

theorem idxOf_lt_of_pair_sublist {α : Type} [BEq α] [LawfulBEq α] {l : List α} {a b : α}
    (hnd : l.Nodup) (h : [a, b].Sublist l) : l.idxOf a < l.idxOf b := by
  obtain ⟨r₁, r₂, rfl, ha, hb⟩ := List.cons_sublist_iff.mp h
  have hb' : b ∈ r₂ := List.singleton_sublist.mp hb
  have hbr₁ : b ∉ r₁ := fun hb₁ => List.disjoint_of_nodup_append hnd hb₁ hb'
  rw [List.idxOf_append_of_mem ha, List.idxOf_append_of_notMem hbr₁]
  have := List.idxOf_lt_length_of_mem ha
  omega

/-- What a host declares: a mode, a value type and a name. -/
structure IoDecl where
  mode : IoMode
  type : ValueType
  name : String

/-- The key a declaration looks for: its name, the kind of its type and its mode; none for a type
without a value kind. -/
def IoDecl.key? (d : IoDecl) : Option (String × String × IoMode) :=
  (Kind.ioId? d.type).map fun kindId => (d.name, kindId, d.mode)

/-- How a node of a kind is wired to its host: its slot name, the kind's id and its mode. Only
value nodes are wired. -/
def Kind.wiring? : Kind → Option (String × String × IoMode)
  | .value nm _ io c => some (nm, Kind.constantId c.type, io)
  | _ => none

theorem Kind.wiring?_setIo {k k' : Kind} {mode : IoMode} {name : String}
    (h : k.setIo? mode name = some k') : k'.wiring? = some (name, k.id, mode) := by
  cases k with
  | value nm e io c =>
    cases h
    rfl
  | _ => simp [Kind.setIo?] at h

theorem Kind.wiring?_of_ioMode {k : Kind} (h : k.ioMode ≠ .none) :
    ∃ nm, k.wiring? = some (nm, k.id, k.ioMode) := by
  cases k with
  | value nm e io c => exact ⟨nm, rfl⟩
  | _ => exact absurd rfl h

theorem Kind.ioMode_of_wiring? {k : Kind} {nm kindId : String} {m : IoMode}
    (h : k.wiring? = some (nm, kindId, m)) : k.ioMode = m := by
  cases k with
  | value nm' e io c =>
    simp only [Kind.wiring?, Option.some_inj, Prod.mk.injEq] at h
    exact h.2.2
  | _ => cases h

theorem Kind.create?_of_ioId {t : ValueType} {kindId : String}
    (h : Kind.ioId? t = some kindId) :
    ∃ nm e io c, Kind.create? kindId = some (.value nm e io c) ∧
      Kind.constantId c.type = kindId := by
  unfold Kind.ioId? at h
  split at h
  · rename_i ht
    cases h
    simp only [Kind.constantTypes, List.mem_cons, List.not_mem_nil, or_false] at ht
    rcases ht with rfl | rfl | rfl | rfl | rfl | rfl | rfl <;> exact ⟨_, _, _, _, rfl, rfl⟩
  · cases h

theorem Kind.constantTypes_of_ioId {t : ValueType} {kindId : String}
    (h : Kind.ioId? t = some kindId) :
    t ∈ Kind.constantTypes ∧ Kind.constantId t = kindId := by
  unfold Kind.ioId? at h
  split at h
  · cases h
    exact ⟨by assumption, rfl⟩
  · cases h

theorem Kind.eq_value_of_id {k : Kind} {t : ValueType} (ht : t ∈ Kind.constantTypes)
    (h : k.id = Kind.constantId t) : ∃ nm e io c, k = .value nm e io c := by
  simp only [Kind.constantTypes, List.mem_cons, List.not_mem_nil, or_false] at ht
  cases k with
  | value nm e io c => exact ⟨nm, e, io, c, rfl⟩
  | fallback c =>
    -- a default's id is longer than every constant type's
    have hle : (Kind.constantId t).length ≤ 7 := by
      rcases ht with rfl | rfl | rfl | rfl | rfl | rfl | rfl <;> decide
    have hlen := congrArg String.length h
    rw [Kind.id, String.length_append, show "default_".length = 8 from rfl] at hlen
    omega
  | _ =>
    rcases ht with rfl | rfl | rfl | rfl | rfl | rfl | rfl <;> simp [Kind.id, Kind.constantId] at h

namespace Graph

/-- How the node under an id is wired to its host. -/
def wiredAs (g : Graph) (x : NodeId) : Option (String × String × IoMode) :=
  (g.node? x).bind fun n => n.kind.wiring?

/-- The key of a pending entry in a graph: its name, and the kind and mode of its node. -/
def ioKey? (g : Graph) (e : String × NodeId) : Option (String × String × IoMode) :=
  (g.node? e.2).map fun n => (e.1, n.kind.id, n.kind.ioMode)

theorem ioMatches_some {g : Graph} {kindId name : String} {m : IoMode} {e : String × NodeId} :
    g.ioMatches kindId name (some m) e = true ↔ g.ioKey? e = some (name, kindId, m) := by
  unfold ioMatches ioKey?
  cases g.node? e.2 with
  | none => simp
  | some n =>
    simp only [Option.map_some, Option.some_inj, Prod.mk.injEq, Bool.and_eq_true, beq_iff_eq]

theorem ioMatches_none {g : Graph} {kindId name : String} {e : String × NodeId} :
    g.ioMatches kindId name none e = true ↔ ∃ m, g.ioKey? e = some (name, kindId, m) := by
  unfold ioMatches ioKey?
  cases g.node? e.2 with
  | none => simp
  | some n =>
    simp only [Option.map_some, Option.some_inj, Prod.mk.injEq, Bool.and_eq_true, beq_iff_eq,
      and_true]
    exact ⟨fun h => ⟨_, h.1, h.2, rfl⟩, fun ⟨_, h₁, h₂, _⟩ => ⟨h₁, h₂⟩⟩

end Graph

/-- The pending entry a declaration reuses: the first with its name, kind and mode, or else the
first with its name and kind. -/
def IoSession.reuse? (s : IoSession) (g : Graph) (kindId name : String) (mode : IoMode) :
    Option Nat :=
  (s.pending.findIdx? (g.ioMatches kindId name (some mode))).orElse fun _ =>
    s.pending.findIdx? (g.ioMatches kindId name none)

namespace Graph

/-- The node `x` of `g₁` with the mode and name of `d` set and its inputs declared again: the last
step of every declaration that succeeds. -/
def DeclaredAt (g₁ : Graph) (x : NodeId) (d : IoDecl) (g' : Graph) : Prop :=
  ∃ n k, g₁.node? x = some n ∧ n.kind.setIo? d.mode d.name = some k ∧
    g' = { g₁.updateNode x (fun m => Node.configure { m with kind := k }) with dirty := true }

namespace DeclaredAt

variable {g₁ g' : Graph} {x : NodeId} {d : IoDecl}

theorem node?_eq (h : g₁.DeclaredAt x d g') : ∃ n k, g₁.node? x = some n ∧
    n.kind.setIo? d.mode d.name = some k ∧
    ∀ y, g'.node? y = if y = x then some (Node.configure { n with kind := k }) else g₁.node? y := by
  obtain ⟨n, k, hn, hk, rfl⟩ := h
  refine ⟨n, k, hn, hk, fun y => ?_⟩
  rw [show ({ g₁.updateNode x (fun m => Node.configure { m with kind := k }) with dirty := true } :
      Graph).node? y = (g₁.updateNode x fun m => Node.configure { m with kind := k }).node? y from
      rfl,
    @node?_updateNode g₁ x y (fun m => Node.configure { m with kind := k }) fun _ h => h, hn]
  rfl

theorem ids (h : g₁.DeclaredAt x d g') : g'.ids = g₁.ids := by
  obtain ⟨n, k, -, -, rfl⟩ := h
  exact @ids_updateNode g₁ x (fun m => Node.configure { m with kind := k }) fun _ h => h

theorem dirty (h : g₁.DeclaredAt x d g') : g'.dirty = true := by
  obtain ⟨n, k, -, -, rfl⟩ := h
  rfl

theorem node?_of_ne (h : g₁.DeclaredAt x d g') {y : NodeId} (hy : y ≠ x) :
    g'.node? y = g₁.node? y := by
  obtain ⟨n, k, -, -, hy'⟩ := h.node?_eq
  rw [hy', if_neg hy]

theorem wiredAs (h : g₁.DeclaredAt x d g') {kindId : String} (hk : Kind.ioId? d.type = some kindId)
    (hid : ∀ n, g₁.node? x = some n → n.kind.id = kindId) : g'.wiredAs x = d.key? := by
  obtain ⟨n, k, hn, hset, hx⟩ := h.node?_eq
  rw [Graph.wiredAs, hx, if_pos rfl, Option.bind_some, IoDecl.key?, hk, Option.map_some]
  exact (Kind.wiring?_setIo hset).trans (by rw [hid n hn])

end DeclaredAt

theorem node?_snoc {g g₂ : Graph} {m : Node} {x : NodeId} (h : g₂.nodes = g.nodes ++ [m])
    (hx : m.id = x) (hm : x ∉ g.ids) (y : NodeId) :
    g₂.node? y = if y = x then some m else g.node? y := by
  by_cases hy : y = x
  · subst hy
    rw [if_pos rfl]
    unfold node?
    rw [h, List.find?_append, show g.nodes.find? (·.id == y) = none from node?_eq_none.mpr hm,
      Option.none_or]
    simp [hx]
  · rw [if_neg hy]
    cases hf : g.node? y with
    | some n => exact node?_append h hf
    | none =>
      unfold node? at hf ⊢
      rw [h, List.find?_append, hf, Option.none_or]
      simp [hx, Ne.symm hy]

/-- The entry a declaration reuses is pending and has its name and kind. -/
theorem reuse?_entry {s : IoSession} {g : Graph} {kindId name : String} {mode : IoMode} {i : Nat}
    (h : s.reuse? g kindId name mode = some i) :
    ∃ e, s.pending[i]? = some e ∧ ∃ m, g.ioKey? e = some (name, kindId, m) := by
  unfold IoSession.reuse? at h
  cases h₁ : s.pending.findIdx? (g.ioMatches kindId name (some mode)) with
  | some j =>
    rw [h₁] at h
    cases h
    obtain ⟨hi, hm, -⟩ := List.findIdx?_eq_some_iff_getElem.mp h₁
    exact ⟨_, List.getElem?_eq_getElem hi, mode, ioMatches_some.mp hm⟩
  | none =>
    rw [h₁] at h
    obtain ⟨hi, hm, -⟩ := List.findIdx?_eq_some_iff_getElem.mp h
    exact ⟨_, List.getElem?_eq_getElem hi, ioMatches_none.mp hm⟩

theorem run_createNode {g g₂ : Graph} {kindId : String} {k : Kind} {cr : Except GraphError NodeId}
    (hok : IdsOk g) (hcreate : Kind.create? kindId = some k)
    (hc : (createNode kindId).run g = .ok (cr, g₂)) :
    cr = .ok g.nextId ∧ g₂.ids = g.ids ++ [g.nextId] ∧
      ∀ y, g₂.node? y = if y = g.nextId then some (Node.new g.nextId k) else g.node? y := by
  unfold createNode at hc
  rw [hcreate] at hc
  obtain ⟨x, g₃, hadd, hc⟩ := run_bind_eq_ok hc
  cases hc
  obtain ⟨rfl, hnodes, -⟩ := run_addNode hadd
  refine ⟨rfl, ?_, node?_snoc hnodes rfl hok.nextId_fresh⟩
  rw [ids, hnodes, List.map_append]
  rfl

theorem setPosition_of_node? {g : Graph} {x : NodeId} {n : Node} (p : Vec2)
    (hn : g.node? x = some n) :
    g.setPosition x p = .ok (g.updateNode x fun m => { m with position := p }) := by
  unfold setPosition
  rw [if_pos (contains_iff_mem_ids.mpr (mem_ids_of_node? hn))]

/-- What one declaration does: an error that changes nothing, or the node of an entry reused, or a
node created under the next id, declared. -/
theorem run_declareIo {s s' : IoSession} {d : IoDecl} {g g' : Graph}
    {r : Except GraphError NodeId} (hok : IdsOk g) :
    (declareIo s d.type d.name d.mode).run g = .ok ((r, s'), g') →
    (d.key? = none ∧ r = .error (.noIoKind d.type) ∧ s' = s ∧ g' = g) ∨
    ∃ kindId, Kind.ioId? d.type = some kindId ∧ ∃ x, r = .ok x ∧
      ((∃ i e, s.reuse? g kindId d.name d.mode = some i ∧ s.pending[i]? = some e ∧ e.2 = x ∧
          s'.pending = s.pending.eraseIdx i ∧ DeclaredAt g x d g') ∨
       (s.reuse? g kindId d.name d.mode = none ∧ x = g.nextId ∧ s'.pending = s.pending ∧
          ∃ g₁ m, (∀ y, g₁.node? y = if y = x then some m else g.node? y) ∧
            g₁.ids = g.ids ++ [x] ∧ Kind.create? kindId = some m.kind ∧ DeclaredAt g₁ x d g')) := by
  unfold declareIo
  split
  · rename_i kindId hk
    rw [run_bind_of_ok (run_get g)]
    lift_lets
    intro reused output jp
    -- the last step on a node found or created: a value node gets the mode and name declared
    have hjp : ∀ (x : NodeId) (s₁ : IoSession) (g₁ : Graph) (n : Node) r s' g',
        g₁.node? x = some n → (∃ nm e io c, n.kind = .value nm e io c) →
        (jp (.ok x, s₁)).run g₁ = .ok ((r, s'), g') →
        r = .ok x ∧ s'.pending = s₁.pending ∧ DeclaredAt g₁ x d g' := by
      intro x s₁ g₁ n r s' g' hn ⟨nm, e, io, c, hkind⟩ h
      have hset : n.kind.setIo? d.mode d.name = some (.value d.name e d.mode c) := by
        rw [hkind]
        rfl
      simp only [jp] at h
      rw [run_bind_of_ok (run_get g₁)] at h
      simp only [hn, hset] at h
      obtain ⟨u, g₂, hs, h⟩ := run_bind_eq_ok h
      cases hs
      cases h
      refine ⟨rfl, ?_, n, _, hn, hset, rfl⟩
      split <;> rfl
    have hre : reused = s.reuse? g kindId d.name d.mode := rfl
    clear_value reused
    intro row col h
    cases reused with
    | some i =>
      obtain ⟨e, he, m, hm⟩ := reuse?_entry hre.symm
      obtain ⟨p, g₂, hp, h⟩ := run_bind_eq_ok h
      cases hp
      simp only [he, Option.map_some, Option.getD_some] at h
      obtain ⟨n, hn, hkey⟩ := Option.map_eq_some_iff.mp hm
      simp only [Prod.mk.injEq] at hkey
      obtain ⟨ht, hid⟩ := Kind.constantTypes_of_ioId hk
      obtain ⟨rfl, hpend, hdecl⟩ :=
        hjp e.2 _ g n r s' g' hn (Kind.eq_value_of_id ht (hkey.2.1.trans hid.symm)) h
      exact .inr ⟨kindId, hk, e.2, rfl, .inl ⟨i, e, hre.symm, he, rfl, hpend, hdecl⟩⟩
    | none =>
      -- no entry to reuse: a value node of the kind is created under the next id
      obtain ⟨nm, e, io, c, hcreate, -⟩ := Kind.create?_of_ioId hk
      obtain ⟨cr, g₂, hc, h⟩ := run_bind_eq_ok h
      obtain ⟨rfl, hids₂, hnode₂⟩ := run_createNode hok hcreate hc
      dsimp only at h
      rw [run_bind_of_ok (run_get g₂),
        setPosition_of_node? _ ((hnode₂ g.nextId).trans (if_pos rfl))] at h
      dsimp only at h
      obtain ⟨u, g₄, hs, h⟩ := run_bind_eq_ok h
      cases hs
      obtain ⟨p, g₅, hp, h⟩ := run_bind_eq_ok h
      cases hp
      -- the node created, placed in its column
      have hnode : ∀ y,
          (g₂.updateNode g.nextId fun n => { n with position := ⟨col, row⟩ }).node? y =
            if y = g.nextId then
              some { Node.new g.nextId (.value nm e io c) with position := ⟨col, row⟩ }
            else g.node? y := by
        intro y
        rw [@node?_updateNode g₂ g.nextId y (fun n => { n with position := ⟨col, row⟩ })
          fun _ h => h, hnode₂ g.nextId, hnode₂ y, if_pos rfl]
        by_cases hy : y = g.nextId
        · rw [if_pos hy, if_pos hy]
          rfl
        · simp only [if_neg hy]
      obtain ⟨rfl, hpend, hdecl⟩ := hjp g.nextId s _ _ r s' g' ((hnode _).trans (if_pos rfl))
        ⟨_, _, _, _, rfl⟩ h
      refine .inr ⟨kindId, hk, g.nextId, rfl, .inr ⟨hre.symm, rfl, hpend, _, _, hnode, ?_, hcreate,
        hdecl⟩⟩
      rw [@ids_updateNode g₂ g.nextId (fun n => { n with position := ⟨col, row⟩ }) fun _ h => h,
        hids₂]
  · rename_i hk
    intro h
    cases h
    have hnone : Kind.ioId? d.type = none := by
      cases hid : Kind.ioId? d.type with
      | none => rfl
      | some kindId => exact absurd hid (hk kindId)
    exact .inl ⟨by simp [IoDecl.key?, hnone], rfl, rfl, rfl⟩

/-- The reuse search takes the first pending entry of the declaration's key: an entry of that key
left pending comes after it. -/
theorem reuse?_first {s : IoSession} {g : Graph} {kindId name : String} {mode : IoMode}
    {i : Nat} {e : String × NodeId} (h : s.reuse? g kindId name mode = some i)
    (he : s.pending[i]? = some e) {e' : String × NodeId} (he' : e' ∈ s.pending.eraseIdx i)
    (hkey : g.ioKey? e' = some (name, kindId, mode)) : [e, e'].Sublist s.pending := by
  obtain ⟨j, hji, hj⟩ := List.mem_eraseIdx_iff_getElem?.mp he'
  obtain ⟨hjl, hjv⟩ := List.getElem?_eq_some_iff.mp hj
  unfold IoSession.reuse? at h
  cases h₁ : s.pending.findIdx? (g.ioMatches kindId name (some mode)) with
  | some k =>
    rw [h₁] at h
    cases h
    -- no entry before the first match has the key
    obtain ⟨_, -, hbefore⟩ := List.findIdx?_eq_some_iff_getElem.mp h₁
    have hij : i < j := by
      refine Nat.lt_of_le_of_ne (Nat.not_lt.mp fun hlt => ?_) (Ne.symm hji)
      have hm := hbefore j hlt
      rw [hjv, ioMatches_some.mpr hkey] at hm
      exact absurd rfl hm
    exact pair_sublist_of_lt hij he hj
  | none =>
    -- no entry at all has the key
    have hm := List.findIdx?_eq_none_iff.mp h₁ e' (List.mem_of_getElem? hj)
    rw [ioMatches_some.mpr hkey] at hm
    cases hm

/-- Without an entry to reuse no pending entry has the declaration's name and kind. -/
theorem reuse?_eq_none {s : IoSession} {g : Graph} {kindId name : String} {mode : IoMode}
    (h : s.reuse? g kindId name mode = none) {e : String × NodeId} (he : e ∈ s.pending)
    (m : IoMode) : g.ioKey? e ≠ some (name, kindId, m) := by
  intro hkey
  unfold IoSession.reuse? at h
  cases h₁ : s.pending.findIdx? (g.ioMatches kindId name none) with
  | some k =>
    rw [h₁] at h
    cases h₀ : s.pending.findIdx? (g.ioMatches kindId name (some mode)) <;> rw [h₀] at h <;>
      cases h
  | none =>
    have hm := List.findIdx?_eq_none_iff.mp h₁ e he
    rw [ioMatches_none.mpr ⟨m, hkey⟩] at hm
    cases hm

/-- A declaration that finds an entry to reuse succeeds: it gives the entry's node, declared, and
takes the entry from the pending list. -/
theorem run_declareIo_of_reuse {s : IoSession} {d : IoDecl} {g : Graph} {kindId : String}
    {i : Nat} (hk : Kind.ioId? d.type = some kindId)
    (hre : s.reuse? g kindId d.name d.mode = some i) :
    ∃ e s' g', s.pending[i]? = some e ∧
      (declareIo s d.type d.name d.mode).run g = .ok ((.ok e.2, s'), g') ∧
      s'.pending = s.pending.eraseIdx i ∧ g.DeclaredAt e.2 d g' := by
  obtain ⟨e, he, m, hm⟩ := reuse?_entry hre
  obtain ⟨n, hn, hkey⟩ := Option.map_eq_some_iff.mp hm
  simp only [Prod.mk.injEq] at hkey
  obtain ⟨ht, hid⟩ := Kind.constantTypes_of_ioId hk
  obtain ⟨nm, ee, io, c, hkind⟩ := Kind.eq_value_of_id ht (hkey.2.1.trans hid.symm)
  have hset : n.kind.setIo? d.mode d.name = some (.value d.name ee d.mode c) := by
    rw [hkind]
    rfl
  refine ⟨e, ?s', _, he, ?run, ?pending, n, _, hn, hset, rfl⟩
  case run =>
    unfold declareIo
    unfold IoSession.reuse? at hre
    simp only [hk]
    rw [run_bind_of_ok (run_get g), hre]
    simp only [he, Option.map_some, Option.getD_some, pure_bind]
    rw [run_bind_of_ok (run_get g)]
    simp only [hn, hset]
    rfl
  case pending => split <;> rfl

end Graph

end NodeGraph
