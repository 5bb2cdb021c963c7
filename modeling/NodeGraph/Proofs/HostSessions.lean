import NodeGraph.Proofs.Preparation

/-!
# Host sessions

A session (`Graph.ioSession`) starts from the wired nodes of the graph, declares each entry in
order and finishes, taking out the wired nodes it did not give unless they are listed as external
slots. Along the declarations it keeps `Graph.Declaring`; finishing takes out the nodes it discards
and no other (`Graph.run_finishIo`). So every session answers each declaration with a node wired
under its key or the error of a type without a value kind, gives each node at most once, and takes
out exactly the nodes it discards (`Graph.ioSession_spec`).
-/

namespace NodeGraph

namespace Graph

/-- Declares each entry in order, threading the session, and gives each entry's result. -/
def declareEach : IoSession → List IoDecl → GraphM (List (Except GraphError NodeId) × IoSession)
  | s, [] => pure ([], s)
  | s, d :: ds => do
    let (r, s) ← declareIo s d.type d.name d.mode
    let (rs, s) ← declareEach s ds
    return (r :: rs, s)

/-- A host's declaration session: it starts from the wired nodes of the graph, declares each entry
in order, finishes, and gives each entry's result. -/
def ioSession (ds : List IoDecl) : GraphM (List (Except GraphError NodeId)) := do
  let (rs, s) ← declareEach (← get).beginIo ds
  finishIo s
  return rs

/-- The nodes a session's results give, in order. -/
def returned (rs : List (Except GraphError NodeId)) : List NodeId := rs.filterMap Except.toOption

@[simp] theorem returned_nil : returned [] = [] := rfl

@[simp] theorem returned_append_ok (rs : List (Except GraphError NodeId)) (x : NodeId) :
    returned (rs ++ [.ok x]) = returned rs ++ [x] := by
  simp [returned, Except.toOption]

@[simp] theorem returned_append_error (rs : List (Except GraphError NodeId)) (e : GraphError) :
    returned (rs ++ [.error e]) = returned rs := by
  simp [returned, Except.toOption]

@[simp] theorem returned_cons_ok (rs : List (Except GraphError NodeId)) (x : NodeId) :
    returned (.ok x :: rs) = x :: returned rs := rfl

@[simp] theorem returned_cons_error (rs : List (Except GraphError NodeId)) (e : GraphError) :
    returned (.error e :: rs) = returned rs := rfl

theorem mem_returned {rs : List (Except GraphError NodeId)} {x : NodeId} :
    x ∈ returned rs ↔ .ok x ∈ rs := by
  simp only [returned, List.mem_filterMap]
  constructor
  · rintro ⟨r, hr, hx⟩
    cases r with
    | error => cases hx
    | ok y =>
      cases hx
      exact hr
  · exact fun h => ⟨_, h, rfl⟩

theorem beginIo_entry {n : Node} {e : String × NodeId} :
    (match n.kind.slot? with
      | some (name, _, _) => if n.kind.ioMode != .none then some (name, n.id) else none
      | none => none) = some e ↔
    n.kind.ioMode ≠ .none ∧ n.kind.wiring? = some (e.1, n.kind.id, n.kind.ioMode) ∧ n.id = e.2 := by
  obtain ⟨name, id⟩ := e
  cases n.kind with
  | value nm ee io c =>
    simp only [Kind.slot?, Kind.ioMode, Kind.wiring?, Kind.id]
    by_cases hio : io = .none
    · simp [hio]
    · simp only [bne_iff_ne, ne_eq, hio, not_false_eq_true, ↓reduceIte, Option.some_inj,
        Prod.mk.injEq, and_true, true_and]
  | _ => simp [Kind.slot?, Kind.ioMode]

/-- A session starts with one entry for each wired node, under its slot name. -/
theorem mem_beginIo {g : Graph} (hnd : g.ids.Nodup) {e : String × NodeId} :
    e ∈ g.beginIo.pending ↔ ∃ n, g.node? e.2 = some n ∧ n.kind.ioMode ≠ .none ∧
      n.kind.wiring? = some (e.1, n.kind.id, n.kind.ioMode) := by
  unfold beginIo
  rw [List.mem_filterMap]
  constructor
  · rintro ⟨n, hn, hf⟩
    obtain ⟨hio, hw, hid⟩ := beginIo_entry.mp hf
    exact ⟨n, hid ▸ node?_of_mem hnd hn, hio, hw⟩
  · rintro ⟨n, hn, hio, hw⟩
    obtain ⟨hmem, hid⟩ := node?_eq_some hn
    exact ⟨n, hmem, beginIo_entry.mpr ⟨hio, hw, hid⟩⟩

theorem beginIo_sublist (g : Graph) : (g.beginIo.pending.map Prod.snd).Sublist g.ids := by
  unfold beginIo ids
  induction g.nodes with
  | nil => exact List.Sublist.slnil
  | cons n ns ih =>
    rw [List.filterMap_cons, List.map_cons]
    split
    · exact ih.cons _
    · rename_i e he
      rw [List.map_cons, (beginIo_entry.mp he).2.2]
      exact ih.cons_cons _

theorem ioKey?_of_mem_beginIo {g : Graph} (hnd : g.ids.Nodup) {e : String × NodeId}
    (he : e ∈ g.beginIo.pending) : g.ioKey? e = g.wiredAs e.2 := by
  obtain ⟨n, hn, -, hw⟩ := (mem_beginIo hnd).mp he
  rw [ioKey?, wiredAs, hn, Option.map_some, Option.bind_some, hw]

theorem eraseIdx_eq_filter {α : Type} {l : List (α × NodeId)} (hnd : (l.map Prod.snd).Nodup) :
    ∀ {i : Nat} {e : α × NodeId}, l[i]? = some e → l.eraseIdx i = l.filter (·.2 ≠ e.2) := by
  induction l with
  | nil => exact fun he => by simp at he
  | cons a l ih =>
    rw [List.map_cons, List.nodup_cons] at hnd
    intro i e he
    cases i with
    | zero =>
      rw [List.getElem?_cons_zero, Option.some_inj] at he
      subst he
      -- the other entries have other ids
      rw [List.eraseIdx_cons_zero, List.filter_cons_of_neg (by simp), List.filter_eq_self.mpr]
      intro b hb
      have hne : b.2 ≠ a.2 := fun h => hnd.1 (h ▸ List.mem_map_of_mem hb)
      simpa using hne
    | succ i =>
      rw [List.getElem?_cons_succ] at he
      have hne : a.2 ≠ e.2 := fun h => hnd.1 (h ▸ List.mem_map_of_mem (List.mem_of_getElem? he))
      rw [List.eraseIdx_cons_succ, List.filter_cons_of_pos (by simpa using hne), ih hnd.2 he]

/-- What a session answers to one declaration, read in a graph: the error of a type without a
value kind, or a node wired under the declaration's key. -/
def Answers (g : Graph) (d : IoDecl) (r : Except GraphError NodeId) : Prop :=
  match d.key? with
  | none => r = .error (.noIoKind d.type)
  | some key => ∃ x, r = .ok x ∧ g.wiredAs x = some key

theorem Answers.congr {g g' : Graph} {d : IoDecl} {r : Except GraphError NodeId}
    (h : g.Answers d r) (hw : ∀ x, r = .ok x → g'.wiredAs x = g.wiredAs x) : g'.Answers d r := by
  unfold Answers at h ⊢
  cases hk : d.key? with
  | none =>
    rw [hk] at h
    exact h
  | some key =>
    rw [hk] at h
    obtain ⟨x, rfl, hx⟩ := h
    exact ⟨x, rfl, (hw x rfl).trans hx⟩

theorem answers_ok {g : Graph} {d : IoDecl} {x : NodeId} {kindId : String}
    (hk : Kind.ioId? d.type = some kindId) (hx : g.wiredAs x = d.key?) : g.Answers d (.ok x) := by
  unfold Answers
  rw [IoDecl.key?, hk, Option.map_some] at hx ⊢
  exact ⟨x, rfl, hx⟩

theorem answers_noIoKind {g : Graph} {d : IoDecl} (hk : d.key? = none) :
    g.Answers d (.error (.noIoKind d.type)) := by
  unfold Answers
  rw [hk]

theorem Answers.wiredAs {g : Graph} {d : IoDecl} {x : NodeId} (h : g.Answers d (.ok x)) :
    g.wiredAs x = d.key? := by
  unfold Answers at h
  cases hk : d.key? with
  | none =>
    rw [hk] at h
    cases h
  | some key =>
    rw [hk] at h
    obtain ⟨y, hy, hx⟩ := h
    cases hy
    exact hx

theorem Answers.node? {g : Graph} {d : IoDecl} {x : NodeId} (h : g.Answers d (.ok x)) :
    ∃ n, g.node? x = some n := by
  unfold Answers at h
  cases hk : d.key? with
  | none =>
    rw [hk] at h
    cases h
  | some key =>
    rw [hk] at h
    obtain ⟨y, hy, hx⟩ := h
    cases hy
    obtain ⟨n, hn, -⟩ := Option.bind_eq_some_iff.mp hx
    exact ⟨n, hn⟩

theorem forall₂_answers_congr {g g' : Graph} {ds : List IoDecl}
    {rs : List (Except GraphError NodeId)}
    (h : List.Forall₂ g.Answers ds rs) (hw : ∀ x, .ok x ∈ rs → g'.wiredAs x = g.wiredAs x) :
    List.Forall₂ g'.Answers ds rs := by
  induction h with
  | nil => exact .nil
  | cons hr _ ih =>
    refine .cons (hr.congr fun x hx => hw x (hx ▸ List.mem_cons_self ..)) (ih fun x hx => ?_)
    exact hw x (List.mem_cons_of_mem _ hx)

theorem exists_answers {g : Graph} {ds : List IoDecl} {rs : List (Except GraphError NodeId)}
    (h : List.Forall₂ g.Answers ds rs) {x : NodeId} (hx : .ok x ∈ rs) :
    ∃ d ∈ ds, g.Answers d (.ok x) := by
  induction h with
  | nil => cases hx
  | @cons d r ds rs hr _ ih =>
    rcases List.mem_cons.mp hx with rfl | hx
    · exact ⟨d, List.mem_cons_self .., hr⟩
    · obtain ⟨d', hd', hr'⟩ := ih hx
      exact ⟨d', List.mem_cons_of_mem _ hd', hr'⟩

/-! ### The declarations of a session -/

/-- The state of a session begun on `g₀` once the declarations `ds` gave the results `rs`: the
entries not reused are pending, every node the session did not give is as it was, the nodes it
created are among those it gave, and an entry left pending comes after every node given under its
key. -/
structure Declaring (g₀ : Graph) (ds : List IoDecl) (rs : List (Except GraphError NodeId))
    (s : IoSession) (g : Graph) : Prop where
  ok : IdsOk g
  answers : List.Forall₂ g.Answers ds rs
  nodup : (returned rs).Nodup
  pending : s.pending = g₀.beginIo.pending.filter fun e => e.2 ∉ returned rs
  grown : ∃ made, g.ids = g₀.ids ++ made ∧ ∀ x ∈ made, x ∈ returned rs
  kept : ∀ x, x ∉ returned rs → g.node? x = g₀.node? x
  before : ∀ x ∈ returned rs, ∀ e ∈ s.pending, g.wiredAs e.2 = g.wiredAs x →
    [x, e.2].Sublist g.ids
  dirty : returned rs ≠ [] → g.dirty = true

namespace Declaring

variable {g₀ : Graph} {ds : List IoDecl} {rs : List (Except GraphError NodeId)} {s : IoSession}
  {g : Graph}

theorem init (hok : IdsOk g₀) : Declaring g₀ [] [] g₀.beginIo g₀ :=
  ⟨hok, .nil, List.nodup_nil, by simp, ⟨[], by simp, by simp⟩, fun _ _ => rfl, by simp, by simp⟩

theorem mem_ids (hD : Declaring g₀ ds rs s g) {x : NodeId} (hx : x ∈ returned rs) :
    x ∈ g.ids := by
  obtain ⟨d, -, hd⟩ := exists_answers hD.answers (mem_returned.mp hx)
  obtain ⟨n, hn⟩ := hd.node?
  exact mem_ids_of_node? hn

theorem pending_sublist (hD : Declaring g₀ ds rs s g) :
    (s.pending.map Prod.snd).Sublist g.ids := by
  obtain ⟨made, hids, -⟩ := hD.grown
  rw [hD.pending, hids]
  exact (((List.filter_sublist).map _).trans (beginIo_sublist g₀)).trans
    (List.sublist_append_left _ _)

theorem pending_nodup (hD : Declaring g₀ ds rs s g) : (s.pending.map Prod.snd).Nodup :=
  hD.pending_sublist.nodup hD.ok.nodup

theorem mem_pending (hD : Declaring g₀ ds rs s g) {e : String × NodeId} (he : e ∈ s.pending) :
    e ∈ g₀.beginIo.pending ∧ e.2 ∉ returned rs := by
  rw [hD.pending, List.mem_filter, decide_eq_true_iff] at he
  exact he

theorem pending_of_wired (hD : Declaring g₀ ds rs s g) (hok₀ : IdsOk g₀) {x : NodeId} {n : Node}
    (hn : g₀.node? x = some n) (hio : n.kind.ioMode ≠ .none) (hx : x ∉ returned rs) :
    ∃ nm, (nm, x) ∈ s.pending ∧ n.kind.wiring? = some (nm, n.kind.id, n.kind.ioMode) := by
  obtain ⟨nm, hw⟩ := Kind.wiring?_of_ioMode hio
  refine ⟨nm, ?_, hw⟩
  rw [hD.pending, List.mem_filter]
  exact ⟨(mem_beginIo hok₀.nodup).mpr ⟨n, hn, hio, hw⟩, by simpa using hx⟩

theorem ioKey?_pending (hD : Declaring g₀ ds rs s g) (hok₀ : IdsOk g₀) {e : String × NodeId}
    (he : e ∈ s.pending) : g.ioKey? e = g.wiredAs e.2 := by
  obtain ⟨he₀, hnot⟩ := hD.mem_pending he
  rw [ioKey?, wiredAs, hD.kept _ hnot, ← ioKey?, ← wiredAs]
  exact ioKey?_of_mem_beginIo hok₀.nodup he₀

/-- What a declaration that gives node `x` does to the session's state: `x` was not given before,
is now wired under the declaration's key and is the only node changed, at most it is added, its
entry is no longer pending, and an entry left pending of that key comes after it. -/
structure Declared (rs : List (Except GraphError NodeId)) (s : IoSession) (g : Graph) (x : NodeId)
    (d : IoDecl) (s' : IoSession) (g' : Graph) : Prop where
  fresh : x ∉ returned rs
  frame : ∀ y, y ≠ x → g'.node? y = g.node? y
  wired : g'.wiredAs x = d.key?
  grown : ∃ made, g'.ids = g.ids ++ made ∧ ∀ y ∈ made, y = x
  pending : s'.pending = s.pending.filter (·.2 ≠ x)
  first : ∀ e ∈ s'.pending, g.wiredAs e.2 = d.key? → [x, e.2].Sublist g.ids
  dirty : g'.dirty = true

/-- One declaration in a session: an error that changes nothing, or a node given and declared. -/
theorem declared_of_run (hD : Declaring g₀ ds rs s g) (hok₀ : IdsOk g₀) {d : IoDecl}
    {r : Except GraphError NodeId} {s' : IoSession} {g' : Graph}
    (h : (declareIo s d.type d.name d.mode).run g = .ok ((r, s'), g')) :
    (d.key? = none ∧ r = .error (.noIoKind d.type) ∧ s' = s ∧ g' = g) ∨
    ∃ x kindId, Kind.ioId? d.type = some kindId ∧ r = .ok x ∧ Declared rs s g x d s' g' := by
  rcases run_declareIo hD.ok h with hnone | ⟨kindId, hk, x, rfl, hcase⟩
  · exact .inl hnone
  refine .inr ⟨x, kindId, hk, rfl, ?_⟩
  have hdkey : d.key? = some (d.name, kindId, d.mode) := by rw [IoDecl.key?, hk, Option.map_some]
  rcases hcase with ⟨i, e, hre, he, rfl, hpend, hdecl⟩ |
    ⟨hre, rfl, hpend, g₁, m, hnode, hids, hcreate, hdecl⟩
  · -- an entry reused: its node has the declaration's kind
    obtain ⟨e₁, he₁, mode, hkey⟩ := reuse?_entry hre
    rw [he, Option.some_inj] at he₁
    subst he₁
    have hid : ∀ n, g.node? e.2 = some n → n.kind.id = kindId := by
      intro n hn
      rw [ioKey?, hn, Option.map_some, Option.some_inj] at hkey
      simp only [Prod.mk.injEq] at hkey
      exact hkey.2.1
    refine ⟨(hD.mem_pending (List.mem_of_getElem? he)).2, fun y hy => hdecl.node?_of_ne hy,
      hdecl.wiredAs hk hid, ⟨[], by rw [hdecl.ids, List.append_nil], by simp⟩,
      hpend.trans (eraseIdx_eq_filter hD.pending_nodup he), fun e' he' hw => ?_, hdecl.dirty⟩
    rw [hpend] at he'
    have hkey' : g.ioKey? e' = some (d.name, kindId, d.mode) := by
      rw [hD.ioKey?_pending hok₀ (List.mem_of_mem_eraseIdx he'), hw, hdkey]
    simpa using ((reuse?_first hre he he' hkey').map Prod.snd).trans hD.pending_sublist
  · -- a node created under the next id, which no pending entry names
    have hfresh : g.nextId ∉ g.ids := hD.ok.nextId_fresh
    refine ⟨fun hx => hfresh (hD.mem_ids hx), fun y hy => ?_, hdecl.wiredAs hk fun n hn => ?_,
      ⟨[g.nextId], by rw [hdecl.ids, hids], by simp⟩, ?_, fun e' he' hw => ?_, hdecl.dirty⟩
    · rw [hdecl.node?_of_ne hy, hnode y, if_neg hy]
    · rw [hnode, if_pos rfl, Option.some_inj] at hn
      subst hn
      obtain ⟨nm, e, io, c, hc, hcid⟩ := Kind.create?_of_ioId hk
      rw [hc, Option.some_inj] at hcreate
      rw [← hcreate]
      exact hcid
    · rw [hpend, eq_comm, List.filter_eq_self]
      intro e he
      have hmem : e.2 ∈ g.ids := hD.pending_sublist.subset (List.mem_map_of_mem he)
      have hne : e.2 ≠ g.nextId := fun h => hfresh (h ▸ hmem)
      simpa using hne
    · rw [hpend] at he'
      refine absurd ?_ (reuse?_eq_none hre he' d.mode)
      rw [hD.ioKey?_pending hok₀ he', hw, hdkey]

/-- One declaration keeps the state of the session. -/
theorem step (hD : Declaring g₀ ds rs s g) (hok₀ : IdsOk g₀) {d : IoDecl}
    {r : Except GraphError NodeId} {s' : IoSession} {g' : Graph}
    (h : (declareIo s d.type d.name d.mode).run g = .ok ((r, s'), g')) :
    Declaring g₀ (ds ++ [d]) (rs ++ [r]) s' g' := by
  rcases hD.declared_of_run hok₀ h with ⟨hkey, rfl, rfl, rfl⟩ | ⟨x, kindId, hk, rfl, hX⟩
  · -- a type without a value kind: nothing changes
    obtain ⟨ok, answers, nodup, pending, grown, kept, before, dirty⟩ := hD
    refine ⟨ok, List.rel_append answers (.cons (answers_noIoKind hkey) .nil),
      ?_, ?_, ?_, ?_, ?_, ?_⟩ <;> rw [returned_append_error] <;> assumption
  have hret : returned (rs ++ [.ok x]) = returned rs ++ [x] := returned_append_ok rs x
  have hne : ∀ y ∈ returned rs, y ≠ x := fun y hy h => hX.fresh (h ▸ hy)
  have hw : ∀ y, y ≠ x → g'.wiredAs y = g.wiredAs y := fun y hy => by
    rw [wiredAs, hX.frame y hy, ← wiredAs]
  obtain ⟨made, hids, hmade⟩ := hD.grown
  obtain ⟨made', hids', hmade'⟩ := hX.grown
  have hsub : g.ids.Sublist g'.ids := hids' ▸ List.sublist_append_left _ _
  refine ⟨hD.ok.arenaRun (moves_declareIo _ _ _ _ g _ _ h), ?_, ?_, ?_, ?_, ?_, ?_,
    fun _ => hX.dirty⟩
  · exact List.rel_append (forall₂_answers_congr hD.answers fun y hy =>
      hw y (hne y (mem_returned.mpr hy))) (.cons (answers_ok hk hX.wired) .nil)
  · rw [hret, List.nodup_append]
    exact ⟨hD.nodup, List.nodup_singleton x, fun a ha b hb => by
      rw [List.mem_singleton.mp hb]
      exact hne a ha⟩
  · rw [hX.pending, hD.pending, List.filter_filter, hret]
    congr 1
    funext e
    simp [and_comm]
  · refine ⟨made ++ made', by rw [hids', hids, List.append_assoc], fun y hy => ?_⟩
    rw [hret, List.mem_append]
    rcases List.mem_append.mp hy with hy | hy
    · exact .inl (hmade y hy)
    · exact .inr (List.mem_singleton.mpr (hmade' y hy))
  · intro y hy
    rw [hret, List.mem_append, List.mem_singleton, not_or] at hy
    rw [hX.frame y hy.2, hD.kept y hy.1]
  · intro y hy e he hwe
    rw [hX.pending, List.mem_filter, decide_eq_true_iff] at he
    rw [hw e.2 he.2] at hwe
    rw [hret, List.mem_append, List.mem_singleton] at hy
    rcases hy with hy | rfl
    · rw [hw y (hne y hy)] at hwe
      exact (hD.before y hy e he.1 hwe).trans hsub
    · rw [hX.wired] at hwe
      exact (hX.first e (hX.pending ▸ List.mem_filter.mpr ⟨he.1, by simpa using he.2⟩) hwe).trans
        hsub

end Declaring

/-- The declarations of a session keep its state, from any state reached. -/
theorem Declaring.run {g₀ : Graph} (hok₀ : IdsOk g₀) :
    ∀ (ds : List IoDecl) {pre : List IoDecl} {rs₀ : List (Except GraphError NodeId)}
      {s : IoSession} {g : Graph} {rs : List (Except GraphError NodeId)} {s' : IoSession}
      {g' : Graph}, Declaring g₀ pre rs₀ s g →
      (declareEach s ds).run g = .ok ((rs, s'), g') → Declaring g₀ (pre ++ ds) (rs₀ ++ rs) s' g'
  | [], _, _, _, _, _, _, _, hD, h => by
    cases h
    simpa using hD
  | d :: ds, pre, rs₀, s, g, rs, s', g', hD, h => by
    rw [declareEach] at h
    obtain ⟨⟨r, s₁⟩, g₁, h₁, h⟩ := run_bind_eq_ok h
    obtain ⟨⟨rs₁, s₂⟩, g₂, h₂, h⟩ := run_bind_eq_ok h
    cases h
    have hD₂ := Declaring.run hok₀ ds (hD.step hok₀ h₁) h₂
    simpa using hD₂

/-! ### Finishing a session -/

/-- The nodes of entries `es` that finishing takes out: those not listed as external slots. -/
def dropped (g : Graph) (es : List (String × NodeId)) : List NodeId :=
  (es.filter fun e => !((g.node? e.2).map (·.kind.listed)).getD false).map Prod.snd

theorem kinds_detach (g : Graph) (x : NodeId) :
    (g.detach x).kinds = g.kinds.filter (·.1 != x) := by
  simp only [detach, kinds, List.filter_map, List.map_map]
  rfl

theorem kind_node?_filter {g g' : Graph} {D : List NodeId}
    (h : g'.kinds = g.kinds.filter fun p => p.1 ∉ D) {y : NodeId} (hy : y ∉ D) :
    (g'.node? y).map Node.kind = (g.node? y).map Node.kind := by
  rw [kind_node?, kind_node?, h, List.find?_filter]
  congr 2
  funext p
  by_cases hp : p.1 = y
  · simp [hp, hy]
  · simp [hp]

theorem ids_of_kinds_filter {g g' : Graph} {D : List NodeId}
    (h : g'.kinds = g.kinds.filter fun p => p.1 ∉ D) : g'.ids = g.ids.filter fun y => y ∉ D := by
  rw [ids_eq_kinds, h, ids_eq_kinds, List.filter_map]
  rfl

/-- The graph as finishing leaves it once it took out the nodes `D`: they are gone, and every other
node is there with its kind. -/
structure Discarding (gF : Graph) (D : List NodeId) (g : Graph) : Prop where
  ok : IdsOk g
  kinds : g.kinds = gF.kinds.filter fun p => p.1 ∉ D
  gone : ∀ y ∈ D, Gone g y
  unchanged : D = [] → g = gF
  dirty : D ≠ [] → g.dirty = true

/-- Finishing a session takes out the nodes of the pending entries that are not listed, then
prepares the graph. -/
theorem run_finishIo {s : IoSession} {gF g₁ : Graph} (hok : IdsOk gF)
    (hnd : (s.pending.map Prod.snd).Nodup) (hmem : ∀ e ∈ s.pending, e.2 ∈ gF.ids)
    (h : (finishIo s).run gF = .ok ((), g₁)) :
    ∃ gL, Discarding gF (gF.dropped s.pending) gL ∧ prepare.run gL = .ok ((), g₁) := by
  unfold finishIo at h
  obtain ⟨u, gL, hloop, hprep⟩ := run_bind_eq_ok h
  have hinit : Discarding gF (gF.dropped []) gF := ⟨hok, by simp [dropped], by simp [dropped],
    fun _ => rfl, by simp [dropped]⟩
  refine ⟨gL, forIn_inv s.pending (fun pre g => Discarding gF (gF.dropped pre) g) _
    (fun pre e rest g r g' hsplit hD hb => ?_) s.pending [] gF gL u rfl hinit hloop, hprep⟩
  obtain ⟨name, id⟩ := e
  rw [run_bind_of_ok (run_get g)] at hb
  dsimp only at hb
  -- the entry's node is still there, with the kind it had
  have hsnd : (pre.map Prod.snd ++ id :: rest.map Prod.snd).Nodup := by
    simpa [← hsplit] using hnd
  have hnotD : id ∉ gF.dropped pre := fun hD' => by
    obtain ⟨e, he, rfl⟩ := List.mem_map.mp hD'
    exact (List.nodup_append.mp hsnd).2.2 e.2 (List.mem_map_of_mem (List.mem_of_mem_filter he))
      e.2 (List.mem_cons_self ..) rfl
  obtain ⟨nF, hnF⟩ := Option.ne_none_iff_exists'.mp fun hc =>
    node?_eq_none.mp hc (hmem _ (hsplit ▸ List.mem_append_right _ (List.mem_cons_self ..)))
  obtain ⟨n, hn, hkind⟩ := Option.map_eq_some_iff.mp
    ((kind_node?_filter hD.kinds hnotD).trans (by rw [hnF]; rfl) :
      (g.node? id).map Node.kind = some nF.kind)
  rw [hn, Option.map_some, Option.getD_some, hkind] at hb
  by_cases hl : nF.kind.listed = true
  · -- listed: the entry is kept
    rw [hl] at hb
    cases hb
    refine ⟨rfl, ?_⟩
    have hdrop : gF.dropped (pre ++ [(name, id)]) = gF.dropped pre := by
      simp [dropped, hnF, hl]
    rw [hdrop]
    exact hD
  · -- not listed: the node is taken out
    rw [Bool.not_eq_true] at hl
    rw [hl] at hb
    obtain ⟨_, g₂, hm, hb⟩ := run_bind_eq_ok hb
    cases hm
    cases hb
    refine ⟨rfl, ?_⟩
    have hdrop : gF.dropped (pre ++ [(name, id)]) = gF.dropped pre ++ [id] := by
      simp [dropped, hnF, hl]
    rw [hdrop]
    refine ⟨hD.ok.remove rfl rfl rfl, ?_, fun y hy => ?_, fun h => absurd h (by simp),
      fun _ => rfl⟩
    · rw [show ((g.detach id).emit (.ioDiscarded id name)).kinds = (g.detach id).kinds from rfl,
        kinds_detach, hD.kinds, List.filter_filter]
      congr 1
      funext p
      by_cases hp : p.1 = id <;> simp [hp]
    · rcases List.mem_append.mp hy with hy | hy
      · exact (hD.gone y hy).step (.remove id rfl rfl rfl)
      · rw [List.mem_singleton.mp hy]
        have hg := gone_detach hD.ok (mem_ids_of_node? hn)
        exact ⟨hg.1, hg.2, hg.3, hg.4⟩

theorem Discarding.wiredAs {gF gL g₁ : Graph} {D : List NodeId} (hL : Discarding gF D gL)
    (hA : AddsDefaults gL g₁) {x : NodeId} (hx : x ∉ D) : g₁.wiredAs x = gF.wiredAs x := by
  rw [hA.wiredAs, wiredAs_eq_kind, wiredAs_eq_kind, kind_node?_filter hL.kinds hx]

theorem Discarding.node?_of_wired {gF gL g₁ : Graph} {D : List NodeId} (hL : Discarding gF D gL)
    (hA : AddsDefaults gL g₁) {y : NodeId} {n : Node} (hn : g₁.node? y = some n)
    (hio : n.kind.ioMode ≠ .none) : y ∉ D ∧ ∃ nF, gF.node? y = some nF ∧ n.kind = nF.kind := by
  rcases hA.node?_cases hn with ⟨nL, hnL, hk⟩ | hdef
  · have hyD : y ∉ D := by
      have hyL := mem_ids_of_node? hnL
      rw [ids_of_kinds_filter hL.kinds, List.mem_filter] at hyL
      simpa using hyL.2
    obtain ⟨nF, hnF, hkF⟩ := Option.map_eq_some_iff.mp
      ((kind_node?_filter hL.kinds hyD).symm.trans (by rw [hnL]; rfl) :
        (gF.node? y).map Node.kind = some nL.kind)
    exact ⟨hyD, nF, hnF, hk.trans hkF.symm⟩
  · obtain ⟨c, hc⟩ := Kind.eq_fallback_of_isDefault hdef
    rw [hc] at hio
    exact absurd rfl hio

/-! ### What a session does -/

/-- A node a session discards: wired when the session began, not given by it, and not listed as an
external slot. -/
def Discarded (g : Graph) (rs : List (Except GraphError NodeId)) (x : NodeId) : Prop :=
  ∃ n, g.node? x = some n ∧ n.kind.ioMode ≠ .none ∧ n.kind.listed = false ∧ .ok x ∉ rs

theorem Declaring.not_mem_dropped {g₀ : Graph} {ds : List IoDecl}
    {rs : List (Except GraphError NodeId)} {s : IoSession} {g : Graph}
    (hD : Declaring g₀ ds rs s g) {x : NodeId} (hx : x ∈ returned rs) :
    x ∉ g.dropped s.pending := by
  intro hd
  obtain ⟨e, he, rfl⟩ := List.mem_map.mp hd
  exact (hD.mem_pending (List.mem_filter.mp he).1).2 hx

theorem Declaring.mem_dropped {g₀ : Graph} {ds : List IoDecl} {rs : List (Except GraphError NodeId)}
    {s : IoSession} {g : Graph} (hD : Declaring g₀ ds rs s g) (hok₀ : IdsOk g₀) {x : NodeId} :
    x ∈ g.dropped s.pending ↔ g₀.Discarded rs x := by
  constructor
  · intro hx
    obtain ⟨e, he, rfl⟩ := List.mem_map.mp hx
    obtain ⟨he, hl⟩ := List.mem_filter.mp he
    obtain ⟨he₀, hnot⟩ := hD.mem_pending he
    obtain ⟨n, hn, hio, -⟩ := (mem_beginIo hok₀.nodup).mp he₀
    rw [hD.kept _ hnot, hn] at hl
    exact ⟨n, hn, hio, by simpa using hl, fun h => hnot (mem_returned.mpr h)⟩
  · rintro ⟨n, hn, hio, hl, hx⟩
    have hnot : x ∉ returned rs := fun h => hx (mem_returned.mp h)
    obtain ⟨nm, he, -⟩ := hD.pending_of_wired hok₀ hn hio hnot
    refine List.mem_map.mpr ⟨(nm, x), List.mem_filter.mpr ⟨he, ?_⟩, rfl⟩
    rw [hD.kept x hnot, hn]
    simpa using hl

/-- What a session from `g` that gave the results `rs` for the declarations `ds` and left `g₁` did:
each result answers its declaration, the nodes given differ, and the nodes taken out are exactly
those it discards, with every link to them cleared. -/
structure SessionSpec (g : Graph) (ds : List IoDecl) (rs : List (Except GraphError NodeId))
    (g₁ : Graph) : Prop where
  answers : List.Forall₂ g₁.Answers ds rs
  distinct : (returned rs).Nodup
  removed : ∀ x ∈ g.ids, x ∉ g₁.ids ↔ g.Discarded rs x
  cleared : ∀ x, g.Discarded rs x → x ∈ g₁.refs → x = noNode

/-- A session declares its entries, then finishes: it takes out the nodes of the entries left
pending and not listed, and prepares the graph. -/
theorem ioSession_stages {g g₁ : Graph} {ds : List IoDecl} {rs : List (Except GraphError NodeId)}
    (hok : IdsOk g) (h : (ioSession ds).run g = .ok (rs, g₁)) :
    ∃ s gF gL, Declaring g ds rs s gF ∧ Discarding gF (gF.dropped s.pending) gL ∧
      prepare.run gL = .ok ((), g₁) := by
  unfold ioSession at h
  rw [run_bind_of_ok (run_get g)] at h
  obtain ⟨⟨rs', s⟩, gF, hdecl, h⟩ := run_bind_eq_ok h
  obtain ⟨u, g₂, hfin, h⟩ := run_bind_eq_ok h
  cases h
  have hD := Declaring.run hok ds (Declaring.init hok) hdecl
  simp only [List.nil_append] at hD
  obtain ⟨gL, hL, hprep⟩ := run_finishIo hD.ok hD.pending_nodup
    (fun e he => hD.pending_sublist.subset (List.mem_map_of_mem he)) hfin
  exact ⟨s, gF, gL, hD, hL, hprep⟩

/-- What every session does: each result answers its declaration, the nodes given differ, and
finishing takes out exactly the nodes the session discards, clearing every link to them. -/
theorem ioSession_spec {g g₁ : Graph} {ds : List IoDecl} {rs : List (Except GraphError NodeId)}
    (hok : IdsOk g) (h : (ioSession ds).run g = .ok (rs, g₁)) : SessionSpec g ds rs g₁ := by
  obtain ⟨s, gF, gL, hD, hL, hprep⟩ := ioSession_stages hok h
  have hA : AddsDefaults gL g₁ := addsDefaults_prepare hL.ok hprep
  have hrun : ArenaRun gL g₁ := moves_prepare gL () g₁ hprep
  -- a node given is not taken out, and is wired as the declarations left it
  refine ⟨forall₂_answers_congr hD.answers fun x hx =>
      hL.wiredAs hA (hD.not_mem_dropped (mem_returned.mpr hx)),
    hD.nodup, fun x hx => ?_, fun x hx hr =>
      ((hL.gone x ((hD.mem_dropped hok).mpr hx)).arenaRun hrun).refs hr⟩
  rw [← hD.mem_dropped hok]
  constructor
  · -- a node not taken out is still there
    intro hx₁
    by_contra hd
    obtain ⟨made, hids, -⟩ := hD.grown
    obtain ⟨made', hids'⟩ := hA.ids
    have hxL : x ∈ gL.ids := by
      rw [ids_of_kinds_filter hL.kinds, List.mem_filter, hids]
      exact ⟨List.mem_append_left _ hx, by simpa using hd⟩
    exact hx₁ (hids' ▸ List.mem_append_left _ hxL)
  · intro hd
    exact ((hL.gone x hd).arenaRun hrun).not_mem

end Graph

end NodeGraph
