import NodeGraph.Proofs.HostSessions

/-!
# Running a session again

A session that declares only inputs and outputs leaves the graph settled (`Graph.Settled`): the
nodes it gave are wired, and a wired node it did not give is listed and comes after every node given
under its key. The same session run right after then reuses, declaration by declaration, a node the
first gave (`Graph.Redeclaring`), so it gives the same nodes, takes out none and creates none
(`Graph.ioSession_twice_perm`). It need not give them in the same order: the reuse search tries an
entry of the same mode first, and the first session changed the modes
(`Graph.crossedSlots_reorders`).
-/

namespace NodeGraph

namespace Graph

theorem wiredAs_eq_some {g : Graph} {x : NodeId} {nm kindId : String} {m : IoMode}
    (h : g.wiredAs x = some (nm, kindId, m)) : ∃ n, g.node? x = some n ∧ n.kind.ioMode = m := by
  obtain ⟨n, hn, hw⟩ := Option.bind_eq_some_iff.mp h
  exact ⟨n, hn, Kind.ioMode_of_wiring? hw⟩

theorem Answers.key {g : Graph} {d : IoDecl} {x : NodeId} (h : g.Answers d (.ok x)) :
    ∃ kindId, g.wiredAs x = some (d.name, kindId, d.mode) := by
  have hw := h.wiredAs
  unfold Answers at h
  cases hk : Kind.ioId? d.type with
  | none =>
    rw [IoDecl.key?, hk, Option.map_none] at h
    cases h
  | some kindId =>
    rw [IoDecl.key?, hk, Option.map_some] at hw
    exact ⟨kindId, hw⟩

theorem run_declareIo_of_none {s : IoSession} {d : IoDecl} {g : Graph}
    (hk : Kind.ioId? d.type = none) :
    (declareIo s d.type d.name d.mode).run g = .ok ((.error (.noIoKind d.type), s), g) := by
  unfold declareIo
  simp only [hk]
  rfl

theorem reuse?_of_mem {s : IoSession} {g : Graph} {kindId name : String} {mode : IoMode}
    {e : String × NodeId} (he : e ∈ s.pending) (hkey : g.ioKey? e = some (name, kindId, mode)) :
    ∃ i e', s.reuse? g kindId name mode = some i ∧ s.pending[i]? = some e' ∧
      g.ioKey? e' = some (name, kindId, mode) := by
  have hany : s.pending.any (g.ioMatches kindId name (some mode)) = true :=
    List.any_eq_true.mpr ⟨e, he, ioMatches_some.mpr hkey⟩
  obtain ⟨i, hi⟩ := Option.isSome_iff_exists.mp (List.findIdx?_isSome.trans hany)
  obtain ⟨hlt, hm, -⟩ := List.findIdx?_eq_some_iff_getElem.mp hi
  refine ⟨i, _, ?_, List.getElem?_eq_getElem hlt, ioMatches_some.mp hm⟩
  unfold IoSession.reuse?
  rw [hi]
  rfl

theorem Kind.setIo?_of_wiring? {k : Kind} {nm kindId : String} {m : IoMode}
    (h : k.wiring? = some (nm, kindId, m)) : k.setIo? m nm = some k := by
  cases k with
  | value nm' e io c =>
    simp only [Kind.wiring?, Option.some_inj, Prod.mk.injEq] at h
    obtain ⟨rfl, -, rfl⟩ := h
    rfl
  | _ => simp [Kind.wiring?] at h

theorem DeclaredAt.narrows {g g' : Graph} {x : NodeId} {d : IoDecl} {kindId : String}
    (h : g.DeclaredAt x d g') (hw : g.wiredAs x = some (d.name, kindId, d.mode)) :
    g.Narrows g' := by
  obtain ⟨n, k, hn, hk, rfl⟩ := h
  rw [Graph.wiredAs, hn, Option.bind_some] at hw
  rw [Kind.setIo?_of_wiring? hw, Option.some_inj] at hk
  subst hk
  refine (@Narrows.updateNode g x (fun m => Node.configure { m with kind := n.kind }) (fun _ h => h)
    fun m hm => ?_).trans (Narrows.of_nodes rfl)
  rw [hn, Option.some_inj] at hm
  subst hm
  exact Node.follows_configure _

theorem keys_of_answers {g : Graph} {ds : List IoDecl} {rs : List (Except GraphError NodeId)}
    (h : List.Forall₂ g.Answers ds rs) :
    ds.filterMap IoDecl.key? = (returned rs).filterMap g.wiredAs := by
  induction h with
  | nil => rfl
  | @cons d r ds rs hr _ ih =>
    unfold Answers at hr
    rw [List.filterMap_cons]
    cases hk : d.key? with
    | none =>
      rw [hk] at hr
      subst hr
      rw [returned_cons_error]
      exact ih
    | some key =>
      rw [hk] at hr
      obtain ⟨x, rfl, hx⟩ := hr
      rw [returned_cons_ok, List.filterMap_cons, hx, ih]

/-- The errors a session answers, one for each declaration without a key, in order. -/
theorem perm_errors_returned {g : Graph} {ds : List IoDecl} {rs : List (Except GraphError NodeId)}
    (h : List.Forall₂ g.Answers ds rs) :
    rs.Perm ((ds.filter fun d => d.key?.isNone).map (fun d => .error (.noIoKind d.type)) ++
      (returned rs).map .ok) := by
  induction h with
  | nil => exact .nil
  | @cons d r ds rs hr _ ih =>
    unfold Answers at hr
    rw [List.filter_cons]
    cases hk : d.key? with
    | none =>
      rw [hk] at hr
      subst hr
      rw [Option.isNone_none, if_pos rfl, returned_cons_error, List.map_cons, List.cons_append]
      exact ih.cons _
    | some key =>
      rw [hk] at hr
      obtain ⟨x, rfl, -⟩ := hr
      rw [Option.isNone_some, if_neg Bool.false_ne_true, returned_cons_ok, List.map_cons]
      exact (ih.cons _).trans List.perm_middle.symm

theorem perm_of_returned_perm {g g' : Graph} {ds : List IoDecl}
    {rs rs' : List (Except GraphError NodeId)} (h : List.Forall₂ g.Answers ds rs)
    (h' : List.Forall₂ g'.Answers ds rs') (hp : (returned rs').Perm (returned rs)) :
    rs'.Perm rs :=
  (perm_errors_returned h').trans (((hp.map _).append_left _).trans (perm_errors_returned h).symm)

/-! ### How a session leaves the graph -/

/-- How a session leaves the graph for the next session, `R` being the nodes it gave: each is
wired; a wired node not given is listed as an external slot and comes after every node given
under its key; and every declared input is served, unless the session gave nothing and left the
graph unmarked for a rebuild. -/
structure Settled (R : List NodeId) (g : Graph) : Prop where
  ok : IdsOk g
  wired : ∀ x ∈ R, ∃ n, g.node? x = some n ∧ n.kind.ioMode ≠ .none
  listed : ∀ y n, g.node? y = some n → n.kind.ioMode ≠ .none → y ∉ R → n.kind.listed = true
  before : ∀ x ∈ R, ∀ y, y ∉ R → g.wiredAs y = g.wiredAs x → [x, y].Sublist g.ids
  served : g.Served ∨ (g.dirty = false ∧ R = [])

theorem Settled.mem_of_sublist {R : List NodeId} {g : Graph} (hS : Settled R g) {x y : NodeId}
    (hx : x ∈ R) (hw : g.wiredAs y = g.wiredAs x) (hyx : [y, x].Sublist g.ids) : y ∈ R := by
  by_contra hy
  have h₁ := idxOf_lt_of_pair_sublist hS.ok.nodup (hS.before x hx y hy hw)
  have h₂ := idxOf_lt_of_pair_sublist hS.ok.nodup hyx
  omega

/-- A session that declares only inputs and outputs leaves the graph settled. -/
theorem ioSession_settled {g g₁ : Graph} {ds : List IoDecl} {rs : List (Except GraphError NodeId)}
    (hok : IdsOk g) (hmode : ∀ d ∈ ds, d.mode ≠ .none) (h : (ioSession ds).run g = .ok (rs, g₁)) :
    Settled (returned rs) g₁ := by
  obtain ⟨s, gF, gL, hD, hL, hprep⟩ := ioSession_stages hok h
  have hspec := ioSession_spec hok h
  have hA := addsDefaults_prepare hL.ok hprep
  have hrun : ArenaRun gL g₁ := moves_prepare gL () g₁ hprep
  -- a node given is wired with its declaration's mode
  have hwired : ∀ x ∈ returned rs, ∃ key : String × String × IoMode, g₁.wiredAs x = some key ∧
      key.2.2 ≠ .none := by
    intro x hx
    obtain ⟨d, hd, hans⟩ := exists_answers hspec.answers (mem_returned.mp hx)
    obtain ⟨kindId, hw⟩ := hans.key
    exact ⟨_, hw, hmode d hd⟩
  -- a wired node not given is still pending when the session finishes
  have hpend : ∀ y nF, gF.node? y = some nF → nF.kind.ioMode ≠ .none → y ∉ returned rs →
      ∃ e ∈ s.pending, e.2 = y := by
    intro y nF hnF hio hy
    rw [hD.kept y hy] at hnF
    obtain ⟨nm, he, -⟩ := hD.pending_of_wired hok hnF hio hy
    exact ⟨(nm, y), he, rfl⟩
  refine ⟨hL.ok.arenaRun hrun, fun x hx => ?_, fun y n hn hio hy => ?_, fun x hx y hy hwy => ?_, ?_⟩
  · obtain ⟨⟨nm, kindId, m⟩, hwx, hm⟩ := hwired x hx
    obtain ⟨n, hn, hio⟩ := wiredAs_eq_some hwx
    exact ⟨n, hn, hio ▸ hm⟩
  · obtain ⟨hyD, nF, hnF, hk⟩ := hL.node?_of_wired hA hn hio
    obtain ⟨e, he, rfl⟩ := hpend y nF hnF (hk ▸ hio) hy
    by_contra hl
    refine hyD (List.mem_map.mpr ⟨e, List.mem_filter.mpr ⟨he, ?_⟩, rfl⟩)
    rw [hnF]
    simpa [hk] using hl
  · -- the node not given was pending when the session finished, after `x`
    obtain ⟨⟨nm, kindId, m⟩, hwx, hm⟩ := hwired x hx
    rw [hwx] at hwy
    obtain ⟨n, hn, hio⟩ := wiredAs_eq_some hwy
    obtain ⟨hyD, nF, hnF, hk⟩ := hL.node?_of_wired hA hn (hio ▸ hm)
    obtain ⟨e, he, rfl⟩ := hpend _ nF hnF (hk ▸ hio ▸ hm) hy
    have hxD := hD.not_mem_dropped hx
    have hsub := hD.before x hx e he (by rw [← hL.wiredAs hA hyD, ← hL.wiredAs hA hxD, hwy, hwx])
    obtain ⟨made, hids⟩ := hA.ids
    rw [hids]
    refine List.Sublist.trans ?_ (List.sublist_append_left _ _)
    rw [ids_of_kinds_filter hL.kinds]
    have := hsub.filter fun y => decide (y ∉ gF.dropped s.pending)
    rwa [List.filter_cons_of_pos (by simpa using hxD), List.filter_cons_of_pos (by simpa using hyD),
      List.filter_nil] at this
  · -- a graph left unmarked was only compiled, after a session that changed nothing
    rcases prepare_cases hprep with ⟨-, hreb⟩ | ⟨hd, rfl⟩
    · exact .inl (rebuild_served hL.ok hreb)
    · refine .inr ⟨(dirty_compileOutputs gL).trans hd, ?_⟩
      by_contra hR
      have hdF := hD.dirty hR
      by_cases hDnil : gF.dropped s.pending = []
      · rw [hL.unchanged hDnil, hdF] at hd
        cases hd
      · rw [hL.dirty hDnil] at hd
        cases hd

/-! ### The session after -/

/-- The state of a session begun on a graph `g₁` left settled by a session that gave `R`, once
the declarations `pre` gave `rs`, with `ds` still to come: it declares as every session does,
every node only had its inputs declared again, the nodes given are among `R`, and the keys still
to declare are those of the nodes of `R` not given yet. -/
structure Redeclaring (g₁ : Graph) (R : List NodeId) (pre : List IoDecl)
    (rs : List (Except GraphError NodeId)) (ds : List IoDecl) (s : IoSession) (g : Graph) :
    Prop where
  declaring : Declaring g₁ pre rs s g
  narrows : g₁.Narrows g
  given : ∀ x ∈ returned rs, x ∈ R
  supply : (ds.filterMap IoDecl.key?).Perm
    ((R.filter fun x => x ∉ returned rs).filterMap g₁.wiredAs)
  unchanged : returned rs = [] → g = g₁

namespace Redeclaring

variable {g₁ : Graph} {R : List NodeId} {pre : List IoDecl} {rs : List (Except GraphError NodeId)}
  {ds : List IoDecl} {s : IoSession} {g : Graph}

theorem init (hok : IdsOk g₁) (h : List.Forall₂ g₁.Answers ds rs) :
    Redeclaring g₁ (returned rs) [] [] ds g₁.beginIo g₁ := by
  refine ⟨Declaring.init hok, Narrows.refl g₁, by simp, ?_, fun _ => rfl⟩
  rw [keys_of_answers h, returned_nil]
  simp

/-- Each declaration of the session after reuses the entry of a node of `R` not given yet: while
such a node of its key is pending, the first pending entry of that key is one, since a node of
that key outside `R` comes after every node of `R` in the arena. -/
theorem step (hS : Settled R g₁) (hR : R.Nodup) {d : IoDecl}
    (hRd : Redeclaring g₁ R pre rs (d :: ds) s g) :
    ∃ r s' g', (declareIo s d.type d.name d.mode).run g = .ok ((r, s'), g') ∧
      Redeclaring g₁ R (pre ++ [d]) (rs ++ [r]) ds s' g' := by
  have hD := hRd.declaring
  cases hk : Kind.ioId? d.type with
  | none =>
    -- a type without a value kind: nothing changes
    have hkey : d.key? = none := by rw [IoDecl.key?, hk, Option.map_none]
    have hrun : (declareIo s d.type d.name d.mode).run g =
        .ok ((.error (.noIoKind d.type), s), g) := run_declareIo_of_none hk
    refine ⟨_, s, g, hrun, hD.step hS.ok hrun, hRd.narrows, ?_, ?_, ?_⟩ <;>
      rw [returned_append_error]
    · exact hRd.given
    · have hsup := hRd.supply
      rwa [List.filterMap_cons, hkey] at hsup
    · exact hRd.unchanged
  | some kindId =>
    have hkey : d.key? = some (d.name, kindId, d.mode) := by rw [IoDecl.key?, hk, Option.map_some]
    have hkept : ∀ y, y ∉ returned rs → g.wiredAs y = g₁.wiredAs y := fun y hy => by
      rw [Graph.wiredAs, hD.kept y hy, ← Graph.wiredAs]
    -- a node of `R` not given yet has the declaration's key, and its entry is pending
    obtain ⟨x, hx, hwx⟩ := List.mem_filterMap.mp (hRd.supply.subset (by
      rw [List.filterMap_cons, hkey]
      exact List.mem_cons_self ..))
    rw [List.mem_filter, decide_eq_true_iff] at hx
    obtain ⟨n, hn, hio⟩ := hS.wired x hx.1
    obtain ⟨nm, hex, -⟩ := hD.pending_of_wired hS.ok hn hio hx.2
    have hkx : g.ioKey? (nm, x) = some (d.name, kindId, d.mode) := by
      rw [hD.ioKey?_pending hS.ok hex, hkept x hx.2, hwx]
    obtain ⟨i, e, hre, he, hke⟩ := reuse?_of_mem hex hkx
    obtain ⟨e₁, s', g', he₁, hrun, hpend, hdecl⟩ := run_declareIo_of_reuse hk hre
    rw [he, Option.some_inj] at he₁
    subst he₁
    have hemem : e ∈ s.pending := List.mem_of_getElem? he
    have hefresh : e.2 ∉ returned rs := (hD.mem_pending hemem).2
    have hwe : g₁.wiredAs e.2 = some (d.name, kindId, d.mode) := by
      rw [← hkept e.2 hefresh, ← hD.ioKey?_pending hS.ok hemem, hke]
    have heR : e.2 ∈ R := by
      by_cases hxe : (nm, x) = e
      · rw [← hxe]
        exact hx.1
      -- the entry of `x` is still pending after the entry reused, so its node comes first
      obtain ⟨j, hj⟩ := List.mem_iff_getElem?.mp hex
      have hex' : (nm, x) ∈ s.pending.eraseIdx i := List.mem_eraseIdx_iff_getElem?.mpr
        ⟨j, fun hji => hxe (by rw [hji, he] at hj; exact (Option.some_inj.mp hj).symm), hj⟩
      refine hS.mem_of_sublist hx.1 (hwe.trans hwx.symm) ?_
      rw [← hRd.narrows.1]
      simpa using ((reuse?_first hre he hex' hkx).map Prod.snd).trans hD.pending_sublist
    have hret : returned (rs ++ [.ok e.2]) = returned rs ++ [e.2] := returned_append_ok rs e.2
    refine ⟨.ok e.2, s', g', hrun, hD.step hS.ok hrun,
      hRd.narrows.trans (hdecl.narrows (by rw [hkept e.2 hefresh, hwe])), fun y hy => ?_, ?_,
      fun h => absurd h (by simp)⟩
    · rw [hret, List.mem_append, List.mem_singleton] at hy
      rcases hy with hy | rfl
      exacts [hRd.given y hy, heR]
    · -- the node given leaves the supply with its key
      have hsup := hRd.supply
      rw [List.filterMap_cons, hkey] at hsup
      have hmem : e.2 ∈ R.filter fun y => y ∉ returned rs :=
        List.mem_filter.mpr ⟨heR, by simpa using hefresh⟩
      have herase : (R.filter fun y => y ∉ returned rs).erase e.2 =
          R.filter fun y => y ∉ returned (rs ++ [.ok e.2]) := by
        rw [(hR.filter _).erase_eq_filter, List.filter_filter, hret]
        congr 1
        funext y
        by_cases hy : y = e.2 <;> simp [hy]
      have hp := (List.perm_cons_erase hmem).filterMap g₁.wiredAs
      rw [List.filterMap_cons, hwe, herase] at hp
      exact (hsup.trans hp).cons_inv

end Redeclaring

theorem Redeclaring.run {g₁ : Graph} {R : List NodeId} (hS : Settled R g₁) (hR : R.Nodup) :
    ∀ (ds : List IoDecl) {pre : List IoDecl} {rs : List (Except GraphError NodeId)}
      {s : IoSession} {g : Graph}, Redeclaring g₁ R pre rs ds s g →
      ∃ rs' s' g', (declareEach s ds).run g = .ok ((rs', s'), g') ∧
        Redeclaring g₁ R (pre ++ ds) (rs ++ rs') [] s' g'
  | [], pre, rs, s, g, hRd => ⟨[], s, g, rfl, by simpa using hRd⟩
  | d :: ds, pre, rs, s, g, hRd => by
    obtain ⟨r, s₁, g₂, h₁, hRd₁⟩ := hRd.step hS hR
    obtain ⟨rs', s', g', h₂, hRd₂⟩ := Redeclaring.run hS hR ds hRd₁
    refine ⟨r :: rs', s', g', ?_, by simpa using hRd₂⟩
    rw [declareEach, run_bind_of_ok h₁, run_bind_of_ok h₂]
    rfl

theorem Redeclaring.exhausted {g₁ : Graph} {R : List NodeId} {pre : List IoDecl}
    {rs : List (Except GraphError NodeId)} {s : IoSession} {g : Graph} (hS : Settled R g₁)
    (hRd : Redeclaring g₁ R pre rs [] s g) : ∀ x ∈ R, x ∈ returned rs := by
  intro x hx
  by_contra hnot
  obtain ⟨n, hn, hio⟩ := hS.wired x hx
  obtain ⟨nm, hw⟩ := Kind.wiring?_of_ioMode hio
  have hmem : (nm, n.kind.id, n.kind.ioMode) ∈
      (R.filter fun y => y ∉ returned rs).filterMap g₁.wiredAs :=
    List.mem_filterMap.mpr ⟨x, List.mem_filter.mpr ⟨hx, by simpa using hnot⟩,
      by rw [Graph.wiredAs, hn, Option.bind_some, hw]⟩
  have hnil := hRd.supply.symm.subset hmem
  simp at hnil

theorem run_finishIo_of_listed {s : IoSession} {g : Graph}
    (hl : ∀ e ∈ s.pending, ∃ n, g.node? e.2 = some n ∧ n.kind.listed = true) :
    (finishIo s).run g = prepare.run g := by
  unfold finishIo
  refine forIn_then_of_stays s.pending _ fun e he => ?_
  obtain ⟨name, id⟩ := e
  obtain ⟨n, hn, hlisted⟩ := hl _ he
  rw [run_bind_of_ok (run_get g)]
  dsimp only
  rw [hn, Option.map_some, Option.getD_some, hlisted]
  rfl

/-- A session on a graph left settled by a session that gave the nodes of `rs`, with the
declarations that gave them, succeeds, gives those nodes again in some order, and creates and
removes no node. -/
theorem ioSession_again {g₁ : Graph} {ds : List IoDecl} {rs : List (Except GraphError NodeId)}
    (hS : Settled (returned rs) g₁) (hans : List.Forall₂ g₁.Answers ds rs)
    (hnd : (returned rs).Nodup) :
    ∃ rs₂ g₂, (ioSession ds).run g₁ = .ok (rs₂, g₂) ∧ (returned rs₂).Perm (returned rs) ∧
      g₂.ids = g₁.ids := by
  obtain ⟨rs₂, s, gF, hdecl, hRd⟩ := Redeclaring.run hS hnd ds (Redeclaring.init hS.ok hans)
  simp only [List.nil_append] at hRd
  have hD := hRd.declaring
  have hall := hRd.exhausted hS
  -- the entries left pending are listed, so finishing takes none out
  have hfin : (finishIo s).run gF = prepare.run gF := by
    refine run_finishIo_of_listed fun e he => ?_
    obtain ⟨he₁, hnot⟩ := hD.mem_pending he
    obtain ⟨n, hn, hio, -⟩ := (mem_beginIo hS.ok.nodup).mp he₁
    exact ⟨n, by rw [hD.kept _ hnot, hn], hS.listed e.2 n hn hio fun h => hnot (hall _ h)⟩
  -- and preparing succeeds: the graph narrows a served one, or is the graph left unmarked
  have hserved : gF.dirty = true → gF.Served := by
    intro hdF
    rcases hS.served with hserv | ⟨hd, hR0⟩
    · exact hRd.narrows.served hserv
    · have hnil : returned rs₂ = [] := List.eq_nil_iff_forall_not_mem.mpr fun x hx => by
        simpa [hR0] using hRd.given x hx
      rw [hRd.unchanged hnil, hd] at hdF
      cases hdF
  obtain ⟨g₂, hprep, hids⟩ := prepare_of_served hserved
  refine ⟨rs₂, g₂, ?_, (List.perm_ext_iff_of_nodup hD.nodup hnd).mpr fun x =>
    ⟨hRd.given x, hall x⟩, hids.trans hRd.narrows.1⟩
  unfold ioSession
  rw [run_bind_of_ok (run_get g₁), run_bind_of_ok hdecl]
  exact run_bind_of_ok (hfin.trans hprep)

/-- A session that declares only inputs and outputs answers each declaration and takes out exactly
the nodes it discards. Run again right after, it does the same, gives the same nodes and creates
and removes no node, but may give them in another order: a node first reused in another mode can
come before the node of its key it was passed over for. -/
theorem ioSession_twice_perm {g g₁ : Graph} {ds : List IoDecl}
    {rs : List (Except GraphError NodeId)} (hok : IdsOk g) (hmode : ∀ d ∈ ds, d.mode ≠ .none)
    (h : (ioSession ds).run g = .ok (rs, g₁)) :
    SessionSpec g ds rs g₁ ∧ ∃ rs₂ g₂, (ioSession ds).run g₁ = .ok (rs₂, g₂) ∧
      SessionSpec g₁ ds rs₂ g₂ ∧ rs₂.Perm rs ∧ g₂.ids = g₁.ids := by
  have hspec := ioSession_spec hok h
  have hS := ioSession_settled hok hmode h
  obtain ⟨rs₂, g₂, h₂, hperm, hids⟩ := ioSession_again hS hspec.answers hspec.distinct
  have hspec₂ := ioSession_spec hS.ok h₂
  exact ⟨hspec, rs₂, g₂, h₂, hspec₂, perm_of_returned_perm hspec.answers hspec₂.answers hperm,
    hids⟩

/-- An output `v` (node 1) and an input `v` (node 2), both float values. -/
def crossedSlots : Graph where
  nodes := [Node.new 1 (.value "v" false .output (.float 0)),
    Node.new 2 (.value "v" false .input (.float 0))]
  nextId := 3

/-- Two float inputs named `v`. -/
def twoInputs : List IoDecl := [⟨.input, .float, "v"⟩, ⟨.input, .float, "v"⟩]

theorem crossedSlots_session_twice : IdsOk crossedSlots ∧ (∀ d ∈ twoInputs, d.mode ≠ .none) ∧
    ∃ rs g₁, (ioSession twoInputs).run crossedSlots = .ok (rs, g₁) ∧ returned rs = [2, 1] ∧
      (SessionSpec crossedSlots twoInputs rs g₁ ∧ ∃ rs₂ g₂,
        (ioSession twoInputs).run g₁ = .ok (rs₂, g₂) ∧ SessionSpec g₁ twoInputs rs₂ g₂ ∧
          rs₂.Perm rs ∧ g₂.ids = g₁.ids) := by
  have hok : IdsOk crossedSlots :=
    ⟨by decide, by decide, by decide, by decide, by decide, by decide, by decide⟩
  have hmode : ∀ d ∈ twoInputs, d.mode ≠ .none := by decide
  have hchk : (match (ioSession twoInputs).run crossedSlots with
      | .ok (rs, _) => returned rs == [2, 1]
      | .error _ => false) = true := by decide +kernel
  cases hr : (ioSession twoInputs).run crossedSlots with
  | error f =>
    rw [hr] at hchk
    cases hchk
  | ok p =>
    obtain ⟨rs, g₁⟩ := p
    rw [hr] at hchk
    exact ⟨hok, hmode, rs, g₁, rfl, beq_iff_eq.mp hchk, ioSession_twice_perm hok hmode hr⟩

/-- Run twice on `crossedSlots`, the session gives node 2 and then node 1, the second time node 1
and then node 2: the first declaration passes over node 1, an output, for node 2, and the second
takes node 1 and switches it to an input. -/
theorem crossedSlots_reorders : ∃ rs g₁ rs₂ g₂,
    (ioSession twoInputs).run crossedSlots = .ok (rs, g₁) ∧
      (ioSession twoInputs).run g₁ = .ok (rs₂, g₂) ∧ returned rs = [2, 1] ∧
      returned rs₂ = [1, 2] := by
  have hchk : (match (ioSession twoInputs).run crossedSlots with
      | .ok (rs, g₁) =>
        match (ioSession twoInputs).run g₁ with
        | .ok (rs₂, _) => returned rs == [2, 1] && returned rs₂ == [1, 2]
        | .error _ => false
      | .error _ => false) = true := by decide +kernel
  cases hr : (ioSession twoInputs).run crossedSlots with
  | error f =>
    rw [hr] at hchk
    cases hchk
  | ok p =>
    obtain ⟨rs, g₁⟩ := p
    rw [hr] at hchk
    dsimp only at hchk
    cases hr₂ : (ioSession twoInputs).run g₁ with
    | error f =>
      rw [hr₂] at hchk
      cases hchk
    | ok q =>
      obtain ⟨rs₂, g₂⟩ := q
      rw [hr₂, Bool.and_eq_true, beq_iff_eq, beq_iff_eq] at hchk
      exact ⟨rs, g₁, rs₂, g₂, rfl, hr₂, hchk.1, hchk.2⟩

end Graph

end NodeGraph
