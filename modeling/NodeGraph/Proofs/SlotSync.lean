import NodeGraph.Proofs.Preparation

/-!
# Keeping slot values in step with a graph

A host keeps one list of values per slot type (`SlotInputs`). On a graph whose slot list reflects
its arena, syncing cuts each list to the slots of its type and reads the missing entries off the
slot nodes; pushing the synced lists back succeeds and leaves every slot node holding the value
written, so a fresh sync reads the lists back, and syncing twice gives what syncing once does
(`SlotInputs.sync_round_trip`). Writes go node by node (`Graph.writeSlot_ok`), and distinct slots
name distinct nodes, so all writes are described slot by slot (`SlotInputs.writeTypes_ok`).
-/

namespace NodeGraph

theorem Constant.type_ne_curve (c : Constant) : c.type ≠ .curve := by
  cases c <;> simp [Constant.type]

theorem Constant.type_ne_ramp (c : Constant) : c.type ≠ .ramp := by
  cases c <;> simp [Constant.type]

/-- A kind that exposes a slot takes any value of the slot's type, and then exposes that value
under the same name and flag. -/
theorem Kind.writeSlot?_of_slot? {k : Kind} {name : String} {e : Bool} {v₀ v : SlotValue}
    (h : k.slot? = some (name, e, v₀)) (ht : v₀.type = v.type) :
    ∃ k', k.writeSlot? v = some k' ∧ k'.slot? = some (name, e, v) := by
  cases k <;> simp only [Kind.slot?, Option.some.injEq, Prod.mk.injEq, reduceCtorEq] at h
  case value n e' io c =>
    obtain ⟨rfl, rfl, rfl⟩ := h
    cases v with
    | constant c' =>
      have hc : c.type = c'.type := ht
      exact ⟨.value n e' io c', by simp [Kind.writeSlot?, Constant.replace, hc], rfl⟩
    | curve _ => exact absurd ht (Constant.type_ne_curve c)
    | ramp _ => exact absurd ht (Constant.type_ne_ramp c)
  case curve n e' cv =>
    obtain ⟨rfl, rfl, rfl⟩ := h
    cases v with
    | constant c' => exact absurd ht.symm (Constant.type_ne_curve c')
    | curve cv' => exact ⟨.curve n e' cv', rfl, rfl⟩
    | ramp _ => cases ht
  case ramp n e' r =>
    obtain ⟨rfl, rfl, rfl⟩ := h
    cases v with
    | constant c' => exact absurd ht.symm (Constant.type_ne_ramp c')
    | curve _ => cases ht
    | ramp r' => exact ⟨.ramp n e' r', rfl, rfl⟩
  case fallback c =>
    obtain ⟨rfl, rfl, rfl⟩ := h
    cases v with
    | constant c' =>
      have hc : c.type = c'.type := ht
      exact ⟨.fallback c', by simp [Kind.writeSlot?, Constant.replace, hc], rfl⟩
    | curve _ => exact absurd ht (Constant.type_ne_curve c)
    | ramp _ => exact absurd ht (Constant.type_ne_ramp c)

namespace Graph

/-- The slot a node exposes: its name, whether it is listed, and its value. -/
def slotOf (g : Graph) (id : NodeId) : Option (String × Bool × SlotValue) :=
  (g.node? id).bind (·.kind.slot?)

theorem slotValue?_of_slotOf {g : Graph} {id : NodeId} {name : String} {e : Bool}
    {v : SlotValue} (h : g.slotOf id = some (name, e, v)) : g.slotValue? id v.type = .ok v := by
  obtain ⟨n, hn, hk⟩ := Option.bind_eq_some_iff.mp h
  simp [slotValue?, hn, hk]

/-- Writing a value of a slot's type into the node exposing the slot replaces its value, and leaves
the slot of every other node and the slot list as they were. -/
theorem writeSlot_ok {g : Graph} {id : NodeId} {v : SlotValue} {name : String} {e : Bool}
    {v₀ : SlotValue} (h : g.slotOf id = some (name, e, v₀)) (ht : v₀.type = v.type) :
    ∃ g', g.writeSlot id v = .ok g' ∧ g'.slots = g.slots ∧
      ∀ y, g'.slotOf y = if y = id then some (name, e, v) else g.slotOf y := by
  obtain ⟨n, hn, hk⟩ := Option.bind_eq_some_iff.mp h
  obtain ⟨k, hw, hk'⟩ := Kind.writeSlot?_of_slot? hk ht
  refine ⟨g.updateNode id fun n => { n with kind := k }, by simp only [writeSlot, hn, hw], rfl,
    fun y => ?_⟩
  unfold slotOf
  rw [@node?_updateNode g id y (fun n => { n with kind := k }) fun _ h => h]
  by_cases hy : y = id
  · rw [if_pos hy, if_pos hy, hn, Option.map_some, Option.bind_some]
    exact hk'
  · rw [if_neg hy, if_neg hy]

/-! ### The slots a graph collects -/

theorem slotOf_of_mem_collectSlots {g : Graph} (hnd : g.ids.Nodup) {s : Slot}
    (hs : s ∈ g.collectSlots) :
    ∃ v, g.slotOf s.node = some (s.name, true, v) ∧ v.type = s.type := by
  obtain ⟨n, hn, hf⟩ := List.mem_filterMap.mp hs
  split at hf
  · rename_i name v hslot
    cases hf
    exact ⟨v, by simp [slotOf, node?_of_mem hnd hn, hslot], rfl⟩
  · cases hf

theorem slot_eq_of_node_eq {g : Graph} (hnd : g.ids.Nodup) {s s' : Slot}
    (hs : s ∈ g.collectSlots) (hs' : s' ∈ g.collectSlots) (h : s.node = s'.node) : s = s' := by
  obtain ⟨v, hv, hvt⟩ := slotOf_of_mem_collectSlots hnd hs
  obtain ⟨v', hv', hvt'⟩ := slotOf_of_mem_collectSlots hnd hs'
  rw [h, hv'] at hv
  simp only [Option.some.injEq, Prod.mk.injEq, true_and] at hv
  obtain ⟨hname, rfl⟩ := hv
  obtain ⟨_, _, _⟩ := s
  obtain ⟨_, _, _⟩ := s'
  simp_all

theorem filterMap_nodes_sublist {F : Node → Option Slot}
    (hF : ∀ n s, F n = some s → s.node = n.id) :
    ∀ ns : List Node, ((ns.filterMap F).map (·.node)).Sublist (ns.map (·.id))
  | [] => .slnil
  | n :: ns => by
    rw [List.filterMap_cons]
    cases h : F n with
    | none => exact (filterMap_nodes_sublist hF ns).cons _
    | some s =>
      rw [List.map_cons, List.map_cons, hF n s h]
      exact (filterMap_nodes_sublist hF ns).cons_cons _

theorem collectSlots_nodes_sublist (g : Graph) : (g.collectSlots.map (·.node)).Sublist g.ids :=
  filterMap_nodes_sublist (fun n s h => by
    split at h <;> cases h
    rfl) g.nodes

theorem nodup_slotsOf_nodes {g : Graph} (hnd : g.ids.Nodup) (hslots : g.slots = g.collectSlots)
    (t : ValueType) : ((g.slotsOf t).map (·.node)).Nodup := by
  have hsub : ((g.slotsOf t).map (·.node)).Sublist g.ids := by
    refine ((List.filter_sublist).map _).trans ?_
    rw [hslots]
    exact g.collectSlots_nodes_sublist
  exact hsub.nodup hnd

theorem mem_collectSlots_of_slotsOf {g : Graph} (hslots : g.slots = g.collectSlots)
    {t : ValueType} {s : Slot} (hs : s ∈ g.slotsOf t) : s ∈ g.collectSlots ∧ s.type = t := by
  obtain ⟨hmem, ht⟩ := List.mem_filter.mp hs
  exact ⟨hslots ▸ hmem, by simpa using ht⟩

theorem slotValue?_of_slotsOf {g : Graph} (hnd : g.ids.Nodup) (hslots : g.slots = g.collectSlots)
    {t : ValueType} {s : Slot} (hs : s ∈ g.slotsOf t) :
    ∃ v, g.slotValue? s.node t = .ok v ∧ v.type = t := by
  obtain ⟨hmem, rfl⟩ := mem_collectSlots_of_slotsOf hslots hs
  obtain ⟨v, hv, hvt⟩ := slotOf_of_mem_collectSlots hnd hmem
  exact ⟨v, hvt ▸ slotValue?_of_slotOf hv, hvt⟩

theorem slotsOf_apart {g : Graph} (hnd : g.ids.Nodup) (hslots : g.slots = g.collectSlots)
    {t t' : ValueType} (ht : t ≠ t') {s s' : Slot} (hs : s ∈ g.slotsOf t)
    (hs' : s' ∈ g.slotsOf t') : s'.node ≠ s.node := by
  intro he
  obtain ⟨hmem, hst⟩ := mem_collectSlots_of_slotsOf hslots hs
  obtain ⟨hmem', hst'⟩ := mem_collectSlots_of_slotsOf hslots hs'
  exact ht (by rw [← hst, ← slot_eq_of_node_eq hnd hmem' hmem he, hst'])

/-! ### Writing slot values -/

/-- Writing values into distinct nodes that expose slots of the values' types succeeds; each node
written then holds its value, and every other node keeps its slot. -/
theorem writes_ok : ∀ (ps : List (Slot × SlotValue)) (h : Graph),
    (ps.map (·.1.node)).Nodup →
    (∀ p ∈ ps, ∃ name e v₀, h.slotOf p.1.node = some (name, e, v₀) ∧ v₀.type = p.2.type) →
    ∃ h', ps.foldlM (fun g (slot, v) => g.writeSlot slot.node v) h = .ok h' ∧
      h'.slots = h.slots ∧ (∀ y, y ∉ ps.map (·.1.node) → h'.slotOf y = h.slotOf y) ∧
      ∀ p ∈ ps, h'.slotOf p.1.node = (h.slotOf p.1.node).map fun q => (q.1, q.2.1, p.2)
  | [], h, _, _ => ⟨h, rfl, rfl, fun _ _ => rfl, fun _ hp => by cases hp⟩
  | ⟨slot, v⟩ :: ps, h, hnd, hty => by
    rw [List.map_cons, List.nodup_cons] at hnd
    obtain ⟨name, e, v₀, hv₀, ht⟩ := hty _ (List.mem_cons_self ..)
    obtain ⟨h₁, hw, hslots₁, hslot₁⟩ := writeSlot_ok hv₀ ht
    -- the nodes written later are not this one, so they expose what they exposed before
    have hrest : ∀ p ∈ ps, h₁.slotOf p.1.node = h.slotOf p.1.node := fun p hp => by
      rw [hslot₁, if_neg fun hx : p.1.node = slot.node => hnd.1 (by
        rw [← hx]
        exact List.mem_map_of_mem hp)]
    obtain ⟨h', hrun, hslots', hframe, hwritten⟩ := writes_ok ps h₁ hnd.2 fun p hp => by
      rw [hrest p hp]
      exact hty p (List.mem_cons_of_mem _ hp)
    refine ⟨h', by rw [List.foldlM_cons]; simp only [hw]; exact hrun,
      hslots'.trans hslots₁, fun y hy => ?_, fun p hp => ?_⟩
    · rw [List.map_cons, List.mem_cons, not_or] at hy
      rw [hframe y hy.2, hslot₁, if_neg hy.1]
    · rcases List.mem_cons.mp hp with rfl | hp
      · rw [hframe _ hnd.1, hslot₁, if_pos rfl, hv₀]
        rfl
      · rw [hwritten p hp, hrest p hp]

/-- `h` holds, at the node of every slot of `g`, a value of the slot's type under its name. -/
def HoldsSlots (g h : Graph) : Prop :=
  ∀ s ∈ g.slots, ∃ v, h.slotOf s.node = some (s.name, true, v) ∧ v.type = s.type

/-- Writing, into slots of one type, values of that type keeps every slot holding a value of its
type. -/
theorem HoldsSlots.write {g h h₁ : Graph} (hnd : g.ids.Nodup) (hslots : g.slots = g.collectSlots)
    {t : ValueType} {ps : List (Slot × SlotValue)}
    (hps : ∀ p ∈ ps, p.1 ∈ g.slotsOf t ∧ p.2.type = t) (hex : g.HoldsSlots h)
    (hframe : ∀ y, y ∉ ps.map (·.1.node) → h₁.slotOf y = h.slotOf y)
    (hwritten : ∀ p ∈ ps, h₁.slotOf p.1.node = (h.slotOf p.1.node).map fun q => (q.1, q.2.1, p.2)) :
    g.HoldsSlots h₁ := by
  intro s hs
  obtain ⟨v₀, hv₀, hvt⟩ := hex s hs
  by_cases hw : s.node ∈ ps.map (·.1.node)
  · -- the slot written at this node is `s` itself
    obtain ⟨p, hp, hps'⟩ := List.mem_map.mp hw
    obtain ⟨hp₁, hp₂⟩ := hps p hp
    obtain ⟨hmem, hpt⟩ := mem_collectSlots_of_slotsOf hslots hp₁
    have hs' : p.1 = s := slot_eq_of_node_eq hnd hmem (hslots ▸ hs) hps'
    refine ⟨p.2, ?_, by rw [hp₂, ← hpt, hs']⟩
    rw [← hps', hwritten p hp, hps', hv₀]
    rfl
  · exact ⟨v₀, (hframe _ hw).trans hv₀, hvt⟩

end Graph

namespace SlotInputs

/-- Slot values kept for every slot type hold values of that type. -/
def Typed (s : SlotInputs) : Prop := ∀ t ∈ slotTypes, ∀ v ∈ s.get t, v.type = t

instance : DecidablePred Typed := fun s =>
  inferInstanceAs (Decidable (∀ t ∈ slotTypes, ∀ v ∈ s.get t, v.type = t))

@[simp] theorem get_put_self (s : SlotInputs) (t : ValueType) (vs : List SlotValue) :
    (s.put t vs).get t = vs := by
  simp [get, put]

theorem get_put_of_ne (s : SlotInputs) {t t' : ValueType} (vs : List SlotValue) (h : t' ≠ t) :
    (s.put t vs).get t' = s.get t' := by
  have hb : (t == t') = false := by simpa using Ne.symm h
  -- the entries the filter drops are of type `t`, never the one looked for
  have hpred : (fun a : ValueType × List SlotValue =>
      decide ((a.1 != t) = true ∧ (a.1 == t') = true)) = fun a => a.1 == t' := by
    funext a
    by_cases ha : a.1 = t' <;> simp [ha, h]
  simp only [get, put, List.find?_cons, hb, List.find?_filter, hpred]

/-- The list syncing makes of the values `vs` kept for type `t`: cut to the number of slots of `t`,
and followed by the values read off the slots past them. -/
def syncList (g : Graph) (t : ValueType) (vs : List SlotValue) : List SlotValue :=
  vs.take (g.slotsOf t).length ++
    ((g.slotsOf t).drop (vs.take (g.slotsOf t).length).length).map fun slot =>
      match g.slotValue? slot.node t with
      | .ok v => v
      | .error _ => SlotValue.zeroOf t

theorem sync_eq (s : SlotInputs) (g : Graph) :
    s.sync g = slotTypes.foldl (fun s t => s.put t (syncList g t (s.get t))) s := rfl

theorem get_foldl_put (F : ValueType → List SlotValue → List SlotValue) (t : ValueType) :
    ∀ (ts : List ValueType) (s : SlotInputs), ts.Nodup →
      (ts.foldl (fun s t => s.put t (F t (s.get t))) s).get t =
        if t ∈ ts then F t (s.get t) else s.get t
  | [], s, _ => rfl
  | t' :: ts, s, hnd => by
    rw [List.nodup_cons] at hnd
    rw [List.foldl_cons, get_foldl_put F t ts _ hnd.2]
    by_cases ht : t = t'
    · subst ht
      rw [if_neg hnd.1, if_pos (List.mem_cons_self ..), get_put_self]
    · rw [get_put_of_ne _ _ ht]
      simp [ht]

theorem get_sync (s : SlotInputs) (g : Graph) {t : ValueType} (ht : t ∈ slotTypes) :
    (s.sync g).get t = syncList g t (s.get t) := by
  rw [sync_eq, get_foldl_put _ t _ s (by decide), if_pos ht]

/-- On a graph whose slot list reflects its arena, syncing keeps the entries below the number of
slots and reads each later one off its slot. -/
theorem syncList_spec {g : Graph} (hnd : g.ids.Nodup) (hslots : g.slots = g.collectSlots)
    (t : ValueType) (vs : List SlotValue) :
    (syncList g t vs).length = (g.slotsOf t).length ∧
    ∃ more, syncList g t vs = vs.take (g.slotsOf t).length ++ more ∧
      List.Forall₂ (fun s v => g.slotValue? s.node t = .ok v)
        ((g.slotsOf t).drop vs.length) more := by
  have hdrop : (g.slotsOf t).drop (vs.take (g.slotsOf t).length).length =
      (g.slotsOf t).drop vs.length := by
    rw [List.length_take]
    by_cases hle : vs.length ≤ (g.slotsOf t).length
    · rw [Nat.min_eq_right hle]
    · rw [Nat.min_eq_left (by omega), List.drop_length, List.drop_eq_nil_of_le (by omega)]
  refine ⟨?_, _, by rw [syncList, hdrop], ?_⟩
  · simp only [syncList, List.length_append, List.length_take, List.length_map, List.length_drop]
    omega
  · -- each slot reads a value off its node
    refine List.forall₂_map_right_iff.mpr (List.forall₂_same.mpr fun s hs => ?_)
    obtain ⟨v, hv, -⟩ := Graph.slotValue?_of_slotsOf hnd hslots (List.mem_of_mem_drop hs)
    rw [hv]

theorem syncList_of_length {g : Graph} {t : ValueType} {vs : List SlotValue}
    (h : vs.length = (g.slotsOf t).length) : syncList g t vs = vs := by
  rw [syncList, List.take_of_length_le (Nat.le_of_eq h), h, List.drop_length, List.map_nil,
    List.append_nil]

theorem syncList_typed {g : Graph} (hnd : g.ids.Nodup) (hslots : g.slots = g.collectSlots)
    {t : ValueType} {vs : List SlotValue} (hvs : ∀ v ∈ vs, v.type = t) :
    ∀ v ∈ syncList g t vs, v.type = t := by
  intro v hv
  rcases List.mem_append.mp hv with hv | hv
  · exact hvs v (List.mem_of_mem_take hv)
  · obtain ⟨s, hs, rfl⟩ := List.mem_map.mp hv
    obtain ⟨v', hv', ht⟩ := Graph.slotValue?_of_slotsOf hnd hslots (List.mem_of_mem_drop hs)
    simp only [hv']
    exact ht

/-- Writing every list into the slots of its type, type after type, on a graph whose slot list
reflects its arena: when each list holds a value of its type for each slot, every write succeeds,
each slot node of the types written ends up holding the value written to it, and every other node
keeps its slot. -/
theorem writeTypes_ok {g : Graph} (hnd : g.ids.Nodup) (hslots : g.slots = g.collectSlots)
    {y : SlotInputs} (hy : y.Typed)
    (hlen : ∀ t ∈ slotTypes, (y.get t).length = (g.slotsOf t).length) :
    ∀ (ts : List ValueType) (h : Graph), ts.Nodup → (∀ t ∈ ts, t ∈ slotTypes) →
      h.slots = g.slots → g.HoldsSlots h →
      ∃ h', ts.foldlM (fun g t => ((g.slotsOf t).zip (y.get t)).foldlM
          (fun g (slot, v) => g.writeSlot slot.node v) g) h = .ok h' ∧
        h'.slots = g.slots ∧ g.HoldsSlots h' ∧
        (∀ z, (∀ t ∈ ts, ∀ s ∈ g.slotsOf t, s.node ≠ z) → h'.slotOf z = h.slotOf z) ∧
        ∀ t ∈ ts, ∀ p ∈ (g.slotsOf t).zip (y.get t), h'.slotOf p.1.node = some (p.1.name, true, p.2)
  | [], h, _, _, hhs, hex => ⟨h, rfl, hhs, hex, fun _ _ => rfl, fun _ ht => by cases ht⟩
  | t :: ts, h, hts, hsub, hhs, hex => by
    rw [List.nodup_cons] at hts
    have htype : t ∈ slotTypes := hsub t (List.mem_cons_self ..)
    have hP : h.slotsOf t = g.slotsOf t := by
      unfold Graph.slotsOf
      rw [hhs]
    have hfst : ((g.slotsOf t).zip (y.get t)).map (·.1) = g.slotsOf t :=
      List.map_fst_zip (Nat.le_of_eq (hlen t htype).symm)
    have hnodes : ((g.slotsOf t).zip (y.get t)).map (·.1.node) = (g.slotsOf t).map (·.node) := by
      have h := congrArg (List.map (·.node)) hfst
      rw [List.map_map] at h
      exact h
    -- the slots of `t` are written first
    obtain ⟨h₁, hrun₁, hslots₁, hframe₁, hwritten₁⟩ := Graph.writes_ok
      ((g.slotsOf t).zip (y.get t)) h (hnodes ▸ Graph.nodup_slotsOf_nodes hnd hslots t)
      fun p hp => by
        obtain ⟨hs, hv⟩ := List.of_mem_zip hp
        obtain ⟨hmem, hst⟩ := List.mem_filter.mp hs
        obtain ⟨v₀, hv₀, hvt⟩ := hex p.1 hmem
        exact ⟨_, _, v₀, hv₀, by rw [hvt, hy t htype p.2 hv]; simpa using hst⟩
    have hex₁ : g.HoldsSlots h₁ := Graph.HoldsSlots.write hnd hslots
      (fun p hp => ⟨(List.of_mem_zip hp).1, hy t htype p.2 (List.of_mem_zip hp).2⟩) hex
      hframe₁ hwritten₁
    obtain ⟨h', hrun', hslots', hex', hframe', hwritten'⟩ :=
      writeTypes_ok hnd hslots hy hlen ts h₁ hts.2
        (fun t' ht' => hsub t' (List.mem_cons_of_mem _ ht')) (hslots₁.trans hhs) hex₁
    -- slots of another type name other nodes, so the later writes leave those of `t`
    have hapart : ∀ s ∈ g.slotsOf t, ∀ t' ∈ ts, ∀ s' ∈ g.slotsOf t', s'.node ≠ s.node :=
      fun s hs t' ht' s' hs' =>
        Graph.slotsOf_apart hnd hslots (fun he : t = t' => hts.1 (he ▸ ht')) hs hs'
    refine ⟨h', ?_, hslots', hex', fun z hz => ?_, fun t' ht' p hp => ?_⟩
    · rw [List.foldlM_cons]
      simp only [hP, hrun₁]
      exact hrun'
    · rw [hframe' z fun t' ht' => hz t' (List.mem_cons_of_mem _ ht')]
      refine hframe₁ z fun hzw => ?_
      rw [hnodes] at hzw
      obtain ⟨s, hs, rfl⟩ := List.mem_map.mp hzw
      exact hz t (List.mem_cons_self ..) s hs rfl
    · rcases List.mem_cons.mp ht' with rfl | ht'
      · obtain ⟨hp₁, -⟩ := List.of_mem_zip hp
        obtain ⟨v₀, hv₀, -⟩ := hex p.1 (List.mem_filter.mp hp₁).1
        rw [hframe' _ (hapart p.1 hp₁), hwritten₁ p hp, hv₀]
        rfl
      · exact hwritten' t' ht' p hp

/-- Syncing host lists with a graph whose slot list reflects its arena (`Graph.collectSlots`) and
whose ids differ, when each host list holds values of its type:
* gives each list one entry per slot of its type, keeping the entries below and reading each later
  one off its slot;
* then pushing the lists back succeeds, each slot node holds the value written to it, and a fresh
  sync of the result reads the lists back;
* and syncing again changes no list. -/
theorem sync_round_trip {g : Graph} {x : SlotInputs} (hnd : g.ids.Nodup)
    (hslots : g.slots = g.collectSlots) (hx : x.Typed) :
    (∀ t ∈ slotTypes, ((x.sync g).get t).length = (g.slotsOf t).length ∧
      ∃ more, (x.sync g).get t = (x.get t).take (g.slotsOf t).length ++ more ∧
        List.Forall₂ (fun s v => g.slotValue? s.node t = .ok v)
          ((g.slotsOf t).drop (x.get t).length) more) ∧
    (∃ g', (x.sync g).apply g = .ok g' ∧ ∀ t ∈ slotTypes,
      List.Forall₂ (fun s v => g'.slotValue? s.node t = .ok v) (g.slotsOf t) ((x.sync g).get t) ∧
      (({} : SlotInputs).sync g').get t = (x.sync g).get t) ∧
    ∀ t ∈ slotTypes, ((x.sync g).sync g).get t = (x.sync g).get t := by
  have hspec : ∀ t ∈ slotTypes, ((x.sync g).get t).length = (g.slotsOf t).length ∧
      ∃ more, (x.sync g).get t = (x.get t).take (g.slotsOf t).length ++ more ∧
        List.Forall₂ (fun s v => g.slotValue? s.node t = .ok v)
          ((g.slotsOf t).drop (x.get t).length) more := fun t ht => by
    rw [get_sync x g ht]
    exact syncList_spec hnd hslots t (x.get t)
  have hlen : ∀ t ∈ slotTypes, ((x.sync g).get t).length = (g.slotsOf t).length :=
    fun t ht => (hspec t ht).1
  have htyped : (x.sync g).Typed := fun t ht => by
    rw [get_sync x g ht]
    exact syncList_typed hnd hslots (hx t ht)
  refine ⟨hspec, ?_, fun t ht => by rw [get_sync _ g ht, syncList_of_length (hlen t ht)]⟩
  obtain ⟨g', hrun, hslots', -, -, hwritten⟩ := writeTypes_ok hnd hslots htyped hlen slotTypes g
    (by decide) (fun _ ht => ht) rfl fun s hs => Graph.slotOf_of_mem_collectSlots hnd (hslots ▸ hs)
  -- each slot node holds the value written to it
  have hholds : ∀ t ∈ slotTypes, List.Forall₂ (fun s v => g'.slotValue? s.node t = .ok v)
      (g.slotsOf t) ((x.sync g).get t) := fun t ht =>
    List.forall₂_iff_zip.mpr ⟨(hlen t ht).symm, fun {s v} hp => by
      have hvt := htyped t ht v (List.of_mem_zip hp).2
      rw [← hvt]
      exact Graph.slotValue?_of_slotOf (hwritten t ht (s, v) hp)⟩
  refine ⟨g', hrun, fun t ht => ⟨hholds t ht, ?_⟩⟩
  -- a fresh sync reads every slot of the result
  have hslotsOf : g'.slotsOf t = g.slotsOf t := by
    unfold Graph.slotsOf
    rw [hslots']
  have hread : List.Forall₂ (· = ·) ((g.slotsOf t).map fun slot =>
      match g'.slotValue? slot.node t with
      | .ok v => v
      | .error _ => SlotValue.zeroOf t) ((x.sync g).get t) :=
    List.forall₂_map_left_iff.mpr ((hholds t ht).imp fun s v h => by simp only [h])
  rw [List.forall₂_eq_eq_eq] at hread
  have hempty : ({} : SlotInputs).get t = [] := rfl
  rw [get_sync _ g' ht, hempty, syncList, List.take_nil, List.length_nil, List.drop_zero,
    List.nil_append, hslotsOf]
  exact hread

/-- A graph with two listed values, a float and an int, its slot list collected. -/
def twoValueGraph : Graph :=
  let g : Graph := { nodes := [Node.new 1 (.value "speed" true .none (.float 1)),
    Node.new 2 (.value "count" true .none (.int 3))], nextId := 3 }
  { g with slots := g.collectSlots }

/-- Host lists holding two floats for the one float slot. -/
def twoFloats : SlotInputs := ⟨[(.float, [.constant (.float 5), .constant (.float 6)])]⟩

theorem twoValueGraph_round_trip : twoValueGraph.ids.Nodup ∧
    twoValueGraph.slots = twoValueGraph.collectSlots ∧ twoFloats.Typed ∧
    ∃ g', (twoFloats.sync twoValueGraph).apply twoValueGraph = .ok g' ∧
      ∀ t ∈ slotTypes, (({} : SlotInputs).sync g').get t = (twoFloats.sync twoValueGraph).get t := by
  have hnd : twoValueGraph.ids.Nodup := by decide
  have hslots : twoValueGraph.slots = twoValueGraph.collectSlots := rfl
  have hx : twoFloats.Typed := by decide
  obtain ⟨-, ⟨g', hrun, hall⟩, -⟩ := sync_round_trip hnd hslots hx
  exact ⟨hnd, hslots, hx, g', hrun, fun t ht => (hall t ht).2⟩

end SlotInputs

end NodeGraph
