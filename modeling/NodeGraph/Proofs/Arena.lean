import Mathlib.Logic.Relation
import NodeGraph.Proofs.EvalShape
import NodeGraph.Graph.Compile

/-!
# How the arena changes

The arena of a graph is its nodes, in order, with their ids and links, and the two id counters.
Every operation changes it by a run of `Graph.ArenaStep`s: ids and counters kept with no link
naming anything new (`Graph.Keeps`), a block of user nodes under the next ids, a default under
the next default id, or a node taken out with the links naming it cleared. Declaring inputs again
and resolving a type keep each link's target and last default or clear the link
(`Kind.inherits_configure`, `Kind.inherits_resolve`), so the type passes keep the arena.
-/

namespace NodeGraph

/-- The ids a list of links names: each link's target and the default it last held. -/
def linkRefs (ls : List Link) : List NodeId := ls.flatMap fun l => [l.target, l.lastDefault]

theorem mem_linkRefs {x : NodeId} {ls : List Link} :
    x ∈ linkRefs ls ↔ ∃ l ∈ ls, x = l.target ∨ x = l.lastDefault := by
  simp [linkRefs]

namespace Link

/-- A link that reads and remembers what some link of `ls` does, or nothing at all. -/
def Inherits (ls : List Link) (l : Link) : Prop :=
  (l.target = noNode ∧ l.lastDefault = noNode) ∨
    ∃ l₀ ∈ ls, l.target = l₀.target ∧ l.lastDefault = l₀.lastDefault

variable {ls ls' : List Link} {l l' : Link}

theorem Inherits.of_mem (h : l ∈ ls) : l.Inherits ls := .inr ⟨l, h, rfl, rfl⟩

theorem inherits_default (ls : List Link) : ({} : Link).Inherits ls := .inl ⟨rfl, rfl⟩

theorem Inherits.of_same (h : l.target = l'.target ∧ l.lastDefault = l'.lastDefault)
    (hl' : l'.Inherits ls) : l.Inherits ls := by
  rcases hl' with ⟨ht, hd⟩ | ⟨l₀, hl₀, ht, hd⟩
  · exact .inl ⟨h.1.trans ht, h.2.trans hd⟩
  · exact .inr ⟨l₀, hl₀, h.1.trans ht, h.2.trans hd⟩

theorem Inherits.trans (h : ∀ l₁ ∈ ls', l₁.Inherits ls) (hl : l.Inherits ls') : l.Inherits ls := by
  rcases hl with hnone | ⟨l₁, hl₁, ht, hd⟩
  · exact .inl hnone
  · exact Inherits.of_same ⟨ht, hd⟩ (h l₁ hl₁)

/-- What an inherited link names is nothing or named by the links it inherits from. -/
theorem Inherits.refs (h : ∀ l ∈ ls', l.Inherits ls) {x : NodeId} (hx : x ∈ linkRefs ls') :
    x = noNode ∨ x ∈ linkRefs ls := by
  obtain ⟨l, hl, hxl⟩ := mem_linkRefs.mp hx
  rcases h l hl with ⟨ht, hd⟩ | ⟨l₀, hl₀, ht, hd⟩
  · left
    rcases hxl with rfl | rfl
    · exact ht
    · exact hd
  · right
    refine mem_linkRefs.mpr ⟨l₀, hl₀, ?_⟩
    rcases hxl with rfl | rfl
    · exact .inl ht
    · exact .inr hd

end Link

section Inputs

open Link

variable {ls : List Link}

theorem inherits_resizeInputs (ls : List Link) (n : Nat) :
    ∀ l ∈ resizeInputs ls n, l.Inherits ls := by
  intro l hl
  rcases List.mem_append.mp hl with h | h
  · exact .of_mem (List.mem_of_mem_take h)
  · rw [(List.mem_replicate.mp h).2]
    exact inherits_default ls

theorem inherits_mapIdx {f : Nat → Link → Link}
    (hf : ∀ i l, (f i l).target = l.target ∧ (f i l).lastDefault = l.lastDefault) :
    ∀ l ∈ ls.mapIdx f, l.Inherits ls := by
  intro l hl
  obtain ⟨i, hi, rfl⟩ := List.mem_mapIdx.mp hl
  exact .of_same (hf i ls[i]) (.of_mem (List.getElem_mem hi))

theorem inherits_zipWith {β : Type} {f : Link → β → Link} {ds : List β}
    (hf : ∀ l d, (f l d).target = l.target ∧ (f l d).lastDefault = l.lastDefault) :
    ∀ l ∈ List.zipWith f ls ds, l.Inherits ls := by
  intro l hl
  rw [← List.map_uncurry_zip_eq_zipWith] at hl
  obtain ⟨⟨l₀, d⟩, hp, rfl⟩ := List.mem_map.mp hl
  exact .of_same (hf l₀ d) (.of_mem (List.of_mem_zip hp).1)

theorem inherits_declareAll (ls : List Link) (layout : List (ValueType × String × LinkSettings)) :
    ∀ l ∈ declareAll ls layout, l.Inherits ls := by
  intro l hl
  unfold declareAll at hl
  refine Inherits.trans (inherits_resizeInputs ls _) (inherits_zipWith ?_ l hl)
  exact fun _ _ => ⟨rfl, rfl⟩

theorem inherits_declarePair (ls : List Link) (n : Nat) (t : ValueType) (a b : String)
    (s₁ s₂ : LinkSettings) : ∀ l ∈ Kind.declarePair ls n t a b s₁ s₂, l.Inherits ls := by
  intro l hl
  refine Inherits.trans (inherits_resizeInputs ls n) (inherits_mapIdx (fun i l => ?_) l hl)
  split
  · exact ⟨rfl, rfl⟩
  · split <;> exact ⟨rfl, rfl⟩

namespace Kind

/-- Declaring a node's inputs again keeps each link's target and last default, or gives a link
naming nothing. -/
theorem inherits_configure (k : Kind) (ls : List Link) : ∀ l ∈ k.configure ls, l.Inherits ls := by
  cases k with
  | value _ _ io c =>
    dsimp only [configure]
    split
    · exact inherits_declareAll ls _
    · exact inherits_resizeInputs ls 0
  | fallback | random | propertyInput => exact fun l hl => .of_mem hl
  | math op => exact inherits_declarePair ls _ _ _ _ _ _
  | vectorMath op => exact inherits_declarePair ls _ _ _ _ _ _
  | vecModify =>
    intro l hl
    dsimp only [configure] at hl
    -- an empty list first grows one fresh link
    have hgrow : ∀ l ∈ (if ls.isEmpty = true then resizeInputs ls 1 else ls), l.Inherits ls := by
      split
      · exact inherits_resizeInputs ls 1
      · exact fun l hl => .of_mem hl
    refine Inherits.trans hgrow (inherits_mapIdx (fun i l => ?_) l hl)
    split <;> exact ⟨rfl, rfl⟩
  | _ => exact inherits_declareAll ls _

/-- Resolving a node's type keeps each link's target and last default, or gives a link naming
nothing. -/
theorem inherits_resolve (k : Kind) (ls : List Link) (ts : List ValueType)
    (props : Option Properties) : ∀ l ∈ (k.resolve ls ts props).2, l.Inherits ls := by
  cases k with
  | value _ _ io c =>
    dsimp only [resolve]
    split <;> exact fun l hl => .of_mem hl
  | math op =>
    dsimp only [resolve]
    split
    · split <;> exact fun l hl => .of_mem hl
    · exact fun l hl => .of_mem hl
  | vecModify =>
    intro l hl
    dsimp only [resolve] at hl
    refine Inherits.trans (inherits_resizeInputs ls _) (inherits_mapIdx (fun i l => ?_) l hl)
    split <;> exact ⟨rfl, rfl⟩
  | swizzle =>
    dsimp only [resolve]
    split <;> exact fun l hl => .of_mem hl
  | branch =>
    dsimp only [resolve]
    split <;> exact fun l hl => .of_mem hl
  | dozer =>
    dsimp only [resolve]
    split <;> exact fun l hl => .of_mem hl
  | propertyOutput address =>
    dsimp only [resolve]
    split
    · refine inherits_mapIdx fun i l => ?_
      split <;> exact ⟨rfl, rfl⟩
    · refine inherits_mapIdx fun i l => ?_
      split <;> exact ⟨rfl, rfl⟩
  | _ => exact fun l hl => .of_mem hl

end Kind

end Inputs

namespace Node

/-- The ids a node's links name. -/
def refs (n : Node) : List NodeId := linkRefs n.inputs

theorem refs_configure {n : Node} {x : NodeId} (hx : x ∈ n.configure.refs) :
    x = noNode ∨ x ∈ n.refs :=
  Link.Inherits.refs (Kind.inherits_configure n.kind n.inputs) hx

theorem refs_resolve {n : Node} {ts : List ValueType} {props : Option Properties} {x : NodeId}
    (hx : x ∈ (n.resolve ts props).refs) : x = noNode ∨ x ∈ n.refs :=
  Link.Inherits.refs (Kind.inherits_resolve n.kind n.inputs ts props) hx

theorem refs_new (id : NodeId) (k : Kind) : ∀ x ∈ (Node.new id k).refs, x = noNode := by
  intro x hx
  rcases Link.Inherits.refs (Kind.inherits_configure k []) hx with h | h
  · exact h
  · simp [linkRefs] at h

end Node

namespace Graph

/-- The ids the links of a graph name. -/
def refs (g : Graph) : List NodeId := g.nodes.flatMap Node.refs

theorem mem_refs {g : Graph} {x : NodeId} : x ∈ g.refs ↔ ∃ n ∈ g.nodes, x ∈ n.refs := by
  simp [refs]

@[simp] theorem mem_ids {g : Graph} {x : NodeId} : x ∈ g.ids ↔ ∃ n ∈ g.nodes, n.id = x := by
  simp [ids]

/-- What a link may name after a step that adds no node: nothing, or what the graph named or had
as a node before. -/
def Covers (g : Graph) (x : NodeId) : Prop := x = noNode ∨ x ∈ g.refs ∨ x ∈ g.ids

/-- From `g` to `g'` the arena kept its ids and counters, and no link gained an id that `g`
neither named nor had as a node. -/
structure Keeps (g g' : Graph) : Prop where
  ids : g'.ids = g.ids
  nextId : g'.nextId = g.nextId
  nextFallbackId : g'.nextFallbackId = g.nextFallbackId
  refs : ∀ x ∈ g'.refs, g.Covers x

namespace Keeps

variable {g g₁ g₂ g₃ : Graph}

theorem refl (g : Graph) : Keeps g g := ⟨rfl, rfl, rfl, fun _ hx => .inr (.inl hx)⟩

theorem covers (h : Keeps g₁ g₂) {x : NodeId} (hx : g₂.Covers x) : g₁.Covers x := by
  rcases hx with hx | hx | hx
  · exact .inl hx
  · exact h.refs x hx
  · exact .inr (.inr (h.ids ▸ hx))

theorem trans (h₁ : Keeps g₁ g₂) (h₂ : Keeps g₂ g₃) : Keeps g₁ g₃ :=
  ⟨h₂.ids.trans h₁.ids, h₂.nextId.trans h₁.nextId, h₂.nextFallbackId.trans h₁.nextFallbackId,
    fun x hx => h₁.covers (h₂.refs x hx)⟩

/-- A step that leaves the nodes and counters alone keeps the arena. -/
theorem of_nodes (hn : g₂.nodes = g₁.nodes) (hi : g₂.nextId = g₁.nextId)
    (hf : g₂.nextFallbackId = g₁.nextFallbackId) : Keeps g₁ g₂ := by
  refine ⟨by simp [Graph.ids, hn], hi, hf, fun x hx => ?_⟩
  rw [Graph.refs, hn] at hx
  exact .inr (.inl hx)

/-- Changing every node by `f`, which keeps its id and adds no new name, keeps the arena. -/
theorem of_map (f : Node → Node) (hn : g₂.nodes = g₁.nodes.map f)
    (hi : g₂.nextId = g₁.nextId) (hf : g₂.nextFallbackId = g₁.nextFallbackId)
    (hid : ∀ n ∈ g₁.nodes, (f n).id = n.id)
    (hrefs : ∀ n ∈ g₁.nodes, ∀ x ∈ (f n).refs, g₁.Covers x) : Keeps g₁ g₂ := by
  refine ⟨?_, hi, hf, fun x hx => ?_⟩
  · simp only [Graph.ids, hn, List.map_map]
    exact List.map_congr_left fun n hn => hid n hn
  · rw [Graph.refs, hn, List.flatMap_map] at hx
    obtain ⟨n, hn, hxn⟩ := List.mem_flatMap.mp hx
    exact hrefs n hn x hxn

end Keeps

/-- A node change that keeps the node's id and names nothing new. -/
def Tame (g : Graph) (f : Node → Node) : Prop :=
  ∀ n ∈ g.nodes, (f n).id = n.id ∧ ∀ x ∈ (f n).refs, g.Covers x

theorem Tame.of_refs {g : Graph} {f : Node → Node} (hid : ∀ n, (f n).id = n.id)
    (hrefs : ∀ n, ∀ x ∈ (f n).refs, x = noNode ∨ x ∈ n.refs) : g.Tame f := by
  intro n hn
  refine ⟨hid n, fun x hx => ?_⟩
  rcases hrefs n x hx with h | h
  · exact .inl h
  · exact .inr (.inl (mem_refs.mpr ⟨n, hn, h⟩))

theorem Tame.of_inputs {g : Graph} {f : Node → Node} (hid : ∀ n, (f n).id = n.id)
    (hin : ∀ n, (f n).inputs = n.inputs) : g.Tame f :=
  .of_refs hid fun n x hx => by rw [Node.refs, hin] at hx; exact .inr hx

/-- Changing the node with an id keeps the arena when the change keeps its id and names nothing
new. -/
theorem keeps_updateNode {g : Graph} {id : NodeId} {f : Node → Node}
    (hf : ∀ n ∈ g.nodes, n.id = id → (f n).id = n.id ∧ ∀ x ∈ (f n).refs, g.Covers x) :
    Keeps g (g.updateNode id f) := by
  refine Keeps.of_map (fun n => if n.id == id then f n else n) rfl rfl rfl (fun n hn => ?_)
    (fun n hn x hx => ?_)
  · by_cases h : n.id = id
    · simpa [h] using (hf n hn h).1
    · simp [h]
  · by_cases h : n.id = id
    · simp only [h, beq_self_eq_true, if_true] at hx
      exact (hf n hn h).2 x hx
    · simp only [h, beq_iff_eq, if_false] at hx
      exact .inr (.inl (mem_refs.mpr ⟨n, hn, hx⟩))

theorem Tame.updateNode {g : Graph} {f : Node → Node} (hf : g.Tame f) (id : NodeId) :
    Keeps g (g.updateNode id f) :=
  keeps_updateNode fun n hn _ => hf n hn

theorem tame_configure (g : Graph) : g.Tame Node.configure :=
  .of_refs (fun _ => rfl) fun _ _ hx => Node.refs_configure hx

/-- Resolving a node's type keeps the arena. -/
theorem keeps_resolveAt (g : Graph) (id : NodeId) (ts : List ValueType) :
    Keeps g (g.resolveAt id ts).2 := by
  unfold resolveAt
  split
  · exact Keeps.refl g
  · rename_i n hn
    have hmem : n ∈ g.nodes := List.mem_of_find?_eq_some hn
    have hid : n.id = id := by simpa using List.find?_some hn
    -- the node written is the one found, resolved, and perhaps marked as an error
    have hres : ∀ x ∈ (n.resolve ts g.props).refs, g.Covers x := fun x hx =>
      (Node.refs_resolve hx).elim .inl fun h => .inr (.inl (mem_refs.mpr ⟨n, hmem, h⟩))
    dsimp only
    refine keeps_updateNode fun m _ hm => ?_
    split
    · exact ⟨hid.trans hm.symm, hres⟩
    · exact ⟨hid.trans hm.symm, hres⟩

/-- Threading a state through `mapM` keeps any reflexive and transitive relation that each call
keeps. -/
theorem rel_mapM {σ α β : Type} (R : σ → σ → Prop) (hrefl : ∀ s, R s s)
    (htrans : ∀ {a b c}, R a b → R b c → R a c) (f : α → StateM σ β)
    (hf : ∀ a s, R s ((f a).run s).2) : ∀ (xs : List α) (s : σ), R s ((xs.mapM f).run s).2
  | [], s => hrefl s
  | x :: xs, s => by
    rw [List.mapM_cons]
    exact htrans (hf x s) (rel_mapM R hrefl htrans f hf xs _)

/-- The full type pass keeps the arena: it declares inputs again, marks and resolves types. -/
theorem keeps_updateTypes (fuel : Nat) (id : NodeId) (path : List NodeId) (g : Graph) :
    Keeps g (updateTypes fuel id path g).2 := by
  induction fuel generalizing id path g with
  | zero => exact Keeps.refl g
  | succ fuel ih =>
    rw [updateTypes]
    split
    · exact Keeps.refl g
    · have hconf := (tame_configure g).updateNode id
      dsimp only
      split
      · refine hconf.trans (Tame.updateNode ?_ id)
        exact Tame.of_inputs (fun _ => rfl) fun _ => rfl
      · have hargs := rel_mapM Keeps Keeps.refl Keeps.trans
          (fun t g => updateTypes fuel t (id :: path) g) (fun t g => ih t _ g)
          (((g.updateNode id Node.configure).node? id).map Node.targets |>.getD [])
          (g.updateNode id Node.configure)
        generalize StateT.run _ _ = p at hargs ⊢
        obtain ⟨ts, g₂⟩ := p
        exact hconf.trans (hargs.trans (keeps_resolveAt g₂ id ts))

theorem keeps_updateTypesFrom (g : Graph) (id : NodeId) : Keeps g (g.updateTypesFrom id).2 :=
  keeps_updateTypes _ id [] g

/-- The light type pass keeps the arena. -/
theorem keeps_updateTypesLight (fuel : Nat) (id : NodeId) (resolved : List NodeId) (g : Graph) :
    Keeps g (updateTypesLight fuel id resolved g).2.2 := by
  induction fuel generalizing id resolved g with
  | zero => exact Keeps.refl g
  | succ fuel ih =>
    rw [updateTypesLight]
    split
    · exact Keeps.refl g
    · rename_i n _
      dsimp only
      split
      · exact Keeps.refl g
      · have hargs := rel_mapM (fun s s' : List NodeId × Graph => Keeps s.2 s'.2)
          (fun s => Keeps.refl s.2) Keeps.trans (fun t s => updateTypesLight fuel t s.1 s.2)
          (fun t s => ih t s.1 s.2) n.targets (resolved ++ [id], g)
        generalize StateT.run _ _ = p at hargs ⊢
        obtain ⟨ts, resolved', g₂⟩ := p
        exact hargs.trans (keeps_resolveAt g₂ id ts)

theorem keeps_lightPass (g : Graph) (ids : List NodeId) (resolved : List NodeId) :
    Keeps g (g.lightPass ids resolved).2.2 := by
  induction ids generalizing g resolved with
  | nil => exact Keeps.refl g
  | cons id rest ih =>
    rw [lightPass]
    exact (keeps_updateTypesLight _ id resolved g).trans (ih _ _)

/-- The ids of a graph and what its links name depend only on the ids and links of its nodes. -/
theorem Keeps.of_links {g g' : Graph}
    (h : g'.nodes.map (fun n => (n.id, n.inputs)) = g.nodes.map fun n => (n.id, n.inputs))
    (hi : g'.nextId = g.nextId) (hf : g'.nextFallbackId = g.nextFallbackId) : Keeps g g' := by
  have hids : g'.ids = g.ids := by
    have := congrArg (List.map Prod.fst) h
    simpa [Graph.ids, List.map_map, Function.comp_def] using this
  have hrefs : g'.refs = g.refs := by
    have := congrArg (List.flatMap fun p : NodeId × List Link => linkRefs p.2) h
    have hn : Node.refs = fun n => linkRefs n.inputs := rfl
    simpa [Graph.refs, hn, List.flatMap_map] using this
  exact ⟨hids, hi, hf, fun x hx => .inr (.inl (hrefs ▸ hx))⟩

/-- The ids and links after a node is taken out: its id is gone, and no link names it. -/
theorem ids_detach (g : Graph) (id : NodeId) : (g.detach id).ids = g.ids.filter (· != id) := by
  simp only [detach, Graph.ids, List.filter_map]
  induction g.nodes with
  | nil => rfl
  | cons n ns ih =>
    simp only [List.filter_cons, Function.comp_apply]
    split <;> simp_all

theorem refs_detach (g : Graph) (id : NodeId) {x : NodeId} (hx : x ∈ (g.detach id).refs) :
    x = noNode ∨ (x ≠ id ∧ x ∈ g.refs) := by
  obtain ⟨n, hn, hxn⟩ := mem_refs.mp hx
  simp only [detach, List.mem_filter, List.mem_map] at hn
  obtain ⟨⟨m, hm, rfl⟩, -⟩ := hn
  obtain ⟨l, hl, hxl⟩ := mem_linkRefs.mp hxn
  obtain ⟨l₀, hl₀, rfl⟩ := List.mem_map.mp hl
  -- a link that named the node now names nothing
  have hnamed : ∀ y, (y = l₀.target ∨ y = l₀.lastDefault) → y ≠ id → y ∈ g.refs := fun y hy _ =>
    mem_refs.mpr ⟨m, hm, mem_linkRefs.mpr ⟨l₀, hl₀, hy⟩⟩
  by_cases ht : l₀.target = id <;> by_cases hd : l₀.lastDefault = id <;>
    simp only [ht, hd, if_true, if_false] at hxl <;>
    rcases hxl with rfl | rfl <;>
    first
      | exact .inl rfl
      | exact .inr ⟨‹_›, hnamed _ (.inl rfl) ‹_›⟩
      | exact .inr ⟨‹_›, hnamed _ (.inr rfl) ‹_›⟩

/-- One step of the arena. -/
inductive ArenaStep : Graph → Graph → Prop
  /-- ids and counters kept, nothing new named -/
  | keeps {g g' : Graph} : Keeps g g' → ArenaStep g g'
  /-- a block of nodes under the next user ids, naming nothing or one another -/
  | addUsers {g g' : Graph} (made : List Node) : g'.nodes = g.nodes ++ made →
      made.map (·.id) = (List.range made.length).map (fun k : Nat => g.nextId + k) →
      g'.nextId = g.nextId + made.length → g'.nextId ≤ idMax →
      g'.nextFallbackId = g.nextFallbackId →
      (∀ n ∈ made, ∀ x ∈ n.refs, x = noNode ∨ x ∈ made.map (·.id)) → ArenaStep g g'
  /-- a node under the next default id, naming nothing -/
  | addDefault {g g' : Graph} (n : Node) : g'.nodes = g.nodes ++ [n] → n.id = g.nextFallbackId →
      g'.nextFallbackId = g.nextFallbackId - 1 → idMin ≤ g'.nextFallbackId →
      g'.nextId = g.nextId → (∀ x ∈ n.refs, x = noNode) → ArenaStep g g'
  /-- a node taken out, with the links naming it cleared -/
  | remove {g g' : Graph} (id : NodeId) : g'.nodes = (g.detach id).nodes →
      g'.nextId = g.nextId → g'.nextFallbackId = g.nextFallbackId → ArenaStep g g'

/-- A run of arena steps. -/
abbrev ArenaRun : Graph → Graph → Prop := Relation.ReflTransGen ArenaStep

theorem ArenaRun.of_keeps {g g' : Graph} (h : Keeps g g') : ArenaRun g g' :=
  .single (.keeps h)

/-- From state `g`, every successful run of `m` is a run of arena steps. -/
def MovesFrom {α : Type} (g : Graph) (m : GraphM α) : Prop :=
  ∀ a g', m.run g = .ok (a, g') → ArenaRun g g'

/-- Every successful run of `m` is a run of arena steps. -/
def Moves {α : Type} (m : GraphM α) : Prop := ∀ g, MovesFrom g m

section Moves

variable {α β γ : Type} {g : Graph}

theorem MovesFrom.bind {x : GraphM α} {f : α → GraphM β} (hx : MovesFrom g x)
    (hf : ∀ a g₁, x.run g = .ok (a, g₁) → MovesFrom g₁ (f a)) : MovesFrom g (x >>= f) := by
  intro b g' h
  rw [StateT.run_bind] at h
  cases hxs : x.run g with
  | error e =>
    rw [hxs] at h
    cases h
  | ok p =>
    rw [hxs] at h
    exact (hx p.1 p.2 hxs).trans (hf p.1 p.2 hxs b g' h)

theorem MovesFrom.set {g' : Graph} (h : ArenaRun g g') : MovesFrom g (set g' : GraphM PUnit) := by
  intro a g'' hr
  cases hr
  exact h

theorem MovesFrom.modify {f : Graph → Graph} (h : ArenaRun g (f g)) :
    MovesFrom g (modify f : GraphM PUnit) := by
  intro a g' hr
  cases hr
  exact h

theorem MovesFrom.ite {c : Prop} [Decidable c] {x y : GraphM α} (hx : c → MovesFrom g x)
    (hy : ¬ c → MovesFrom g y) : MovesFrom g (if c then x else y) := by
  split
  · exact hx ‹_›
  · exact hy ‹_›

namespace Moves

theorem pure (a : α) : Moves (pure a : GraphM α) := by
  intro g b g' h
  cases h
  exact .refl

theorem bind {x : GraphM α} {f : α → GraphM β} (hx : Moves x) (hf : ∀ a, Moves (f a)) :
    Moves (x >>= f) :=
  fun g => MovesFrom.bind (hx g) fun a g₁ _ => hf a g₁

/-- Reading the graph and acting on what was read. -/
theorem get_bind {f : Graph → GraphM α} (hf : ∀ g, MovesFrom g (f g)) : Moves (get >>= f) := by
  intro g a g' h
  rw [StateT.run_bind] at h
  exact hf g a g' h

theorem modify (f : Graph → Graph) (hf : ∀ g, ArenaRun g (f g)) :
    Moves (modify f : GraphM PUnit) := by
  intro g a g' h
  cases h
  exact hf g

theorem ite {c : Prop} [Decidable c] {x y : GraphM α} (hx : Moves x) (hy : Moves y) :
    Moves (if c then x else y) := by
  split
  · exact hx
  · exact hy

theorem forIn (xs : List β) (init : γ) (f : β → γ → GraphM (ForInStep γ))
    (hf : ∀ x b, Moves (f x b)) : Moves (forIn xs init f) := by
  induction xs generalizing init with
  | nil => exact pure init
  | cons x xs ih =>
    rw [List.forIn_cons]
    refine bind (hf x init) fun step => ?_
    cases step with
    | done b => exact pure b
    | yield b => exact ih b

end Moves

end Moves

end Graph

end NodeGraph
