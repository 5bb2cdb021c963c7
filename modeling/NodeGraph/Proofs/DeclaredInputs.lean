import NodeGraph.Proofs.SettledTypes

/-!
# Declaring inputs again

Declaring a node's inputs is idempotent (`Kind.configure_idem`) and commutes with a change to one
link that keeps its declaration, such as pointing it at a default (`Kind.configure_modify`).
Resolving a node and declaring its inputs again gives it only inputs it declared before or inputs
that take no default (`Kind.declared_resolve`); `Node.Follows` names that relation between a node
and what a pass leaves of it.
-/

namespace NodeGraph

namespace Link

@[simp] theorem declare_declare (l : Link) (t t' : ValueType) (n n' : String)
    (s s' : LinkSettings) :
    (l.declare t n s).declare t' n' s' = l.declare t' n' s' := rfl

end Link

theorem resizeInputs_of_length {ins : List Link} {n : Nat} (h : ins.length = n) :
    resizeInputs ins n = ins := by
  subst h
  simp [resizeInputs]

theorem declareAll_idem (ins : List Link) (layout : List (ValueType × String × LinkSettings)) :
    declareAll (declareAll ins layout) layout = declareAll ins layout := by
  have hlen : (declareAll ins layout).length = layout.length := by
    simp [declareAll]
  rw [declareAll, resizeInputs_of_length hlen]
  apply List.ext_getElem (by simp [declareAll])
  intro i h₁ h₂
  simp [declareAll]
theorem declarePair_idem (ins : List Link) (n : Nat) (t : ValueType) (a b : String)
    (s₁ s₂ : LinkSettings) :
    Kind.declarePair (Kind.declarePair ins n t a b s₁ s₂) n t a b s₁ s₂ =
      Kind.declarePair ins n t a b s₁ s₂ := by
  have hlen : (Kind.declarePair ins n t a b s₁ s₂).length = n := by
    simp [Kind.declarePair]
  rw [Kind.declarePair, resizeInputs_of_length hlen]
  apply List.ext_getElem (by simp)
  intro i h₁ h₂
  simp only [Kind.declarePair, List.getElem_mapIdx]
  by_cases h0 : i = 0
  · simp [h0]
  · by_cases h1 : i = 1 <;> simp [h0, h1]

/-- Declaring a node's inputs twice changes nothing. -/
theorem Kind.configure_idem (k : Kind) (ins : List Link) :
    k.configure (k.configure ins) = k.configure ins := by
  cases k with
  | value name e io c =>
    by_cases ho : io = .output
    · simp only [Kind.configure, ho, if_true, declareAll_idem]
    · simp [Kind.configure, ho, resizeInputs]
  | vecModify =>
    have hne : (Kind.vecModify.configure ins).isEmpty = false := by
      simp only [Kind.configure]
      split <;> simp_all [resizeInputs]
    rw [show Kind.vecModify.configure (Kind.vecModify.configure ins) =
      (Kind.vecModify.configure ins).mapIdx fun i l =>
        if i = 0 then l.declare .anyVector "Vec" .bare else l by
      rw [Kind.configure, hne]; rfl]
    apply List.ext_getElem (by simp)
    intro i h₁ h₂
    simp only [List.getElem_mapIdx]
    by_cases h0 : i = 0
    · subst h0
      simp [Kind.configure, List.getElem_mapIdx]
    · simp [h0]
  | math op => exact declarePair_idem ..
  | vectorMath op => exact declarePair_idem ..
  | _ => simp only [Kind.configure, declareAll_idem]
section Modify

variable {f : Link → Link} {i : Nat}

theorem resizeInputs_modify {ins : List Link} (hi : i < ins.length) (n : Nat) :
    resizeInputs (ins.modify i f) n = (resizeInputs ins n).modify i f := by
  apply List.ext_getElem?
  intro j
  by_cases hj : j < n
  · rw [Node.getElem?_resizeInputs hj, List.getElem?_modify, List.getElem?_modify,
      Node.getElem?_resizeInputs hj]
    by_cases hij : i = j
    · subst hij
      simp [List.getElem?_eq_getElem hi]
    · simp [hij]
  · rw [List.getElem?_eq_none (by simp; omega), List.getElem?_eq_none (by simp; omega)]

theorem zipWith_modify {α : Type} {g : Link → α → Link} (hg : ∀ l a, g (f l) a = f (g l a))
    (ls : List Link) (as : List α) :
    (ls.modify i f).zipWith g as = (ls.zipWith g as).modify i f := by
  apply List.ext_getElem?
  intro j
  simp only [List.getElem?_zipWith, List.getElem?_modify]
  by_cases hij : i = j
  · subst hij
    cases ls[i]? <;> cases as[i]? <;> simp [hg]
  · simp [hij]

theorem mapIdx_modify {g : Nat → Link → Link} (hg : ∀ j l, g j (f l) = f (g j l)) (ls : List Link) :
    (ls.modify i f).mapIdx g = (ls.mapIdx g).modify i f := by
  apply List.ext_getElem?
  intro j
  simp only [List.getElem?_mapIdx, List.getElem?_modify]
  by_cases hij : i = j
  · subst hij
    cases ls[i]? <;> simp [hg]
  · simp [hij]
variable (hf : ∀ l t n s, (f l).declare t n s = f (l.declare t n s))
include hf

theorem declareAll_modify {ins : List Link} (hi : i < ins.length)
    (layout : List (ValueType × String × LinkSettings)) :
    declareAll (ins.modify i f) layout = (declareAll ins layout).modify i f := by
  rw [declareAll, resizeInputs_modify hi, zipWith_modify (fun l d => hf l d.1 d.2.1 d.2.2)]
  rfl

theorem declarePair_modify {ins : List Link} (hi : i < ins.length) (n : Nat) (t : ValueType)
    (a b : String) (s₁ s₂ : LinkSettings) :
    Kind.declarePair (ins.modify i f) n t a b s₁ s₂ =
      (Kind.declarePair ins n t a b s₁ s₂).modify i f := by
  rw [Kind.declarePair, resizeInputs_modify hi]
  refine mapIdx_modify (fun j l => ?_) _
  by_cases h0 : j = 0
  · simp [h0, hf]
  · by_cases h1 : j = 1 <;> simp [h0, h1, hf]

/-- Declaring a node's inputs keeps what a change to one link's source does. -/
theorem Kind.configure_modify (k : Kind) {ins : List Link} (hi : i < ins.length) :
    k.configure (ins.modify i f) = (k.configure ins).modify i f := by
  cases k with
  | value name e io c =>
    by_cases ho : io = .output
    · simp only [Kind.configure, ho, if_true, declareAll_modify hf hi]
    · simp only [Kind.configure, ho, if_false, resizeInputs_modify hi]
  | vecModify =>
    have hne : ins.isEmpty = false := by
      cases ins with
      | nil => simp at hi
      | cons => rfl
    have hne' : (ins.modify i f).isEmpty = false := by
      cases ins with
      | nil => simp at hi
      | cons l ls => cases i <;> rfl
    simp only [Kind.configure, hne, hne', Bool.false_eq_true, if_false]
    refine mapIdx_modify (fun j l => ?_) _
    by_cases h0 : j = 0 <;> simp [h0, hf]
  | math op => exact declarePair_modify hf hi ..
  | vectorMath op => exact declarePair_modify hf hi ..
  | fallback _ | random _ | propertyInput _ => rfl
  | _ => simp only [Kind.configure, declareAll_modify hf hi]

end Modify

theorem noDefaults_declareAll {ins : List Link} {layout : List (ValueType × String × LinkSettings)}
    (h : ∀ d ∈ layout, d.2.2.noDefaults = true) :
    ∀ l ∈ declareAll ins layout, l.noDefaults = true := by
  intro l hl
  unfold declareAll at hl
  obtain ⟨j, hj, rfl⟩ := List.getElem_of_mem hl
  rw [List.getElem_zipWith]
  exact h _ (List.getElem_mem _)

namespace Node

theorem configure_configure (n : Node) : n.configure.configure = n.configure := by
  rw [configure_eq_self_iff]
  exact Kind.configure_idem n.kind n.inputs

theorem noDefaults_vecModifyLinks {ins : List Link} {t : ValueType} {j : Nat} {l : Link}
    (hj : j ≠ 0) (h : (vecModifyLinks ins t)[j]? = some l) : l.noDefaults = true := by
  rw [getElem?_vecModifyLinks] at h
  cases hr : (resizeInputs ins (1 + (componentNames t).length))[j]? with
  | none =>
    rw [hr] at h
    cases h
  | some l₀ =>
    rw [hr, Option.map_some, if_neg hj, Option.some_inj] at h
    subst h
    rfl

/-- A vector modifier resolved and declared again has only inputs that take no default. -/
theorem noDefaults_configure_vecModifyLinks (ins : List Link) (t : ValueType) :
    ∀ l ∈ Kind.vecModify.configure (vecModifyLinks ins t), l.noDefaults = true := by
  have hne : vecModifyLinks ins t ≠ [] := by
    rw [← List.length_pos_iff, length_vecModifyLinks]
    omega
  rw [vecModify_configure_of_ne_nil hne]
  intro l hl
  obtain ⟨j, hj, rfl⟩ := List.getElem_of_mem hl
  rw [List.getElem_mapIdx]
  by_cases h0 : j = 0
  · rw [if_pos h0]
    rfl
  · rw [if_neg h0]
    exact noDefaults_vecModifyLinks h0 (List.getElem?_eq_getElem _)

end Node

/-- Resolving a node's inputs and declaring them again gives only inputs declared before or inputs
that take no default. -/
theorem Kind.declared_resolve (k : Kind) (ins : List Link) (ts : List ValueType)
    (p : Option Properties) :
    ∀ l ∈ k.configure (k.resolve ins ts p).2, l ∈ k.configure ins ∨ l.noDefaults = true := by
  by_cases hm : k = .vecModify
  · subst hm
    rw [Node.vecModify_resolve]
    exact fun l hl => .inr (Node.noDefaults_configure_vecModifyLinks _ _ l hl)
  by_cases ho : ∃ a, k = .propertyOutput a
  · -- a property output declares its one input as wired, whatever it had
    obtain ⟨a, rfl⟩ := ho
    refine fun l hl => .inr (noDefaults_declareAll ?_ l hl)
    simp [LinkSettings.wired]
  · rw [resolve_snd hm fun a h => ho ⟨a, h⟩]
    exact fun l hl => .inl hl

namespace Node

/-- `n'` keeps the kind of `n` and declares, once declared again, only inputs `n` declares or
inputs that take no default. -/
def Follows (n n' : Node) : Prop :=
  n'.kind = n.kind ∧ ∀ l ∈ n'.configure.inputs, l ∈ n.configure.inputs ∨ l.noDefaults = true

theorem Follows.refl (n : Node) : n.Follows n := ⟨rfl, fun _ hl => .inl hl⟩

theorem Follows.trans {n₁ n₂ n₃ : Node} (h₁ : n₁.Follows n₂) (h₂ : n₂.Follows n₃) : n₁.Follows n₃ :=
  ⟨h₂.1.trans h₁.1, fun l hl => (h₂.2 l hl).elim (h₁.2 l) .inr⟩

theorem follows_configure (n : Node) : n.Follows n.configure :=
  ⟨rfl, fun l hl => .inl (by rwa [configure_configure] at hl)⟩

theorem follows_of_inputs {n n' : Node} (hk : n'.kind = n.kind) (hin : n'.inputs = n.inputs) :
    n.Follows n' :=
  ⟨hk, fun l hl => .inl (by rwa [inputs_configure, hk, hin] at hl)⟩

theorem follows_settle (n : Node) (ts : List ValueType) (p : Option Properties) :
    n.Follows (n.settle ts p) := by
  refine ⟨kind_settle, fun l hl => ?_⟩
  rw [inputs_configure, kind_settle, inputs_settle] at hl
  exact Kind.declared_resolve n.kind n.inputs ts p l hl

end Node

end NodeGraph
