import NodeGraph.Proofs.HostDeclarations

/-!
# Failed edits change nothing

Every edit that can fail checks what it needs before it changes anything, so a failure leaves the
graph as it was, log included (`Graph.FailsCleanly`, `Graph.failed_edits_change_nothing`). The edits
that are functions give a new graph only on success. Of those that run on the graph, creating a
node fails only for an unregistered kind, duplicating makes its copies aside, loading reads every
record before it replaces anything, and a declaration fails only for a type without a value kind.
-/

namespace NodeGraph

namespace Graph

variable {g g' : Graph}

theorem createNode_error {kindId : String} {e : GraphError}
    (h : (createNode kindId).run g = .ok (.error e, g')) :
    Kind.create? kindId = none ∧ e = .unknownKind kindId ∧ g' = g := by
  unfold createNode at h
  split at h
  · rename_i hk
    cases h
    exact ⟨hk, rfl, rfl⟩
  · -- a registered kind is added, and the result is its id
    obtain ⟨_, _, -, h⟩ := run_bind_eq_ok h
    cases h

theorem duplicate_error {sel : List NodeId} {e : GraphError} (hok : IdsOk g)
    (h : (duplicate sel).run g = .ok (.error e, g')) : g' = g := by
  rcases run_duplicate h hok.below with ⟨-, rfl⟩ | ⟨made, hr, -⟩
  · rfl
  · cases hr

/-- Loading a text fails only when a record does not read, before anything is replaced. -/
theorem loadText_error {text : String} {e : GraphError}
    (h : (loadText text).run g = .ok (.error e, g')) : g' = g := by
  unfold loadText at h
  dsimp only at h
  split at h
  · cases h
    rfl
  · -- every record read: the counters and the arena are replaced, and the result is `ok`
    obtain ⟨_, _, -, h⟩ := run_bind_eq_ok h
    obtain ⟨_, _, -, h⟩ := run_bind_eq_ok h
    obtain ⟨_, _, -, h⟩ := run_bind_eq_ok h
    obtain ⟨_, _, -, h⟩ := run_bind_eq_ok h
    cases h

theorem declareIo_error {s s' : IoSession} {t : ValueType} {name : String} {mode : IoMode}
    {e : GraphError} (hok : IdsOk g)
    (h : (declareIo s t name mode).run g = .ok ((.error e, s'), g')) :
    Kind.ioId? t = none ∧ e = .noIoKind t ∧ s' = s ∧ g' = g := by
  rcases run_declareIo (d := ⟨mode, t, name⟩) hok h with ⟨hkey, hr, hs, hg⟩ | ⟨_, -, _, hr, -⟩
  · cases hr
    exact ⟨Option.map_eq_none_iff.mp hkey, rfl, hs, hg⟩
  · cases hr

/-- Each edit run on `g` that fails leaves `g` as it was. -/
def FailsCleanly (g : Graph) : Prop :=
  (∀ kindId e g', (createNode kindId).run g = .ok (.error e, g') → g' = g) ∧
  (∀ sel e g', (duplicate sel).run g = .ok (.error e, g') → g' = g) ∧
  (∀ text e g', (loadText text).run g = .ok (.error e, g') → g' = g) ∧
  (∀ s t name mode e s' g',
    (declareIo s t name mode).run g = .ok ((.error e, s'), g') → g' = g)

/-- In every graph whose ids keep to the counters (every graph a host reaches), a failed creation,
duplication, load or declaration changes nothing. -/
theorem failed_edits_change_nothing (hok : IdsOk g) : g.FailsCleanly :=
  ⟨fun _ _ _ h => (createNode_error h).2.2, fun _ _ _ h => duplicate_error hok h,
    fun _ _ _ h => loadText_error h, fun _ _ _ _ _ _ _ h => (declareIo_error hok h).2.2.2⟩

theorem addGraph_fails_cleanly : IdsOk addGraph ∧ addGraph.FailsCleanly :=
  ⟨idsOk_addGraph, failed_edits_change_nothing idsOk_addGraph⟩

end Graph

end NodeGraph
