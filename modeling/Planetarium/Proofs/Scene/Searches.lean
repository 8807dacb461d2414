import Mathlib.Order.WellFounded
import Planetarium.Proofs.Scene.Reads

/-! # Searches

    A search up or down the links takes no more steps than there are objects.
    Here that bound is shown to be no bound at all: in a linked scene a search
    that may go further finds the same, and there is no endless way up or down.

    * `Scene.Anchored`: every parent is there.  A linked scene with this property
      is a forest.
    * `Scene.Bounded`: where the ways end, and that longer searches give the
      same scenes and the same matrices.
    * `Linked.bounded`: searches are bounded in every linked scene. -/

namespace Planetarium.Scene

/-! ## Section 1: Parents that are there -/

/-- **Every parent is an object of the scene.** -/
def Anchored (s : Scene) : Prop := ∀ c p, s.parentOf? c = some p → s.has p = true

namespace Anchored
variable {s t : Scene}

/-- Nothing is taken away, and nothing is hung elsewhere. -/
theorem of_links (h : s.Anchored) (has : ∀ {x}, s.has x = true → t.has x = true)
    (links : ∀ x, t.parentOf? x = s.parentOf? x) : t.Anchored := by
  intro c p hp
  rw [links] at hp
  exact has (h c p hp)

theorem of_alike (h : s.Anchored) (alike : s.Alike t) : t.Anchored :=
  h.of_links (fun {x} hx => (alike.has x).trans hx) alike.parentOf?

theorem move (h : s.Anchored) (id : ObjectId) (f : Transform → Transform) :
    (s.move id f).Anchored :=
  h.of_links (fun {x} hx => (has_move s id x f).trans hx) fun x => parentOf?_move s id x f

/-- An object may be hung below any other one of the scene. -/
theorem setParent (h : s.Anchored) (child : ObjectId) {frame : ObjectId}
    (hframe : s.has frame = true) : (s.setParent child (some frame)).Anchored := by
  intro c p hp
  rw [has_setParent]
  rw [parentOf?_setParent] at hp
  split at hp
  · exact Option.some.inj hp ▸ hframe
  · exact h c p hp

theorem createChild (h : s.Anchored) (parent : Option ObjectId) (name : String)
    (hparent : ∀ p, parent = some p → s.has p = true) :
    (s.createChild parent name).2.Anchored := by
  intro c p hp
  rw [parentOf?_createChild] at hp
  refine (has_createChild s parent name p).mpr (.inl ?_)
  split at hp
  · exact hparent p hp
  · exact h c p hp

end Anchored

/-! ## Section 2: Ways up -/

section climb
variable {s : Scene} {c p id : ObjectId}

theorem climb_succ (h : s.parentOf? c = some p) (levels : Nat) :
    s.climb (levels + 1) c = s.climb levels p := by
  simp [climb, h]

/-- A way up that begins in the scene ends at the latest after as many levels
    as the object is deep. -/
theorem climb_eq_none (acyclic : s.Acyclic) (anchored : s.Anchored) {levels : Nat}
    (hid : s.has id = true) (h : s.depth id ≤ levels) : s.climb levels id = none := by
  have hpos := depth_pos hid
  induction levels generalizing id with
  | zero => omega
  | succ levels ih =>
    cases hp : s.parentOf? id with
    | none => simp [climb, hp]
    | some p =>
      have hlt := depth_parent_lt acyclic hp
      have hphas := anchored _ p hp
      rw [climb_succ hp]
      exact ih hphas (by omega) (depth_pos hphas)

/-- The last object on a way up is at the top. -/
theorem exists_top (acyclic : s.Acyclic) (anchored : s.Anchored) (hid : s.has id = true) :
    ∃ levels < s.depth id, ∃ top, s.climb levels id = some top ∧ s.has top = true ∧
      s.parentOf? top = none := by
  -- Induction on the depth, which every link upward lowers.
  induction hdepth : s.depth id using Nat.strong_induction_on generalizing id with
  | _ depth ih =>
    subst hdepth
    cases hp : s.parentOf? id with
    | none => exact ⟨0, depth_pos hid, id, rfl, hid, hp⟩
    | some p =>
      have hlt := depth_parent_lt acyclic hp
      obtain ⟨levels, hlevels, top, hclimb, htop⟩ := ih _ hlt (anchored _ p hp) rfl
      exact ⟨levels + 1, by omega, top, (climb_succ hp levels).trans hclimb, htop⟩

end climb

/-- **A linked scene is a forest if every parent is there.** -/
theorem Linked.isForest {s : Scene} (linked : s.Linked) (anchored : s.Anchored) :
    s.IsForest := by
  refine ⟨anchored, ?_, linked.nodup_childrenOf, ?_⟩
  · intro c p
    by_cases hp : s.has p = true
    · exact linked.mem_childrenOf_iff hp c
    · rw [childrenOf_of_not_has hp]
      exact iff_of_false List.not_mem_nil fun hc => hp (anchored c p hc)
  · exact fun id hid => climb_eq_none linked.acyclic anchored hid (depth_le_size s id)

/-- A way up that comes back to where it began would never end. -/
theorem climb_ne_none {s : Scene} {id : ObjectId} (h : s.Below id id) (levels : Nat) :
    s.climb levels id ≠ none := by
  induction levels generalizing id with
  | zero => exact Option.some_ne_none id
  | succ levels ih =>
    -- The parent lies on the same way round.
    cases h with
    | direct hp =>
      rw [climb_succ hp]
      exact ih (.direct hp)
    | further hp above =>
      rw [climb_succ hp]
      exact ih (above.trans (.direct hp))

/-- A forest is linked. -/
theorem IsForest.linked {s : Scene} (forest : s.IsForest) : s.Linked where
  parent_settled h := .inl (forest.parent_known _ _ h)
  mem_childrenOf_iff _ c := forest.mem_childrenOf_iff c _
  nodup_childrenOf := forest.nodup_childrenOf
  acyclic id h := climb_ne_none h s.size (forest.climb_size id h.has)

/-- **A child is listed by its parent once, and by nothing else.** -/
theorem IsForest.count_childrenOf {s : Scene} (forest : s.IsForest) (c p : ObjectId) :
    (s.childrenOf p).count c = if s.parentOf? c = some p then 1 else 0 := by
  split
  · next hc =>
    have hmem := (forest.mem_childrenOf_iff c p).mpr hc
    exact List.count_eq_one_of_mem (forest.nodup_childrenOf p) hmem
  · next hc =>
    rw [List.count_eq_zero, forest.mem_childrenOf_iff]
    exact hc

/-! ## Section 3: Searches that may go further -/

/-- Above and below are well founded: links only ever lead to smaller depths,
    or to greater ones within the size of the scene. -/
theorem Linked.wellFounded_parent {s : Scene} (linked : s.Linked) :
    WellFounded fun p c => s.parentOf? c = some p :=
  Subrelation.wf (fun h => depth_parent_lt linked.acyclic h) (measure s.depth).wf

theorem Linked.wellFounded_child {s : Scene} (linked : s.Linked) :
    WellFounded fun c p => c ∈ s.childrenOf p := by
  refine Subrelation.wf ?_ (measure fun id => s.size - s.depth id).wf
  intro c p h
  have hparent := (linked.mem_childrenOf_iff (has_of_mem_childrenOf h) c).mp h
  have hlt := depth_parent_lt linked.acyclic hparent
  have hle := depth_le_size s c
  show s.size - s.depth c < s.size - s.depth p
  omega

/-- A read that may go up as far as the object is deep goes as far as it has to. -/
theorem worldMatrixUpTo_eq {s : Scene} (acyclic : s.Acyclic) {n m : Nat} {id : ObjectId}
    (hn : s.depth id ≤ n) (hm : s.depth id ≤ m) :
    worldMatrixUpTo n s id = worldMatrixUpTo m s id := by
  by_cases hid : s.has id = true
  swap
  · rw [worldMatrixUpTo_of_not_has hid, worldMatrixUpTo_of_not_has hid]
  have hpos := depth_pos hid
  -- Both reads go to the parent, which is less deep, in the same scene.
  induction n generalizing m id with
  | zero => omega
  | succ n ih =>
    obtain ⟨m, rfl⟩ : ∃ k, m = k + 1 := ⟨m - 1, by omega⟩
    obtain ⟨o, ho⟩ := exists_of_has hid
    have habove : ∀ p, o.parent = some p → worldMatrixUpTo n s p = worldMatrixUpTo m s p := by
      intro p hp
      have hlt := depth_parent_lt acyclic ((parentOf?_eq ho).trans hp)
      by_cases hphas : s.has p = true
      · exact ih (by omega) (by omega) hphas (depth_pos hphas)
      · rw [worldMatrixUpTo_of_not_has hphas, worldMatrixUpTo_of_not_has hphas]
    unfold worldMatrixUpTo
    simp only [ho]
    cases hp : o.parent with
    | none => rfl
    | some p => simp only [habove p hp]

/-- Scenes are the same if every id finds the same in both. -/
theorem eq_of_get? {s t : Scene} (htag : t.tag = s.tag) (h : ∀ x, t.get? x = s.get? x) :
    t = s := by
  obtain ⟨tag, objects⟩ := s
  obtain ⟨tag', objects'⟩ := t
  obtain rfl : tag' = tag := htag
  congr 1
  refine Array.ext_getElem? ?_
  intro k
  simpa [get?] using h ⟨tag', k⟩

/-- An invalidation that may go down further marks nothing else. -/
theorem Linked.invalidateTo_eq {s : Scene} (linked : s.Linked) {n : Nat} (hn : s.size ≤ n)
    (id : ObjectId) : invalidateTo n s id = s.invalidate id := by
  have hmeets : ∀ x, s.Meets n id x ↔ s.Meets s.size id x := by
    intro x
    rw [meets_size_iff linked]
    constructor
    · exact fun h => h.within linked
    · rintro ⟨hid, hx⟩
      have := depth_pos hid
      exact meets_of_within linked hid (by omega) hx
  refine eq_of_get? ?_ ?_
  · rw [tag_invalidateTo, tag_invalidate]
  · intro x
    rw [invalidate, get?_invalidateTo, get?_invalidateTo]
    simp only [hmeets]

/-- **All ways in a scene end, and a longer search finds nothing else.** -/
structure Bounded (s : Scene) : Prop where
  /-- Each way up comes to an object at the top in fewer steps than there are objects. -/
  reaches_top : ∀ {id}, s.has id = true → ∃ levels < s.size, ∃ top,
    s.climb levels id = some top ∧ s.has top = true ∧ s.parentOf? top = none
  /-- There is no endless way up, -/
  upward : WellFounded fun p c => s.parentOf? c = some p
  /-- and none down. -/
  downward : WellFounded fun c p => c ∈ s.childrenOf p
  /-- A read that may go up further gives the same matrix and the same scene. -/
  read : ∀ {n}, s.size ≤ n → ∀ id, worldMatrixUpTo n s id = s.worldMatrix id
  /-- An invalidation that may go down further gives the same scene. -/
  mark : ∀ {n}, s.size ≤ n → ∀ id, invalidateTo n s id = s.invalidate id

theorem Linked.bounded {s : Scene} (linked : s.Linked) (anchored : s.Anchored) :
    s.Bounded := by
  refine ⟨?_, linked.wellFounded_parent, linked.wellFounded_child, ?_, ?_⟩
  · intro id hid
    obtain ⟨levels, hlevels, htop⟩ := exists_top linked.acyclic anchored hid
    exact ⟨levels, Nat.lt_of_lt_of_le hlevels (depth_le_size s id), htop⟩
  · intro n hn id
    have hle := depth_le_size s id
    exact worldMatrixUpTo_eq linked.acyclic (by omega) hle
  · exact fun hn id => linked.invalidateTo_eq hn id

end Planetarium.Scene
