import Planetarium.Proofs.Scene.Rehanging
import Planetarium.Proofs.Scene.Transforms

/-! # Marks

    A world matrix may be handed out as it is only if nothing above its object
    is stale.  No operation checks this.  Reads clear marks upward, writes and
    invalidations set them downward, and so what hangs below something stale is
    stale itself.

    A transform that is changed past the scene breaks this rule, but only for
    what hangs below it.  So the invariant stands beside a list of the objects
    that have been touched in this way.

    * `Scene.Stale`, `Scene.Doubtful`: what is marked, and what hangs below
      something touched.
    * `Scene.Orderly`: what is not in doubt is in order.
    * `Orderly.of_region`: what a change has to leave alone.  Each operation that
      writes keeps a scene orderly by it; a touch adds to the list, and an
      invalidation takes from it. -/

namespace Planetarium.Scene

/-! ## Section 1: Stale and doubtful objects -/

/-- The world matrix that is kept with an object is stale. -/
def Stale (s : Scene) (x : ObjectId) : Prop :=
  ∃ t, s.transformOf? x = some t ∧ t.worldStale = true

/-- The object is one of those that have been touched, or hangs below one. -/
def Doubtful (s : Scene) (touched : List ObjectId) (x : ObjectId) : Prop :=
  ∃ a ∈ touched, s.has a = true ∧ s.Within x a

section stale
variable {s t : Scene} {x : ObjectId}

theorem exists_transformOf? (h : s.has x = true) : ∃ r, s.transformOf? x = some r := by
  obtain ⟨o, ho⟩ := exists_of_has h
  exact ⟨o.transform, transformOf?_eq ho⟩

theorem has_of_transformOf? {r : Transform} (h : s.transformOf? x = some r) :
    s.has x = true := by
  obtain ⟨o, ho, _⟩ := Option.map_eq_some_iff.mp h
  exact has_of_get? ho

theorem stale_iff {r : Transform} (h : s.transformOf? x = some r) :
    s.Stale x ↔ r.worldStale = true := by
  simp [Stale, h]

theorem stale_iff_of_get? {o : Object} (h : s.get? x = some o) :
    s.Stale x ↔ o.transform.worldStale = true :=
  stale_iff (transformOf?_eq h)

theorem stale_congr (h : t.transformOf? x = s.transformOf? x) : t.Stale x ↔ s.Stale x := by
  unfold Stale
  rw [h]

theorem not_stale_of_not_has (h : ¬ s.has x = true) : ¬ s.Stale x := by
  intro ⟨r, hr, _⟩
  exact h (has_of_transformOf? hr)

end stale

/-- A way up that stays in a region is still there if the links of the region are. -/
theorem Within.of_region {s t : Scene} {U : ObjectId → Prop}
    (closed : ∀ c p, U c → s.parentOf? c = some p → U p)
    (links : ∀ x, U x → t.parentOf? x = s.parentOf? x) {x a : ObjectId} (hx : U x)
    (h : s.Within x a) : t.Within x a := by
  rcases h with heq | hbelow
  · exact .inl heq
  · induction hbelow with
    | @direct c p hp => exact .inr (.direct ((links c hx).trans hp))
    | @further c p a hp _ ih =>
      exact .of_parent ((links c hx).trans hp) (ih (closed c p hx hp))

section doubtful
variable {s t : Scene} {touched touched' : List ObjectId}

theorem not_doubtful_nil (x : ObjectId) : ¬ s.Doubtful [] x := by
  simp [Doubtful]

/-- A doubt is handed down. -/
theorem Doubtful.of_within {x a : ObjectId} (hx : s.Within x a) (h : s.Doubtful touched a) :
    s.Doubtful touched x := by
  obtain ⟨b, hb, hhas, hwithin⟩ := h
  exact ⟨b, hb, hhas, hx.trans hwithin⟩

theorem Doubtful.of_parent {c p : ObjectId} (hp : s.parentOf? c = some p)
    (h : s.Doubtful touched p) : s.Doubtful touched c :=
  h.of_within (.inr (.direct hp))

theorem Doubtful.mono (hsub : ∀ a ∈ touched, a ∈ touched') {x : ObjectId}
    (h : s.Doubtful touched x) : s.Doubtful touched' x := by
  obtain ⟨a, ha, hrest⟩ := h
  exact ⟨a, hsub a ha, hrest⟩

/-- Nothing is taken away, and nothing is hung elsewhere. -/
theorem Doubtful.of_links (has : ∀ {x}, s.has x = true → t.has x = true)
    (links : ∀ x, t.parentOf? x = s.parentOf? x) {x : ObjectId} (h : s.Doubtful touched x) :
    t.Doubtful touched x := by
  obtain ⟨a, ha, hhas, hwithin⟩ := h
  exact ⟨a, ha, has hhas, (within_congr links x a).mpr hwithin⟩

theorem Doubtful.of_alike (h : s.Alike t) {x : ObjectId} (hx : s.Doubtful touched x) :
    t.Doubtful touched x :=
  hx.of_links (fun {y} hy => (h.has y).trans hy) h.parentOf?

end doubtful

/-! ## Section 2: Orderly scenes -/

/-- What must be so where a world matrix is handed out as it is. -/
structure Settled (s : Scene) (x : ObjectId) (t : Transform) : Prop where
  localStale : t.localStale = false
  worldMatrix : t.worldMatrix = s.freshMatrix x
  above : ∀ p, s.parentOf? x = some p → ¬ s.Stale p

/-- **What is not below anything touched is in order.** -/
structure Orderly (s : Scene) (touched : List ObjectId) : Prop where
  linked : s.Linked
  local_fresh : ∀ {x t}, s.transformOf? x = some t → t.LocalFresh
  settled : ∀ {x t}, s.transformOf? x = some t → t.worldStale = false →
    ¬ s.Doubtful touched x → s.Settled x t

theorem orderly_empty (tag : Nat) : Orderly { tag } [] := by
  have hnone : ∀ {x t}, transformOf? { tag } x ≠ some t := by
    intro x t h
    simpa [has_iff, size] using has_of_transformOf? h
  constructor
  · exact linked_empty tag
  · exact fun h => absurd h hnone
  · exact fun h => absurd h hnone

namespace Orderly
variable {s t : Scene} {touched touched' : List ObjectId}

theorem acyclic (orderly : s.Orderly touched) : s.Acyclic := orderly.linked.acyclic

/-- The more is touched, the less has to be in order. -/
theorem mono (orderly : s.Orderly touched) (hsub : ∀ a ∈ touched, a ∈ touched') :
    s.Orderly touched' := by
  constructor
  · exact orderly.linked
  · exact orderly.local_fresh
  · exact fun ht hclean hx => orderly.settled ht hclean fun h => hx (h.mono hsub)

theorem stale_of_parent (orderly : s.Orderly touched) {x p : ObjectId}
    (hx : ¬ s.Doubtful touched x) (hp : s.parentOf? x = some p) (hstale : s.Stale p) :
    s.Stale x := by
  obtain ⟨r, hr⟩ := exists_transformOf? (has_of_parentOf? hp)
  rw [stale_iff hr]
  by_contra hclean
  exact (orderly.settled hr (by simpa using hclean) hx).above p hp hstale

/-- An object with a stale local matrix is stale. -/
theorem stale_of_localStale (orderly : s.Orderly touched) {x : ObjectId} {r : Transform}
    (hx : ¬ s.Doubtful touched x) (hr : s.transformOf? x = some r) (hmark : r.localStale = true) :
    s.Stale x := by
  rw [stale_iff hr]
  by_contra hclean
  have hsettled := orderly.settled hr (by simpa using hclean) hx
  simp [hsettled.localStale] at hmark

/-- **What hangs below something stale is stale.** -/
theorem stale_of_within (orderly : s.Orderly touched) {x a : ObjectId}
    (hx : ¬ s.Doubtful touched x) (hwithin : s.Within x a) (hstale : s.Stale a) : s.Stale x := by
  rcases hwithin with heq | hbelow
  · exact heq ▸ hstale
  · induction hbelow with
    | direct hp => exact orderly.stale_of_parent hx hp hstale
    | further hp _ ih =>
      -- The parent is no more in doubt than the child.
      have habove := ih (fun h => hx (h.of_parent hp)) hstale
      exact orderly.stale_of_parent hx hp habove

/-- **A change outside a region.**  The region reaches up to the top, and nothing
    in it is in doubt or changes.  What is outside of it must be marked, or be
    in doubt afterwards. -/
theorem of_region (orderly : s.Orderly touched) (linked : t.Linked)
    (local_fresh : ∀ {x r}, t.transformOf? x = some r → r.LocalFresh) {U : ObjectId → Prop}
    (closed : ∀ c p, U c → s.parentOf? c = some p → U p)
    (certain : ∀ x, U x → ¬ s.Doubtful touched x)
    (parents : ∀ x, U x → t.parentOf? x = s.parentOf? x)
    (transforms : ∀ x, U x → t.transformOf? x = s.transformOf? x)
    (outside : ∀ x, ¬ U x → t.has x = true → t.Stale x ∨ t.Doubtful touched' x) :
    t.Orderly touched' := by
  constructor
  · exact linked
  · exact local_fresh
  · intro x r hr hclean hcertain
    have hx : U x := by
      by_contra hx
      rcases outside x hx (has_of_transformOf? hr) with hstale | hdoubt
      · rw [stale_iff hr, hclean] at hstale
        cases hstale
      · exact hcertain hdoubt
    have hposes : ∀ y, U y → t.poseOf? y = s.poseOf? y := by
      intro y hy
      rw [poseOf?_eq_map, poseOf?_eq_map, transforms y hy]
    have hold := orderly.settled (transforms x hx ▸ hr) hclean (certain x hx)
    constructor
    · exact hold.localStale
    · rw [hold.worldMatrix]
      exact (freshMatrix_congr orderly.acyclic linked.acyclic closed parents hposes hx).symm
    · intro p hp
      rw [parents x hx] at hp
      rw [stale_congr (transforms p (closed x p hx hp))]
      exact hold.above p hp

/-! ## Section 3: Writes -/

section writes
variable (orderly : s.Orderly touched)
include orderly

/-- Nothing but names and components may have changed. -/
theorem of_views (tag : t.tag = s.tag) (size : t.size = s.size)
    (parents : ∀ x, t.parentOf? x = s.parentOf? x)
    (children : ∀ x, t.childrenOf x = s.childrenOf x)
    (transforms : ∀ x, t.transformOf? x = s.transformOf? x) : t.Orderly touched := by
  apply orderly.of_region (orderly.linked.congr tag size parents children)
    (U := fun x => ¬ s.Doubtful touched x)
  · intro x r hr
    exact orderly.local_fresh (transforms x ▸ hr)
  · exact fun c p hc hp h => hc (h.of_parent hp)
  · exact fun x hx => hx
  · exact fun x _ => parents x
  · exact fun x _ => transforms x
  · intro x hx _
    refine .inr (Doubtful.of_links ?_ parents (not_not.mp hx))
    intro y hy
    rw [has_iff, tag, size, ← has_iff]
    exact hy

theorem attach (id : ObjectId) (c : Component) : (s.attach id c).Orderly touched :=
  orderly.of_views (tag_attach s id c) (size_attach s id c) (fun x => parentOf?_attach s id x c)
    (fun x => childrenOf_attach s id x c) fun x => transformOf?_modify s id x _ fun _ => rfl

theorem clearComponents (id : ObjectId) : (s.clearComponents id).Orderly touched :=
  orderly.of_views (tag_clearComponents s id) (size_clearComponents s id)
    (fun x => parentOf?_clearComponents s id x) (fun x => childrenOf_clearComponents s id x)
    fun x => transformOf?_modify s id x _ fun _ => rfl

/-- **A touch.**  A transform is changed, and nobody is told. -/
theorem touch (id : ObjectId) {f : Transform → Transform}
    (hfresh : ∀ r, r.LocalFresh → (f r).LocalFresh) :
    (s.modifyTransform id f).Orderly (id :: touched) := by
  have hparents : ∀ x, (s.modifyTransform id f).parentOf? x = s.parentOf? x :=
    fun x => parentOf?_modifyTransform s id x f
  have hlinked : (s.modifyTransform id f).Linked := orderly.linked.modifyTransform id f
  apply orderly.of_region hlinked (U := fun x => ¬ s.Doubtful (id :: touched) x)
  · exact fun hr => localFresh_modifyTransform orderly.local_fresh hfresh hr
  · exact fun c p hc hp h => hc (h.of_parent hp)
  · exact fun x hx h => hx (h.mono fun a ha => List.mem_cons_of_mem id ha)
  · exact fun x _ => hparents x
  · intro x hx
    rw [transformOf?_modifyTransform]
    split
    · next heq =>
      -- An object that is not in doubt is the one touched only if there is none.
      have hnot : ¬ s.has x = true := by
        intro h
        exact hx ⟨id, List.mem_cons_self, heq ▸ h, .inl heq⟩
      simp [transformOf?, get?_of_not_has hnot]
    · rfl
  · intro x hx _
    refine .inr (Doubtful.of_links ?_ hparents (not_not.mp hx))
    exact fun {y} hy => (has_modifyTransform s id y f).trans hy

/-- **An invalidation.**  What has been touched there is in doubt no longer. -/
theorem invalidate (id : ObjectId) : (s.invalidate id).Orderly (touched.filter (· ≠ id)) := by
  have hlinked : (s.invalidate id).Linked := (linked_invalidate_iff s id).mpr orderly.linked
  apply orderly.of_region hlinked
    (U := fun x => ¬ s.Doubtful touched x ∧ ¬ (s.has id = true ∧ s.Within x id))
  · intro x r hr
    by_cases hx : s.has id = true ∧ s.Within x id
    · rw [transformOf?_invalidate_within orderly.linked hx.1 hx.2] at hr
      obtain ⟨r₀, hr₀, hmark⟩ := Option.map_eq_some_iff.mp hr
      have hold : r₀.LocalFresh := orderly.local_fresh hr₀
      exact hmark ▸ hold
    · rw [transformOf?_invalidate_outside orderly.linked hx] at hr
      exact orderly.local_fresh hr
  · intro c p hc hp
    exact ⟨fun h => hc.1 (h.of_parent hp), fun h => hc.2 ⟨h.1, .of_parent hp h.2⟩⟩
  · exact fun x hx => hx.1
  · exact fun x _ => parentOf?_invalidate s id x
  · exact fun x hx => transformOf?_invalidate_outside orderly.linked hx.2
  · intro x hx hhas
    rw [has_invalidate] at hhas
    by_cases hwithin : s.has id = true ∧ s.Within x id
    · obtain ⟨r, hr⟩ := exists_transformOf? hhas
      refine .inl ⟨r.invalidateWorld, ?_, rfl⟩
      rw [transformOf?_invalidate_within orderly.linked hwithin.1 hwithin.2, hr]
      rfl
    · -- The doubt comes from another object that has been touched.
      have hdoubt : s.Doubtful touched x := by
        by_contra h
        exact hx ⟨h, hwithin⟩
      obtain ⟨a, ha, hknown, habove⟩ := hdoubt
      have hne : a ≠ id := by
        intro heq
        exact hwithin (heq ▸ ⟨hknown, habove⟩)
      refine .inr ⟨a, List.mem_filter.mpr ⟨ha, by simpa using hne⟩, ?_, ?_⟩
      · rw [has_invalidate, hknown]
      · exact (within_congr (fun y => parentOf?_invalidate s id y) x a).mpr habove

/-- A move is a touch with an invalidation after it. -/
theorem move (id : ObjectId) {f : Transform → Transform}
    (hfresh : ∀ r, r.LocalFresh → (f r).LocalFresh) : (s.move id f).Orderly touched := by
  have htouched := (orderly.touch id hfresh).invalidate id
  apply htouched.mono
  intro a ha
  obtain ⟨hmem, hne⟩ := List.mem_filter.mp ha
  rcases List.mem_cons.mp hmem with heq | hold
  · simp [heq] at hne
  · exact hold

/-- A new object is stale in both ways. -/
theorem add {o : Object} (hparent : o.parent = none) (hchildren : o.children = [])
    (hlocal : o.transform.LocalFresh) (hstale : o.transform.worldStale = true) :
    (s.add o).2.Orderly touched := by
  have hlinked : (s.add o).2.Linked := orderly.linked.add hparent hchildren
  have hnew : s.parentOf? (s.idAt s.size) = none := parentOf?_of_not_has (not_has_idAt_size s)
  have hparents : ∀ x, (s.add o).2.parentOf? x = s.parentOf? x := by
    intro x
    rw [parentOf?_add]
    split
    · next h => rw [hparent, h, hnew]
    · rfl
  apply orderly.of_region hlinked (U := fun x => x ≠ s.idAt s.size ∧ ¬ s.Doubtful touched x)
  · intro x r hr
    rw [transformOf?_add] at hr
    split at hr
    · exact Option.some.inj hr ▸ hlocal
    · exact orderly.local_fresh hr
  · intro c p hc hp
    exact ⟨fun h => orderly.linked.parentOf?_ne_idAt_size c (h ▸ hp),
      fun h => hc.2 (h.of_parent hp)⟩
  · exact fun x hx => hx.2
  · exact fun x _ => hparents x
  · intro x hx
    rw [transformOf?_add, if_neg hx.1]
  · intro x hx _
    by_cases hxnew : x = s.idAt s.size
    · exact .inl ⟨o.transform, by rw [transformOf?_add, if_pos hxnew], hstale⟩
    · have hdoubt : s.Doubtful touched x := by
        by_contra h
        exact hx ⟨hxnew, h⟩
      refine .inr (hdoubt.of_links ?_ hparents)
      exact fun {y} hy => (has_add s o y).mpr (.inl hy)

/-- **Hanging an object elsewhere.**  Its subtree is marked, and all others hang
    where they hung. -/
theorem setParent {child : ObjectId} {parent : Option ObjectId}
    (hsettled : ∀ p, parent = some p → s.has p = true ∨ p.scene ≠ s.tag)
    (houtside : s.has child = true → ∀ p, parent = some p → ¬ s.Within p child) :
    (s.setParent child parent).Orderly touched := by
  by_cases hchild : s.has child = true
  swap
  · rw [setParent_of_not_has parent hchild]
    exact orderly
  have hout := houtside hchild
  have hget := get?_setParent orderly.linked hchild hsettled hout
  have hwithin : ∀ {x}, s.Within x child →
      (s.setParent child parent).transformOf? x = (s.transformOf? x).map .invalidateWorld := by
    intro x hx
    rw [transformOf?, hget, transformOf?, Option.map_map, Option.map_map]
    congr 1
    funext o
    simp [Object.markedIf_of _ hx, Object.relisted]
  have hbeside : ∀ {x}, ¬ s.Within x child →
      (s.setParent child parent).transformOf? x = s.transformOf? x := by
    intro x hx
    rw [transformOf?, hget, transformOf?, Option.map_map]
    congr 1
    funext o
    simp [Object.markedIf_of_not _ hx, Object.relisted]
  have hparents : ∀ {x}, ¬ s.Within x child →
      (s.setParent child parent).parentOf? x = s.parentOf? x := by
    intro x hx
    rw [parentOf?_setParent, if_neg]
    intro h
    exact hx (.inl h.2)
  have hclosed : ∀ {c p}, ¬ s.Within c child → s.parentOf? c = some p → ¬ s.Within p child :=
    fun hc hp h => hc (.of_parent hp h)
  apply orderly.of_region (orderly.linked.setParent hsettled hout)
    (U := fun x => ¬ s.Within x child ∧ ¬ s.Doubtful touched x)
  · intro x r hr
    by_cases hx : s.Within x child
    · rw [hwithin hx] at hr
      obtain ⟨r₀, hr₀, hmark⟩ := Option.map_eq_some_iff.mp hr
      have hold : r₀.LocalFresh := orderly.local_fresh hr₀
      exact hmark ▸ hold
    · exact orderly.local_fresh (hbeside hx ▸ hr)
  · exact fun c p hc hp => ⟨hclosed hc.1 hp, fun h => hc.2 (h.of_parent hp)⟩
  · exact fun x hx => hx.2
  · exact fun x hx => hparents hx.1
  · exact fun x hx => hbeside hx.1
  · intro x hx hhas
    rw [has_setParent] at hhas
    by_cases hxc : s.Within x child
    · obtain ⟨r, hr⟩ := exists_transformOf? hhas
      exact .inl ⟨r.invalidateWorld, by rw [hwithin hxc, hr]; rfl, rfl⟩
    · have hdoubt : s.Doubtful touched x := by
        by_contra h
        exact hx ⟨hxc, h⟩
      obtain ⟨a, ha, hknown, habove⟩ := hdoubt
      refine .inr ⟨a, ha, by rw [has_setParent, hknown], ?_⟩
      -- The way up from `x` does not pass the child, so it is still there.
      exact habove.of_region (fun c p => hclosed) (fun y hy => hparents hy) hxc

theorem createChild {parent : Option ObjectId} (name : String)
    (hsettled : ∀ p, parent = some p → s.has p = true ∨ p.scene ≠ s.tag) :
    (s.createChild parent name).2.Orderly touched := by
  have hadd : (s.add { name }).2.Orderly touched :=
    orderly.add rfl rfl (Transform.localFresh_ofTranslation .zero) rfl
  rw [createChild_eq]
  split
  · exact hadd
  · apply hadd.setParent
    · intro p hp
      rw [has_add, tag_add]
      exact (hsettled p hp).imp_left .inl
    · intro _ p hp
      exact not_within_new name orderly.linked (hsettled p hp)

end writes

end Orderly

end Planetarium.Scene
