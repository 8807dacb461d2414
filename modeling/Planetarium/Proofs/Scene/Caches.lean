import Planetarium.Proofs.Scene.Fresh
import Planetarium.Scene.Edit

/-! # The matrices that are kept

    A scene keeps two matrices with each object and two marks that say which
    of them are stale.  `Sound` is the invariant behind them: what is not
    stale is what a computation from the poses alone would give.

    * `Kept.of_cases`: what a write must leave behind so that what is kept
      stays sound.
    * Each operation that writes keeps a scene sound, as long as it hangs
      nothing within its own subtree. -/

namespace Planetarium.Scene

/-! ## Section 1: Sound scenes -/

/-- What is not stale is fresh. -/
structure Kept (s : Scene) : Prop where
  local_fresh : ∀ {id : ObjectId} {t : Transform}, s.transformOf? id = some t →
    t.localStale = false → t.localMatrix = t.placement
  world_fresh : ∀ {id : ObjectId} {t : Transform}, s.transformOf? id = some t →
    t.worldStale = false → t.worldMatrix = s.freshMatrix id

/-- **The links are sound, and so is what is kept.** -/
structure Sound (s : Scene) : Prop where
  linked : s.Linked
  kept : s.Kept

theorem Sound.acyclic {s : Scene} (h : s.Sound) : s.Acyclic := h.linked.acyclic

theorem sound_empty (tag : Nat) : Sound { tag } := by
  have hnone : ∀ id, transformOf? { tag } id = none := by
    intro id
    have hid : ¬ has { tag } id = true := by simp [has_iff, size]
    simp [transformOf?, get?_of_not_has hid]
  refine ⟨linked_empty tag, ?_, ?_⟩
  · intro id t ht
    rw [hnone] at ht
    cases ht
  · intro id t ht
    rw [hnone] at ht
    cases ht

/-- What is kept stays sound when each transform has both matrices marked, or
    has its world matrix marked and is else as before, or is as before with the
    same fresh matrix. -/
theorem Kept.of_cases {s s' : Scene} (kept : s.Kept)
    (h : ∀ id u, s'.transformOf? id = some u →
      (u.localStale = true ∧ u.worldStale = true) ∨
      (∃ t, s.transformOf? id = some t ∧ u = t.invalidateWorld) ∨
      (s.transformOf? id = some u ∧ s'.freshMatrix id = s.freshMatrix id)) :
    s'.Kept := by
  constructor
  · intro id u hu hlocal
    rcases h id u hu with ⟨hstale, _⟩ | ⟨t, ht, rfl⟩ | ⟨ht, _⟩
    · rw [hstale] at hlocal
      cases hlocal
    · show t.localMatrix = t.placement
      exact kept.local_fresh ht hlocal
    · exact kept.local_fresh ht hlocal
  · intro id u hu hworld
    rcases h id u hu with ⟨_, hstale⟩ | ⟨t, _, rfl⟩ | ⟨ht, hsame⟩
    · rw [hstale] at hworld
      cases hworld
    · cases hworld
    · rw [hsame]
      exact kept.world_fresh ht hworld

/-! ## Section 2: Operations that write -/

/-- An invalidation after a change: what the change has not marked itself must
    be as before, and outside the subtree the fresh matrices must be the same. -/
theorem Kept.invalidate {s s' : Scene} (kept : s.Kept) (linked : s'.Linked) (id : ObjectId)
    (hchange : ∀ x u, s'.transformOf? x = some u →
      (u.localStale = true ∧ u.worldStale = true) ∨ s.transformOf? x = some u)
    (hsame : ∀ x, ¬ (s'.has id = true ∧ s'.Within x id) →
      s'.freshMatrix x = s.freshMatrix x) :
    (s'.invalidate id).Kept := by
  have halike : s'.Alike (s'.invalidate id) :=
    ⟨tag_invalidate s' id, size_invalidate s' id, fun x => parentOf?_invalidate s' id x,
      fun x => poseOf?_invalidate s' id x⟩
  refine kept.of_cases ?_
  intro x u hu
  -- Within the subtree the mark is set; outside the kept matrix is still fresh.
  by_cases hx : s'.has id = true ∧ s'.Within x id
  · rw [transformOf?_invalidate_within linked hx.1 hx.2] at hu
    obtain ⟨t, ht, rfl⟩ := Option.map_eq_some_iff.mp hu
    rcases hchange x t ht with ⟨hlocal, _⟩ | hold
    · exact .inl ⟨hlocal, rfl⟩
    · exact .inr (.inl ⟨t, hold, rfl⟩)
  · rw [transformOf?_invalidate_outside linked hx] at hu
    rcases hchange x u hu with hstale | hold
    · exact .inl hstale
    · exact .inr (.inr ⟨hold, (halike.freshMatrix linked.acyclic x).trans (hsame x hx)⟩)

section writes
variable {s : Scene}

/-- **Moves.** Nothing on the way up from an object outside the subtree is
    moved, so the fresh matrices are the same there. -/
theorem Sound.move (sound : s.Sound) (id : ObjectId) {f : Transform → Transform}
    {g : Pose → Pose} (hpose : ∀ t, (f t).pose = g t.pose)
    (hstale : ∀ t, (f t).localStale = true ∧ (f t).worldStale = true) : (s.move id f).Sound := by
  have hlinked : (s.modifyTransform id f).Linked := sound.linked.modifyTransform id f
  refine ⟨sound.linked.move id f, sound.kept.invalidate hlinked id ?_ ?_⟩
  · intro x u hu
    rw [transformOf?_modifyTransform] at hu
    split at hu
    · obtain ⟨t, _, rfl⟩ := Option.map_eq_some_iff.mp hu
      exact .inl (hstale t)
    · exact .inr hu
  · intro x hx
    -- What is outside the subtree is so with all that is above it.
    rw [has_modifyTransform, within_congr fun y => parentOf?_modifyTransform s id y f] at hx
    refine freshMatrix_congr sound.acyclic hlinked.acyclic
      (U := fun y => ¬ (s.has id = true ∧ s.Within y id)) ?_ ?_ ?_ hx
    · exact fun c p hc hp h => hc ⟨h.1, .of_parent hp h.2⟩
    · exact fun y _ => parentOf?_modifyTransform s id y f
    · intro y hy
      rw [poseOf?_modifyTransform s id y f hpose]
      split
      · next hyid =>
        subst hyid
        have hnot : ¬ s.has y = true := fun h => hy ⟨h, .refl s y⟩
        rw [poseOf?_of_not_has hnot]
        rfl
      · rfl

/-- Changes that keep the transform and the links of an object. -/
theorem Sound.modify (sound : s.Sound) (id : ObjectId) {f : Object → Object}
    (htransform : ∀ o, (f o).transform = o.transform) (hparent : ∀ o, (f o).parent = o.parent)
    (hchildren : ∀ o, (f o).children = o.children) : (s.modify id f).Sound := by
  have hlinked : (s.modify id f).Linked :=
    sound.linked.congr (tag_modify s id f) (size_modify s id f)
      (fun x => parentOf?_modify s id x f hparent)
      fun x => childrenOf_modify s id x f hchildren
  have halike : s.Alike (s.modify id f) :=
    ⟨tag_modify s id f, size_modify s id f, fun x => parentOf?_modify s id x f hparent,
      fun x => poseOf?_modify s id x f htransform⟩
  refine ⟨hlinked, sound.kept.of_cases ?_⟩
  intro x u hu
  rw [transformOf?_modify s id x f htransform] at hu
  exact .inr (.inr ⟨hu, halike.freshMatrix sound.acyclic x⟩)

/-! The setters are moves, and components are no part of what is kept. -/

theorem Sound.setTranslation (sound : s.Sound) (id : ObjectId) (v : Vec3) :
    (s.setTranslation id v).Sound :=
  sound.move id (g := ({ · with translation := v })) (fun _ => rfl) fun _ => ⟨rfl, rfl⟩

theorem Sound.setRotation (sound : s.Sound) (id : ObjectId) (q : Quat) :
    (s.setRotation id q).Sound :=
  sound.move id (g := ({ · with rotation := q })) (fun _ => rfl) fun _ => ⟨rfl, rfl⟩

theorem Sound.setScale (sound : s.Sound) (id : ObjectId) (v : Vec3) : (s.setScale id v).Sound :=
  sound.move id (g := ({ · with scale := v })) (fun _ => rfl) fun _ => ⟨rfl, rfl⟩

theorem Sound.setTransform (sound : s.Sound) (id : ObjectId) (v : Vec3) (q : Quat) (k : Vec3) :
    (s.setTransform id v q k).Sound :=
  sound.move id (g := fun _ => ⟨v, q, k⟩) (fun _ => rfl) fun _ => ⟨rfl, rfl⟩

theorem Sound.rotate (sound : s.Sound) (id : ObjectId) (q : Quat) : (s.rotate id q).Sound :=
  sound.move id (g := fun p => { p with rotation := (p.rotation * q).normalize })
    (fun _ => rfl) fun _ => ⟨rfl, rfl⟩

theorem Sound.translateLocal (sound : s.Sound) (id : ObjectId) (d : Vec3) :
    (s.translateLocal id d).Sound :=
  sound.move id (g := fun p => { p with translation := p.translation + p.rotation.apply d })
    (fun _ => rfl) fun _ => ⟨rfl, rfl⟩

theorem Sound.attach (sound : s.Sound) (id : ObjectId) (c : Component) : (s.attach id c).Sound :=
  sound.modify id (fun _ => rfl) (fun _ => rfl) fun _ => rfl

theorem Sound.clearComponents (sound : s.Sound) (id : ObjectId) : (s.clearComponents id).Sound :=
  sound.modify id (fun _ => rfl) (fun _ => rfl) fun _ => rfl

/-- A new object is stale in both ways. -/
theorem Sound.add (sound : s.Sound) {o : Object} (hparent : o.parent = none)
    (hchildren : o.children = [])
    (hstale : o.transform.localStale = true ∧ o.transform.worldStale = true) :
    (s.add o).2.Sound := by
  have hlinked : (s.add o).2.Linked := sound.linked.add hparent hchildren
  refine ⟨hlinked, sound.kept.of_cases ?_⟩
  intro x u hu
  rw [transformOf?_add] at hu
  split at hu
  · obtain rfl := Option.some.inj hu
    exact .inl hstale
  · next hx =>
    refine .inr (.inr ⟨hu, ?_⟩)
    -- No way up in the old scene comes to the new id.
    refine freshMatrix_congr sound.acyclic hlinked.acyclic
      (U := fun y => y ≠ s.idAt s.size) ?_ ?_ ?_ hx
    · rintro c q - hq rfl
      exact sound.linked.parentOf?_ne_idAt_size c hq
    · intro y hy
      rw [parentOf?_add, if_neg hy]
    · intro y hy
      rw [poseOf?_add, if_neg hy]

/-- **Hanging an object elsewhere.** The subtree of the child is marked; it is
    the same before and after. -/
theorem Sound.setParent (sound : s.Sound) {child : ObjectId} {parent : Option ObjectId}
    (hsettled : ∀ p, parent = some p → s.has p = true ∨ p.scene ≠ s.tag)
    (houtside : s.has child = true → ∀ p, parent = some p → ¬ s.Within p child) :
    (s.setParent child parent).Sound := by
  by_cases hchild : s.has child = true
  swap
  · rw [setParent_of_not_has parent hchild]
    exact sound
  have hout := houtside hchild
  have hlinked : (s.setParent child parent).Linked := sound.linked.setParent hsettled hout
  refine ⟨hlinked, ?_⟩
  rw [setParent_eq, if_pos hchild]
  -- The links of the scene before the invalidation are those of the scene after it.
  generalize hrehung : ((s.detach child).relink child parent).enlist child parent = s'
  have hafter : s.setParent child parent = s'.invalidate child := by
    rw [setParent_eq, if_pos hchild, hrehung]
  have hparent : ∀ x, s'.parentOf? x = (s.setParent child parent).parentOf? x := by
    intro x
    rw [hafter, parentOf?_invalidate]
  have hlinked' : s'.Linked := (linked_invalidate_iff s' child).mp (hafter ▸ hlinked)
  have htransform : ∀ x, s'.transformOf? x = s.transformOf? x := by
    intro x
    rw [← hrehung, transformOf?_enlist, transformOf?_relink, transformOf?_detach]
  have hhas : s'.has child = true := by
    rw [← isSome_poseOf?, poseOf?_eq_map, htransform, ← poseOf?_eq_map, isSome_poseOf?, hchild]
  refine sound.kept.invalidate hlinked' child ?_ ?_
  · intro x u hu
    rw [htransform] at hu
    exact .inr hu
  · intro x hx
    -- An object that is outside now was outside before.
    have hx' : ¬ s.Within x child := by
      intro h
      refine hx ⟨hhas, ?_⟩
      rw [within_congr hparent]
      exact (within_setParent_iff sound.acyclic hout x).mpr h
    refine freshMatrix_congr sound.acyclic hlinked'.acyclic
      (U := fun y => ¬ s.Within y child) ?_ ?_ ?_ hx'
    · exact fun c p hc hp h => hc (.of_parent hp h)
    · intro y hy
      rw [hparent, parentOf?_setParent, if_neg]
      rintro ⟨_, rfl⟩
      exact hy (.refl s y)
    · intro y _
      rw [poseOf?_eq_map, poseOf?_eq_map, htransform]

theorem Sound.createChild (sound : s.Sound) {parent : Option ObjectId} (name : String)
    (hsettled : ∀ p, parent = some p → s.has p = true ∨ p.scene ≠ s.tag) :
    (s.createChild parent name).2.Sound := by
  have hadd : (s.add { name }).2.Sound := sound.add rfl rfl ⟨rfl, rfl⟩
  rw [createChild_eq]
  split
  · exact hadd
  · refine hadd.setParent ?_ ?_
    · intro p hp
      rw [has_add, tag_add]
      exact (hsettled p hp).imp_left .inl
    · intro _ p hp
      exact not_within_new name sound.linked (hsettled p hp)

end writes

end Planetarium.Scene
