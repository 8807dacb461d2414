import Planetarium.Proofs.Scene.Caches
import Planetarium.Proofs.Scene.Transforms

/-! # Reads

    A read of a world matrix goes up from an object to the first one whose
    matrix is not stale, and keeps what it has computed on the way back.

    * `reread_worldPosition`: nothing but the kept matrices has changed
      afterwards, so the scene looks the same.
    * `Sound.worldMatrix_fst`, `Sound.worldMatrix_snd`: in a sound scene a read
      gives the fresh matrix, and the scene stays sound. -/

namespace Planetarium.Scene

/-! ## Section 1: What a read leaves as it is -/

/-- An object without the matrices that are kept with it. -/
def bare (o : Object) : Object :=
  { o with
    transform :=
      { Transform.ofTranslation o.transform.translation with
        rotation := o.transform.rotation, scale := o.transform.scale } }

/-- **Two scenes that differ in the matrices that are kept at most.** -/
structure Reread (s t : Scene) : Prop where
  tag : t.tag = s.tag
  size : t.size = s.size
  bare : ∀ x, (t.get? x).map bare = (s.get? x).map bare

namespace Reread
variable {s t u : Scene}

theorem refl (s : Scene) : s.Reread s := ⟨rfl, rfl, fun _ => rfl⟩

theorem trans (h : s.Reread t) (h' : t.Reread u) : s.Reread u :=
  ⟨h'.tag.trans h.tag, h'.size.trans h.size, fun x => (h'.bare x).trans (h.bare x)⟩

theorem alike (h : s.Reread t) : s.Alike t := by
  -- Both views can be read off what is left of an object without its matrices.
  have hparent : ∀ (r : Scene) x, r.parentOf? x = ((r.get? x).map Scene.bare).bind (·.parent) := by
    intro r x
    unfold parentOf?
    cases r.get? x <;> rfl
  have hpose : ∀ (r : Scene) x,
      r.poseOf? x = ((r.get? x).map Scene.bare).map (·.transform.pose) := by
    intro r x
    unfold poseOf?
    cases r.get? x <;> rfl
  refine ⟨h.tag, h.size, ?_, ?_⟩
  · intro x
    rw [hparent, hparent, h.bare]
  · intro x
    rw [hpose, hpose, h.bare]

/-- One object stores what a read has computed from its transform. -/
theorem store (h : s.Reread t) {id : ObjectId} {o : Object} (ho : s.get? id = some o) (m : Mat4) :
    s.Reread (t.modifyTransform id fun _ => o.transform.refreshLocal.setWorldMatrix m) := by
  refine ⟨by simp [h.tag], by simp [h.size], ?_⟩
  intro x
  unfold modifyTransform
  rw [get?_modify]
  split
  · next hx =>
    subst hx
    -- The object may have been read before, but it has kept its pose.
    have hbare := h.bare id
    rw [ho] at hbare ⊢
    obtain ⟨o', ho', hsame⟩ := Option.map_eq_some_iff.mp hbare
    have hpose : o.transform.refreshLocal.pose = o.transform.pose := o.transform.pose_refreshLocal
    rw [ho']
    simp only [Option.map_some, Option.some.injEq]
    simp only [Scene.bare, Object.mk.injEq] at hsame
    simp only [Transform.pose, Pose.mk.injEq] at hpose
    simp [Scene.bare, Transform.setWorldMatrix, hsame, hpose]
  · exact h.bare x

end Reread

/-! ## Section 2: The recursion -/

/-- What is read before an object: its parent, if it has one. -/
def readAbove (n : Nat) (s : Scene) : Option ObjectId → Mat4 × Scene
  | none => (.identity, s)
  | some p => worldMatrixUpTo n s p

section recursion
variable {s : Scene} {n : Nat} {id : ObjectId} {o : Object}

theorem worldMatrixUpTo_of_not_has (h : ¬ s.has id = true) (n : Nat) :
    worldMatrixUpTo n s id = (.identity, s) := by
  cases n with
  | zero => rfl
  | succ n =>
    unfold worldMatrixUpTo
    rw [get?_of_not_has h]

/-- What is not stale is handed out as it is. -/
theorem worldMatrixUpTo_of_clean (ho : s.get? id = some o)
    (hclean : ¬ o.transform.worldStale = true) :
    worldMatrixUpTo (n + 1) s id = (o.transform.worldMatrix, s) := by
  unfold worldMatrixUpTo
  simp [ho, hclean]

theorem worldMatrixUpTo_of_stale (ho : s.get? id = some o)
    (hstale : o.transform.worldStale = true) :
    worldMatrixUpTo (n + 1) s id =
      let (above, t) := readAbove n s o.parent
      let world := above * o.transform.refreshLocal.localMatrix
      (world, t.modifyTransform id fun _ => o.transform.refreshLocal.setWorldMatrix world) := by
  rw [worldMatrixUpTo]
  simp only [ho, hstale, if_true]
  cases o.parent <;> rfl

end recursion

theorem reread_worldMatrixUpTo (n : Nat) (s : Scene) (id : ObjectId) :
    s.Reread (worldMatrixUpTo n s id).2 := by
  induction n generalizing id with
  | zero => exact .refl s
  | succ n ih =>
    by_cases hid : s.has id = true
    swap
    · rw [worldMatrixUpTo_of_not_has hid]
      exact .refl s
    obtain ⟨o, ho⟩ := exists_of_has hid
    by_cases hstale : o.transform.worldStale = true
    · have habove : s.Reread (readAbove n s o.parent).2 := by
        cases o.parent with
        | none => exact .refl s
        | some p => exact ih p
      rw [worldMatrixUpTo_of_stale ho hstale]
      exact habove.store ho _
    · rw [worldMatrixUpTo_of_clean ho hstale]
      exact .refl s

theorem reread_readAbove (n : Nat) (s : Scene) (parent : Option ObjectId) :
    s.Reread (readAbove n s parent).2 := by
  cases parent with
  | none => exact .refl s
  | some p => exact reread_worldMatrixUpTo n s p

theorem reread_worldPosition (s : Scene) (id : ObjectId) : s.Reread (s.worldPosition id).2 :=
  reread_worldMatrixUpTo s.size s id

theorem alike_worldMatrix (s : Scene) (id : ObjectId) : s.Alike (s.worldMatrix id).2 :=
  (reread_worldMatrixUpTo s.size s id).alike

theorem alike_worldPosition (s : Scene) (id : ObjectId) : s.Alike (s.worldPosition id).2 :=
  alike_worldMatrix s id

/-! ## Section 3: What a read gives -/

/-- Local matrices stay fresh when one transform is changed that keeps its own so. -/
theorem localFresh_modifyTransform {s : Scene}
    (hold : ∀ {x r}, s.transformOf? x = some r → r.LocalFresh) {id : ObjectId}
    {f : Transform → Transform} (hf : ∀ r, r.LocalFresh → (f r).LocalFresh) {x : ObjectId}
    {u : Transform} (hu : (s.modifyTransform id f).transformOf? x = some u) : u.LocalFresh := by
  rw [transformOf?_modifyTransform] at hu
  split at hu
  · obtain ⟨r, hr, heq⟩ := Option.map_eq_some_iff.mp hu
    exact heq ▸ hf r (hold hr)
  · exact hold hu

/-- What is stored is fresh, so the scene stays sound. -/
private theorem sound_store {s t : Scene} (h : s.Reread t) (sound : t.Sound) {id : ObjectId}
    {o : Object} (ho : s.get? id = some o) (hlocal : o.transform.LocalFresh) :
    (t.modifyTransform id fun _ =>
      o.transform.refreshLocal.setWorldMatrix (s.freshMatrix id)).Sound := by
  have hacyclic : s.Acyclic := sound.acyclic.congr fun x => (h.alike.parentOf? x).symm
  have hstored := (h.store ho (s.freshMatrix id)).alike
  constructor
  · exact sound.linked.modifyTransform id _
  · constructor
    · exact fun hu => localFresh_modifyTransform sound.kept.local_fresh
        (fun _ _ => hlocal.refreshLocal.setWorldMatrix _) hu
    · intro x u hu hstale
      rw [hstored.freshMatrix hacyclic]
      rw [transformOf?_modifyTransform] at hu
      split at hu
      · next hx =>
        subst hx
        obtain ⟨_, _, heq⟩ := Option.map_eq_some_iff.mp hu
        exact heq ▸ rfl
      · rw [← h.alike.freshMatrix hacyclic]
        exact sound.kept.world_fresh hu hstale

theorem freshMatrix_of_not_has {s : Scene} {id : ObjectId} (h : ¬ s.has id = true) :
    s.freshMatrix id = .identity := freshMatrixUpTo_of_not_has h _

/-- A read that may go up to the top gives the fresh matrix. -/
theorem Sound.worldMatrixUpTo {s : Scene} (sound : s.Sound) {n : Nat} {id : ObjectId}
    (hn : s.depth id ≤ n) :
    (worldMatrixUpTo n s id).1 = s.freshMatrix id ∧ (worldMatrixUpTo n s id).2.Sound := by
  -- The read goes up as long as it meets stale objects; the depth bounds how far.
  induction n generalizing id with
  | zero =>
    have hid : ¬ s.has id = true := by
      intro h
      have := depth_pos h
      omega
    rw [worldMatrixUpTo_of_not_has hid, freshMatrix_of_not_has hid]
    exact ⟨rfl, sound⟩
  | succ n ih =>
    by_cases hid : s.has id = true
    swap
    · rw [worldMatrixUpTo_of_not_has hid, freshMatrix_of_not_has hid]
      exact ⟨rfl, sound⟩
    obtain ⟨o, ho⟩ := exists_of_has hid
    have ht := transformOf?_eq ho
    by_cases hstale : o.transform.worldStale = true
    · have habove : (readAbove n s o.parent).1 = s.freshAbove o.parent ∧
          (readAbove n s o.parent).2.Sound := by
        cases hp : o.parent with
        | none => exact ⟨rfl, sound⟩
        | some p =>
          -- The parent is read first; it is less deep.
          have hlt := depth_parent_lt sound.acyclic ((parentOf?_eq ho).trans hp)
          have hdepth : s.depth p ≤ n := by omega
          exact ih hdepth
      obtain ⟨hvalue, hsound⟩ := habove
      have hlocal : o.transform.LocalFresh := sound.kept.local_fresh ht
      rw [worldMatrixUpTo_of_stale ho hstale]
      simp only [hvalue, hlocal.localMatrix_refreshLocal, ← freshMatrix_of_get? sound.acyclic ho]
      exact ⟨trivial, sound_store (reread_readAbove n s o.parent) hsound ho hlocal⟩
    · -- What is not stale is fresh, and nothing is stored.
      rw [worldMatrixUpTo_of_clean ho hstale]
      exact ⟨sound.kept.world_fresh ht (by simpa using hstale), sound⟩

/-- **A read of a world matrix gives the fresh one.** -/
theorem Sound.worldMatrix_fst {s : Scene} (sound : s.Sound) (id : ObjectId) :
    (s.worldMatrix id).1 = s.freshMatrix id :=
  (sound.worldMatrixUpTo (depth_le_size s id)).1

theorem Sound.worldMatrix_snd {s : Scene} (sound : s.Sound) (id : ObjectId) :
    (s.worldMatrix id).2.Sound :=
  (sound.worldMatrixUpTo (depth_le_size s id)).2

theorem Sound.worldPosition_fst {s : Scene} (sound : s.Sound) (id : ObjectId) :
    (s.worldPosition id).1 = s.freshPosition id :=
  congrArg Mat4.originImage (sound.worldMatrix_fst id)

theorem Sound.worldPosition_snd {s : Scene} (sound : s.Sound) (id : ObjectId) :
    (s.worldPosition id).2.Sound :=
  sound.worldMatrix_snd id

end Planetarium.Scene
