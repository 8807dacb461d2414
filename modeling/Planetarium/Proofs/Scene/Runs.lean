import Planetarium.Proofs.Scene.Reads

/-! # Runs of edits

    What is kept beside the poses is never seen, whatever is done to a scene
    and in whatever order.

    * `Sound.apply`, `Alike.apply`: one edit keeps a scene sound, and keeps two
      scenes alike.
    * `Sound.edited`: so does a run of edits.
    * `worldMatrix_edited`: after a run from the empty scene every read gives
      the fresh matrix, and reads made on the way change no answer. -/

namespace Planetarium

/-- Edits that are made for their answer. -/
def Edit.isRead : Edit → Bool
  | .readMatrix _ => true
  | .readPosition _ => true
  | _ => false

/-- A run of edits without the reads in it. -/
def Edit.writes (es : List Edit) : List Edit := es.filter fun e => !e.isRead

namespace Scene

/-! ## Section 1: One edit -/

section alike
variable {s t : Scene} (h : s.Alike t)
include h

theorem Alike.move (id : ObjectId) {f : Transform → Transform} {g : Pose → Pose}
    (hpose : ∀ t, (f t).pose = g t.pose) : (s.move id f).Alike (t.move id f) := by
  refine ⟨?_, ?_, ?_, ?_⟩
  · rw [tag_move, tag_move, h.tag]
  · rw [size_move, size_move, h.size]
  · intro x
    rw [parentOf?_move, parentOf?_move, h.parentOf?]
  · intro x
    rw [poseOf?_move t id x f hpose, poseOf?_move s id x f hpose, h.poseOf?]

theorem Alike.setParent (child : ObjectId) (parent : Option ObjectId) :
    (s.setParent child parent).Alike (t.setParent child parent) := by
  refine ⟨?_, ?_, ?_, ?_⟩
  · rw [tag_setParent, tag_setParent, h.tag]
  · rw [size_setParent, size_setParent, h.size]
  · intro x
    rw [parentOf?_setParent, parentOf?_setParent, h.has, h.parentOf?]
  · intro x
    rw [poseOf?_setParent, poseOf?_setParent, h.poseOf?]

theorem Alike.createChild (parent : Option ObjectId) (name : String) :
    (s.createChild parent name).2.Alike (t.createChild parent name).2 := by
  refine ⟨?_, ?_, ?_, ?_⟩
  · rw [tag_createChild, tag_createChild, h.tag]
  · rw [size_createChild, size_createChild, h.size]
  · intro x
    rw [parentOf?_createChild, parentOf?_createChild, h.idAt_size, h.parentOf?]
  · intro x
    rw [poseOf?_createChild, poseOf?_createChild, h.idAt_size, h.poseOf?]

/-- Edits of scenes that look alike give scenes that look alike. -/
theorem Alike.apply (e : Edit) : (e.apply s).Alike (e.apply t) := by
  cases e with
  | createChild parent name => exact h.createChild parent name
  | setParent child parent => exact h.setParent child parent
  | setTranslation id v => exact h.move id (g := ({ · with translation := v })) fun _ => rfl
  | setRotation id q => exact h.move id (g := ({ · with rotation := q })) fun _ => rfl
  | setScale id v => exact h.move id (g := ({ · with scale := v })) fun _ => rfl
  | setTransform id v q k => exact h.move id (g := fun _ => ⟨v, q, k⟩) fun _ => rfl
  | rotate id q =>
    exact h.move id (g := fun p => { p with rotation := (p.rotation * q).normalize }) fun _ => rfl
  | translateLocal id d =>
    exact h.move id (g := fun p => { p with translation := p.translation + p.rotation.apply d })
      fun _ => rfl
  | attach id c => exact ((alike_attach s id c).symm.trans h).trans (alike_attach t id c)
  | clearComponents id =>
    exact ((alike_clearComponents s id).symm.trans h).trans (alike_clearComponents t id)
  | readMatrix id =>
    exact ((alike_worldMatrix s id).symm.trans h).trans (alike_worldMatrix t id)
  | readPosition id =>
    exact ((alike_worldPosition s id).symm.trans h).trans (alike_worldPosition t id)

end alike

/-- **Proper edits keep a scene sound.** -/
theorem Sound.apply {s : Scene} (sound : s.Sound) {e : Edit} (proper : e.Proper s) :
    (e.apply s).Sound := by
  have hsettled := proper.ids_settled
  cases e with
  | createChild parent name =>
    refine sound.createChild name ?_
    rintro p rfl
    exact hsettled p (by simp [Edit.ids])
  | setParent child parent =>
    refine sound.setParent ?_ ?_
    · rintro p rfl
      exact hsettled p (by simp [Edit.ids])
    · -- The two ways to be within the child are just what a proper edit rules out.
      rintro hchild p rfl (rfl | hbelow)
      · exact (proper.keepsAcyclic hchild).1 rfl
      · exact (proper.keepsAcyclic hchild).2 hbelow
  | setTranslation id v => exact sound.setTranslation id v
  | setRotation id q => exact sound.setRotation id q
  | setScale id v => exact sound.setScale id v
  | setTransform id v q k => exact sound.setTransform id v q k
  | rotate id q => exact sound.rotate id q
  | translateLocal id d => exact sound.translateLocal id d
  | attach id c => exact sound.attach id c
  | clearComponents id => exact sound.clearComponents id
  | readMatrix id => exact sound.worldMatrix_snd id
  | readPosition id => exact sound.worldPosition_snd id

/-- Grown scenes are sound. -/
theorem Grown.sound {s : Scene} (grown : s.Grown) : s.Sound := by
  induction grown with
  | empty tag => exact sound_empty tag
  | edit _ proper ih => exact ih.apply proper

/-! ## Section 2: Runs of edits -/

/-- Each edit is proper in the scene that it is made in. -/
def ProperFrom (s : Scene) : List Edit → Prop
  | [] => True
  | e :: es => e.Proper s ∧ (e.apply s).ProperFrom es

theorem alike_read (s : Scene) {e : Edit} (h : e.isRead = true) : s.Alike (e.apply s) := by
  cases e with
  | readMatrix id => exact alike_worldMatrix s id
  | readPosition id => exact alike_worldPosition s id
  | _ => cases h

theorem Sound.read {s : Scene} (sound : s.Sound) {e : Edit} (h : e.isRead = true) :
    (e.apply s).Sound := by
  cases e with
  | readMatrix id => exact sound.worldMatrix_snd id
  | readPosition id => exact sound.worldPosition_snd id
  | _ => cases h

/-- Whether an edit is proper can be seen. -/
theorem Alike.proper {s t : Scene} (h : s.Alike t) {e : Edit} (proper : e.Proper s) :
    e.Proper t := by
  constructor
  · intro id hid
    rw [h.has, h.tag]
    exact proper.ids_settled id hid
  · have hkeeps := proper.keepsAcyclic
    unfold Edit.KeepsAcyclic at hkeeps ⊢
    split
    · next child parent =>
      intro hchild
      rw [h.has] at hchild
      obtain ⟨hne, hbelow⟩ := hkeeps hchild
      exact ⟨hne, fun hb => hbelow (hb.congr fun x => (h.parentOf? x).symm)⟩
    · trivial

/-- **A run of proper edits keeps a scene sound.** -/
theorem Sound.edited {s : Scene} (sound : s.Sound) {es : List Edit} (proper : s.ProperFrom es) :
    (s.edited es).Sound := by
  induction es generalizing s with
  | nil => exact sound
  | cons e es ih => exact ih (sound.apply proper.1) proper.2

theorem ProperFrom.writes {s t : Scene} (h : s.Alike t) {es : List Edit}
    (proper : s.ProperFrom es) : t.ProperFrom (Edit.writes es) := by
  induction es generalizing s t with
  | nil => trivial
  | cons e es ih =>
    obtain ⟨hfirst, hrest⟩ := proper
    unfold Edit.writes at ih ⊢
    rw [List.filter_cons]
    by_cases hread : e.isRead = true
    · rw [if_neg (by simp [hread])]
      exact ih ((alike_read s hread).symm.trans h) hrest
    · rw [if_pos (by simp [hread])]
      exact ⟨h.proper hfirst, ih (h.apply e) hrest⟩

/-- **A run beside its own writes.**  The writes have to be proper; the reads
    may be of anything and at any point. -/
theorem Alike.edited {s t : Scene} (h : s.Alike t) (hs : s.Sound) (ht : t.Sound)
    {es : List Edit} (proper : s.ProperFrom (Edit.writes es)) :
    (s.edited (Edit.writes es)).Alike (t.edited es) ∧ (t.edited es).Sound := by
  induction es generalizing s t with
  | nil => exact ⟨h, ht⟩
  | cons e es ih =>
    unfold Edit.writes at ih proper ⊢
    rw [List.filter_cons] at proper ⊢
    by_cases hread : e.isRead = true
    · -- Only the second run takes a step.
      rw [if_neg (by simp [hread])] at proper ⊢
      exact ih (h.trans (alike_read t hread)) hs (ht.read hread) proper
    · rw [if_pos (by simp [hread])] at proper ⊢
      obtain ⟨hfirst, hrest⟩ := proper
      exact ih (h.apply e) (hs.apply hfirst) (ht.apply (h.proper hfirst)) hrest

/-- **What is kept is never seen.**  After a run of proper edits from the empty
    scene, a read gives the matrix that the parents and the poses determine.
    Any run with the same writes gives the same answers, wherever it reads. -/
theorem worldMatrix_edited (tag : Nat) {es : List Edit} (proper : ProperFrom { tag } es)
    (id : ObjectId) :
    ((edited { tag } es).worldMatrix id).1 = (edited { tag } es).freshMatrix id ∧
    ((edited { tag } es).worldPosition id).1 = (edited { tag } es).freshPosition id ∧
    ((edited { tag } es).freshMatrix id =
      match (edited { tag } es).get? id with
      | none => .identity
      | some o =>
        (match o.parent with
         | none => .identity
         | some p => (edited { tag } es).freshMatrix p) *
          .ofScaleRotationTranslation o.transform.scale o.transform.rotation
            o.transform.translation) ∧
    ∀ es', Edit.writes es' = Edit.writes es →
      ((edited { tag } es').worldMatrix id).1 = ((edited { tag } es).worldMatrix id).1 ∧
      ((edited { tag } es').worldPosition id).1 = ((edited { tag } es).worldPosition id).1 := by
  have hempty : Sound { tag } := sound_empty tag
  -- Both runs go beside the writes that they share.
  have hwrites : ProperFrom { tag } (Edit.writes es) := proper.writes (.refl _)
  obtain ⟨halike, sound⟩ := (Alike.refl { tag }).edited hempty hempty hwrites
  refine ⟨sound.worldMatrix_fst id, sound.worldPosition_fst id,
    freshMatrix_eq sound.acyclic id, ?_⟩
  intro es' hes'
  rw [← hes'] at hwrites halike
  obtain ⟨halike', sound'⟩ := (Alike.refl { tag }).edited hempty hempty hwrites
  have hfresh : (edited { tag } es').freshMatrix id = (edited { tag } es).freshMatrix id :=
    (halike.symm.trans halike').freshMatrix sound.acyclic id
  rw [sound.worldMatrix_fst, sound'.worldMatrix_fst, sound.worldPosition_fst,
    sound'.worldPosition_fst]
  exact ⟨hfresh, congrArg Mat4.originImage hfresh⟩

/-- A child is read below one object and then hung below another one. -/
def rehanging : List Edit :=
  [ .createChild none "near", .createChild (some ⟨0, 0⟩) "child", .createChild none "far",
    .setTranslation ⟨0, 0⟩ .unitX, .readPosition ⟨0, 1⟩, .setParent ⟨0, 1⟩ (some ⟨0, 2⟩),
    .setTranslation ⟨0, 2⟩ .unitY ]

theorem worldMatrix_rehanging :
    ProperFrom { tag := 0 } rehanging ∧
    ((edited { tag := 0 } rehanging).worldMatrix ⟨0, 1⟩).1 =
      (edited { tag := 0 } rehanging).freshMatrix ⟨0, 1⟩ ∧
    ((edited { tag := 0 } (Edit.writes rehanging)).worldMatrix ⟨0, 1⟩).1 =
      ((edited { tag := 0 } rehanging).worldMatrix ⟨0, 1⟩).1 := by
  have proper : ProperFrom { tag := 0 } rehanging := by
    refine ⟨⟨by decide, trivial⟩, ⟨by decide, ?_⟩, ⟨by decide, trivial⟩, ⟨by decide, trivial⟩,
      ⟨by decide, trivial⟩, ⟨by decide, ?_⟩, ⟨by decide, trivial⟩, trivial⟩
    · trivial
    · intro _
      refine ⟨by decide, ?_⟩
      -- The new parent is at the top.
      rintro (h | h) <;> cases h
  obtain ⟨hfresh, _, _, hreads⟩ := worldMatrix_edited 0 proper ⟨0, 1⟩
  exact ⟨proper, hfresh, (hreads (Edit.writes rehanging) rfl).1⟩

end Scene

end Planetarium
