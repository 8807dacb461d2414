import Planetarium.Proofs.Scene.Clearing

/-! # Touches

    A scene hands out its objects, so a transform can also be changed past the
    scene.  Then the scene does not know what is stale, and a read may give the
    place of a moment ago.  It is enough to invalidate each object afterwards
    that has been touched so, in any order and whatever has been read meanwhile.

    * `Scene.Touched`: what becomes of a scene under edits, touches and
      invalidations.
    * `Scene.Disciplined`: what the marks of a scene say, and what invalidations
      and reads do to them.
    * `Grown.disciplined`: scenes that edits lead to are disciplined, and touched
      ones are so again after the invalidations. -/

namespace Planetarium.Scene

/-! ## Section 1: Edits and touches -/

namespace Orderly
variable {s : Scene} {touched : List ObjectId}

/-- A look at a local matrix may only mark an object that is marked already. -/
theorem readLocal (orderly : s.Orderly touched) (id : ObjectId) :
    (s.modifyTransform id .refreshLocal).Orderly touched := by
  have hview := fun x => transformOf?_modifyTransform s id x .refreshLocal
  have hparents := fun x => parentOf?_modifyTransform s id x .refreshLocal
  -- The look changes something only if the local matrix is stale.
  apply orderly.of_region (orderly.linked.modifyTransform id _)
    (U := fun x => ¬ s.Doubtful touched x ∧
      ¬ (s.Within x id ∧ ∃ r, s.transformOf? id = some r ∧ r.localStale = true))
  · exact fun hu =>
      localFresh_modifyTransform orderly.local_fresh (fun _ hold => hold.refreshLocal) hu
  · exact fun c p hc hp => ⟨fun h => hc.1 (h.of_parent hp), fun h => hc.2 ⟨.of_parent hp h.1, h.2⟩⟩
  · exact fun x hx => hx.1
  · exact fun x _ => hparents x
  · intro x hx
    rw [hview]
    split
    · next heq =>
      subst heq
      cases hr : s.transformOf? x with
      | none => rfl
      | some r =>
        have hclean : ¬ r.localStale = true := fun h => hx.2 ⟨.refl s x, r, hr, h⟩
        simp [Transform.refreshLocal, hclean]
    · rfl
  · intro x hx _
    by_cases hdoubt : s.Doubtful touched x
    · refine .inr (hdoubt.of_links ?_ hparents)
      exact fun {y} hy => (has_modifyTransform s id y _).trans hy
    · have hlooked : s.Within x id ∧ ∃ r, s.transformOf? id = some r ∧ r.localStale = true := by
        by_contra h
        exact hx ⟨hdoubt, h⟩
      obtain ⟨hwithin, r, hr, hmark⟩ := hlooked
      -- An object with a stale local matrix was marked, with all below it.
      have hid : s.Stale id :=
        orderly.stale_of_localStale (fun h => hdoubt (h.of_within hwithin)) hr hmark
      obtain ⟨u, hu, hold⟩ := orderly.stale_of_within hdoubt hwithin hid
      by_cases heq : x = id
      · refine .inl ⟨r.refreshLocal, by rw [hview, if_pos heq, heq, hr]; rfl, ?_⟩
        simp [Transform.refreshLocal, hmark]
      · exact .inl ⟨u, by rw [hview, if_neg heq, hu], hold⟩

/-- **Proper edits keep a scene orderly,** whatever has been touched. -/
theorem apply (orderly : s.Orderly touched) {e : Edit} (proper : e.Proper s) :
    (e.apply s).Orderly touched := by
  have hsettled := proper.ids_settled
  have hstep : ∀ (e : Transform.Step) (r : Transform), r.LocalFresh → (e.apply r).LocalFresh :=
    fun e _ hr => hr.apply e
  cases e with
  | createChild parent name =>
    apply orderly.createChild name
    intro p hp
    exact hsettled p (by simp [Edit.ids, hp])
  | setParent child parent =>
    apply orderly.setParent
    · intro p hp
      exact hsettled p (by simp [Edit.ids, hp])
    · intro hchild p hp hwithin
      subst hp
      obtain ⟨hne, hbelow⟩ := proper.keepsAcyclic hchild
      rcases hwithin with heq | habove
      · exact hne heq
      · exact hbelow habove
  | setTranslation id v => exact orderly.move id (hstep (.setTranslation v))
  | setRotation id q => exact orderly.move id (hstep (.setRotation q))
  | setScale id k => exact orderly.move id (hstep (.setScale k))
  | setTransform id v q k => exact orderly.move id (hstep (.setAll v q k))
  | rotate id q => exact orderly.move id (hstep (.rotate q))
  | translateLocal id delta => exact orderly.move id (hstep (.translateLocal delta))
  | attach id c => exact orderly.attach id c
  | clearComponents id => exact orderly.clearComponents id
  | readMatrix id => exact (orderly.readsWell_worldMatrix id).orderly
  | readPosition id => exact (orderly.readsWell_worldMatrix id).orderly

end Orderly

/-- **What becomes of a scene that is also changed past the operations.**  The list
    holds the objects that have been touched and not been invalidated since. -/
inductive Touched (s : Scene) : Scene → List ObjectId → Prop where
  | start : Touched s s []
  /-- An edit, which may be a read. -/
  | edit {t : Scene} {ids : List ObjectId} (before : Touched s t ids) {e : Edit}
    (proper : e.Proper t) : Touched s (e.apply t) ids
  /-- A look at the local matrix of an object. -/
  | readLocal {t : Scene} {ids : List ObjectId} (before : Touched s t ids) (id : ObjectId) :
    Touched s (t.modifyTransform id .refreshLocal) ids
  /-- Steps taken with the transform of an object. -/
  | change {t : Scene} {ids : List ObjectId} (before : Touched s t ids) (id : ObjectId)
    (steps : List Transform.Step) : Touched s (t.modifyTransform id (·.taken steps)) (id :: ids)
  /-- Another transform in the place of that of an object. -/
  | replace {t : Scene} {ids : List ObjectId} (before : Touched s t ids) (id : ObjectId)
    (story : Transform.Story) :
    Touched s (t.modifyTransform id fun _ => story.outcome) (id :: ids)
  | invalidate {t : Scene} {ids : List ObjectId} (before : Touched s t ids) (id : ObjectId) :
    Touched s (t.invalidate id) (ids.filter (· ≠ id))

theorem Grown.orderly {s : Scene} (grown : s.Grown) : s.Orderly [] := by
  induction grown with
  | empty tag => exact orderly_empty tag
  | edit _ proper ih => exact ih.apply proper

theorem Orderly.of_touched {s t : Scene} (orderly : s.Orderly []) {ids : List ObjectId}
    (h : s.Touched t ids) : t.Orderly ids := by
  induction h with
  | start => exact orderly
  | edit _ proper ih => exact ih.apply proper
  | readLocal _ id ih => exact ih.readLocal id
  | change _ id steps ih => exact ih.touch id fun _ hr => hr.taken steps
  | replace _ id story ih =>
    exact ih.touch id fun _ _ => (Transform.localFresh_ofTranslation story.start).taken story.steps
  | invalidate _ id ih => exact ih.invalidate id

/-- Invalidations of all that has been touched leave nothing in doubt. -/
theorem Orderly.invalidateAll {s : Scene} {touched ids : List ObjectId}
    (orderly : s.Orderly touched) (hall : ∀ x ∈ touched, x ∈ ids) :
    (ids.foldl Scene.invalidate s).Orderly [] := by
  induction ids generalizing s touched with
  | nil => exact orderly.mono hall
  | cons id ids ih =>
    -- What is still touched after the first one is among the others.
    apply ih (orderly.invalidate id)
    intro x hx
    obtain ⟨hmem, hne⟩ := List.mem_filter.mp hx
    rcases List.mem_cons.mp (hall x hmem) with heq | hrest
    · simp [heq] at hne
    · exact hrest

/-! ## Section 2: Discipline -/

/-- **What an invalidation of `id` leaves behind.**  The object and all that hangs
    below it are marked, and nothing else has changed. -/
structure Marked (s : Scene) (id : ObjectId) (t : Scene) : Prop where
  tag : t.tag = s.tag
  within : ∀ {x}, s.has id = true → s.Within x id →
    t.get? x = (s.get? x).map fun o => { o with transform := o.transform.invalidateWorld }
  outside : ∀ {x}, ¬ (s.has id = true ∧ s.Within x id) → t.get? x = s.get? x

theorem Linked.marked_invalidate {s : Scene} (linked : s.Linked) (id : ObjectId) :
    s.Marked id (s.invalidate id) := by
  constructor
  · exact tag_invalidate s id
  · intro x hid hx
    rw [get?_invalidate linked]
    simp only [Object.markedIf_of _ (And.intro hid hx)]
  · intro x hx
    rw [get?_invalidate linked]
    simp only [Object.markedIf_of_not _ hx, Option.map_id']

theorem Marked.stale_iff {s t : Scene} {id : ObjectId} (h : s.Marked id t) (x : ObjectId) :
    t.Stale x ↔ s.Stale x ∨ s.has id = true ∧ s.Within x id := by
  by_cases hx : s.has id = true ∧ s.Within x id
  · have hknown : s.has x = true := by
      rcases hx.2 with heq | hbelow
      · exact heq ▸ hx.1
      · exact hbelow.has
    obtain ⟨o, ho⟩ := exists_of_has hknown
    have hmarked : t.transformOf? x = some o.transform.invalidateWorld := by
      rw [transformOf?, h.within hx.1 hx.2, ho]
      rfl
    rw [Scene.stale_iff hmarked]
    exact iff_of_true rfl (.inr hx)
  · have hsame : t.transformOf? x = s.transformOf? x := by
      rw [transformOf?, transformOf?, h.outside hx]
    rw [stale_congr hsame]
    exact ⟨.inl, fun hstale => hstale.resolve_right hx⟩

/-- **The marks of a scene can be trusted.** -/
structure Disciplined (s : Scene) : Prop where
  /-- What hangs below something stale is stale. -/
  stale_of_below : ∀ {x a}, s.Below x a → s.Stale a → s.Stale x
  /-- A world matrix that is not stale was made of a local one that is not stale. -/
  localStale : ∀ {x t}, s.transformOf? x = some t → t.worldStale = false → t.localStale = false
  /-- An invalidation sets the marks of an object and of what hangs below it, -/
  stale_invalidate : ∀ id x,
    (s.invalidate id).Stale x ↔ s.Stale x ∨ s.has id = true ∧ s.Within x id
  /-- and changes nothing else. -/
  invalidate : ∀ id, s.Marked id (s.invalidate id)
  /-- A read clears the marks of an object and of those above it, -/
  stale_worldMatrix : ∀ id x,
    (s.worldMatrix id).2.Stale x ↔ s.Stale x ∧ ¬ s.Within id x
  /-- stores fresh matrices with those that were marked, and leaves all others alone. -/
  worldMatrix_snd : ∀ id, Refreshed (s.Within id ·) s (s.worldMatrix id).2
  /-- It gives what the parents and the poses determine. -/
  worldMatrix_fst : ∀ id, (s.worldMatrix id).1 = s.freshMatrix id

/-- An orderly scene is disciplined if nothing is left touched. -/
theorem disciplined_of_orderly {s : Scene} (orderly : s.Orderly []) : s.Disciplined := by
  have hread : ∀ id, Refreshed (s.Within id ·) s (s.worldMatrix id).2 :=
    fun id => orderly.refreshed_worldMatrixUpTo (depth_le_size s id)
  have hmarked : ∀ id, s.Marked id (s.invalidate id) := orderly.linked.marked_invalidate
  constructor
  · exact fun hbelow hstale => orderly.stale_of_within (not_doubtful_nil _) (.inr hbelow) hstale
  · exact fun ht hclean => (orderly.settled ht hclean (not_doubtful_nil _)).localStale
  · exact fun id x => (hmarked id).stale_iff x
  · exact hmarked
  · exact fun id x => (hread id).stale_iff x
  · exact hread
  · exact fun id => (orderly.readsWell_worldMatrix id).fresh (not_doubtful_nil id)

/-- **Marks are kept in discipline.**  They are so in every scene that proper edits
    lead to.  If transforms are changed past the scene, with any edits, reads and
    invalidations in between, they are so again as soon as every object is
    invalidated that has been touched and not been invalidated since. -/
theorem Grown.disciplined {s : Scene} (grown : s.Grown) :
    s.Disciplined ∧
    ∀ (t : Scene) (touched : List ObjectId), s.Touched t touched →
      ∀ ids : List ObjectId, (∀ x ∈ touched, x ∈ ids) →
        (ids.foldl Scene.invalidate t).Disciplined := by
  have orderly : s.Orderly [] := grown.orderly
  constructor
  · exact disciplined_of_orderly orderly
  · intro t touched htouched ids hall
    have hafter := (orderly.of_touched htouched).invalidateAll hall
    exact disciplined_of_orderly hafter

/-- A lamp at the end of an arm, both of them read. -/
def lamp : Scene :=
  edited { tag := 0 }
    [ .createChild none "arm", .createChild (some ⟨0, 0⟩) "lamp", .readMatrix ⟨0, 1⟩ ]

/-- The arm has been moved past the scene, and the lamp has been read once more. -/
def bentLamp : Scene :=
  ((lamp.modifyTransform ⟨0, 0⟩ (·.taken [.setTranslation .unitX])).worldMatrix ⟨0, 1⟩).2

theorem disciplined_lamp :
    lamp.Grown ∧ lamp.Disciplined ∧
    lamp.Touched bentLamp [⟨0, 0⟩] ∧ ¬ bentLamp.Disciplined ∧
    (bentLamp.invalidate ⟨0, 0⟩).Disciplined := by
  have grown : lamp.Grown := by
    apply (Grown.empty 0).edited
    exact ⟨⟨by decide, trivial⟩, ⟨by decide, trivial⟩, ⟨by decide, trivial⟩, trivial⟩
  have htouched : lamp.Touched bentLamp [⟨0, 0⟩] :=
    .edit (.change .start ⟨0, 0⟩ [.setTranslation .unitX]) (e := .readMatrix ⟨0, 1⟩)
      ⟨by decide, trivial⟩
  -- The arm is stale, and the lamp below it is not.
  have hbent : ¬ bentLamp.Disciplined := by
    intro h
    have harm : bentLamp.Stale ⟨0, 0⟩ := ⟨_, rfl, rfl⟩
    obtain ⟨r, hr, hmark⟩ := h.stale_of_below (x := ⟨0, 1⟩) (.direct rfl) harm
    have hclean : (bentLamp.transformOf? ⟨0, 1⟩).map (·.worldStale) = some false := rfl
    rw [hr] at hclean
    simp [hmark] at hclean
  obtain ⟨hlamp, hafter⟩ := grown.disciplined
  have hrepaired := hafter bentLamp [⟨0, 0⟩] htouched [⟨0, 0⟩] fun x hx => hx
  exact ⟨grown, hlamp, htouched, hbent, hrepaired⟩

end Planetarium.Scene
