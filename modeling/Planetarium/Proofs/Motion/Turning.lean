import Mathlib.Tactic.IntervalCases
import Planetarium.Proofs.Scene.Rehanging

/-! # Turning

    The spins turn their frames one after another, and each turn marks the whole
    subtree of its frame.  Frames hang below frames, so what is marked overlaps.

    In a forest nothing depends on that: an object is turned by its own spins, in
    their order, and is marked if anything turns at it or above it.

    * `Object.turned`: what the spins of an object make of it.
    * `get?_advance`: so much becomes of every object, and no more.
    * `Turned`: all that can be said of a scene whose frames have been turned.
    * `advance_turned`: frames turn so in every forest, and the order of the spins
      of different objects does not count. -/

namespace Planetarium

/-! ## Section 1: One object -/

/-- A rotation that some spins have turned further, one after another. -/
def Quat.turned (seconds : Float32) (spins : List Spin) (q : Quat) : Quat :=
  spins.foldl (fun q spin => (q * spin.rotationOver seconds).normalize) q

/-- The spins of one object among all of them, in the same order. -/
def Spin.ofObject (spins : List (ObjectId × Spin)) (x : ObjectId) : List Spin :=
  (spins.filter (·.1 = x)).map (·.2)

/-- The spins of an object, in the order in which they were added. -/
def Frames.spinsOf (fs : Frames) (x : ObjectId) : List Spin := Spin.ofObject fs.spins x

namespace Spin
variable (e : ObjectId × Spin) (spins : List (ObjectId × Spin)) (x : ObjectId)

theorem ofObject_cons :
    ofObject (e :: spins) x = if e.1 = x then e.2 :: ofObject spins x else ofObject spins x := by
  unfold ofObject
  rw [List.filter_cons]
  by_cases he : e.1 = x <;> simp [he]

/-- Spins of others may be left out. -/
theorem ofObject_filter {known : ObjectId → Bool} (hx : known x = true) :
    ofObject (spins.filter (known ·.1)) x = ofObject spins x := by
  unfold ofObject
  rw [List.filter_filter]
  congr 1
  refine List.filter_congr fun e _ => ?_
  by_cases he : e.1 = x <;> simp [he, hx]

theorem ofObject_eq_nil_iff : ofObject spins x = [] ↔ ∀ e ∈ spins, e.1 ≠ x := by
  simp [ofObject, List.filter_eq_nil_iff]

theorem mem_ofObject_iff (spin : Spin) : spin ∈ ofObject spins x ↔ (x, spin) ∈ spins := by
  simp [ofObject]

end Spin

/-- The transform after some spins have turned it. -/
def Transform.turned (seconds : Float32) (spins : List Spin) (t : Transform) : Transform :=
  spins.foldl (fun t spin => t.rotate (spin.rotationOver seconds)) t

namespace Transform
variable (seconds : Float32) (spins : List Spin) (t : Transform)

/-- **What spins make of a transform.**  The rotation is turned by each of them, and
    the marks are set if there is one.  The matrices stay. -/
theorem turned_eq :
    t.turned seconds spins =
      { t with
        rotation := t.rotation.turned seconds spins
        localStale := t.localStale || !spins.isEmpty
        worldStale := t.worldStale || !spins.isEmpty } := by
  induction spins generalizing t with
  | nil => simp [turned, Quat.turned]
  | cons spin spins ih =>
    have hfirst := ih (t.rotate (spin.rotationOver seconds))
    unfold turned at hfirst ⊢
    rw [List.foldl_cons, hfirst]
    simp [rotate, invalidateLocal, Quat.turned]

end Transform

namespace Object
variable (seconds : Float32) (spins : List Spin) (P : Prop) (o : Object)

/-- The object after some spins have turned it. -/
def turned : Object := { o with transform := o.transform.turned seconds spins }

/-- A mark is about the world matrix. -/
theorem transform_markedIf :
    (o.markedIf P).transform =
      { o.transform with worldStale := (o.markedIf P).transform.worldStale } := by
  unfold markedIf
  split <;> rfl

theorem worldStale_markedIf :
    (o.markedIf P).transform.worldStale = true ↔ P ∨ o.transform.worldStale = true := by
  by_cases hP : P <;> simp [markedIf, hP, Transform.invalidateWorld]

/-- An object is marked by what turns it, so earlier marks make no difference. -/
theorem turned_markedIf : (o.markedIf P).turned seconds spins = (o.turned seconds spins).markedIf P := by
  by_cases hP : P
  · simp only [markedIf, if_pos hP, turned, Transform.turned_eq, Transform.invalidateWorld,
      Bool.true_or]
  · simp only [markedIf, if_neg hP]

theorem portrait_turned :
    (o.turned seconds spins).portrait =
      { o.portrait with pose.rotation := o.portrait.pose.rotation.turned seconds spins } := by
  simp only [portrait, turned, Transform.turned_eq, Transform.pose]

theorem turned_cons (spin : Spin) :
    o.turned seconds (spin :: spins) =
      Object.turned seconds spins
        { o with transform := o.transform.rotate (spin.rotationOver seconds) } := rfl

end Object

namespace Scene

/-! ## Section 2: Every object -/

/-- Nothing moves if the object is not there. -/
theorem move_of_not_has {s : Scene} {id : ObjectId} (h : ¬ s.has id = true)
    (f : Transform → Transform) : s.move id f = s := by
  refine eq_of_get? (tag_move s id f) fun x => ?_
  have hmoved : (s.modifyTransform id f).get? x = s.get? x := by
    unfold modifyTransform
    rw [get?_modify]
    split
    · next hx =>
      subst hx
      rw [get?_of_not_has h]
      rfl
    · rfl
  -- The search for what to mark ends where it begins.
  have hmeets : ∀ depth, ¬ (s.modifyTransform id f).Meets depth id x := by
    intro depth hx
    cases depth with
    | zero => exact hx
    | succ depth => exact h ((has_modifyTransform s id id f).symm.trans hx.1)
  unfold move invalidate
  rw [get?_invalidateTo, hmoved]
  cases s.get? x with
  | none => rfl
  | some o => exact congrArg some (o.markedIf_of_not (hmeets _))

/-- The scene after some spins have turned their objects. -/
def spun (s : Scene) (seconds : Float32) (spins : List (ObjectId × Spin)) : Scene :=
  spins.foldl (fun s e => s.rotate e.1 (e.2.rotationOver seconds)) s

/-- Something turns at the object or above it. -/
def TurnsAbove (s : Scene) (spins : List (ObjectId × Spin)) (x : ObjectId) : Prop :=
  ∃ e ∈ spins, s.has e.1 = true ∧ s.Within x e.1

theorem turnsAbove_cons (s : Scene) (e : ObjectId × Spin) (spins : List (ObjectId × Spin))
    (x : ObjectId) :
    s.TurnsAbove (e :: spins) x ↔
      (s.has e.1 = true ∧ s.Within x e.1) ∨ s.TurnsAbove spins x := by
  simp [TurnsAbove]

theorem turnsAbove_move (s : Scene) (id : ObjectId) (f : Transform → Transform)
    (spins : List (ObjectId × Spin)) (x : ObjectId) :
    (s.move id f).TurnsAbove spins x ↔ s.TurnsAbove spins x := by
  unfold TurnsAbove
  simp only [has_move, within_congr fun y => parentOf?_move s id y f]

/-- An object is marked by turns at it and above it, and turned by its own spins.
    Marks come in between, but a turn does not read them. -/
theorem get?_spun {s : Scene} (linked : s.Linked) (seconds : Float32)
    (spins : List (ObjectId × Spin)) (x : ObjectId) (hx : s.has x = true) :
    (s.spun seconds spins).get? x =
      (s.get? x).map fun o =>
        (o.turned seconds (Spin.ofObject spins x)).markedIf (s.TurnsAbove spins x) := by
  induction spins generalizing s with
  | nil =>
    have hnone : ¬ s.TurnsAbove [] x := by simp [TurnsAbove]
    show s.get? x = _
    cases s.get? x with
    | none => rfl
    | some o =>
      rw [Option.map_some, Object.markedIf_of_not _ hnone]
      rfl
  | cons e spins ih =>
    show ((s.rotate e.1 (e.2.rotationOver seconds)).spun seconds spins).get? x = _
    by_cases hknown : s.has e.1 = true
    · have hrest := ih (linked.move e.1 fun t => t.rotate (e.2.rotationOver seconds))
        ((has_move s e.1 x _).trans hx)
      rw [get?_move linked hknown, Option.map_map] at hrest
      refine hrest.trans (congrArg (Option.map · (s.get? x)) (funext fun o => ?_))
      have habove : (s.Within x e.1 ∨ s.TurnsAbove spins x) ↔ s.TurnsAbove (e :: spins) x := by
        rw [turnsAbove_cons]
        simp only [hknown, true_and]
      have hturned : (o.movedAt e.1 (·.rotate (e.2.rotationOver seconds)) x).turned seconds
          (Spin.ofObject spins x) = o.turned seconds (Spin.ofObject (e :: spins) x) := by
        rw [Spin.ofObject_cons]
        by_cases he : e.1 = x
        · rw [if_pos he, Object.turned_cons, Object.movedAt, if_pos he.symm]
        · rw [if_neg he, Object.movedAt, if_neg (Ne.symm he)]
      show ((((o.movedAt _ _ x).markedIf _).turned seconds _).markedIf _) = _
      rw [Object.turned_markedIf, Object.markedIf_markedIf, hturned, turnsAbove_move]
      simp only [habove]
    · -- The spin of an unknown object turns nothing, and the object is not this one.
      have he : e.1 ≠ x := fun he => hknown (he ▸ hx)
      have hskip : s.rotate e.1 (e.2.rotationOver seconds) = s := move_of_not_has hknown _
      have habove : s.TurnsAbove (e :: spins) x ↔ s.TurnsAbove spins x := by
        rw [turnsAbove_cons]
        exact or_iff_right fun h => hknown h.1
      rw [hskip, ih linked hx, Spin.ofObject_cons, if_neg he]
      simp only [habove]

/-! ## Section 3: All frames -/

theorem tag_advance (fs : Frames) (s : Scene) (seconds : Float32) :
    (fs.advance s seconds).tag = s.tag :=
  foldl_keeps Scene.tag (fun _ _ => tag_move _ _ _) fs.spins s

theorem size_advance (fs : Frames) (s : Scene) (seconds : Float32) :
    (fs.advance s seconds).size = s.size :=
  foldl_keeps Scene.size (fun _ _ => size_move _ _ _) fs.spins s

section advance
variable {s : Scene} (linked : s.Linked) (fs : Frames) (seconds : Float32) (x : ObjectId)
include linked

theorem get?_advance :
    (fs.advance s seconds).get? x =
      (s.get? x).map fun o =>
        (o.turned seconds (fs.spinsOf x)).markedIf (s.TurnsAbove fs.spins x) := by
  by_cases hx : s.has x = true
  · exact get?_spun linked seconds fs.spins x hx
  · have hx' : ¬ (fs.advance s seconds).has x = true := by
      rw [has_advance]
      exact hx
    rw [get?_of_not_has hx, get?_of_not_has hx']
    rfl

omit linked in
theorem turnsAbove_spins_iff :
    s.TurnsAbove fs.spins x ↔ ∃ a, s.has a = true ∧ s.Within x a ∧ fs.spinsOf a ≠ [] := by
  constructor
  · rintro ⟨e, he, hhas, hwithin⟩
    exact ⟨e.1, hhas, hwithin, fun hnil => (Spin.ofObject_eq_nil_iff _ _).mp hnil e he rfl⟩
  · rintro ⟨a, hhas, hwithin, hspins⟩
    obtain ⟨spin, hspin⟩ := List.exists_mem_of_ne_nil _ hspins
    exact ⟨(a, spin), (Spin.mem_ofObject_iff _ _ _).mp hspin, hhas, hwithin⟩

/-- **The spins of each object of the scene are all that counts.** -/
theorem advance_congr {fs fs' : Frames} (h : ∀ x, s.has x = true → fs'.spinsOf x = fs.spinsOf x) :
    fs'.advance s seconds = fs.advance s seconds := by
  have habove : ∀ x, s.TurnsAbove fs'.spins x ↔ s.TurnsAbove fs.spins x := by
    intro x
    rw [turnsAbove_spins_iff, turnsAbove_spins_iff]
    refine exists_congr fun a => and_congr_right fun ha => ?_
    rw [h a ha]
  refine eq_of_get? ?_ fun x => ?_
  · exact (tag_advance fs' s seconds).trans (tag_advance fs s seconds).symm
  · rw [get?_advance linked, get?_advance linked]
    cases ho : s.get? x with
    | none => rfl
    | some o => simp only [Option.map_some, habove, h x (has_of_get? ho)]

end advance

/-- **A scene whose frames have been turned.** -/
structure Turned (fs : Frames) (seconds : Float32) (s t : Scene) : Prop where
  tag : t.tag = s.tag
  size : t.size = s.size
  /-- Each spin of an object turns its rotation once, in the order in which they were
      added.  All else that is to be seen of an object stays. -/
  portrait : ∀ x, t.portrait? x = (s.portrait? x).map fun p =>
    { p with pose.rotation := p.pose.rotation.turned seconds (fs.spinsOf x) }
  /-- An object without spins stays as it is. -/
  still : ∀ x, fs.spinsOf x = [] → t.portrait? x = s.portrait? x
  /-- No matrix is computed. -/
  matrices : ∀ x, (t.transformOf? x).map (fun r => (r.localMatrix, r.worldMatrix)) =
    (s.transformOf? x).map fun r => (r.localMatrix, r.worldMatrix)
  /-- A local matrix is stale if it was before, or if the object has a spin. -/
  localStale : ∀ x, (t.transformOf? x).map (·.localStale) =
    (s.transformOf? x).map fun r => r.localStale || !(fs.spinsOf x).isEmpty
  /-- A world matrix is stale if it was before, or if the object or anything above
      it has a spin. -/
  worldStale : ∀ x r, s.transformOf? x = some r → ∃ r', t.transformOf? x = some r' ∧
    (r'.worldStale = true ↔ r.worldStale = true ∨
      ∃ a, s.has a = true ∧ s.Within x a ∧ fs.spinsOf a ≠ [])

theorem turned_advance {s : Scene} (linked : s.Linked) (fs : Frames) (seconds : Float32) :
    s.Turned fs seconds (fs.advance s seconds) := by
  have hget := get?_advance linked fs seconds
  have htransform : ∀ x, (fs.advance s seconds).transformOf? x = (s.get? x).map fun o =>
      ((o.turned seconds (fs.spinsOf x)).markedIf (s.TurnsAbove fs.spins x)).transform := by
    intro x
    rw [transformOf?, hget, Option.map_map]
    rfl
  have hportrait : ∀ x, (fs.advance s seconds).portrait? x = (s.portrait? x).map fun p =>
      { p with pose.rotation := p.pose.rotation.turned seconds (fs.spinsOf x) } := by
    intro x
    unfold portrait?
    rw [hget, Option.map_map, Option.map_map]
    congr 1
    funext o
    exact ((o.turned _ _).portrait_markedIf _).trans (o.portrait_turned seconds (fs.spinsOf x))
  refine ⟨tag_advance fs s seconds, size_advance fs s seconds, hportrait, ?_, ?_, ?_, ?_⟩
  · intro x hx
    rw [hportrait, hx]
    cases s.portrait? x <;> rfl
  · intro x
    rw [htransform, transformOf?, Option.map_map, Option.map_map]
    congr 1
    funext o
    rw [Function.comp_apply, Object.transform_markedIf, Object.turned, Transform.turned_eq]
    rfl
  · intro x
    rw [htransform, transformOf?, Option.map_map, Option.map_map]
    congr 1
    funext o
    rw [Function.comp_apply, Object.transform_markedIf, Object.turned, Transform.turned_eq]
    rfl
  · intro x r hr
    obtain ⟨o, ho, rfl⟩ := Option.map_eq_some_iff.mp hr
    have hx : s.has x = true := has_of_get? ho
    refine ⟨_, by rw [htransform, ho]; rfl, ?_⟩
    -- The spins of the object itself are among those at it or above it.
    have hown : fs.spinsOf x ≠ [] → ∃ a, s.has a = true ∧ s.Within x a ∧ fs.spinsOf a ≠ [] :=
      fun hspins => ⟨x, hx, .refl s x, hspins⟩
    rw [Object.worldStale_markedIf, turnsAbove_spins_iff, Object.turned, Transform.turned_eq]
    simp only [Bool.or_eq_true, Bool.not_eq_true', List.isEmpty_eq_false_iff]
    constructor
    · rintro (habove | hstale | hspins)
      · exact .inr habove
      · exact .inl hstale
      · exact .inr (hown hspins)
    · exact fun h => h.symm.imp_right .inl

/-- **Frames turn by their own spins, in whatever order.**  Spins of unknown objects do
    nothing.  Two tables that keep the spins of each object in the same order make
    the same scene, marks included. -/
theorem advance_turned {s : Scene} (forest : s.IsForest) (fs : Frames) (seconds : Float32) :
    s.Turned fs seconds (fs.advance s seconds) ∧
    { fs with spins := fs.spins.filter (s.has ·.1) }.advance s seconds =
      fs.advance s seconds ∧
    ∀ fs' : Frames, (∀ x, fs'.spinsOf x = fs.spinsOf x) →
      fs'.advance s seconds = fs.advance s seconds := by
  have linked : s.Linked := forest.linked
  constructor
  · exact turned_advance linked fs seconds
  constructor
  · exact advance_congr linked seconds fun x hx => Spin.ofObject_filter fs.spins x hx
  · exact fun fs' h => advance_congr linked seconds fun x _ => h x

/-- A moon that goes round a planet, which goes round a hub. -/
def carousel : Scene :=
  edited { tag := 0 }
    [ .createChild none "hub", .createChild (some ⟨0, 0⟩) "planet",
      .createChild (some ⟨0, 1⟩) "moon", .setTranslation ⟨0, 1⟩ .unitX ]

/-- The hub spins twice, the planet once, and so does an object that is not there. -/
def carouselSpins : List (ObjectId × Spin) :=
  [ (⟨0, 0⟩, .aboutY 10), (⟨0, 1⟩, .aboutY 20), (⟨0, 9⟩, .aboutY 30), (⟨0, 0⟩, .aboutY 40) ]

/-- The same spins, with the planet first. -/
def carouselSpins' : List (ObjectId × Spin) :=
  [ (⟨0, 1⟩, .aboutY 20), (⟨0, 0⟩, .aboutY 10), (⟨0, 0⟩, .aboutY 40), (⟨0, 9⟩, .aboutY 30) ]

theorem advance_turned_carousel :
    carousel.IsForest ∧ (∀ x, Spin.ofObject carouselSpins' x = Spin.ofObject carouselSpins x) ∧
    carousel.Turned ⟨{}, carouselSpins⟩ 1 (Frames.advance ⟨{}, carouselSpins⟩ carousel 1) ∧
    Frames.advance ⟨{}, carouselSpins'⟩ carousel 1 =
      Frames.advance ⟨{}, carouselSpins⟩ carousel 1 := by
  have grown : carousel.Grown := by
    apply (Grown.empty 0).edited
    exact ⟨⟨by decide, trivial⟩, ⟨by decide, trivial⟩, ⟨by decide, trivial⟩, ⟨by decide, trivial⟩,
      trivial⟩
  have anchored : carousel.Anchored := by
    intro c p h
    obtain ⟨htag, hlt⟩ := (has_iff carousel c).mp (has_of_parentOf? h)
    obtain ⟨a, n⟩ := c
    obtain rfl : a = 0 := htag
    have hn : n < 3 := hlt
    interval_cases n <;> cases h <;> decide
  have forest : carousel.IsForest := grown.sound.linked.isForest anchored
  have hspins : ∀ x, Spin.ofObject carouselSpins' x = Spin.ofObject carouselSpins x := by
    intro x
    unfold carouselSpins carouselSpins'
    simp only [Spin.ofObject_cons]
    by_cases h0 : (⟨0, 0⟩ : ObjectId) = x
    · subst h0
      rfl
    · simp [h0]
  obtain ⟨hturned, -, horder⟩ := advance_turned forest ⟨{}, carouselSpins⟩ 1
  exact ⟨forest, hspins, hturned, horder ⟨{}, carouselSpins'⟩ hspins⟩

end Scene

end Planetarium
