import Mathlib.Data.List.Forall2
import Mathlib.Data.List.Induction
import Planetarium.Proofs.Scene.Views

/-! # Transforms

    A transform keeps two matrices with a mark for each, and almost everything
    that is done to it moves a mark.  A world matrix may be stored while the
    local one is stale, and then the next read of the local matrix makes the
    stored one stale again.  So the marks depend on the order of the steps.

    What has been done to a transform is its story.  The story alone tells what
    the transform holds, and a copy goes on with the story of its original.

    * `Transform.Step`: all that can be done to a transform.
    * `Transform.Standing`: a step that still counts, since nothing after it has
      undone it.
    * `Story.Tracks`: what a story tells about a transform.
    * `copies_track`: it tells so about each of several transforms, some of them
      copies of others. -/

namespace Planetarium.Transform

/-! ## Section 1: Steps -/

/-- Something done to a transform. -/
inductive Step where
  | setTranslation (v : Vec3)
  | setRotation (q : Quat)
  | setScale (k : Vec3)
  | setAll (v : Vec3) (q : Quat) (k : Vec3)
  | rotate (q : Quat)
  | translateLocal (delta : Vec3)
  /-- Asks for the local matrix. -/
  | readLocal
  | invalidateLocal
  | invalidateWorld
  /-- Stores a world matrix. -/
  | store (m : Mat4)

namespace Step

/-- The transform after a step. -/
def apply (t : Transform) : Step → Transform
  | .setTranslation v => t.setTranslation v
  | .setRotation q => t.setRotation q
  | .setScale k => t.setScale k
  | .setAll v q k => t.setAll v q k
  | .rotate q => t.rotate q
  | .translateLocal delta => t.translateLocal delta
  | .readLocal => t.refreshLocal
  | .invalidateLocal => t.invalidateLocal
  | .invalidateWorld => t.invalidateWorld
  | .store m => t.setWorldMatrix m

/-- The pose after a step. -/
def pose (p : Pose) : Step → Pose
  | .setTranslation v => { p with translation := v }
  | .setRotation q => { p with rotation := q }
  | .setScale k => { p with scale := k }
  | .setAll v q k => ⟨v, q, k⟩
  | .rotate q => { p with rotation := (p.rotation * q).normalize }
  | .translateLocal delta => { p with translation := p.translation + p.rotation.apply delta }
  | _ => p

/-- The world matrix that a step stores. -/
def stored? : Step → Option Mat4
  | .store m => some m
  | _ => none

/-- The step leaves the local matrix stale. -/
def SpoilsLocal : Step → Prop
  | .readLocal => False
  | .invalidateWorld => False
  | .store _ => False
  | _ => True

/-- The step leaves the world matrix stale when it is taken with `t`.  A read of
    the local matrix does so if it finds the local matrix stale. -/
def SpoilsWorld (t : Transform) : Step → Prop
  | .readLocal => t.localStale = true
  | .store _ => False
  | _ => True

end Step

/-- The transform after some steps, one after another. -/
def taken (t : Transform) (steps : List Step) : Transform := steps.foldl Step.apply t

theorem taken_concat (t : Transform) (steps : List Step) (e : Step) :
    t.taken (steps ++ [e]) = e.apply (t.taken steps) := by
  unfold taken
  rw [List.foldl_append]
  rfl

/-- A local matrix that is not stale is the placement. -/
def LocalFresh (t : Transform) : Prop := t.localStale = false → t.localMatrix = t.placement

theorem localFresh_ofTranslation (v : Vec3) : (ofTranslation v).LocalFresh := by
  intro h
  cases h

section step
variable (t : Transform) (e : Step)

theorem pose_apply : (e.apply t).pose = e.pose t.pose := by
  cases e with
  | readLocal => exact t.pose_refreshLocal
  | _ => rfl

theorem worldMatrix_apply : (e.apply t).worldMatrix = e.stored?.getD t.worldMatrix := by
  cases e with
  | readLocal =>
    show t.refreshLocal.worldMatrix = t.worldMatrix
    unfold refreshLocal
    split <;> rfl
  | _ => rfl

theorem localStale_refreshLocal : t.refreshLocal.localStale = false := by
  unfold refreshLocal
  split
  · rfl
  · next h => simpa using h

theorem worldStale_refreshLocal :
    t.refreshLocal.worldStale = false ↔ t.localStale = false ∧ t.worldStale = false := by
  unfold refreshLocal
  by_cases h : t.localStale = true <;> simp [h]

/-- A local matrix is current after a read, and stays so until a step spoils it. -/
theorem localStale_apply :
    (e.apply t).localStale = false ↔
      e = .readLocal ∨ ¬ e.SpoilsLocal ∧ t.localStale = false := by
  cases e with
  | readLocal => simp [Step.apply, localStale_refreshLocal]
  | _ =>
    simp [Step.apply, Step.SpoilsLocal, setTranslation, setRotation, setScale, setAll, rotate,
      translateLocal, invalidateLocal, invalidateWorld, setWorldMatrix]

/-- A world matrix is current after it is stored, and stays so until a step spoils it. -/
theorem worldStale_apply :
    (e.apply t).worldStale = false ↔
      (∃ m, e = .store m) ∨ ¬ e.SpoilsWorld t ∧ t.worldStale = false := by
  cases e with
  | readLocal => simp [Step.apply, Step.SpoilsWorld, worldStale_refreshLocal]
  | _ =>
    simp [Step.apply, Step.SpoilsWorld, setTranslation, setRotation, setScale, setAll, rotate,
      translateLocal, invalidateLocal, invalidateWorld, setWorldMatrix]

variable {t}

theorem LocalFresh.refreshLocal (h : t.LocalFresh) : t.refreshLocal.LocalFresh := by
  unfold Transform.refreshLocal
  split
  · exact fun _ => rfl
  · exact h

/-- A world matrix has no part in it. -/
theorem LocalFresh.setWorldMatrix (h : t.LocalFresh) (m : Mat4) :
    (t.setWorldMatrix m).LocalFresh := h

/-- No step hands out a local matrix that is not that of the pose. -/
theorem LocalFresh.apply (h : t.LocalFresh) : (e.apply t).LocalFresh := by
  cases e with
  | readLocal => exact h.refreshLocal
  | invalidateWorld => exact h
  | store m => exact h.setWorldMatrix m
  | _ =>
    intro hfalse
    cases hfalse

theorem LocalFresh.taken (h : t.LocalFresh) (steps : List Step) : (t.taken steps).LocalFresh := by
  induction steps using List.reverseRecOn with
  | nil => exact h
  | append_singleton steps e ih =>
    rw [taken_concat]
    exact ih.apply e

/-- The local matrix that is handed out is that of the present pose. -/
theorem LocalFresh.readLocal (h : t.LocalFresh) : t.readLocal = t.pose.matrix := by
  have hread : t.refreshLocal.localMatrix = t.refreshLocal.placement :=
    h.refreshLocal t.localStale_refreshLocal
  calc t.readLocal = t.refreshLocal.placement := hread
    _ = t.refreshLocal.pose.matrix := placement_eq_matrix _
    _ = t.pose.matrix := by rw [pose_refreshLocal]

theorem LocalFresh.localMatrix_refreshLocal (h : t.LocalFresh) :
    t.refreshLocal.localMatrix = t.placement :=
  h.readLocal

end step

/-! ## Section 2: Steps that still count -/

/-- **Some step `counts`, and no step after it `undoes` it.**  Whether a step
    undoes anything may depend on the steps before it. -/
def Standing (counts : Step → Prop) (undoes : List Step → Step → Prop) (steps : List Step) :
    Prop :=
  ∃ before e after, steps = before ++ e :: after ∧ counts e ∧
    ∀ mid e' rest, after = mid ++ e' :: rest → ¬ undoes (before ++ e :: mid) e'

section standing
variable {counts : Step → Prop} {undoes : List Step → Step → Prop}

theorem not_standing_nil : ¬ Standing counts undoes [] := by
  intro ⟨before, e, after, h, _⟩
  simp at h

/-- The last step counts, or it leaves standing what stood before. -/
theorem standing_concat (steps : List Step) (e : Step) :
    Standing counts undoes (steps ++ [e]) ↔
      counts e ∨ ¬ undoes steps e ∧ Standing counts undoes steps := by
  constructor
  · intro ⟨before, e₀, after, h, hcounts, hlater⟩
    rcases List.eq_nil_or_concat' after with hnil | ⟨after', last, hlast⟩
    · -- Nothing comes after the step that counts, so it is the last one.
      subst hnil
      obtain ⟨_, he⟩ := List.append_inj' h rfl
      cases he
      exact .inl hcounts
    · subst hlast
      rw [← List.cons_append, ← List.append_assoc] at h
      obtain ⟨hsteps, he⟩ := List.append_inj' h rfl
      cases he
      subst hsteps
      refine .inr ⟨hlater after' e [] rfl, before, e₀, after', rfl, hcounts, ?_⟩
      intro mid e' rest hmid
      exact hlater mid e' (rest ++ [e]) (by simp [hmid])
  · intro h
    rcases h with hcounts | ⟨hkeeps, before, e₀, after, hsteps, hcounts, hlater⟩
    · exact ⟨steps, e, [], rfl, hcounts, fun mid e' rest h => by simp at h⟩
    · subst hsteps
      refine ⟨before, e₀, after ++ [e], by simp, hcounts, ?_⟩
      intro mid e' rest hmid
      rcases List.eq_nil_or_concat' rest with hnil | ⟨rest', last, hlast⟩
      · subst hnil
        obtain ⟨hafter, he⟩ := List.append_inj' hmid rfl
        cases he
        subst hafter
        exact hkeeps
      · subst hlast
        rw [← List.cons_append, ← List.append_assoc] at hmid
        obtain ⟨hafter, _⟩ := List.append_inj' hmid rfl
        exact hlater mid e' rest' hafter

end standing

/-! ## Section 3: Stories -/

/-- How a transform was made, and what has been done to it since. -/
structure Story where
  start : Vec3
  steps : List Step := []

namespace Story

/-- The story after a further step. -/
def add (s : Story) (e : Step) : Story := { s with steps := s.steps ++ [e] }

/-- The transform that the steps of a story make of the first one. -/
def outcome (s : Story) : Transform := (ofTranslation s.start).taken s.steps

/-- The pose that the setters of a story lead to. -/
def pose (s : Story) : Pose := s.steps.foldl Step.pose ⟨s.start, .identity, .one⟩

/-- The world matrix stored last, or the identity. -/
def lastStored (s : Story) : Mat4 := (s.steps.filterMap Step.stored?).getLast?.getD .identity

/-- **What a story tells about its transform.** -/
structure Tracks (s : Story) (t : Transform) : Prop where
  pose : t.pose = s.pose
  /-- A read of the local matrix gives the matrix of the pose at that moment. -/
  readLocal : t.readLocal = s.pose.matrix
  /-- The world matrix is the one stored last. -/
  worldMatrix : t.worldMatrix = s.lastStored
  /-- The local matrix is current if there was a read of it that stands: no setter
      and no invalidation of the local matrix came after. -/
  localStale : t.localStale = false ↔
    Standing (· = .readLocal) (fun _ e => e.SpoilsLocal) s.steps
  /-- The world matrix is current if one was stored and stands: no setter, no
      invalidation and no read that found the local matrix stale came after. -/
  worldStale : t.worldStale = false ↔
    Standing (fun e => ∃ m, e = .store m)
      (fun before e => e.SpoilsWorld ((ofTranslation s.start).taken before)) s.steps

section outcome
variable (s : Story) (e : Step)

theorem outcome_add : (s.add e).outcome = e.apply s.outcome := taken_concat _ s.steps e

theorem pose_add : (s.add e).pose = e.pose s.pose := by
  unfold pose add
  rw [List.foldl_append]
  rfl

theorem lastStored_add : (s.add e).lastStored = e.stored?.getD s.lastStored := by
  unfold lastStored add
  rw [List.filterMap_append]
  cases h : e.stored? <;> simp [h]

/-- A story goes on to tell what it should. -/
theorem Tracks.add {s : Story} (h : s.Tracks s.outcome) : (s.add e).Tracks (s.add e).outcome := by
  have hfresh : (s.add e).outcome.LocalFresh := (localFresh_ofTranslation s.start).taken _
  have hpose : (s.add e).outcome.pose = (s.add e).pose := by
    rw [outcome_add, pose_apply, h.pose, pose_add]
  constructor
  · exact hpose
  · rw [hfresh.readLocal, hpose]
  · rw [outcome_add, worldMatrix_apply, h.worldMatrix, lastStored_add]
  · rw [outcome_add, localStale_apply, h.localStale]
    unfold Story.add
    rw [standing_concat]
  · rw [outcome_add, worldStale_apply, h.worldStale]
    unfold Story.add
    rw [standing_concat]
    rfl

/-- **A story tells what becomes of its transform.** -/
theorem tracks_outcome : s.Tracks s.outcome := by
  obtain ⟨start, steps⟩ := s
  induction steps using List.reverseRecOn with
  | nil =>
    constructor
    · rfl
    · rfl
    · rfl
    · exact iff_of_false Bool.noConfusion not_standing_nil
    · exact iff_of_false Bool.noConfusion not_standing_nil
  | append_singleton steps e ih => exact ih.add e

end outcome

end Story

/-! ## Section 4: Copies -/

/-- Something done with several transforms, which are numbered in the order in
    which they were made. -/
inductive Use where
  /-- Makes a further transform. -/
  | make (v : Vec3)
  /-- Makes a further transform as a copy of one. -/
  | copy (k : Nat)
  /-- Takes a step with one of them. -/
  | act (k : Nat) (e : Step)

namespace Use

/-- The transforms after a use. -/
def apply (ts : List Transform) : Use → List Transform
  | .make v => ts ++ [ofTranslation v]
  | .copy k => ts ++ ts[k]?.toList
  | .act k e => ts.modify k e.apply

/-- The stories after a use.  A copy begins with the story of its original. -/
def tell (ss : List Story) : Use → List Story
  | .make v => ss ++ [{ start := v }]
  | .copy k => ss ++ ss[k]?.toList
  | .act k e => ss.modify k (·.add e)

/-- The step that a use takes with a transform. -/
def stepOn? (k : Nat) : Use → Option Step
  | .act j e => if j = k then some e else none
  | _ => none

end Use

/-- The transforms that some uses make. -/
def used (us : List Use) : List Transform := us.foldl Use.apply []

/-- The stories of the transforms that some uses make. -/
def stories (us : List Use) : List Story := us.foldl Use.tell []

/-- The steps that some uses take with a transform. -/
def stepsOn (k : Nat) (us : List Use) : List Step := us.filterMap (·.stepOn? k)

section uses

theorem apply_map_outcome (ss : List Story) (u : Use) :
    u.apply (ss.map Story.outcome) = (u.tell ss).map Story.outcome := by
  cases u with
  | make v => simp [Use.apply, Use.tell, Story.outcome, taken]
  | copy k => cases h : ss[k]? <;> simp [Use.apply, Use.tell, h]
  | act k e =>
    refine List.ext_getElem? ?_
    intro j
    cases h : ss[j]? <;> by_cases hj : k = j <;>
      simp [Use.apply, Use.tell, h, hj, Story.outcome_add]

/-- Each transform is what its story makes of it. -/
theorem used_eq (us : List Use) : used us = (stories us).map Story.outcome := by
  induction us using List.reverseRecOn with
  | nil => rfl
  | append_singleton us u ih =>
    unfold used stories at ih ⊢
    rw [List.foldl_append, List.foldl_append, ih]
    exact apply_map_outcome _ u

/-- A transform goes its own way: of all that is done, the steps taken with it count. -/
theorem getElem?_foldl_apply {ts : List Transform} {k : Nat} {t : Transform}
    (h : ts[k]? = some t) (us : List Use) :
    (us.foldl Use.apply ts)[k]? = some (t.taken (stepsOn k us)) := by
  have hlt : k < ts.length := (List.getElem?_eq_some_iff.mp h).1
  induction us generalizing ts t with
  | nil => exact h
  | cons u us ih =>
    rw [List.foldl_cons]
    cases u with
    | make v =>
      have hkept : (ts ++ [ofTranslation v])[k]? = some t := by
        rw [List.getElem?_append_left hlt, h]
      exact ih hkept (List.getElem?_eq_some_iff.mp hkept).1
    | copy j =>
      have hkept : (ts ++ ts[j]?.toList)[k]? = some t := by
        rw [List.getElem?_append_left hlt, h]
      exact ih hkept (List.getElem?_eq_some_iff.mp hkept).1
    | act j e =>
      have hlt' : k < (ts.modify j e.apply).length := by rw [List.length_modify]; exact hlt
      by_cases hj : j = k
      · have hstep : (ts.modify j e.apply)[k]? = some (e.apply t) := by
          simp [h, hj]
        have hrest := ih hstep hlt'
        simpa [stepsOn, Use.stepOn?, hj, taken, Use.apply] using hrest
      · have hkept : (ts.modify j e.apply)[k]? = some t := by
          simp [h, hj]
        have hrest := ih hkept hlt'
        simpa [stepsOn, Use.stepOn?, hj, Use.apply] using hrest

end uses

/-- **The story of a transform tells what it holds.**  Whatever is done with any
    number of transforms, each of them hands out the local matrix of its present
    pose and the world matrix stored last, and its marks are clear just as long as
    nothing has spoiled what they are about.  A copy begins as its original is,
    with the same matrices and marks, and from then on each of the two goes by the
    steps that are taken with it alone. -/
theorem copies_track (us : List Use) :
    List.Forall₂ Story.Tracks (stories us) (used us) ∧
    ∀ k t, (used us)[k]? = some t → ∀ us',
      (used (us ++ .copy k :: us'))[k]? = some (t.taken (stepsOn k us')) ∧
      (used (us ++ .copy k :: us'))[(used us).length]? =
        some (t.taken (stepsOn (used us).length us')) := by
  constructor
  · rw [used_eq, List.forall₂_map_right_iff, List.forall₂_same]
    exact fun s _ => s.tracks_outcome
  · intro k t ht us'
    have hlt : k < (used us).length := (List.getElem?_eq_some_iff.mp ht).1
    have hafter : used (us ++ .copy k :: us') = us'.foldl Use.apply (used us ++ [t]) := by
      unfold used at ht ⊢
      rw [List.foldl_append, List.foldl_cons, Use.apply, ht]
      rfl
    rw [hafter]
    constructor
    · apply getElem?_foldl_apply
      rw [List.getElem?_append_left hlt, ht]
    · apply getElem?_foldl_apply
      simp

/-- A world matrix that is stored over a stale local one does not outlast a read. -/
example :
    ((ofTranslation .unitX).taken [.store .identity, .readLocal]).worldStale = true ∧
    ((ofTranslation .unitX).taken [.readLocal, .store .identity, .readLocal]).worldStale = false :=
  ⟨rfl, rfl⟩

end Planetarium.Transform
