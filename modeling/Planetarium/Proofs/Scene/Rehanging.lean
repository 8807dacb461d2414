import Planetarium.Proofs.Scene.Portraits
import Planetarium.Proofs.Scene.Runs
import Planetarium.Proofs.Scene.Searches

/-! # Hanging an object elsewhere

    When an object is hung below another one, its new parent notes it at the end
    of its list, the old parent forgets it, and the subtree below it is marked.
    Nothing else becomes of any object.

    * `Object.relisted`, `Object.rehung`: what becomes of one object.
    * `get?_setParent`, `get?_rehang`: so much becomes of every object, with all
      that is kept beside it.
    * `rehang_rehang`: of two frames that an object is hung below one after the
      other, only the last one counts.
    * `Rehung`: one link has moved, as far as it can be seen.
    * `Grown.one_link_moves`: both laws in every scene that edits lead to. -/

namespace Planetarium

/-! ## Section 1: One object -/

namespace Object

/-- The object `x` after `child` has been hung below `parent`: `child` has left the
    list of children, and stands at its end if `x` is the parent. -/
def relisted (child : ObjectId) (parent : Option ObjectId) (x : ObjectId) (o : Object) : Object :=
  { o with
    parent := if x = child then parent else o.parent
    children := o.children.filter (· ≠ child) ++ if parent = some x then [child] else [] }

/-- The object `x` after the object `id` has been moved. -/
def movedAt (id : ObjectId) (f : Transform → Transform) (x : ObjectId) (o : Object) : Object :=
  if x = id then { o with transform := f o.transform } else o

/-- The object `x` after `node` has been hung at the place of `frame`, without the
    marks below. -/
def rehung (node frame x : ObjectId) (o : Object) : Object :=
  movedAt node (·.setTranslation .zero) x (o.relisted node (some frame) x)

section rehung
variable (node frame frame' x : ObjectId) (P : Prop) (o : Object)

/-- What an object is called and what it shows. -/
def attire (o : Object) : String × List Component := (o.name, o.components)

@[simp] theorem attire_markedIf : (o.markedIf P).attire = o.attire := by
  unfold markedIf
  split <;> rfl

@[simp] theorem attire_relisted (parent : Option ObjectId) :
    (o.relisted node parent x).attire = o.attire := rfl

@[simp] theorem attire_rehung : (o.rehung node frame x).attire = o.attire := by
  unfold rehung movedAt
  split <;> rfl

/-- Marks are not about links. -/
theorem relisted_markedIf (parent : Option ObjectId) :
    (o.markedIf P).relisted node parent x = (o.relisted node parent x).markedIf P := by
  by_cases hP : P
  · simp only [markedIf, if_pos hP]
    rfl
  · simp only [markedIf, if_neg hP]

/-- An object that is given a new place is marked anyway. -/
theorem movedAt_markedIf (v : Vec3) :
    movedAt node (·.setTranslation v) x (o.markedIf P) =
      (movedAt node (·.setTranslation v) x o).markedIf P := by
  unfold movedAt
  by_cases hP : P
  · simp only [markedIf, if_pos hP]
    split <;> rfl
  · simp only [markedIf, if_neg hP]

theorem rehung_markedIf :
    (o.markedIf P).rehung node frame x = (o.rehung node frame x).markedIf P := by
  unfold rehung
  rw [relisted_markedIf, movedAt_markedIf]

/-- A list that is left and entered twice is left and entered once. -/
theorem relisted_relisted (parent parent' : Option ObjectId) :
    (o.relisted node parent x).relisted node parent' x = o.relisted node parent' x := by
  have hlist : ((o.children.filter (· ≠ node)) ++ if parent = some x then [node] else []).filter
      (· ≠ node) = o.children.filter (· ≠ node) := by
    split <;> simp
  have hparent : (if x = node then parent' else if x = node then parent else o.parent) =
      if x = node then parent' else o.parent := by
    split <;> rfl
  unfold relisted
  simp only [hlist, hparent]

/-- **The second frame is all that counts.** -/
theorem rehung_rehung :
    (o.rehung node frame x).rehung node frame' x = o.rehung node frame' x := by
  have hlinks := o.relisted_relisted node x (some frame) (some frame')
  unfold rehung movedAt
  split
  · rw [← hlinks]
    rfl
  · exact hlinks

end rehung

end Object

namespace Scene

/-! ## Section 2: Every object -/

/-- Only the old parent has listed the child. -/
theorem get?_detach {s : Scene} (linked : s.Linked) (child x : ObjectId) :
    (s.detach child).get? x =
      (s.get? x).map fun o => { o with children := o.children.filter (· ≠ child) } := by
  have hchildren := childrenOf_detach child x linked
  -- All but the list is as it was.
  have hrest : (s.detach child).get? x =
      (s.get? x).map fun o => { o with children := (s.detach child).childrenOf x } := by
    unfold detach
    split
    · cases ho : s.get? x with
      | none => rfl
      | some o => simp [childrenOf_eq ho]
    · next old _ =>
      unfold childrenOf
      rw [get?_modify]
      by_cases hx : old = x
      · subst hx
        cases s.get? old <;> simp
      · rw [if_neg hx]
        cases s.get? x <;> simp
  rw [hrest, hchildren]
  cases ho : s.get? x with
  | none => rfl
  | some o => simp [childrenOf_eq ho]

theorem get?_relink (s : Scene) (child : ObjectId) (parent : Option ObjectId) (x : ObjectId) :
    (s.relink child parent).get? x =
      (s.get? x).map fun o => { o with parent := if x = child then parent else o.parent } := by
  unfold relink
  rw [get?_modify]
  by_cases hx : child = x
  · simp [hx]
  · simp [hx, Ne.symm hx]

theorem get?_enlist (s : Scene) (child : ObjectId) (parent : Option ObjectId) (x : ObjectId) :
    (s.enlist child parent).get? x =
      (s.get? x).map fun o =>
        { o with children := o.children ++ if parent = some x then [child] else [] } := by
  cases parent with
  | none => simp [enlist]
  | some p =>
    unfold enlist
    rw [get?_modify]
    by_cases hx : p = x
    · simp [hx]
    · simp [hx]

section moves
variable {s : Scene} (linked : s.Linked)
include linked

/-- **What becomes of every object** when one of them is hung elsewhere. -/
theorem get?_setParent {child : ObjectId} (known : s.has child = true) {parent : Option ObjectId}
    (hsettled : ∀ p, parent = some p → s.has p = true ∨ p.scene ≠ s.tag)
    (houtside : ∀ p, parent = some p → ¬ s.Within p child) (x : ObjectId) :
    (s.setParent child parent).get? x =
      (s.get? x).map fun o => (o.relisted child parent x).markedIf (s.Within x child) := by
  have hlinked := linked.setParent hsettled houtside
  have hsubtree := within_setParent_iff linked.acyclic houtside x
  rw [setParent_eq, if_pos known] at hlinked hsubtree ⊢
  -- The invalidation sees the new links already, and they make the same subtree.
  generalize hlisted : ((s.detach child).relink child parent).enlist child parent = s'
    at hlinked hsubtree ⊢
  have hlinked' : s'.Linked := (linked_invalidate_iff s' child).mp hlinked
  have hwithin : s'.Within x child ↔ s.Within x child := by
    rw [← hsubtree]
    exact within_congr (fun y => (parentOf?_invalidate s' child y).symm) x child
  have hknown : s'.has child = true := by
    rw [← hlisted, has_iff, tag_enlist, size_enlist, tag_relink, size_relink, tag_detach,
      size_detach, ← has_iff]
    exact known
  have hlinks : s'.get? x = (s.get? x).map (·.relisted child parent x) := by
    rw [← hlisted, get?_enlist, get?_relink, get?_detach linked, Option.map_map, Option.map_map]
    rfl
  rw [get?_invalidate hlinked', hlinks, Option.map_map]
  congr 1
  funext o
  simp [hknown, hwithin]

/-- A move marks the subtree of the object that it is about. -/
theorem get?_move {id : ObjectId} (known : s.has id = true) (f : Transform → Transform)
    (x : ObjectId) :
    (s.move id f).get? x =
      (s.get? x).map fun o => (o.movedAt id f x).markedIf (s.Within x id) := by
  have hlinked : (s.modifyTransform id f).Linked := linked.modifyTransform id f
  have hmoved : (s.modifyTransform id f).get? x = (s.get? x).map (·.movedAt id f x) := by
    unfold modifyTransform
    rw [get?_modify]
    by_cases hx : id = x
    · subst hx
      cases s.get? id <;> simp [Object.movedAt]
    · cases s.get? x <;> simp [Object.movedAt, hx, Ne.symm hx]
  unfold move
  rw [get?_invalidate hlinked, hmoved, Option.map_map]
  congr 1
  funext o
  simp [known, within_congr fun y => parentOf?_modifyTransform s id y f]

section rehang
variable {node frame : ObjectId} (known : s.has node = true)
  (hsettled : s.has frame = true ∨ frame.scene ≠ s.tag) (houtside : ¬ s.Within frame node)
include hsettled houtside

theorem Linked.rehang : (s.rehang node frame).Linked := by
  refine (linked.setParent ?_ ?_).move node _
  · intro p hp
    exact Option.some.inj hp ▸ hsettled
  · intro p hp
    exact Option.some.inj hp ▸ houtside

omit hsettled in
/-- The subtree moves as a whole. -/
theorem within_rehang_iff (x : ObjectId) :
    (s.rehang node frame).Within x node ↔ s.Within x node := by
  rw [← within_setParent_iff linked.acyclic (fun p hp => Option.some.inj hp ▸ houtside) x]
  exact within_congr (fun y => parentOf?_setTranslation _ _ _ _) x node

include known

/-- **What becomes of every object** when one of them is hung at the place of a frame. -/
theorem get?_rehang (x : ObjectId) :
    (s.rehang node frame).get? x =
      (s.get? x).map fun o => (o.rehung node frame x).markedIf (s.Within x node) := by
  have hsettled' : ∀ p, some frame = some p → s.has p = true ∨ p.scene ≠ s.tag :=
    fun p hp => Option.some.inj hp ▸ hsettled
  have houtside' : ∀ p, some frame = some p → ¬ s.Within p node :=
    fun p hp => Option.some.inj hp ▸ houtside
  have hlinked := linked.setParent hsettled' houtside'
  have hknown : (s.setParent node (some frame)).has node = true := by
    rw [has_setParent, known]
  have hsubtree := within_setParent_iff linked.acyclic houtside' x
  unfold Scene.rehang setTranslation
  rw [get?_move hlinked hknown, get?_setParent linked known hsettled' houtside', Option.map_map]
  congr 1
  funext o
  -- Hanging and moving mark the same subtree.
  simp [Object.rehung, Object.movedAt_markedIf, Object.markedIf_markedIf, hsubtree]

/-- **The last one wins.**  An object that is hung below one frame and then below
    another one leaves the scene just as if it had been hung below the other one
    alone: the same links, the same matrices, and the same marks. -/
theorem rehang_rehang {last : ObjectId} (hsettled' : s.has last = true ∨ last.scene ≠ s.tag)
    (houtside' : ¬ s.Within last node) :
    (s.rehang node frame).rehang node last = s.rehang node last := by
  have hlinked := linked.rehang hsettled houtside
  have hsubtree := within_rehang_iff linked houtside
  have hknown : (s.rehang node frame).has node = true := by rw [has_rehang, known]
  have hlast : (s.rehang node frame).has last = true ∨ last.scene ≠ (s.rehang node frame).tag := by
    rw [has_rehang, tag_rehang]
    exact hsettled'
  refine eq_of_get? ?_ ?_
  · rw [tag_rehang, tag_rehang, tag_rehang]
  · intro x
    rw [get?_rehang hlinked hknown hlast fun h => houtside' ((hsubtree last).mp h),
      get?_rehang linked known hsettled houtside, get?_rehang linked known hsettled' houtside',
      Option.map_map]
    congr 1
    funext o
    simp [Object.rehung_markedIf, Object.rehung_rehung, Object.markedIf_markedIf, hsubtree]

end rehang

end moves

/-! ## Section 3: What can be seen -/

/-- **One link has moved.**  In `t` the object `child` hangs below `parent`, and its
    pose is what `pose` makes of the one that it had in `s`. -/
structure Rehung (s : Scene) (child parent : ObjectId) (pose : Pose → Pose) (t : Scene) : Prop where
  tag : t.tag = s.tag
  size : t.size = s.size
  /-- Both records of the links agree, and nothing hangs below itself. -/
  linked : t.Linked
  forest : s.IsForest → t.IsForest
  parentOf? : ∀ x, t.parentOf? x = if x = child then some parent else s.parentOf? x
  /-- The child is the last one in the list of its parent, -/
  listed_last : (t.childrenOf parent).getLast? = some child
  /-- and it stands nowhere else. -/
  listed_once : ∀ p, (t.childrenOf p).count child = if p = parent then 1 else 0
  /-- All others stay in their lists, in the same order. -/
  others_listed : ∀ p,
    (t.childrenOf p).filter (· ≠ child) = (s.childrenOf p).filter (· ≠ child)
  poseOf? : ∀ x, t.poseOf? x = if x = child then (s.poseOf? x).map pose else s.poseOf? x
  /-- Names and components are the same. -/
  attire : ∀ x, (t.get? x).map (·.attire) = (s.get? x).map (·.attire)
  /-- What is not below the child keeps its place in the world, as it is read. -/
  worldMatrix : ∀ x, ¬ s.Within x child → (t.worldMatrix x).1 = (s.worldMatrix x).1

section rehung
variable {s t : Scene} {child parent : ObjectId} {pose : Pose → Pose}

/-- What has to be shown of a scene in which one link has moved. -/
theorem Rehung.of_views (sound : s.Sound) (known : s.has parent = true) (hsound : t.Sound)
    (tag : t.tag = s.tag) (size : t.size = s.size)
    (parentOf? : ∀ x, t.parentOf? x = if x = child then some parent else s.parentOf? x)
    (childrenOf : ∀ x, t.childrenOf x =
      (s.childrenOf x).filter (· ≠ child) ++ if parent = x then [child] else [])
    (poseOf? : ∀ x, t.poseOf? x = if x = child then (s.poseOf? x).map pose else s.poseOf? x)
    (attire : ∀ x, (t.get? x).map (·.attire) = (s.get? x).map (·.attire)) :
    s.Rehung child parent pose t := by
  have hhas : ∀ x, t.has x = s.has x := by
    intro x
    rw [Bool.eq_iff_iff, has_iff, has_iff, tag, size]
  constructor
  · exact tag
  · exact size
  · exact hsound.linked
  · intro forest
    apply hsound.linked.isForest
    intro c p hp
    rw [hhas]
    rw [parentOf?] at hp
    split at hp
    · exact Option.some.inj hp ▸ known
    · exact forest.parent_known c p hp
  · exact parentOf?
  · rw [childrenOf, if_pos rfl, List.getLast?_concat]
  · intro p
    have hgone : ((s.childrenOf p).filter (· ≠ child)).count child = 0 := by
      rw [List.count_eq_zero]
      simp
    rw [childrenOf, List.count_append, hgone]
    by_cases hp : p = parent
    · simp [hp]
    · simp [hp, Ne.symm hp]
  · intro p
    rw [childrenOf, List.filter_append, List.filter_filter]
    split <;> simp
  · exact poseOf?
  · exact attire
  · intro x hx
    rw [hsound.worldMatrix_fst, sound.worldMatrix_fst]
    -- Who is outside the subtree hangs below nobody inside it.
    have hne : ∀ y, ¬ s.Within y child → y ≠ child := fun y hy heq => hy (.inl heq)
    have hclosed : ∀ c p, ¬ s.Within c child → s.parentOf? c = some p → ¬ s.Within p child :=
      fun c p hc hp hwithin => hc (.of_parent hp hwithin)
    have hlinks : ∀ y, ¬ s.Within y child → t.parentOf? y = s.parentOf? y := by
      intro y hy
      rw [parentOf?, if_neg (hne y hy)]
    have hposes : ∀ y, ¬ s.Within y child → t.poseOf? y = s.poseOf? y := by
      intro y hy
      rw [poseOf?, if_neg (hne y hy)]
    exact freshMatrix_congr sound.acyclic hsound.acyclic hclosed hlinks hposes hx

variable (sound : s.Sound) (hchild : s.has child = true) (hparent : s.has parent = true)
  (houtside : ¬ s.Within parent child)
include sound hchild hparent houtside

theorem rehung_setParent : s.Rehung child parent id (s.setParent child (some parent)) := by
  have hsettled : ∀ p, some parent = some p → s.has p = true ∨ p.scene ≠ s.tag :=
    fun p hp => .inl (Option.some.inj hp ▸ hparent)
  have houtside' : ∀ p, some parent = some p → ¬ s.Within p child :=
    fun p hp => Option.some.inj hp ▸ houtside
  apply Rehung.of_views sound hparent
  · exact sound.setParent hsettled fun _ => houtside'
  · exact tag_setParent s child _
  · exact size_setParent s child _
  · intro x
    simp [parentOf?_setParent, hchild]
  · intro x
    rw [childrenOf_setParent child x _ sound.linked hchild]
    by_cases hx : parent = x
    · simp [← hx, hparent]
    · simp [hx]
  · intro x
    simp [poseOf?_setParent]
  · intro x
    rw [get?_setParent sound.linked hchild hsettled houtside', Option.map_map]
    congr 1
    funext o
    simp

theorem rehung_rehang :
    s.Rehung child parent ({ · with translation := .zero }) (s.rehang child parent) := by
  apply Rehung.of_views sound hparent
  · exact sound.rehang hparent houtside
  · exact tag_rehang s child parent
  · exact size_rehang s child parent
  · intro x
    exact parentOf?_rehang parent x hchild
  · intro x
    unfold rehang setTranslation
    rw [childrenOf_move, childrenOf_setParent child x _ sound.linked hchild]
    by_cases hx : parent = x
    · simp [← hx, hparent]
    · simp [hx]
  · intro x
    exact poseOf?_rehang s child parent x
  · intro x
    rw [get?_rehang sound.linked hchild (.inl hparent) houtside, Option.map_map]
    congr 1
    funext o
    simp

end rehung

/-! ## Section 4: Grown scenes -/

/-- A run of proper edits makes a grown scene of a grown one. -/
theorem Grown.edited {s : Scene} (grown : s.Grown) {es : List Edit} (proper : s.ProperFrom es) :
    (s.edited es).Grown := by
  induction es generalizing s with
  | nil => exact grown
  | cons e es ih =>
    obtain ⟨hfirst, hrest⟩ := proper
    exact ih (.edit grown hfirst) hrest

/-- **One link moves, and the last one wins.**  In a scene that edits lead to, an
    object can be hung below any other one that is not within its own subtree.
    Frames do so too, at their own place, and then nothing is left of a frame
    that the object was hung below before. -/
theorem Grown.one_link_moves {s : Scene} (grown : s.Grown) {child : ObjectId}
    (known : s.has child = true) :
    (∀ parent, s.has parent = true → ¬ s.Within parent child →
      s.Rehung child parent id (s.setParent child (some parent))) ∧
    (∀ (build : Build) (fs : Frames) frame,
      fs.contains frame = true → s.has frame = true → ¬ s.Within frame child →
      ∃ t, fs.reparent build s child frame = .done t ∧
        s.Rehung child frame ({ · with translation := .zero }) t) ∧
    ∀ (build : Build) (fs : Frames) first last,
      fs.contains first = true → (s.has first = true ∨ first.scene ≠ s.tag) →
      ¬ s.Within first child →
      fs.contains last = true → (s.has last = true ∨ last.scene ≠ s.tag) →
      ¬ s.Within last child →
      ((fs.reparent build s child first).andThen fun t => fs.reparent build t child last) =
        fs.reparent build s child last := by
  have sound : s.Sound := grown.sound
  constructor
  · intro parent hparent houtside
    exact rehung_setParent sound known hparent houtside
  constructor
  · intro build fs frame hframe hknown houtside
    exact ⟨s.rehang child frame, Frames.reparent_of_contains build s child hframe,
      rehung_rehang sound known hknown houtside⟩
  · intro build fs first last hfirst hsettled houtside hlast hsettled' houtside'
    have hwins := rehang_rehang sound.linked known hsettled houtside hsettled' houtside'
    rw [Frames.reparent_of_contains build s child hfirst, Outcome.done_andThen]
    calc fs.reparent build (s.rehang child first) child last
        = .done ((s.rehang child first).rehang child last) :=
          Frames.reparent_of_contains build _ child hlast
      _ = .done (s.rehang child last) := by rw [hwins]
      _ = fs.reparent build s child last := (Frames.reparent_of_contains build s child hlast).symm

/-- A family of three below one frame, with another frame beside it. -/
def household : Scene :=
  edited { tag := 0 }
    [ .createChild none "near", .createChild (some ⟨0, 0⟩) "elder",
      .createChild (some ⟨0, 0⟩) "child", .createChild (some ⟨0, 2⟩) "grandchild",
      .createChild none "far", .setTranslation ⟨0, 2⟩ .unitX, .readPosition ⟨0, 3⟩ ]

/-- The two frames of the household. -/
def householdFrames : Frames :=
  (({} : Frames).register "near" ⟨0, 0⟩ none).register "far" ⟨0, 4⟩ none

theorem one_link_moves_in_household :
    household.Rehung ⟨0, 2⟩ ⟨0, 4⟩ id (household.setParent ⟨0, 2⟩ (some ⟨0, 4⟩)) ∧
    (∃ t, householdFrames.reparent .debug household ⟨0, 2⟩ ⟨0, 4⟩ = .done t ∧
      household.Rehung ⟨0, 2⟩ ⟨0, 4⟩ ({ · with translation := .zero }) t) ∧
    ((householdFrames.reparent .release household ⟨0, 2⟩ ⟨0, 4⟩).andThen fun t =>
      householdFrames.reparent .release t ⟨0, 2⟩ ⟨0, 0⟩) =
      householdFrames.reparent .release household ⟨0, 2⟩ ⟨0, 0⟩ := by
  have grown : household.Grown := by
    apply (Grown.empty 0).edited
    refine ⟨⟨by decide, trivial⟩, ⟨by decide, trivial⟩, ⟨by decide, trivial⟩, ⟨by decide, trivial⟩,
      ⟨by decide, trivial⟩, ⟨by decide, trivial⟩, ⟨by decide, trivial⟩, trivial⟩
  -- Both frames are at the top.
  have hnear : ¬ household.Within ⟨0, 0⟩ ⟨0, 2⟩ := by
    rintro (h | (h | h)) <;> cases h
  have hfar : ¬ household.Within ⟨0, 4⟩ ⟨0, 2⟩ := by
    rintro (h | (h | h)) <;> cases h
  have known : household.has ⟨0, 2⟩ = true := by decide
  obtain ⟨hlink, hframe, hwins⟩ := grown.one_link_moves known
  constructor
  · exact hlink _ (by decide) hfar
  constructor
  · exact hframe .debug householdFrames _ (by decide) (by decide) hfar
  · exact hwins .release householdFrames _ _ (by decide) (.inl (by decide)) hfar (by decide)
      (.inl (by decide)) hnear

end Scene

end Planetarium
