import Mathlib.Data.Finset.Card
import Mathlib.Data.Finset.Range
import Planetarium.Proofs.Scene.Views

/-! # Links

    Nothing in a scene checks that the two records of a link agree, or that
    nothing hangs below itself.  `Linked` says so, and the operations keep it.

    An object of a linked scene has a depth: the number of objects on the way
    up from it.  The depth goes down along the links and is never greater than
    the number of objects, so a search of that length reaches all that there
    is to reach. -/

namespace Planetarium.Scene

/-! ## Section 1: Above and below -/

theorem Below.trans {s : Scene} {a b c : ObjectId} (hab : s.Below a b) (hbc : s.Below b c) :
    s.Below a c := by
  induction hab with
  | direct h => exact .further h hbc
  | further h _ ih => exact .further h (ih hbc)

theorem Below.has {s : Scene} {a b : ObjectId} (h : s.Below a b) : s.has a = true := by
  cases h with
  | direct h => exact has_of_parentOf? h
  | further h _ => exact has_of_parentOf? h

/-- What hangs below an object hangs below one of its children, or is one. -/
theorem Below.exists_child {s : Scene} {x a : ObjectId} (h : s.Below x a) :
    ∃ c, s.parentOf? c = some a ∧ (x = c ∨ s.Below x c) := by
  -- Induction on the way up: the child is where its last step begins.
  induction h with
  | @direct x a h => exact ⟨x, h, .inl rfl⟩
  | @further x p a h _ ih =>
    obtain ⟨c, hc, rfl | hpc⟩ := ih
    · exact ⟨p, hc, .inr (.direct h)⟩
    · exact ⟨c, hc, .inr (.further h hpc)⟩

/-- Links upward are all that `Below` looks at. -/
theorem Below.congr {s t : Scene} (h : ∀ id, t.parentOf? id = s.parentOf? id) {x a : ObjectId}
    (hx : s.Below x a) : t.Below x a := by
  induction hx with
  | @direct c p hc => exact .direct (by rw [h c]; exact hc)
  | @further c p a hc _ ih => exact .further (by rw [h c]; exact hc) ih

/-- `s.Within x a` means that `x` is `a` or hangs below it. -/
def Within (s : Scene) (x a : ObjectId) : Prop := x = a ∨ s.Below x a

theorem Within.refl (s : Scene) (a : ObjectId) : s.Within a a := .inl rfl

theorem Within.trans {s : Scene} {a b c : ObjectId} (hab : s.Within a b) (hbc : s.Within b c) :
    s.Within a c := by
  rcases hab with rfl | hab
  · exact hbc
  · rcases hbc with rfl | hbc
    · exact .inr hab
    · exact .inr (hab.trans hbc)

/-- An object whose parent is within a subtree is within it as well. -/
theorem Within.of_parent {s : Scene} {c p a : ObjectId} (h : s.parentOf? c = some p)
    (hp : s.Within p a) : s.Within c a :=
  Within.trans (.inr (.direct h)) hp

theorem within_congr {s t : Scene} (h : ∀ id, t.parentOf? id = s.parentOf? id) (x a : ObjectId) :
    t.Within x a ↔ s.Within x a :=
  or_congr Iff.rfl ⟨Below.congr fun id => (h id).symm, Below.congr h⟩

/-- A set that holds the parent of each of its members holds all above them. -/
theorem not_within_of_closed {s : Scene} {U : ObjectId → Prop} {x a : ObjectId}
    (closed : ∀ c p, U c → s.parentOf? c = some p → U p) (hx : U x) (ha : ¬ U a) :
    ¬ s.Within x a := by
  -- Membership goes up along every link.
  have up : ∀ {c b : ObjectId}, s.Below c b → U c → U b := by
    intro c b h
    induction h with
    | direct h => exact fun hc => closed _ _ hc h
    | further h _ ih => exact fun hc => ih (closed _ _ hc h)
  rintro (rfl | h)
  · exact ha hx
  · exact ha (up h hx)

/-! ## Section 2: Depth -/

open Classical in
/-- The numbers of the objects on the way up from an object, itself included. -/
noncomputable def wayUp (s : Scene) (id : ObjectId) : Finset Nat :=
  (Finset.range s.size).filter fun n => s.Within id (s.idAt n)

/-- The number of objects on the way up from an object, itself included. -/
noncomputable def depth (s : Scene) (id : ObjectId) : Nat := (s.wayUp id).card

theorem mem_wayUp (s : Scene) (id : ObjectId) (n : Nat) :
    n ∈ s.wayUp id ↔ n < s.size ∧ s.Within id (s.idAt n) := by
  simp [wayUp]

theorem index_mem_wayUp {s : Scene} {id : ObjectId} (h : s.has id = true) :
    id.index ∈ s.wayUp id := by
  obtain ⟨htag, hlt⟩ := (has_iff s id).mp h
  refine (mem_wayUp s id _).mpr ⟨hlt, .inl ?_⟩
  rw [idAt, ← htag]

theorem depth_le_size (s : Scene) (id : ObjectId) : s.depth id ≤ s.size := by
  have hsub : s.wayUp id ⊆ Finset.range s.size := by
    intro n hn
    exact Finset.mem_range.mpr ((mem_wayUp s id n).mp hn).1
  calc s.depth id ≤ (Finset.range s.size).card := Finset.card_le_card hsub
    _ = s.size := Finset.card_range s.size

theorem depth_pos {s : Scene} {id : ObjectId} (h : s.has id = true) : 0 < s.depth id :=
  Finset.card_pos.mpr ⟨_, index_mem_wayUp h⟩

/-- The way up from the parent lacks the child, which does not hang above itself. -/
theorem depth_parent_lt {s : Scene} (acyclic : s.Acyclic) {c p : ObjectId}
    (h : s.parentOf? c = some p) : s.depth p < s.depth c := by
  have hc : s.has c = true := has_of_parentOf? h
  apply Finset.card_lt_card
  refine ⟨?_, ?_⟩
  · -- All that is above the parent is above the child,
    intro n hn
    rw [mem_wayUp] at hn ⊢
    exact ⟨hn.1, .of_parent h hn.2⟩
  · -- and the child is above itself, but not above its parent.
    intro hsub
    have hmem := (mem_wayUp s p _).mp (hsub (index_mem_wayUp hc))
    have hid : s.idAt c.index = c := by
      rw [idAt, ← ((has_iff s c).mp hc).1]
    rw [hid] at hmem
    rcases hmem.2 with rfl | hbelow
    · exact acyclic p (.direct h)
    · exact acyclic c (.further h hbelow)

/-! ## Section 3: Linked scenes -/

/-- **Both records of the links agree, and nothing hangs below itself.**  A
    parent may be the id of another scene: then it is never found. -/
structure Linked (s : Scene) : Prop where
  /-- A parent is an object of the scene or never will be one. -/
  parent_settled : ∀ {c p : ObjectId}, s.parentOf? c = some p →
    s.has p = true ∨ p.scene ≠ s.tag
  /-- An object lists its children and nothing else. -/
  mem_childrenOf_iff : ∀ {p : ObjectId}, s.has p = true →
    ∀ c, c ∈ s.childrenOf p ↔ s.parentOf? c = some p
  /-- No child is listed twice. -/
  nodup_childrenOf : ∀ p, (s.childrenOf p).Nodup
  acyclic : s.Acyclic

theorem Acyclic.congr {s t : Scene} (h : ∀ id, t.parentOf? id = s.parentOf? id)
    (acyclic : s.Acyclic) : t.Acyclic :=
  fun id hid => acyclic id (hid.congr fun x => (h x).symm)

theorem Linked.congr {s t : Scene} (htag : t.tag = s.tag) (hsize : t.size = s.size)
    (hparent : ∀ id, t.parentOf? id = s.parentOf? id)
    (hchildren : ∀ id, t.childrenOf id = s.childrenOf id) (linked : s.Linked) : t.Linked := by
  have hhas : ∀ id, t.has id = s.has id := by
    intro id
    rw [Bool.eq_iff_iff, has_iff, has_iff, htag, hsize]
  constructor
  · intro c p hc
    rw [hhas, htag]
    exact linked.parent_settled (hparent c ▸ hc)
  · intro p hp c
    rw [hchildren, hparent]
    exact linked.mem_childrenOf_iff (hhas p ▸ hp) c
  · intro p
    rw [hchildren]
    exact linked.nodup_childrenOf p
  · exact linked.acyclic.congr hparent

/-- Nothing hangs below an id that has not been given out yet. -/
theorem Linked.parentOf?_ne_idAt_size {s : Scene} (linked : s.Linked) (c : ObjectId) :
    s.parentOf? c ≠ some (s.idAt s.size) := by
  intro h
  rcases linked.parent_settled h with hp | hp
  · exact not_has_idAt_size s hp
  · exact hp rfl

theorem linked_empty (tag : Nat) : Linked { tag } := by
  -- Without objects there is nothing that could disagree.
  have hnone : ∀ id, ¬ has { tag } id = true := by
    intro id
    simp [has_iff, size]
  constructor
  · intro c p hc
    exact absurd (has_of_parentOf? hc) (hnone c)
  · intro p hp
    exact absurd hp (hnone p)
  · intro p
    rw [childrenOf_of_not_has (hnone p)]
    exact List.nodup_nil
  · intro id hid
    exact hnone id hid.has

/-- An object without links may be added to a linked scene. -/
theorem Linked.add {s : Scene} (linked : s.Linked) {o : Object} (hparent : o.parent = none)
    (hchildren : o.children = []) : (s.add o).2.Linked := by
  have hfresh : ¬ s.has (s.idAt s.size) = true := not_has_idAt_size s
  -- Neither view changes, since the new id had no links before either.
  have hp : ∀ id, (s.add o).2.parentOf? id = s.parentOf? id := by
    intro id
    rw [parentOf?_add]
    split
    · next h => rw [hparent, h, parentOf?_of_not_has hfresh]
    · rfl
  have hc : ∀ id, (s.add o).2.childrenOf id = s.childrenOf id := by
    intro id
    rw [childrenOf_add]
    split
    · next h => rw [hchildren, h, childrenOf_of_not_has hfresh]
    · rfl
  constructor
  · intro c p h
    rw [has_add, tag_add]
    rw [hp] at h
    exact (linked.parent_settled h).imp_left .inl
  · intro p h c
    rw [hp, hc]
    rcases (has_add s o p).mp h with h | rfl
    · exact linked.mem_childrenOf_iff h c
    · -- The new object lists nothing, and nothing hangs below it.
      rw [childrenOf_of_not_has hfresh]
      exact iff_of_false List.not_mem_nil (linked.parentOf?_ne_idAt_size c)
  · intro p
    rw [hc]
    exact linked.nodup_childrenOf p
  · exact linked.acyclic.congr hp

end Planetarium.Scene
