import Planetarium.Proofs.System.Built
import Planetarium.Proofs.Transfer.Steps
import Planetarium.System.Solar

/-! # The links of the solar system

    The system is built into an empty scene, so the ids of its parts are their
    places in the list.  All parts but the camera belong to the orrery, and so
    do the three frames that a launch adds.

    * `Orrery rig`: the objects of the orrery, where `rig` is the number of the
      first of the three frames, once there are any.
    * `Hung`: how the orrery hangs together.  Nothing but the vehicle is ever
      hung elsewhere.
    * `Hung.closed`: what the orrery hangs below belongs to it. -/

namespace Planetarium

namespace Solar

/-! ## Section 1: The list of parts -/

/-- The object of a part of the system. -/
def object (name : String) : ObjectId := ⟨0, blueprint.position name⟩

/-- The bodies of the mission. -/
def bodies : Bodies where
  vehicle := object rocketFrame
  origin := object earth.place
  destination := object mars.place
  reference := object sunFrame
  anchor := object anchorFrame

theorem handles_bodies : (handles {}).bodies = bodies := by decide

/-- The number of parts before the camera, which is the last one. -/
def orrerySize : Nat := 54

/-- The place of the vehicle in the list. -/
def vehicleIndex : Nat := 44

theorem length_parts : blueprint.parts.length = orrerySize + 1 := by decide

theorem nodup_names : (blueprint.parts.map (·.name)).Nodup := by decide

theorem vehicle_eq : bodies.vehicle = ⟨0, vehicleIndex⟩ := by decide

/-- The pose that the vehicle is built with. -/
def vehiclePose : Pose := ⟨.zero, .identity, .one⟩

theorem vehicle_part : ∃ part, blueprint.parts[vehicleIndex]? = some part ∧
    part.name = rocketFrame ∧ part.pose = vehiclePose := by
  have hview : blueprint.parts[vehicleIndex]?.map (fun part => (part.name, part.pose)) =
      some (rocketFrame, vehiclePose) := by rfl
  obtain ⟨part, hpart, hsame⟩ := Option.map_eq_some_iff.mp hview
  exact ⟨part, hpart, congrArg Prod.fst hsame, congrArg Prod.snd hsame⟩

/-- What the part at a place hangs below. -/
def above (k : Nat) : Option ObjectId := (blueprint.parts[k]?.bind (·.below)).map object

/-- Parts hang below earlier ones. -/
theorem above_lt {k : Nat} (hk : k ≤ orrerySize) {p : ObjectId} (h : above k = some p) :
    p.scene = 0 ∧ p.index < k := by
  have hall : ∀ k ≤ orrerySize, ∀ p ∈ above k, p.scene = 0 ∧ p.index < k := by decide
  exact hall k hk p h

/-- The bodies other than the vehicle are parts before it. -/
theorem bodies_lt : ∀ id ∈ [bodies.origin, bodies.destination, bodies.reference, bodies.anchor],
    id.scene = 0 ∧ id.index < vehicleIndex := by decide

end Solar

/-! ## Section 2: The orrery -/

/-- The rig that a launch creates when there are `n` objects. -/
def Rig.ofIndex (n : Nat) : Rig := ⟨⟨0, n⟩, ⟨0, n + 1⟩, ⟨0, n + 2⟩⟩

theorem Rig.next_eq {s : Scene} (h : s.tag = 0) : next s = ofIndex s.size := by
  unfold next ofIndex Scene.idAt
  rw [h]

theorem Rig.le_index {n : Nat} {id : ObjectId} (h : id ∈ (ofIndex n).toList) : n ≤ id.index := by
  simp only [toList, ofIndex, List.mem_cons, List.not_mem_nil, or_false] at h
  rcases h with rfl | rfl | rfl <;> simp

theorem Rig.ne_vehicle {n : Nat} (hn : Solar.orrerySize ≤ n) {id : ObjectId}
    (h : id ∈ (ofIndex n).toList) : id ≠ Solar.bodies.vehicle := by
  have hle := Rig.le_index h
  have hlt : Solar.vehicleIndex < Solar.orrerySize := by decide
  rw [Solar.vehicle_eq]
  intro heq
  rw [heq] at hle
  simp only at hle
  omega

/-- **The objects of the orrery:** all parts but the camera, and the rig. -/
def Orrery (rig : Option Nat) (id : ObjectId) : Prop :=
  id.scene = 0 ∧ (id.index < Solar.orrerySize ∨ ∃ n, rig = some n ∧ n ≤ id.index ∧ id.index < n + 3)

theorem orrery_part {rig : Option Nat} {k : Nat} (h : k < Solar.orrerySize) : Orrery rig ⟨0, k⟩ :=
  ⟨rfl, .inl h⟩

theorem orrery_rig {n : Nat} {id : ObjectId} (h : id ∈ (Rig.ofIndex n).toList) :
    Orrery (some n) id := by
  simp only [Rig.toList, Rig.ofIndex, List.mem_cons, List.not_mem_nil, or_false] at h
  rcases h with rfl | rfl | rfl <;> exact ⟨rfl, .inr ⟨n, rfl, by simp, by simp⟩⟩

theorem Solar.orrery_object {part : Part} (hpart : part ∈ blueprint.parts)
    (hname : part.name ≠ cameraPart) : Orrery none (object part.name) := by
  have hall : ∀ part ∈ blueprint.parts, part.name ≠ cameraPart →
      blueprint.position part.name < orrerySize := by decide
  exact orrery_part (hall part hpart hname)

theorem Orrery.of_none {rig : Option Nat} {id : ObjectId} (h : Orrery none id) : Orrery rig id := by
  obtain ⟨hscene, hindex | ⟨n, hn, _⟩⟩ := h
  · exact ⟨hscene, .inl hindex⟩
  · cases hn

theorem orrery_body {rig : Option Nat} {id : ObjectId} (h : id ∈ Solar.bodies.toList) :
    Orrery rig id := by
  have hall : ∀ id ∈ Solar.bodies.toList, id.scene = 0 ∧ id.index < Solar.orrerySize := by decide
  exact ⟨(hall id h).1, .inl (hall id h).2⟩

/-- **How the orrery hangs together.**  The vehicle hangs below `attached`. -/
structure Hung (rig : Option Nat) (attached : ObjectId) (s : Scene) : Prop where
  parts : ∀ {k}, k < Solar.orrerySize → k ≠ Solar.vehicleIndex →
    s.parentOf? ⟨0, k⟩ = Solar.above k
  vehicle : s.parentOf? Solar.bodies.vehicle = some attached
  center : ∀ {n}, rig = some n → s.parentOf? (Rig.ofIndex n).center = none
  orbit : ∀ {n}, rig = some n → s.parentOf? (Rig.ofIndex n).orbit = some (Rig.ofIndex n).center
  arm : ∀ {n}, rig = some n → s.parentOf? (Rig.ofIndex n).arm = some (Rig.ofIndex n).orbit

namespace Hung
variable {rig : Option Nat} {attached : ObjectId} {s t : Scene}

/-- Only the links of the orrery count. -/
theorem of_links (h : Hung rig attached s)
    (links : ∀ {x}, Orrery rig x → t.parentOf? x = s.parentOf? x) : Hung rig attached t := by
  constructor
  · intro k hk hvehicle
    rw [links (orrery_part hk)]
    exact h.parts hk hvehicle
  · rw [links (orrery_body (by decide))]
    exact h.vehicle
  · intro n hn
    rw [links (hn ▸ orrery_rig (Rig.center_mem _))]
    exact h.center hn
  · intro n hn
    rw [links (hn ▸ orrery_rig (Rig.orbit_mem _))]
    exact h.orbit hn
  · intro n hn
    rw [links (hn ▸ orrery_rig (Rig.arm_mem _))]
    exact h.arm hn

/-- The vehicle may be hung below any frame. -/
theorem rehang (h : Hung rig attached s) (hknown : s.has Solar.bodies.vehicle = true)
    (rig_new : ∀ {n}, rig = some n → Solar.orrerySize ≤ n) (frame : ObjectId) :
    Hung rig frame (s.rehang Solar.bodies.vehicle frame) := by
  have hparent := fun x => Scene.parentOf?_rehang frame x hknown
  constructor
  · intro k hk hvehicle
    rw [hparent, if_neg]
    · exact h.parts hk hvehicle
    · rw [Solar.vehicle_eq]
      intro heq
      exact hvehicle (congrArg ObjectId.index heq)
  · rw [hparent, if_pos rfl]
  · intro n hn
    rw [hparent, if_neg (Rig.ne_vehicle (rig_new hn) (Rig.center_mem _))]
    exact h.center hn
  · intro n hn
    rw [hparent, if_neg (Rig.ne_vehicle (rig_new hn) (Rig.orbit_mem _))]
    exact h.orbit hn
  · intro n hn
    rw [hparent, if_neg (Rig.ne_vehicle (rig_new hn) (Rig.arm_mem _))]
    exact h.arm hn

/-- The rig comes to what is there. -/
theorem withRig {sp : Space} (h : Hung none attached sp.scene) (tag : sp.scene.tag = 0)
    (large : Solar.orrerySize ≤ sp.scene.size) (rate : Float32) (center reach : Vec3) :
    Hung (some sp.scene.size) attached (sp.withRig rate center reach).scene := by
  have hparent := sp.parentOf?_withRig rate center reach
  rw [Rig.next_eq tag] at hparent
  -- The parts are there already, so the rig leaves them alone.
  have hpart : ∀ {x}, Orrery none x →
      (sp.withRig rate center reach).scene.parentOf? x = sp.scene.parentOf? x := by
    intro x ⟨hscene, hindex⟩
    have hlt : x.index < sp.scene.size := by
      rcases hindex with hlt | ⟨n, hn, _⟩
      · omega
      · cases hn
    have hknown : sp.scene.has x = true := (Scene.has_iff _ x).mpr ⟨hscene.trans tag.symm, hlt⟩
    exact (sp.extends_withRig rate center reach).parentOf? hknown
  constructor
  · intro k hk hne
    rw [hpart (orrery_part hk)]
    exact h.parts hk hne
  · rw [hpart (orrery_body (by decide))]
    exact h.vehicle
  · intro n hn
    obtain rfl := Option.some.inj hn
    simp [hparent, Rig.ofIndex]
  · intro n hn
    obtain rfl := Option.some.inj hn
    simp [hparent, Rig.ofIndex]
  · intro n hn
    obtain rfl := Option.some.inj hn
    simp [hparent, Rig.ofIndex]

/-- **What the orrery hangs below belongs to it.** -/
theorem closed (h : Hung rig attached s) (hattached : Orrery rig attached) {c p : ObjectId}
    (hc : Orrery rig c) (hp : s.parentOf? c = some p) : Orrery rig p := by
  obtain ⟨scene, k⟩ := c
  obtain ⟨hscene, hk⟩ := hc
  simp only at hscene hk
  subst hscene
  rcases hk with hk | ⟨n, rfl, hlow, hhigh⟩
  · by_cases hvehicle : k = Solar.vehicleIndex
    · rw [hvehicle, ← Solar.vehicle_eq, h.vehicle] at hp
      exact Option.some.inj hp ▸ hattached
    · rw [h.parts hk hvehicle] at hp
      obtain ⟨hscene, hlt⟩ := Solar.above_lt (Nat.le_of_lt hk) hp
      exact ⟨hscene, .inl (Nat.lt_trans hlt hk)⟩
  · -- Each frame of the rig hangs below the one before it.
    have hk : k = n ∨ k = n + 1 ∨ k = n + 2 := by omega
    rcases hk with rfl | rfl | rfl
    · have hcenter := h.center rfl
      simp only [Rig.ofIndex] at hcenter
      rw [hcenter] at hp
      cases hp
    · have horbit := h.orbit rfl
      simp only [Rig.ofIndex] at horbit
      rw [horbit] at hp
      obtain rfl := Option.some.inj hp
      exact orrery_rig (by simp [Rig.toList, Rig.ofIndex])
    · have harm := h.arm rfl
      simp only [Rig.ofIndex] at harm
      rw [harm] at hp
      obtain rfl := Option.some.inj hp
      exact orrery_rig (by simp [Rig.toList, Rig.ofIndex])

/-- Nothing in the rig hangs below the vehicle. -/
theorem not_within_vehicle {n : Nat} (h : Hung (some n) attached s) (large : Solar.orrerySize ≤ n) :
    ¬ s.Within (Rig.ofIndex n).arm Solar.bodies.vehicle := by
  -- The rig hangs below nothing but itself, and the vehicle is no part of it.
  refine Scene.not_within_of_closed (U := fun x => x ∈ (Rig.ofIndex n).toList) ?_
    (Rig.arm_mem _) fun hin => Rig.ne_vehicle large hin rfl
  intro c p hc hp
  simp only [Rig.toList, List.mem_cons, List.not_mem_nil, or_false] at hc ⊢
  rcases hc with rfl | rfl | rfl
  · rw [h.center rfl] at hp
    cases hp
  · rw [h.orbit rfl] at hp
    exact .inl (Option.some.inj hp).symm
  · rw [h.arm rfl] at hp
    exact .inr (.inl (Option.some.inj hp).symm)

/-- The parts before the vehicle hang below one another. -/
theorem closed_before (h : Hung rig attached s) {c p : ObjectId}
    (hc : c.scene = 0 ∧ c.index < Solar.vehicleIndex) (hp : s.parentOf? c = some p) :
    p.scene = 0 ∧ p.index < Solar.vehicleIndex := by
  obtain ⟨scene, k⟩ := c
  obtain ⟨hscene, hk⟩ := hc
  simp only at hscene hk
  subst hscene
  have hle : Solar.vehicleIndex < Solar.orrerySize := by decide
  rw [h.parts (Nat.lt_trans hk hle) (Nat.ne_of_lt hk)] at hp
  obtain ⟨hscene, hlt⟩ := Solar.above_lt (by omega) hp
  exact ⟨hscene, Nat.lt_trans hlt hk⟩

end Hung

/-! ## Section 3: The system as it is built -/

namespace Solar

/-- The system alone. -/
def built : Space := blueprint.build {}

theorem built_eq : built = ({} : Space).placeAll (fun part => part.below.map object)
    blueprint.parts := by
  have hobject : blueprint.objectOf {} = object := by
    funext name
    unfold Blueprint.objectOf object Scene.idAt
    simp [Scene.size]
  unfold built Blueprint.build
  rw [← hobject]
  rfl

/-- Ids in the empty space are places in the list. -/
theorem idAt_empty (k : Nat) : ({} : Scene).idAt (({} : Scene).size + k) = ⟨0, k⟩ := by
  simp [Scene.idAt, Scene.size]

theorem exists_part {k : Nat} (hk : k ≤ orrerySize) : ∃ part, blueprint.parts[k]? = some part := by
  have hlt : k < blueprint.parts.length := by
    rw [length_parts]
    omega
  exact ⟨_, List.getElem?_eq_getElem hlt⟩

theorem tag_built : built.scene.tag = 0 := by
  rw [built_eq, Space.tag_placeAll]

theorem size_built : built.scene.size = orrerySize + 1 := by
  rw [built_eq, Space.size_placeAll, length_parts]
  rfl

theorem parentOf?_built {k : Nat} (hk : k ≤ orrerySize) :
    built.scene.parentOf? ⟨0, k⟩ = above k := by
  obtain ⟨part, hpart⟩ := exists_part hk
  have hnew := (Space.placeAll_new (fun part => part.below.map object) {} hpart).1
  rw [idAt_empty, ← built_eq] at hnew
  rw [hnew, above, hpart]
  rfl

theorem poseOf?_built {k : Nat} {part : Part} (hpart : blueprint.parts[k]? = some part) :
    built.scene.poseOf? ⟨0, k⟩ = some part.pose := by
  have hnew := (Space.placeAll_new (fun part => part.below.map object) {} hpart).2
  rw [idAt_empty, ← built_eq] at hnew
  exact hnew

theorem sound_built : built.scene.Sound := by
  rw [built_eq]
  refine (Scene.sound_empty 0).placeAll ?_
  intro k part p hpart hp
  have hk : k ≤ orrerySize := by
    have := (List.getElem?_eq_some_iff.mp hpart).1
    rw [length_parts] at this
    omega
  have habove : above k = some p := by
    rw [above, hpart]
    exact hp
  obtain ⟨hscene, hlt⟩ := above_lt hk habove
  exact ⟨hscene, by simpa [Scene.size] using hlt⟩

/-- Every frame of the system stands under the name of its part. -/
theorem get?_built {k : Nat} {part : Part} (hpart : blueprint.parts[k]? = some part)
    (hframe : part.isFrame = true) : built.frames.get? part.name = some ⟨0, k⟩ := by
  have hnew := Space.get?_placeAll (fun part => part.below.map object) {} nodup_names hpart hframe
  rw [idAt_empty, ← built_eq] at hnew
  exact hnew

/-- Other names stand for nothing yet. -/
theorem get?_built_none {name : String} (h : name ∉ blueprint.parts.map (·.name)) :
    built.frames.get? name = none := by
  rw [built_eq, Space.get?_placeAll_other _ h]
  rfl

theorem get?_built_destination : built.frames.get? mars.place = some bodies.destination := by
  have hpart : blueprint.parts[bodies.destination.index]?.map
      (fun part => (part.name, part.isFrame)) = some (mars.place, true) := by decide
  obtain ⟨part, hpart, hname⟩ := Option.map_eq_some_iff.mp hpart
  obtain ⟨hname, hframe⟩ := Prod.mk.injEq .. ▸ hname
  rw [← hname, get?_built hpart hframe]
  decide

/-- Frames and spins are before the camera, and the vehicle does not spin. -/
theorem parts_moving {k : Nat} {part : Part} (hpart : blueprint.parts[k]? = some part) :
    (part.isFrame = true → k < orrerySize) ∧
    (part.spin ≠ none → k < orrerySize ∧ k ≠ vehicleIndex) := by
  have hall : ∀ k ≤ orrerySize, ∀ part ∈ blueprint.parts[k]?,
      (part.isFrame = true → k < orrerySize) ∧
      (part.spin ≠ none → k < orrerySize ∧ k ≠ vehicleIndex) := by decide
  have hk : k ≤ orrerySize := by
    have := (List.getElem?_eq_some_iff.mp hpart).1
    rw [length_parts] at this
    omega
  exact hall k hk part hpart

theorem get?_built_lt {name : String} {id : ObjectId} (h : built.frames.get? name = some id) :
    id.scene = 0 ∧ id.index < orrerySize := by
  rw [built_eq] at h
  rcases Space.get?_placeAll_cases {} h with hold | ⟨k, part, hpart, hframe, hid⟩
  · cases hold
  · rw [idAt_empty] at hid
    rw [hid]
    exact ⟨rfl, (parts_moving hpart).1 hframe⟩

theorem spins_built {e : ObjectId × Spin} (h : e ∈ built.frames.spins) :
    e.1.scene = 0 ∧ e.1.index < orrerySize ∧ e.1.index ≠ vehicleIndex := by
  rw [built_eq] at h
  rcases Space.mem_spins_placeAll {} h with hold | ⟨k, part, hpart, hspin, hid⟩
  · cases hold
  · rw [idAt_empty] at hid
    rw [hid]
    have hmoving := (parts_moving hpart).2 (by simp [hspin])
    exact ⟨rfl, hmoving⟩

end Solar

end Planetarium
