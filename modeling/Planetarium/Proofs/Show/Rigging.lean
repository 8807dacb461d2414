import Planetarium.Proofs.Show.Steady
import Planetarium.Proofs.System.Orrery

/-! # The orrery on a stage

    What launch and arrival do to a stage whose system is the orrery: the rig
    comes to it, and the vehicle is hung below another of its frames.

    * `Stage.Steady.withRig`, `Stage.Steady.rehang`: both keep a stage steady.
    * `Frames.Registered`: what the names of the frames stand for. -/

namespace Planetarium

/-- The vehicle sits at the place of whatever frame it is hung below. -/
theorem Solar.seated_rehang {s : Scene} (h : s.poseOf? bodies.vehicle = some vehiclePose)
    (frame : ObjectId) :
    (s.rehang bodies.vehicle frame).poseOf? bodies.vehicle = some vehiclePose := by
  rw [Scene.poseOf?_rehang, if_pos rfl, h]
  rfl

/-- The vehicle may be hung below any frame of the orrery that is not below it. -/
theorem Stage.Steady.rehang {rig : Option Nat} {st : Stage} (h : st.Steady (Orrery rig))
    {frame : ObjectId} (hung : Hung rig frame (st.space.scene.rehang Solar.bodies.vehicle frame))
    (hframe : Orrery rig frame)
    (houtside : ¬ st.space.scene.Within frame Solar.bodies.vehicle) :
    ({ st with
      space :=
        { st.space with
          scene := st.space.scene.rehang Solar.bodies.vehicle frame } } : Stage).Steady
      (Orrery rig) := by
  have hvehicle : Orrery rig Solar.bodies.vehicle := orrery_body (by decide)
  have hparent := fun x => Scene.parentOf?_rehang frame x (h.known hvehicle)
  have hhas := fun x => Scene.has_rehang st.space.scene Solar.bodies.vehicle frame x
  have hnode : st.camera.node ≠ Solar.bodies.vehicle :=
    (Scene.ne_of_mem hvehicle h.node_apart).symm
  have hmount : st.camera.mount ≠ Solar.bodies.vehicle :=
    (Scene.ne_of_mem hvehicle h.mount_apart).symm
  -- The vehicle is no part of the camera, so the links of the camera are the old ones.
  refine h.of_closed ?_ rfl rfl rfl (h.sound.rehang (h.known hframe) houtside) ?_ ?_ ?_ ?_
  · intro x hx
    exact (hhas x).trans hx
  · intro c p hc hp
    exact hung.closed hframe hc hp
  · intro p hp
    rw [hparent, if_neg hnode] at hp
    exact h.node_above hp
  · intro p hp
    rw [hparent, if_neg hmount] at hp
    exact h.mount_above hp
  · intro name id hid
    obtain ⟨hknown, hapart⟩ := h.named hid
    exact ⟨(hhas id).trans hknown, hapart⟩

/-- The rig belongs to the orrery as soon as it is there. -/
theorem Stage.Steady.withRig {st : Stage} (h : st.Steady (Orrery none)) {attached : ObjectId}
    (hung : Hung none attached st.space.scene) (hattached : Orrery none attached)
    (tag : st.space.scene.tag = 0) (large : Solar.orrerySize ≤ st.space.scene.size)
    (rate : Float32) (center reach : Vec3) :
    ({ st with space := st.space.withRig rate center reach } : Stage).Steady
      (Orrery (some st.space.scene.size)) := by
  have hextends := st.space.extends_withRig rate center reach
  have hget? := st.space.get?_withRig rate center reach
  rw [Rig.next_eq tag] at hget?
  -- What was there before the rig is none of it.
  have hapart : ∀ {x}, st.space.scene.has x = true → ¬ Orrery none x →
      ¬ Orrery (some st.space.scene.size) x := by
    intro x hx hnot hin
    obtain ⟨hscene, hindex | ⟨n, hn, hle, _⟩⟩ := hin
    · exact hnot ⟨hscene, .inl hindex⟩
    · obtain rfl := Option.some.inj hn
      have := ((Scene.has_iff _ x).mp hx).2
      omega
  constructor
  · exact Space.sound_withRig h.sound rate center reach
  · intro x hx
    rw [Scene.has_iff, hextends.tag, Space.size_withRig, tag]
    obtain ⟨hscene, hindex | ⟨n, hn, _, hlt⟩⟩ := hx
    · exact ⟨hscene, by omega⟩
    · obtain rfl := Option.some.inj hn
      exact ⟨hscene, hlt⟩
  · exact fun hc hp => (hung.withRig tag large rate center reach).closed hattached.of_none hc hp
  · -- The new frames belong to the orrery from now on.
    intro name frame hframe hname
    rw [hget?] at hframe
    split_ifs at hframe
    · exact orrery_rig (Option.some.inj hframe ▸ Rig.arm_mem _)
    · exact orrery_rig (Option.some.inj hframe ▸ Rig.orbit_mem _)
    · exact orrery_rig (Option.some.inj hframe ▸ Rig.center_mem _)
    · exact (h.framed hframe hname).of_none
  · rw [hget?, if_neg (by decide), if_neg (by decide), if_neg (by decide)]
    exact h.mounted
  · -- The camera was there before, so it stands and hangs as it did.
    exact hextends.has h.node_known
  · exact hextends.has h.mount_known
  · exact hapart h.node_known h.node_apart
  · exact hapart h.mount_known h.mount_apart
  · exact h.node_ne_mount
  · intro p hp
    rw [hextends.parentOf? h.node_known] at hp
    exact h.node_above hp
  · intro p hp
    rw [hextends.parentOf? h.mount_known] at hp
    exact (h.mount_above hp).of_none
  · intro name id hid
    obtain ⟨hknown, hnot, hcamera⟩ := h.named hid
    exact ⟨hextends.has hknown, hapart hknown hnot, hcamera⟩

/-- **Where a mission says that the vehicle is.** -/
def Mission.AttachedTo (m : Mission) (rig : Option Nat) : Prop :=
  match m.phase with
  | .attachedOrigin => rig = none ∧ m.attached = Solar.bodies.origin
  | .inTransit => ∃ n, rig = some n ∧ m.attached = (Rig.ofIndex n).arm
  | .attachedDestination => (∃ n, rig = some n) ∧ m.attached = Solar.bodies.destination

/-- There is a rig once the vehicle has left the origin. -/
theorem Mission.AttachedTo.exists_rig {m : Mission} {rig : Option Nat} (h : m.AttachedTo rig)
    (hphase : m.phase ≠ .attachedOrigin) : ∃ n, rig = some n := by
  unfold AttachedTo at h
  split at h
  · next horigin => exact absurd horigin hphase
  · obtain ⟨n, hn, _⟩ := h
    exact ⟨n, hn⟩
  · exact h.1

theorem Mission.AttachedTo.orrery {m : Mission} {rig : Option Nat} (h : m.AttachedTo rig) :
    Orrery rig m.attached := by
  unfold AttachedTo at h
  split at h
  · rw [h.2]
    exact orrery_body (by decide)
  · obtain ⟨n, rfl, hattached⟩ := h
    rw [hattached]
    exact orrery_rig (Rig.arm_mem _)
  · rw [h.2]
    exact orrery_body (by decide)

/-- **What the names of the frames stand for.** -/
structure Frames.Registered (fs : Frames) (rig : Option Nat) : Prop where
  /-- What spins belongs to the orrery and is not the vehicle. -/
  spinning : ∀ e ∈ fs.spins, Orrery rig e.1 ∧ e.1 ≠ Solar.bodies.vehicle
  destination : fs.get? Solar.mars.place = some Solar.bodies.destination
  center : fs.get? transferCenter = rig.map fun n => (Rig.ofIndex n).center
  orbit : fs.get? transferOrbit = rig.map fun n => (Rig.ofIndex n).orbit
  arm : fs.get? transferArm = rig.map fun n => (Rig.ofIndex n).arm

theorem Frames.Registered.withRig {sp : Space} (h : sp.frames.Registered none)
    (tag : sp.scene.tag = 0) (large : Solar.orrerySize ≤ sp.scene.size) (rate : Float32)
    (center reach : Vec3) :
    (sp.withRig rate center reach).frames.Registered (some sp.scene.size) := by
  have hget? := sp.get?_withRig rate center reach
  have hspins := sp.spins_withRig rate center reach
  rw [Rig.next_eq tag] at hget? hspins
  constructor
  · intro e he
    rw [hspins, List.mem_append, List.mem_singleton] at he
    rcases he with he | rfl
    · obtain ⟨hin, hne⟩ := h.spinning e he
      exact ⟨hin.of_none, hne⟩
    · have horbit := Rig.orbit_mem (Rig.ofIndex sp.scene.size)
      exact ⟨orrery_rig horbit, Rig.ne_vehicle large horbit⟩
  · rw [hget?, if_neg (by decide), if_neg (by decide), if_neg (by decide)]
    exact h.destination
  · rw [hget?, if_neg (by decide), if_neg (by decide), if_pos rfl]
    rfl
  · rw [hget?, if_neg (by decide), if_pos rfl]
    rfl
  · rw [hget?, if_pos rfl]
    rfl

end Planetarium
