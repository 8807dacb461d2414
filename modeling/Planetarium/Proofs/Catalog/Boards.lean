import Planetarium.Proofs.Catalog.Deeds

/-! # Boards

    A board shows what the names of a workshop stand for: under each name of an
    object its portrait, and under each name of a point its position.  There are
    no ids on it.

    * `Replays.instruct_board`: a board tells whether an instruction is carried
      out, and what the board shows then.
    * `Board.Agree N P`: boards that show the same under the names `N` and `P`.
    * `Agree.instruct`, `agree_of_aside`: instructions about these names do the same
      on both, and instructions about other names change nothing there. -/

namespace Planetarium

/-- The portrait at another place. -/
def Portrait.movedTo (p : Portrait) (position : Vec3) : Portrait :=
  { p with pose := { p.pose with translation := position } }

namespace Instruction

/-- The name of an object that an instruction uses. -/
def nodeName? : Instruction → Option String
  | .createObject spec _ => some spec.name
  | .createObjectAtPoint spec _ => some spec.name
  | .createPoint .. => none
  | .moveToPoint name _ => some name

/-- The name of a point that an instruction uses. -/
def pointName? : Instruction → Option String
  | .createObject .. => none
  | .createObjectAtPoint _ point => some point
  | .createPoint name _ => some name
  | .moveToPoint _ point => some point

end Instruction

/-- **What names stand for.** -/
@[ext] structure Board where
  node : String → Option Portrait
  point : String → Option Vec3

/-! ## Section 1: Instructions on boards -/

namespace Board

/-- The board with another object under a name. -/
def putNode (b : Board) (name : String) (p : Portrait) : Board :=
  { b with node := fun n => if name = n then some p else b.node n }

/-- The board with another point under a name. -/
def putPoint (b : Board) (name : String) (position : Vec3) : Board :=
  { b with point := fun n => if name = n then some position else b.point n }

/-- What a board shows after an instruction, or the name that is missing. -/
def instruct (b : Board) : Instruction → Except NotFound Board
  | .createObject spec position => .ok (b.putNode spec.name (spec.portraitAt position))
  | .createObjectAtPoint spec point =>
    match b.point point with
    | some position => .ok (b.putNode spec.name (spec.portraitAt position))
    | none => .error (.point point)
  | .createPoint name position => .ok (b.putPoint name position)
  | .moveToPoint name point =>
    match b.node name, b.point point with
    | some p, some position => .ok (b.putNode name (p.movedTo position))
    | some _, none => .error (.point point)
    | none, _ => .error (.node name)

end Board

namespace Workshop

/-- The board of a workshop. -/
def board (w : Workshop) : Board where
  node name := (w.catalog.nodes.get? name).bind w.scene.portrait?
  point name := w.catalog.points.get? name

namespace Replays
variable {past : List Deed} {w : Workshop}

theorem board_node (h : w.Replays past) {name : String} {x : ObjectId}
    (hx : w.catalog.nodes.get? name = some x) :
    ∃ p, w.board.node name = some p ∧ w.scene.portrait? x = some p ∧ p.name = name := by
  obtain ⟨p, hportrait, hname⟩ := h.named hx
  refine ⟨p, ?_, hportrait, hname⟩
  show (w.catalog.nodes.get? name).bind w.scene.portrait? = _
  rw [hx]
  exact hportrait

theorem board_node_of_none {name : String} (hx : w.catalog.nodes.get? name = none) :
    w.board.node name = none := by
  show (w.catalog.nodes.get? name).bind w.scene.portrait? = _
  rw [hx]
  rfl

/-- The board shows what a look-up finds. -/
theorem node_cases (h : w.Replays past) (name : String) :
    (w.catalog.node name = .error (.node name) ∧ w.board.node name = none) ∨
    ∃ x p, w.catalog.node name = .ok x ∧ w.scene.portrait? x = some p ∧
      w.board.node name = some p := by
  unfold Catalog.node
  cases hx : w.catalog.nodes.get? name with
  | none => exact .inl ⟨rfl, board_node_of_none hx⟩
  | some x =>
    obtain ⟨p, hboard, hportrait, _⟩ := h.board_node hx
    exact .inr ⟨x, p, rfl, hportrait, hboard⟩

/-- A new object is shown under its name. -/
theorem board_createObject (h : w.Replays past) (spec : ObjectSpec) (position : Vec3) :
    (w.createObject spec position).2.2.board =
      w.board.putNode spec.name (spec.portraitAt position) := by
  refine Board.ext ?_ rfl
  funext name
  show ((w.createObject spec position).2.2.catalog.nodes.get? name).bind
    (w.createObject spec position).2.2.scene.portrait? =
      if spec.name = name then some (spec.portraitAt position) else w.board.node name
  rw [nodes_createObject]
  split
  · exact (w.portrait?_createObject spec position _).trans (if_pos rfl)
  · cases hx : w.catalog.nodes.get? name with
    | none => exact (board_node_of_none hx).symm
    | some x =>
      -- An object that has a name already is not the new one.
      obtain ⟨p, hboard, hportrait, _⟩ := h.board_node hx
      have hne : x ≠ w.scene.idAt w.scene.size := by
        intro heq
        exact w.scene.not_has_idAt_size (heq ▸ Scene.has_of_portrait? hportrait)
      rw [hboard]
      show (w.createObject spec position).2.2.scene.portrait? x = _
      rw [portrait?_createObject, if_neg hne, hportrait]

/-- Different names stand for different objects, so a move shows under one name. -/
theorem board_move (h : w.Replays past) {name : String} {id : ObjectId} {p : Portrait}
    (hid : w.catalog.nodes.get? name = some id) (hp : w.scene.portrait? id = some p)
    (position : Vec3) :
    ({ w with scene := w.scene.setTranslation id position } : Workshop).board =
      w.board.putNode name (p.movedTo position) := by
  refine Board.ext ?_ rfl
  funext n
  show (w.catalog.nodes.get? n).bind (w.scene.setTranslation id position).portrait? =
    if name = n then some (p.movedTo position) else w.board.node n
  split
  · next heq =>
    rw [← heq, hid]
    show (w.scene.setTranslation id position).portrait? id = _
    rw [Scene.portrait?_setTranslation, if_pos rfl, hp]
    rfl
  · next hne =>
    cases hx : w.catalog.nodes.get? n with
    | none => exact (board_node_of_none hx).symm
    | some x =>
      obtain ⟨q, hboard, hq, hqname⟩ := h.board_node hx
      obtain ⟨p', hp', hpname⟩ := h.named hid
      have hdistinct : x ≠ id := by
        rintro rfl
        obtain rfl := Option.some.inj (hq.symm.trans hp')
        exact hne (hpname.symm.trans hqname)
      rw [hboard]
      show (w.scene.setTranslation id position).portrait? x = _
      rw [Scene.portrait?_setTranslation, if_neg hdistinct, hq]

/-- **A board tells what an instruction does.** -/
theorem instruct_board (h : w.Replays past) (instruction : Instruction) :
    w.board.instruct instruction = (w.apply instruction).map (·.2.board) := by
  cases instruction with
  | createObject spec position => exact congrArg Except.ok (h.board_createObject spec position).symm
  | createPoint name position =>
    refine congrArg Except.ok (Board.ext rfl ?_)
    funext n
    exact (w.catalog.points.get?_insert name n position).symm
  | createObjectAtPoint spec point =>
    rw [apply_createObjectAtPoint]
    unfold Board.instruct board
    dsimp only
    cases w.catalog.points.get? point with
    | none => rfl
    | some position => exact congrArg Except.ok (h.board_createObject spec position).symm
  | moveToPoint name point =>
    rw [apply_moveToPoint]
    cases hid : w.catalog.nodes.get? name with
    | none => simp [Board.instruct, board_node_of_none hid, Except.map]
    | some id =>
      obtain ⟨p, hboard, hp, _⟩ := h.board_node hid
      simp only [Board.instruct, hboard]
      unfold board
      dsimp only
      cases w.catalog.points.get? point with
      | none => rfl
      | some position => exact congrArg Except.ok (h.board_move hid hp position).symm

end Replays

end Workshop

/-! ## Section 2: Boards that agree -/

namespace Board

/-- **The boards show the same** under the names `N` of objects and `P` of points. -/
structure Agree (N P : String → Prop) (b b' : Board) : Prop where
  node : ∀ name, N name → b'.node name = b.node name
  point : ∀ name, P name → b'.point name = b.point name

variable {N P : String → Prop} {b b' c : Board}

theorem Agree.refl (N P : String → Prop) (b : Board) : Agree N P b b :=
  ⟨fun _ _ => rfl, fun _ _ => rfl⟩

theorem Agree.symm (h : Agree N P b b') : Agree N P b' b :=
  ⟨fun name hname => (h.node name hname).symm, fun name hname => (h.point name hname).symm⟩

theorem Agree.trans (h : Agree N P b b') (h' : Agree N P b' c) : Agree N P b c :=
  ⟨fun name hname => (h'.node name hname).trans (h.node name hname),
    fun name hname => (h'.point name hname).trans (h.point name hname)⟩

/-- The same object under the same name. -/
theorem Agree.putNode (h : Agree N P b b') (name : String) (p : Portrait) :
    Agree N P (b.putNode name p) (b'.putNode name p) := by
  refine ⟨?_, h.point⟩
  intro n hn
  unfold Board.putNode
  dsimp only
  rw [h.node n hn]

theorem Agree.putPoint (h : Agree N P b b') (name : String) (position : Vec3) :
    Agree N P (b.putPoint name position) (b'.putPoint name position) := by
  refine ⟨h.node, ?_⟩
  intro n hn
  unfold Board.putPoint
  dsimp only
  rw [h.point n hn]

theorem agree_putNode {name : String} (hname : ¬ N name) (p : Portrait) :
    Agree N P b (b.putNode name p) := by
  refine ⟨?_, fun _ _ => rfl⟩
  intro n hn
  exact if_neg fun heq : name = n => hname (heq ▸ hn)

theorem agree_putPoint {name : String} (hname : ¬ P name) (position : Vec3) :
    Agree N P b (b.putPoint name position) := by
  refine ⟨fun _ _ => rfl, ?_⟩
  intro n hn
  exact if_neg fun heq : name = n => hname (heq ▸ hn)

/-- **An instruction about the shared names does the same on both boards.** -/
theorem Agree.instruct (h : Agree N P b b') {instruction : Instruction}
    (hnode : ∀ name ∈ instruction.nodeName?, N name)
    (hpoint : ∀ name ∈ instruction.pointName?, P name) :
    (∃ c c', b.instruct instruction = .ok c ∧ b'.instruct instruction = .ok c' ∧
      Agree N P c c') ∨
    ∃ missing, b.instruct instruction = .error missing ∧
      b'.instruct instruction = .error missing := by
  cases instruction with
  | createObject spec position => exact .inl ⟨_, _, rfl, rfl, h.putNode _ _⟩
  | createPoint name position => exact .inl ⟨_, _, rfl, rfl, h.putPoint _ _⟩
  | createObjectAtPoint spec point =>
    simp only [Board.instruct, h.point point (hpoint point rfl)]
    cases b.point point with
    | none => exact .inr ⟨_, rfl, rfl⟩
    | some position => exact .inl ⟨_, _, rfl, rfl, h.putNode _ _⟩
  | moveToPoint name point =>
    simp only [Board.instruct, h.node name (hnode name rfl), h.point point (hpoint point rfl)]
    cases b.node name with
    | none => exact .inr ⟨_, rfl, rfl⟩
    | some p =>
      cases b.point point with
      | none => exact .inr ⟨_, rfl, rfl⟩
      | some position => exact .inl ⟨_, _, rfl, rfl, h.putNode _ _⟩

/-- **An instruction about other names shows nowhere among these.** -/
theorem agree_of_aside {instruction : Instruction}
    (hnode : ∀ name ∈ instruction.nodeName?, ¬ N name)
    (hpoint : ∀ name ∈ instruction.pointName?, ¬ P name)
    (h : b.instruct instruction = .ok c) : Agree N P b c := by
  cases instruction with
  | createObject spec position =>
    obtain rfl := Except.ok.inj h
    exact agree_putNode (hnode _ rfl) _
  | createPoint name position =>
    obtain rfl := Except.ok.inj h
    exact agree_putPoint (hpoint _ rfl) _
  | createObjectAtPoint spec point =>
    simp only [Board.instruct] at h
    split at h
    · obtain rfl := Except.ok.inj h
      exact agree_putNode (hnode _ rfl) _
    · cases h
  | moveToPoint name point =>
    simp only [Board.instruct] at h
    split at h
    · obtain rfl := Except.ok.inj h
      exact agree_putNode (hnode _ rfl) _
    · cases h
    · cases h

end Board

end Planetarium
