import Mathlib.Data.List.Forall2
import ToyRobot.Proofs.History

/-!
# A reset is a fresh start

A reset closes the gate and leaves the robot where it is, so a session that was used before and a
fresh one differ in a robot that nobody can see. `Session.Concord` says how far two sessions agree:
on the table, on the gate, and on the robot as long as the gate is open. Every operation gets the
same answer from two sessions in concord and leaves them in concord.
-/

namespace ToyRobot

namespace Session

/-- Two sessions that no operation can tell apart: behind a closed gate their robots may differ. -/
structure Concord (a b : Session) : Prop where
  table : a.robot.table = b.robot.table
  gate : a.gateOpen = b.gateOpen
  robot : a.gateOpen = true → a.robot = b.robot

theorem Concord.refl (s : Session) : Concord s s :=
  ⟨rfl, rfl, fun _ => rfl⟩

/-- With the gate open, sessions in concord are the same session. -/
theorem Concord.eq_of_open {a b : Session} (h : Concord a b) (hopen : a.gateOpen = true) :
    a = b := by
  rcases a with ⟨r, g⟩
  rcases b with ⟨r', g'⟩
  have hrobot : r = r' := h.robot hopen
  have hgate : g = g' := h.gate
  rw [hrobot, hgate]

/-- A session after a reset and a fresh one of the same table. -/
theorem concord_reset_fresh (s : Session) : Concord s.reset (fresh s.robot.table) where
  table := rfl
  gate := rfl
  robot hopen := by cases hopen

end Session

/-- Two responses that say the same and leave sessions in concord. -/
structure Response.Alike (a b : Response) : Prop where
  outcome : a.outcome = b.outcome
  notices : a.notices = b.notices
  session : a.session.Concord b.session

namespace Session

/-- Behind a closed gate a placement is obeyed alike: it is refused by both tables, or the robots
end up in the same place, wherever they were. -/
theorem Concord.obey_place {a b : Session} (h : Concord a b) (hclosed : a.gateOpen = false)
    (x y : UInt64) (heading : Heading) :
    (a.obey (.place x y heading)).Alike (b.obey (.place x y heading)) := by
  have hclosed' : b.gateOpen = false := h.gate.symm.trans hclosed
  -- only the tables are asked, and they are the same
  have ha := Command.execute_place x y heading a.robot
  have hb := Command.execute_place x y heading b.robot
  rw [← h.table] at hb
  cases hcell : a.robot.table.cellAt? x y with
  | none =>
    rw [hcell] at ha hb
    rw [obey_of_execute ha, obey_of_execute hb, hclosed, hclosed']
    exact ⟨rfl, rfl, h.table, rfl, fun hopen => by cases hopen⟩
  | some cell =>
    rw [hcell] at ha hb
    -- the new pose does not depend on the old one
    have hrobot : a.robot.withPose ⟨cell, heading⟩ = b.robot.withPose ⟨cell, heading⟩ := by
      unfold Robot.withPose
      rw [h.table]
    rw [obey_of_execute ha, obey_of_execute hb, hclosed, hclosed', hrobot]
    exact ⟨rfl, rfl, .refl _⟩

/-- Sessions in concord take a line alike. -/
theorem Concord.process {a b : Session} (h : Concord a b) (line : String) :
    (a.process line).Alike (b.process line) := by
  cases hgate : a.gateOpen with
  | true =>
    -- behind an open gate there is only one session
    rw [h.eq_of_open hgate]
    exact ⟨rfl, rfl, .refl _⟩
  | false =>
    have hgate' : b.gateOpen = false := h.gate.symm.trans hgate
    cases hread : Command.ofLine? line with
    | none =>
      rw [process_unrecognized hread, process_unrecognized hread]
      exact ⟨rfl, rfl, h⟩
    | some c =>
      cases hplace : c.isPlace with
      | false =>
        -- the stale robot behind the gate is not asked
        have ha : a.admits c = false := (admits_of_closed hgate).trans hplace
        have hb : b.admits c = false := (admits_of_closed hgate').trans hplace
        rw [process_passedOver hread ha, process_passedOver hread hb]
        exact ⟨rfl, rfl, h⟩
      | true =>
        -- a placement gets through to either robot
        have ha : a.admits c = true := (admits_of_closed hgate).trans hplace
        have hb : b.admits c = true := (admits_of_closed hgate').trans hplace
        rw [process_admitted hread ha, process_admitted hread hb]
        cases c with
        | place x y heading => exact h.obey_place hgate x y heading
        | move => cases hplace
        | left => cases hplace
        | right => cases hplace
        | report => cases hplace

/-- A reset closes both gates. -/
theorem Concord.reset {a b : Session} (h : Concord a b) : Concord a.reset b.reset where
  table := h.table
  gate := rfl
  robot hopen := by cases hopen

end Session

/-- Two steps with which the same was said and that lead to sessions in concord. -/
structure Step.Alike (a b : Step) : Prop where
  outcome : a.outcome = b.outcome
  notices : a.notices = b.notices
  after : a.after.Concord b.after

namespace Session

/-- Sessions in concord take an operation alike. -/
theorem Concord.perform {a b : Session} (h : Concord a b) (op : Operation) :
    (a.perform op).Alike (b.perform op) := by
  cases op with
  | line text =>
    have hresponse := h.process text
    rw [perform_line, perform_line]
    exact ⟨congrArg some hresponse.outcome, hresponse.notices, hresponse.session⟩
  | reset => exact ⟨rfl, rfl, h.reset⟩

/-- Sessions in concord have traces that are alike step by step. -/
theorem Concord.trace {a b : Session} (h : Concord a b) (ops : List Operation) :
    List.Forall₂ Step.Alike (a.trace ops) (b.trace ops) := by
  induction ops generalizing a b with
  | nil => exact .nil
  | cons op rest ih =>
    have hstep := h.perform op
    exact .cons hstep (ih hstep.after)

end Session

/-- Steps that are alike in pairs agree on all that is read off them alike. -/
theorem Step.map_eq_of_alike {α : Type} {f : Step → α} {a b : List Step}
    (hf : ∀ x y, Step.Alike x y → f x = f y) (h : List.Forall₂ Step.Alike a b) :
    a.map f = b.map f := by
  induction h with
  | nil => rfl
  | cons hstep _ ih => rw [List.map_cons, List.map_cons, hf _ _ hstep, ih]

/-- After a reset, whatever happened before it and wherever the robot was left, a session answers
every list of operations, step by step, as a fresh session of the same table does. The gates of the
two are the same after every step, and the robots too whenever the gate is open. -/
theorem reset_is_fresh_start (s : Session) (ops : List Operation) :
    let old := s.reset.trace ops
    let new := (Session.fresh s.robot.table).trace ops
    s.reset.robot = s.robot ∧
      old.map Step.outcome = new.map Step.outcome ∧
      old.map Step.notices = new.map Step.notices ∧
      List.Forall₂ (fun a b => a.after.gateOpen = b.after.gateOpen ∧
        (a.after.gateOpen = true → a.after.robot = b.after.robot)) old new := by
  intro old new
  have hsteps : List.Forall₂ Step.Alike old new := s.concord_reset_fresh.trace ops
  refine ⟨rfl, ?_, ?_, ?_⟩
  · exact Step.map_eq_of_alike (fun _ _ h => h.outcome) hsteps
  · exact Step.map_eq_of_alike (fun _ _ h => h.notices) hsteps
  · exact hsteps.imp fun _ _ h => ⟨h.after.gate, h.after.robot⟩

end ToyRobot
