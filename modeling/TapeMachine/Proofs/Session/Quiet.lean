import TapeMachine.Proofs.Session

set_option autoImplicit false

namespace TapeMachine

namespace Activity

/-- That no open log is printed. -/
def Silent (w : Workspace) : Prop := ∀ log ∈ w.log, log.echo = false

/-- That an activity prints nothing if the log is not printed, however it ends. -/
def Quiet {α : Type} (activity : Activity α) : Prop :=
  ∀ w, Silent w → Silent (activity.run w).2 ∧ (activity.run w).2.printed = w.printed

variable {α β ε : Type}

theorem quiet_pure (a : α) : Quiet (pure a) := fun _ silent => ⟨silent, rfl⟩

private theorem quiet_throw (failure : Failure) : Quiet (throw failure : Activity α) :=
  fun _ silent => ⟨silent, rfl⟩

theorem Quiet.bind {first : Activity α} {second : α → Activity β} (before : Quiet first)
    (after : ∀ a, Quiet (second a)) : Quiet (first >>= second) := by
  intro w silent
  obtain ⟨still, same⟩ := before w silent
  rw [run_bind]
  cases ran : first.run w with
  | mk result next =>
    rw [ran] at still same
    cases result with
    | error failure => exact ⟨still, same⟩
    | ok a =>
      obtain ⟨last, same'⟩ := after a next still
      exact ⟨last, same'.trans same⟩

private theorem quiet_ofExcept (failure : ε → Failure) (result : Except ε α) :
    Quiet (ofExcept failure result) := by
  cases result with
  | ok a => exact quiet_pure a
  | error cause => exact quiet_throw (failure cause)

private theorem quiet_files : Quiet files := fun _ silent => ⟨silent, rfl⟩

private theorem quiet_fileExists (path : String) : Quiet (fileExists path) :=
  quiet_files.bind fun _ => quiet_ofExcept _ _

theorem quiet_readFile (path : String) : Quiet (readFile path) :=
  quiet_files.bind fun _ => quiet_ofExcept _ _

theorem quiet_readText (path : String) : Quiet (readText path) :=
  (quiet_readFile path).bind fun _ => (quiet_ofExcept _ _).bind fun _ => quiet_pure _

end Activity

open Activity (Silent Quiet)

private theorem Log.quiet_record (events : List Event) : Quiet (Log.record events) := by
  rintro ⟨directory, printed, log⟩ silent
  cases log with
  | none => exact ⟨silent, rfl⟩
  | some log =>
    have unprinted : log.echo = false := silent log rfl
    refine ⟨?_, if_neg (Bool.eq_false_iff.mp unprinted)⟩
    rintro _ ⟨⟩
    exact unprinted

private theorem Log.quiet_isOpen : Quiet Log.isOpen := fun _ silent => ⟨silent, rfl⟩

theorem Log.run_start {name : String} {debug : Bool} {w w' : Workspace} {u : Unit}
    (started : (Log.start name debug false).run w = (.ok u, w')) :
    Silent w' ∧ w'.printed = w.printed := by
  simp only [Log.start, Activity.run_bind_eq_ok_iff, Activity.run_ofExcept_eq_ok_iff,
    Activity.run_writeFile_eq_ok_iff] at started
  obtain ⟨d, _, listed, place, _, ⟨-, rfl⟩, _, _, ⟨written, -, rfl⟩, opened⟩ := started
  cases listed
  cases opened
  refine ⟨?_, rfl⟩
  intro log here
  cases debug with
  | false => cases here
  | true =>
    cases here
    rfl

namespace Compile

theorem quiet_readSource (path : String) : Quiet (readSource path) := by
  have existing : Quiet (existing path) := by
    refine (Activity.quiet_fileExists _).bind fun there => ?_
    split
    · exact Activity.quiet_pure _
    · exact Activity.quiet_throw _
  exact existing.bind fun _ => Activity.quiet_readText _

end Compile

namespace Session

private theorem quiet_leave (name : String) (content : List UInt8) :
    Quiet (leave name content) := by
  refine Activity.quiet_files.bind fun d => ?_
  cases d.write name content with
  | ok directory => exact fun _ silent => ⟨silent, rfl⟩
  | error cause => exact Log.quiet_record _

private theorem quiet_leaveAll (last : Machine) : Quiet (leaveAll last) :=
  (quiet_leave _ _).bind fun _ => (quiet_leave _ _).bind fun _ => quiet_leave _ _

theorem quiet_perform (c : Config) (ops : List Opcode) (input : String) :
    Quiet (perform c ops input) := by
  refine (Activity.quiet_ofExcept _ _).bind fun ⟨loaded, outcome, last⟩ => ?_
  refine Log.quiet_isOpen.bind fun isOpen => ?_
  cases isOpen with
  | false => exact Activity.quiet_pure _
  | true =>
    exact (Log.quiet_record _).bind fun _ => (quiet_leaveAll last).bind fun _ =>
      Activity.quiet_pure _

end Session

end TapeMachine
