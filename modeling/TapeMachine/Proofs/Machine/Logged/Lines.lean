import TapeMachine.Proofs.Machine.Effect
import TapeMachine.Proofs.Machine.Logged

set_option autoImplicit false

namespace TapeMachine

/-- Whether a line starts with a text. -/
def Text.startsWith (start line : String) : Bool := start.toList.isPrefixOf line.toList

private theorem Text.startsWith_iff {start line : String} :
    Text.startsWith start line = true ↔ start.toList <+: line.toList :=
  List.isPrefixOf_iff_prefix

private theorem Text.startsWith_eq {start opening line : String}
    (opens : opening.toList <+: line.toList)
    (within : opening.toList <+: start.toList → start = opening) :
    Text.startsWith start line = Text.startsWith start opening := by
  rw [Bool.eq_iff_iff, Text.startsWith_iff, Text.startsWith_iff]
  constructor
  · intro starts
    rcases List.prefix_or_prefix_of_prefix starts opens with inside | beyond
    · exact inside
    · rw [within beyond]
  · intro inside
    exact inside.trans opens

/-- What a line of the log can be about. -/
inductive Topic
  | steps
  | ignored
  | halts
  | limits
  deriving DecidableEq

/-- The text with which the lines about a topic start. -/
def Topic.start : Topic → String
  | steps => "STEP:"
  | ignored => "LOOP_END at "
  | halts => "HALT encountered"
  | limits => "Step limit "

namespace Event

def topic? : Event → Option Topic
  | stepped .. => some .steps
  | loopEndIgnored _ => some .ignored
  | halted => some .halts
  | limitReached .. => some .limits
  | _ => none

def about (t : Topic) (e : Event) : Bool := e.topic? == some t

/-- What the line of an event says before the first thing that varies. -/
def opening : Event → String
  | programLoaded _ => "Program loaded: "
  | inputLoaded _ => "Input loaded: "
  | inputExhausted => "READ: no input -> 0"
  | loopUnclosed _ => "LOOP_START at "
  | loopEndIgnored _ => "LOOP_END at "
  | halted => "HALT encountered"
  | unknownOpcode _ => "Unhandled opcode: "
  | stepped .. => "STEP: "
  | limitReached .. => "Step limit "
  | notWritten .. => "Failed to write "

private theorem opens_append {start line : String} (starts : start.toList <+: line.toList)
    (rest : String) : start.toList <+: (line ++ rest).toList := by
  rw [String.toList_append]
  exact starts.trans (List.prefix_append _ _)

private theorem opening_prefix (e : Event) : e.opening.toList <+: e.message.toList := by
  have itself (text : String) : text.toList <+: text.toList := List.prefix_refl _
  cases e with
  | inputExhausted | halted => exact itself _
  | unknownOpcode code => exact opens_append (itself _) _
  | programLoaded count | inputLoaded count => exact opens_append (opens_append (itself _) _) _
  | loopUnclosed position | loopEndIgnored position =>
    exact opens_append (opens_append (itself _) _) _
  | limitReached limit pc => exact opens_append (opens_append (opens_append (itself _) _) _) _
  | notWritten file cause => exact opens_append (opens_append (opens_append (itself _) _) _) _
  | stepped steps pc pointer cell depth op =>
    iterate 11 refine opens_append ?_ _
    exact itself _

theorem startsWith_message (t : Topic) (e : Event) :
    Text.startsWith t.start e.message = e.about t := by
  have within : e.opening.toList <+: t.start.toList → t.start = e.opening := by
    cases e <;> cases t <;> dsimp only [opening, Topic.start] <;> decide +kernel
  have same : Text.startsWith t.start e.opening = e.about t := by
    cases e <;> cases t <;> dsimp only [opening, Topic.start, about, topic?] <;> decide +kernel
  rw [Text.startsWith_eq e.opening_prefix within, same]

private theorem filter_about_of_aside {events : List Event} (aside : ∀ e ∈ events, e.topic? = none)
    (t : Topic) : events.filter (about t) = [] := by
  rw [List.filter_eq_nil_iff]
  intro e told
  rw [about, aside e told]
  exact Bool.false_ne_true

private theorem exists_positions (events : List Event) : ∃ positions : List Int,
    events.filter (about .ignored) = positions.map loopEndIgnored := by
  induction events with
  | nil => exact ⟨[], rfl⟩
  | cons e events ih =>
    obtain ⟨positions, rest⟩ := ih
    cases e with
    | loopEndIgnored position => exact ⟨position :: positions, congrArg (_ :: ·) rest⟩
    | _ => exact ⟨positions, rest⟩

private theorem filter_map_message (t : Topic) (events : List Event) :
    (events.map message).filter (Text.startsWith t.start) =
      (events.filter (about t)).map message := by
  rw [List.filter_map]
  congr 1
  exact List.filter_congr fun e _ => startsWith_message t e

end Event

namespace Machine

/-- What an instruction tells, together with what it does to the numbers that count it. -/
inductive Telling (before last : Machine) : List Event → Prop
  | stop (halts : last.halted = true) (unmatched : last.unmatched = before.unmatched) :
      Telling before last [.halted]
  | ignored (position : Int) (goes : last.halted = before.halted)
      (unmatched : last.unmatched = before.unmatched + 1) :
      Telling before last [.loopEndIgnored position]
  /-- Nothing, or something that is not counted. -/
  | aside (events : List Event) (goes : last.halted = before.halted)
      (unmatched : last.unmatched = before.unmatched) (apart : ∀ e ∈ events, e.topic? = none) :
      Telling before last events

variable {m last : Machine} {op : Opcode} {lenient : Bool} {events : List Event}

section Telling

private theorem Telling.of_silent (silent : m.remarks op = []) (goes : last.halted = m.halted)
    (unmatched : last.unmatched = m.unmatched) : Telling m last (m.remarks op) := by
  rw [silent]
  exact .aside [] goes unmatched fun e none => by cases none

private theorem Effect.telling (effect : Effect m op last) : Telling m last (m.remarks op) := by
  have apart (event : Event) (topic : event.topic? = none) : ∀ e ∈ [event], e.topic? = none := by
    intro e only
    rw [List.mem_singleton.mp only, topic]
  cases effect with
  | plain p tape input output meaning =>
    cases p with
    | read =>
      cases unread : m.input with
      | nil =>
        have told : m.remarks .read = [.inputExhausted] := by simp [remarks, unread]
        rw [Plain.opcode, told]
        exact .aside _ rfl rfl (apart _ rfl)
      | cons b rest => exact .of_silent (by simp [Plain.opcode, remarks, unread]) rfl rfl
    | _ => exact .of_silent rfl rfl rfl
  | enter nonzero => exact .of_silent (by simp [remarks, nonzero]) rfl rfl
  | skip stop zero found => exact .of_silent (by simp [remarks, found]) rfl rfl
  | abandon zero missing =>
    have told : m.remarks .loopStart = [.loopUnclosed ((m.pc : Int) - 1)] := by
      simp [remarks, zero, missing]
    rw [told]
    exact .aside _ rfl rfl (apart _ rfl)
  | ignore entered =>
    have told : m.remarks .loopEnd = [.loopEndIgnored ((m.pc : Int) - 1)] := by
      simp [remarks, entered]
    rw [told]
    exact .ignored _ rfl rfl
  | again body outer entered nonzero => exact .of_silent (by simp [remarks, entered]) rfl rfl
  | leave body outer entered zero => exact .of_silent (by simp [remarks, entered]) rfl rfl
  | halt => exact .stop rfl rfl

namespace Telling

variable (telling : Telling m last events)
include telling

private theorem filter_eq_nil (t : Topic) (apart : t ≠ .halts) (other : t ≠ .ignored) :
    events.filter (Event.about t) = [] := by
  cases telling with
  | stop halts unmatched => cases t <;> first | contradiction | rfl
  | ignored position goes unmatched => cases t <;> first | contradiction | rfl
  | aside events goes unmatched off => exact Event.filter_about_of_aside off t

private theorem unmatched_eq :
    last.unmatched = m.unmatched + (events.filter (Event.about .ignored)).length := by
  cases telling with
  | stop halts unmatched => exact unmatched
  | ignored position goes unmatched => exact unmatched
  | aside events goes unmatched apart =>
    rw [Event.filter_about_of_aside apart]
    exact unmatched

private theorem filter_halts (going : m.halted = false) :
    events.filter (Event.about .halts) = if last.halted then [.halted] else [] := by
  cases telling with
  | stop halts unmatched =>
    rw [halts]
    rfl
  | ignored position goes unmatched =>
    rw [goes, going]
    rfl
  | aside events goes unmatched apart =>
    rw [Event.filter_about_of_aside apart, goes, going]
    rfl

end Telling

end Telling

section Steps

private theorem telling_perform (op : Opcode) (m : Machine) :
    Telling m (m.perform op) (m.passed.remarks op) := by
  have telling := (effect_execute op m.passed).telling
  generalize m.passed.remarks op = told at telling ⊢
  cases telling with
  | stop halts unmatched => exact .stop halts unmatched
  | ignored position goes unmatched => exact .ignored position goes unmatched
  | aside events goes unmatched apart => exact .aside _ goes unmatched apart

private theorem filter_eventsOf_of_ne {t : Topic} (other : t ≠ .steps) (op : Opcode)
    (before last : Machine) :
    (eventsOf lenient op before last).filter (Event.about t) =
      (before.passed.remarks op).filter (Event.about t) := by
  have apart : (if lenient then [] else [stepEvent op last]).filter (Event.about t) = [] := by
    cases lenient <;> cases t <;> first | contradiction | rfl
  rw [eventsOf, List.filter_append, apart, List.append_nil]

private theorem filter_steps_eventsOf (lenient : Bool) (op : Opcode) (m : Machine) :
    (eventsOf lenient op m (m.perform op)).filter (Event.about .steps) =
      if lenient then [] else [stepEvent op (m.perform op)] := by
  have silent := (telling_perform op m).filter_eq_nil .steps (by decide) (by decide)
  rw [eventsOf, List.filter_append, silent]
  cases lenient <;> rfl

private theorem filter_steps_eventsOfSteps (lenient : Bool) (n : Nat) (m : Machine) :
    (eventsOfSteps lenient n m).filter (Event.about .steps) =
      if lenient then [] else
        (executed n m).mapIdx fun i op => stepEvent op (m.after (i + 1)) := by
  induction n, m using eventsOfSteps_induction lenient with
  | idle n m stays nothing =>
    rw [nothing]
    cases lenient <;> rfl
  | step n m op here ih =>
    rw [List.filter_append, filter_steps_eventsOf, ih, executed_succ here, List.mapIdx_cons,
      next_eq_perform here]
    cases lenient with
    | true => rfl
    | false => simp [after, next_eq_perform here]

private theorem filter_limits_eventsOfSteps (lenient : Bool) (n : Nat) (m : Machine) :
    (eventsOfSteps lenient n m).filter (Event.about .limits) = [] := by
  induction n, m using eventsOfSteps_induction lenient with
  | idle n m stays nothing => rfl
  | step n m op here ih =>
    have silent := (telling_perform op m).filter_eq_nil .limits (by decide) (by decide)
    rw [List.filter_append, filter_eventsOf_of_ne (by decide), silent, ih]
    rfl

private theorem unmatched_after (lenient : Bool) (n : Nat) (m : Machine) :
    (m.after n).unmatched =
      m.unmatched + ((eventsOfSteps lenient n m).filter (Event.about .ignored)).length := by
  induction n, m using eventsOfSteps_induction lenient with
  | idle n m stays nothing =>
    rw [stays]
    rfl
  | step n m op here ih =>
    have counted := (telling_perform op m).unmatched_eq
    rw [after, next_eq_perform here, ih, counted, List.filter_append,
      filter_eventsOf_of_ne (by decide), List.length_append, Nat.add_assoc]

private theorem filter_halts_eventsOfSteps (lenient : Bool) (n : Nat) (sound : Sound m)
    (going : m.halted = false) :
    (eventsOfSteps lenient n m).filter (Event.about .halts) =
      if (m.after n).halted then [.halted] else [] := by
  induction n, m using eventsOfSteps_induction lenient with
  | idle n m stays nothing =>
    rw [stays, going]
    rfl
  | step n m op here ih =>
    have told := (telling_perform op m).filter_halts going
    have later : Sound (m.perform op) := by
      rw [← next_eq_perform here]
      exact sound.after 1
    rw [List.filter_append, filter_eventsOf_of_ne (by decide), told, after, next_eq_perform here]
    cases halted : (m.perform op).halted with
    | true =>
      have stopped := later.halted_iff.mp halted
      rw [eventsOfSteps_of_current?_eq_none stopped, after_of_current?_eq_none stopped, halted]
      rfl
    | false =>
      rw [ih later halted]
      rfl

end Steps

section Runs

/-- The line about the instruction of number `i` of a run, counted from zero. -/
def stepLine (m : Machine) (i : Nat) (op : Opcode) : String :=
  let last := m.reset.after (i + 1)
  "STEP: " ++ Text.column 6 (i + 1) ++ " PC: " ++ Text.column 5 last.pc ++ " PTR: " ++
    Text.column 3 last.tape.pointer ++ " CELL: " ++ Text.column 3 last.tape.read.toNat ++
    " DEPTH: " ++ Text.column 3 last.loops.length ++ "\tINSTR: " ++ op.mnemonic

/-- What the lines of a log that takes everything say about a run that has ended. -/
structure Faithful (lenient : Bool) (limit : Option Int) (m : Machine) (outcome : Outcome)
    (last : Machine) (lines : List String) : Prop where
  /-- The machine has counted the instructions that it has executed. -/
  length : (executed last.steps m.reset).length = last.steps
  /-- There is one line about each of them, or there are no such lines at all. -/
  steps : lines.filter (Text.startsWith "STEP:") =
    if lenient then [] else (executed last.steps m.reset).mapIdx m.stepLine
  /-- There is one line about each loop end that was executed while no loop was entered. -/
  ignored : ∃ positions : List Int, positions.length = last.unmatched ∧
    lines.filter (Text.startsWith "LOOP_END at ") =
      positions.map fun position => s!"LOOP_END at {position} with empty loop stack -> ignored"
  halts : lines.filter (Text.startsWith "HALT encountered") =
    if outcome = .halted then ["HALT encountered"] else []
  limits : (outcome = .halted ∧ lines.filter (Text.startsWith "Step limit ") = []) ∨
    (outcome = .limit ∧ ∃ k, limit = some k ∧
      lines.filter (Text.startsWith "Step limit ") = [s!"Step limit {k} reached at PC {last.pc}"])

variable {limit : Option Int} {outcome : Outcome}

private theorem steps_after_succ_of_executed {n i : Nat} (early : i < (executed n m.reset).length) :
    (m.reset.after (i + 1)).steps = i + 1 := by
  obtain ⟨-, left⟩ := lt_length_executed_iff.mp early
  have move := move_next left
  rw [after_succ, move.steps_eq, steps_of_running left]

private theorem map_message_mapIdx_stepEvent (n : Nat) (m : Machine) :
    ((executed n m.reset).mapIdx fun i op => stepEvent op (m.reset.after (i + 1))).map
      Event.message = (executed n m.reset).mapIdx m.stepLine := by
  apply List.ext_getElem
  · rw [List.length_map, List.length_mapIdx, List.length_mapIdx]
  · intro i early late
    rw [List.length_mapIdx] at late
    have number := steps_after_succ_of_executed late
    rw [List.getElem_map, List.getElem_mapIdx, List.getElem_mapIdx, stepEvent, number]
    rfl

private theorem filter_eventsOfRun {t : Topic} (other : t ≠ .limits)
    (ran : m.run (limit.map Int.toNat) = some (outcome, last)) :
    (m.eventsOfRun lenient limit (outcome, last)).filter (Event.about t) =
      (eventsOfSteps lenient last.steps m.reset).filter (Event.about t) := by
  rcases halted_of_run ran with ⟨rfl, -⟩ | ⟨rfl, -, k, rfl⟩
  · rw [eventsOfRun_halted]
  · have apart : [Event.limitReached k last.pc].filter (Event.about t) = [] := by
      cases t <;> first | contradiction | rfl
    rw [eventsOfRun_limit, List.filter_append, apart, List.append_nil]

theorem faithful_eventsOfRun (lenient : Bool)
    (ran : m.run (limit.map Int.toNat) = some (outcome, last)) :
    Faithful lenient limit m outcome last
      ((m.eventsOfRun lenient limit (outcome, last)).map Event.message) := by
  obtain ⟨n, there⟩ := exists_after_of_run ran
  have length : (executed n m.reset).length = last.steps := by rw [there, steps_after_reset]
  have same : m.reset.after last.steps = last := by
    rw [← length, after_length_executed, there]
  have lines (t : Topic) :=
    Event.filter_map_message t (m.eventsOfRun lenient limit (outcome, last))
  refine ⟨by rw [← length, executed_length], ?_, ?_, ?_, ?_⟩
  · refine (lines .steps).trans ?_
    rw [filter_eventsOfRun (by decide) ran, filter_steps_eventsOfSteps]
    cases lenient with
    | true => rfl
    | false => exact map_message_mapIdx_stepEvent last.steps m
  · have unmatched := unmatched_after lenient last.steps m.reset
    rw [same] at unmatched
    obtain ⟨positions, only⟩ := Event.exists_positions (eventsOfSteps lenient last.steps m.reset)
    refine ⟨positions, ?_, (lines .ignored).trans ?_⟩
    · rw [unmatched, only, List.length_map]
      exact (Nat.zero_add _).symm
    · rw [filter_eventsOfRun (by decide) ran, only, List.map_map]
      rfl
  · have halts := filter_halts_eventsOfSteps lenient last.steps (Sound.reset m) rfl
    refine (lines .halts).trans ?_
    rw [filter_eventsOfRun (by decide) ran, halts, same]
    rcases halted_of_run ran with ⟨rfl, halted⟩ | ⟨rfl, going, -⟩
    · rw [halted]
      rfl
    · rw [going]
      rfl
  · have silent := filter_limits_eventsOfSteps lenient last.steps m.reset
    rcases halted_of_run ran with ⟨rfl, -⟩ | ⟨rfl, -, k, rfl⟩
    · refine .inl ⟨rfl, (lines .limits).trans ?_⟩
      rw [eventsOfRun_halted, silent]
      rfl
    · refine .inr ⟨rfl, k, rfl, (lines .limits).trans ?_⟩
      rw [eventsOfRun_limit, List.filter_append, silent]
      rfl

end Runs

end Machine

namespace Logged

/--
What a log takes makes no difference to what is executed, nor to whether a run ever ends. A log that
takes what a machine tells is what the program reports of the run, and its lines are faithful to it;
any other log stays empty.
-/
theorem debug_log_faithful (p : LogPolicy) (limit : Option Int) (m : Machine) :
    (∀ outcome last, (∃ log, Runs p limit ⟨m, []⟩ (outcome, ⟨last, log⟩)) ↔
      m.run (limit.map Int.toNat) = some (outcome, last)) ∧
    ∀ outcome l, Runs p limit ⟨m, []⟩ (outcome, l) →
      (p.Takes → l.log = m.eventsOfRun p.lenient limit (outcome, l.machine) ∧
        Machine.Faithful p.lenient limit m outcome l.machine (l.log.map Event.message)) ∧
      (¬ p.Takes → l.log = []) := by
  constructor
  · intro outcome last
    constructor
    · rintro ⟨log, runs⟩
      obtain ⟨ended, ran, same⟩ := runs_iff.mp runs
      obtain ⟨rfl, there⟩ := Prod.mk.inj same
      obtain ⟨rfl, -⟩ := Logged.mk.inj there
      exact ran
    · intro ran
      have runs := runs_of_run (p := p) (l := ⟨m, []⟩) ran
      exact ⟨_, runs⟩
  · intro outcome l runs
    obtain ⟨ended, ran, same⟩ := runs_iff.mp runs
    obtain ⟨rfl, rfl⟩ := Prod.mk.inj same
    constructor
    · intro takes
      have log : p.kept (m.eventsOfRun p.lenient limit ended) =
          m.eventsOfRun p.lenient limit ended := if_pos takes
      rw [List.nil_append, log]
      exact ⟨rfl, Machine.faithful_eventsOfRun p.lenient ran⟩
    · intro refuses
      exact if_neg refuses

theorem debug_log_faithful_unmatched_end :
    let m := (Machine.new (Tape.blank 1 Nat.one_pos)).load [.loopEnd]
    let p : LogPolicy := ⟨LogPolicy.debugLevel, false⟩
    let last := m.reset.after 2
    last.steps = 2 ∧ last.unmatched = 1 ∧ ∃ log, Runs p none ⟨m, []⟩ (.halted, ⟨last, log⟩) ∧
      Machine.Faithful false none m .halted last (log.map Event.message) := by
  intro m p last
  have ran : m.run none = some (.halted, last) := by decide +kernel
  obtain ⟨undisturbed, faithful⟩ := debug_log_faithful p none m
  obtain ⟨log, runs⟩ := (undisturbed .halted last).mpr ran
  obtain ⟨-, lines⟩ := (faithful .halted _ runs).1 (by decide)
  exact ⟨by decide +kernel, by decide +kernel, log, runs, lines⟩

end Logged

end TapeMachine
