import TapeMachine.Proofs.Machine.Budget

/-!
A machine that writes its log while it executes: each line is written where the instruction, the
step or the run that it tells of is carried out, and only if the log takes it. Main statement: what
is executed does not depend on the log, and the log is what the events of the run tell.
-/

set_option autoImplicit false

namespace TapeMachine

namespace Machine

variable {m : Machine} {lenient : Bool}

theorem eventsOfSteps_of_current?_eq_none (stopped : m.current? = none) (n : Nat) :
    eventsOfSteps lenient n m = [] := by
  cases n with
  | zero => rfl
  | succ n => simp only [eventsOfSteps, stopped]

theorem eventsOfSteps_induction (lenient : Bool) {motive : Nat → Machine → List Event → Prop}
    (idle : ∀ n m, m.after n = m → executed n m = [] → motive n m [])
    (step : ∀ n m op, m.current? = some op →
      motive n (m.perform op) (eventsOfSteps lenient n (m.perform op)) →
      motive (n + 1) m (eventsOf lenient op m (m.perform op) ++
        eventsOfSteps lenient n (m.perform op)))
    (n : Nat) (m : Machine) : motive n m (eventsOfSteps lenient n m) := by
  induction n generalizing m with
  | zero => exact idle 0 m rfl rfl
  | succ n ih =>
    cases here : m.current? with
    | none =>
      rw [eventsOfSteps_of_current?_eq_none here]
      exact idle (n + 1) m (after_of_current?_eq_none here _) (executed_of_current?_eq_none here)
    | some op =>
      rw [eventsOfSteps_succ here]
      exact step n m op here (ih (m.perform op))

private theorem eventsOfSteps_add (a b : Nat) (m : Machine) :
    eventsOfSteps lenient (a + b) m = eventsOfSteps lenient a m ++
      eventsOfSteps lenient b (m.after a) := by
  induction a generalizing m with
  | zero => simp [eventsOfSteps, after]
  | succ a ih =>
    rw [Nat.add_right_comm, after]
    cases here : m.current? with
    | none =>
      simp only [eventsOfSteps_of_current?_eq_none here, next_of_current?_eq_none here,
        after_of_current?_eq_none here, List.append_nil]
    | some op =>
      rw [eventsOfSteps_succ here, eventsOfSteps_succ here, next_eq_perform here, ih,
        List.append_assoc]

private theorem eventsOfSteps_length_executed (n : Nat) (m : Machine) :
    eventsOfSteps lenient (executed n m).length m = eventsOfSteps lenient n m := by
  induction n generalizing m with
  | zero => rfl
  | succ n ih =>
    cases here : m.current? with
    | none =>
      rw [eventsOfSteps_of_current?_eq_none here, eventsOfSteps_of_current?_eq_none here]
    | some op =>
      rw [executed_succ here, List.length_cons, eventsOfSteps_succ here, eventsOfSteps_succ here,
        next_eq_perform here, ih]

theorem eventsOfRun_halted (limit : Option Int) (m last : Machine) :
    m.eventsOfRun lenient limit (.halted, last) = eventsOfSteps lenient last.steps m.reset := by
  simp only [eventsOfRun, List.append_nil]

theorem eventsOfRun_limit (k : Int) (m last : Machine) :
    m.eventsOfRun lenient (some k) (.limit, last) =
      eventsOfSteps lenient last.steps m.reset ++ [.limitReached k last.pc] := rfl

theorem halted_of_run {limit : Option Int} {outcome : Outcome} {last : Machine}
    (ran : m.run (limit.map Int.toNat) = some (outcome, last)) :
    (outcome = .halted ∧ last.halted = true) ∨
      (outcome = .limit ∧ last.halted = false ∧ ∃ k, limit = some k) := by
  cases limit with
  | none =>
    obtain ⟨rfl, stopped, n, rfl⟩ := run_none_eq_some_iff.mp ran
    have sound := (Sound.reset m).after n
    exact .inl ⟨rfl, sound.halted_iff.mpr stopped⟩
  | some k =>
    have result : m.runWithin k.toNat = (outcome, last) := Option.some.inj ran
    have there : last = m.reset.after k.toNat := by rw [← runWithin_snd, result]
    have ended : outcome = .halted ↔ last.halted = true := by
      rw [there, halted_after_reset_iff, ← runWithin_eq_halted_iff, result]
    cases outcome with
    | halted => exact .inl ⟨rfl, ended.mp rfl⟩
    | limit =>
      have going : last.halted = false := by
        rw [Bool.eq_false_iff]
        intro halted
        have other := ended.mpr halted
        contradiction
      exact .inr ⟨rfl, going, k, rfl⟩

private theorem Sound.current?_after_ne_none {n : Nat} (sound : Sound m)
    (going : (m.after (n + 1)).halted = false) : (m.after n).current? ≠ none := by
  intro stopped
  have later := current?_after_eq_none_of_le stopped n.le_succ
  exact absurd (going.symm.trans ((sound.after (n + 1)).halted_iff.mpr later)) Bool.false_ne_true

end Machine

/-- What a log takes. -/
structure LogPolicy where
  /-- Lines of this level and of higher ones are taken. -/
  level : Int
  /-- Whether the lines about single steps are left out. -/
  lenient : Bool

namespace LogPolicy

/-- The level of all that a machine tells. -/
def debugLevel : Int := 10

def Takes (p : LogPolicy) : Prop := p.level ≤ debugLevel

instance (p : LogPolicy) : Decidable p.Takes := inferInstanceAs (Decidable (p.level ≤ debugLevel))

/-- The events of which a log takes lines. -/
def kept (p : LogPolicy) (events : List Event) : List Event := if p.Takes then events else []

private theorem kept_append (p : LogPolicy) (first second : List Event) :
    p.kept (first ++ second) = p.kept first ++ p.kept second := by
  by_cases takes : p.Takes <;> simp [kept, takes]

private theorem kept_nil (p : LogPolicy) : p.kept [] = [] := by simp [kept]

end LogPolicy

/-- A machine with its log. -/
structure Logged where
  machine : Machine
  log : List Event

namespace Logged

variable (p : LogPolicy)

def change (f : Machine → Machine) (l : Logged) : Logged := ⟨f l.machine, l.log⟩

def tell (e : Event) (l : Logged) : Logged := if p.Takes then ⟨l.machine, l.log ++ [e]⟩ else l

def skipLoop (l : Logged) : Logged :=
  match Brackets.closing? l.machine.code l.machine.pc 0 with
  | some e => l.change fun m => { m with pc := e + 1 }
  | none =>
    (l.tell p (.loopUnclosed ((l.machine.pc : Int) - 1))).change fun m =>
      { m with pc := m.code.size }

/-- The effect of one instruction, the program counter standing behind it. -/
def execute (op : Opcode) (l : Logged) : Logged :=
  match op with
  | .nop => l
  | .inc => l.change (Machine.mapTape (Tape.modify (· + 1)))
  | .dec => l.change (Machine.mapTape (Tape.modify (· - 1)))
  | .ptrLeft => l.change (Machine.mapTape Tape.moveLeft)
  | .ptrRight => l.change (Machine.mapTape Tape.moveRight)
  | .read =>
    match l.machine.input with
    | [] => (l.tell p .inputExhausted).change (Machine.mapTape (Tape.write 0))
    | b :: rest => l.change fun m => { m with input := rest }.mapTape (Tape.write b)
  | .write => l.change Machine.emit
  | .loopStart =>
    if l.machine.tape.read = 0 then l.skipLoop p
    else l.change fun m => { m with loops := m.pc :: m.loops }
  | .loopEnd =>
    match l.machine.loops with
    | [] =>
      (l.change fun m => { m with unmatched := m.unmatched + 1 }).tell p
        (.loopEndIgnored ((l.machine.pc : Int) - 1))
    | body :: outer =>
      if l.machine.tape.read = 0 then l.change fun m => { m with loops := outer }
      else l.change fun m => { m with pc := body }
  | .halt => (l.change fun m => { m with halted := true, pc := m.length }).tell p .halted

/-- Tell of a step that has been made, unless such lines are left out. -/
def tellStep (op : Opcode) (l : Logged) : Logged :=
  if p.lenient = true ∨ ¬ p.Takes then l else l.tell p (l.machine.stepEvent op)

/-- Fetch and execute one instruction; nothing happens past the stop mark. -/
def step (l : Logged) : Option (Opcode × Logged) :=
  match l.machine.current? with
  | none => none
  | some op =>
    let executed := (l.change Machine.passed).execute p op
    some (op, (executed.change fun m => { m with steps := m.steps + 1 }).tellStep p op)

/-- Whether a limit lets a machine go on that has made some steps. -/
def Allows (limit : Option Int) (steps : Nat) : Prop := ∀ k ∈ limit, (steps : Int) < k

instance (limit : Option Int) (steps : Nat) : Decidable (Allows limit steps) :=
  inferInstanceAs (Decidable (∀ k ∈ limit, (steps : Int) < k))

/-- What becomes of a run that the limit does not let go on. -/
def expire (limit : Option Int) (l : Logged) : Outcome × Logged :=
  if l.machine.finished then (.halted, l)
  else
    match limit with
    | none => (.limit, l)
    | some k => (.limit, l.tell p (.limitReached k l.machine.pc))

/-- A turn of the loop that executes: the result of the loop, or the machine it goes on with. -/
def turn (limit : Option Int) (l : Logged) : (Outcome × Logged) ⊕ Logged :=
  if Allows limit l.machine.steps then
    match l.step p with
    | none => .inl (.halted, l)
    | some (_, next) => if next.machine.halted then .inl (.halted, next) else .inr next
  else .inl (l.expire p limit)

/-- Turn after turn of the loop, up to its result; a loop that never ends has none. -/
inductive Loops (limit : Option Int) : Logged → Outcome × Logged → Prop
  | done {l : Logged} {result : Outcome × Logged} (last : l.turn p limit = .inl result) :
      Loops limit l result
  | again {l next : Logged} {result : Outcome × Logged} (goes : l.turn p limit = .inr next)
      (rest : Loops limit next result) : Loops limit l result

/-- Resetting, and then executing until the machine has halted or the limit is reached. -/
def Runs (limit : Option Int) (l : Logged) (result : Outcome × Logged) : Prop :=
  Loops p limit (l.change Machine.reset) result

section Effect

private theorem tell_eq (e : Event) (l : Logged) :
    l.tell p e = ⟨l.machine, l.log ++ p.kept [e]⟩ := by
  by_cases takes : p.Takes <;> simp [tell, LogPolicy.kept, takes]

private theorem tellStep_eq (op : Opcode) (l : Logged) :
    l.tellStep p op =
      ⟨l.machine, l.log ++ p.kept (if p.lenient then [] else [l.machine.stepEvent op])⟩ := by
  rw [tellStep]
  cases lenient : p.lenient with
  | true => simp [LogPolicy.kept_nil]
  | false => by_cases takes : p.Takes <;> simp [tell_eq, LogPolicy.kept, takes]

private theorem skipLoop_eq (l : Logged) :
    l.skipLoop p = ⟨l.machine.skipLoop, l.log ++ p.kept
      (if (Brackets.closing? l.machine.code l.machine.pc 0).isNone then
        [.loopUnclosed ((l.machine.pc : Int) - 1)] else [])⟩ := by
  rw [skipLoop, Machine.skipLoop]
  cases Brackets.closing? l.machine.code l.machine.pc 0 with
  | none => simp [tell_eq, change]
  | some stop => simp [change, LogPolicy.kept_nil]

private theorem execute_eq (op : Opcode) (l : Logged) :
    l.execute p op = ⟨l.machine.execute op, l.log ++ p.kept (l.machine.remarks op)⟩ := by
  cases op with
  | read =>
    rw [execute, Machine.execute, Machine.remarks]
    cases l.machine.input <;> simp [tell_eq, change, LogPolicy.kept_nil]
  | loopStart =>
    rw [execute, Machine.execute, Machine.remarks]
    by_cases zero : l.machine.tape.read = 0
    · simp only [zero, if_true, true_and, skipLoop_eq]
    · simp [zero, change, LogPolicy.kept_nil]
  | loopEnd =>
    rw [execute, Machine.execute, Machine.remarks]
    cases entered : l.machine.loops with
    | nil => simp [tell_eq, change, entered]
    | cons body outer =>
      by_cases zero : l.machine.tape.read = 0 <;>
        simp [zero, change, entered, LogPolicy.kept_nil]
  | halt => simp [execute, Machine.execute, Machine.remarks, tell_eq, change]
  | _ => simp [execute, Machine.execute, Machine.remarks, change, LogPolicy.kept_nil]

private theorem step_eq {op : Opcode} {l : Logged} (here : l.machine.current? = some op) :
    l.step p = some (op, ⟨l.machine.perform op,
      l.log ++ p.kept (Machine.eventsOf p.lenient op l.machine (l.machine.perform op))⟩) := by
  rw [step, here]
  simp only [execute_eq, tellStep_eq, change, Machine.eventsOf, LogPolicy.kept_append,
    List.append_assoc]
  rfl

end Effect

section Loop

/-- A machine after `n` steps, with what they tell. -/
def follow (n : Nat) (l : Logged) : Logged :=
  ⟨l.machine.after n, l.log ++ p.kept (Machine.eventsOfSteps p.lenient n l.machine)⟩

variable {p} {limit : Option Int} {l : Logged}

private theorem follow_of_stopped (stopped : l.machine.current? = none) (n : Nat) :
    l.follow p n = l := by
  rw [follow, Machine.after_of_current?_eq_none stopped,
    Machine.eventsOfSteps_of_current?_eq_none stopped, LogPolicy.kept_nil, List.append_nil]

private theorem follow_add (a b : Nat) (l : Logged) :
    l.follow p (a + b) = (l.follow p a).follow p b := by
  simp only [follow, Machine.after_add, Machine.eventsOfSteps_add, LogPolicy.kept_append,
    List.append_assoc]

private theorem step_eq_follow {op : Opcode} (here : l.machine.current? = some op) :
    l.step p = some (op, l.follow p 1) := by
  rw [step_eq p here, follow, Machine.after, Machine.after, Machine.next_eq_perform here,
    Machine.eventsOfSteps_succ here, Machine.eventsOfSteps, List.append_nil]

private theorem turn_of_allows (allowed : Allows limit l.machine.steps)
    (left : l.machine.current? ≠ none) :
    l.turn p limit = if (l.follow p 1).machine.halted then .inl (.halted, l.follow p 1)
      else .inr (l.follow p 1) := by
  obtain ⟨op, here⟩ := Option.ne_none_iff_exists'.mp left
  rw [turn, if_pos allowed, step_eq_follow here]

theorem Loops.unique {first second : Outcome × Logged} (loops : Loops p limit l first)
    (other : Loops p limit l second) : first = second := by
  induction loops with
  | done last =>
    cases other with
    | done lastToo => exact Sum.inl.inj (last.symm.trans lastToo)
    | again goes rest => cases last.symm.trans goes
  | again goes rest ih =>
    cases other with
    | done last => cases last.symm.trans goes
    | again goesToo restToo =>
      obtain rfl := Sum.inr.inj (goes.symm.trans goesToo)
      exact ih restToo

private theorem loops_of_follow {n : Nat} {result : Outcome × Logged}
    (sound : Machine.Sound l.machine)
    (going : (l.machine.after n).halted = false)
    (allowed : ∀ j < n, Allows limit (l.machine.after j).steps)
    (rest : Loops p limit (l.follow p n) result) : Loops p limit l result := by
  induction n with
  | zero =>
    have same : l.follow p 0 = l := by
      rw [follow, Machine.eventsOfSteps, LogPolicy.kept_nil, List.append_nil]
      rfl
    rwa [same] at rest
  | succ n ih =>
    have left : (l.machine.after n).current? ≠ none := sound.current?_after_ne_none going
    have earlier : ∀ j < n, Allows limit (l.machine.after j).steps :=
      fun j less => allowed j (less.trans n.lt_succ_self)
    have goes : (l.follow p n).turn p limit = .inr (l.follow p (n + 1)) := by
      rw [turn_of_allows (allowed n n.lt_succ_self) left, ← follow_add]
      exact if_neg (by rw [follow, going]; exact Bool.false_ne_true)
    exact ih ((sound.after n).running left) earlier (.again goes rest)

private theorem loops_of_halted {n : Nat} (sound : Machine.Sound l.machine)
    (going : l.machine.halted = false) (ended : (l.machine.after n).halted = true)
    (allowed : ∀ j < n, Allows limit (l.machine.after j).steps) :
    Loops p limit l (.halted, l.follow p n) := by
  induction n with
  | zero => exact absurd (going.symm.trans ended) Bool.false_ne_true
  | succ n ih =>
    have earlier : ∀ j < n, Allows limit (l.machine.after j).steps :=
      fun j less => allowed j (less.trans n.lt_succ_self)
    cases before : (l.machine.after n).halted with
    | true =>
      have stopped : (l.follow p n).machine.current? = none :=
        (sound.after n).halted_iff.mp before
      rw [follow_add, follow_of_stopped stopped]
      exact ih before earlier
    | false =>
      have left : (l.machine.after n).current? ≠ none := by
        intro stopped
        rw [(sound.after n).halted_iff.mpr stopped] at before
        contradiction
      have last : (l.follow p n).turn p limit = .inl (.halted, l.follow p (n + 1)) := by
        rw [turn_of_allows (allowed n n.lt_succ_self) left, ← follow_add]
        exact if_pos ended
      exact loops_of_follow sound before earlier (.done last)

private theorem loops_of_limit {n : Nat} {k : Int} (sound : Machine.Sound l.machine)
    (going : (l.machine.after n).halted = false)
    (allowed : ∀ j < n, Allows (some k) (l.machine.after j).steps)
    (refused : ¬ Allows (some k) (l.machine.after n).steps) :
    Loops p (some k) l
      (.limit, (l.follow p n).tell p (.limitReached k (l.machine.after n).pc)) := by
  have unfinished : (l.follow p n).machine.finished = false := by
    rw [← Bool.not_eq_true, follow, (sound.after n).finished_iff, ← (sound.after n).halted_iff,
      Bool.not_eq_true]
    exact going
  have last : (l.follow p n).turn p (some k) =
      .inl (.limit, (l.follow p n).tell p (.limitReached k (l.machine.after n).pc)) := by
    have expired : ¬ Allows (some k) (l.follow p n).machine.steps := refused
    rw [turn, if_neg expired, expire, unfinished]
    rfl
  exact loops_of_follow sound going allowed (.done last)

private theorem exists_halted_of_loops {result : Outcome × Logged} (loops : Loops p none l result)
    (sound : Machine.Sound l.machine) : ∃ n, (l.machine.after n).halted = true := by
  have unlimited (steps : Nat) : Allows none steps := fun k limit => by cases limit
  induction loops with
  | @done l result last =>
    by_cases stopped : l.machine.current? = none
    · exact ⟨0, sound.halted_iff.mpr stopped⟩
    · rw [turn_of_allows (unlimited _) stopped] at last
      split at last
      · next halted => exact ⟨1, halted⟩
      · cases last
  | @again l next result goes rest ih =>
    by_cases stopped : l.machine.current? = none
    · exact ⟨0, sound.halted_iff.mpr stopped⟩
    · rw [turn_of_allows (unlimited _) stopped] at goes
      split at goes
      · cases goes
      · obtain rfl := Sum.inr.inj goes
        obtain ⟨n, later⟩ := ih (sound.after 1)
        exact ⟨n + 1, later⟩

end Loop

section Run

variable {p} {limit : Option Int} {l : Logged}

private theorem allows_of_lt {k : Int} {j : Nat} (less : j < k.toNat) (m : Machine) :
    Allows (some k) (m.reset.after j).steps := by
  intro bound same
  obtain rfl := Option.some.inj same
  have atMost : ¬ j < (Machine.executed j m.reset).length := fun more =>
    absurd (Machine.lt_length_executed_iff.mp more).1 (Nat.lt_irrefl j)
  rw [Machine.steps_after_reset]
  omega

private theorem not_allows_of_running {k : Int} {m : Machine}
    (left : (m.reset.after k.toNat).current? ≠ none) :
    ¬ Allows (some k) (m.reset.after k.toNat).steps := by
  intro allowed
  have less := allowed k rfl
  rw [Machine.steps_of_running left] at less
  omega

private theorem runs_of_halted {n : Nat} (ended : (l.machine.reset.after n).halted = true)
    (allowed : ∀ j < n, Allows limit (l.machine.reset.after j).steps) :
    l.Runs p limit (.halted, ⟨l.machine.reset.after n, l.log ++
      p.kept (l.machine.eventsOfRun p.lenient limit (.halted, l.machine.reset.after n))⟩) := by
  have events : l.machine.eventsOfRun p.lenient limit (.halted, l.machine.reset.after n) =
      Machine.eventsOfSteps p.lenient n l.machine.reset := by
    rw [Machine.eventsOfRun_halted, Machine.steps_after_reset,
      Machine.eventsOfSteps_length_executed]
  have sound := Machine.Sound.reset l.machine
  rw [events]
  exact loops_of_halted (l := l.change Machine.reset) sound rfl ended allowed

private theorem runs_of_limit {k : Int} (going : (l.machine.reset.after k.toNat).halted = false) :
    l.Runs p (some k) (.limit, ⟨l.machine.reset.after k.toNat, l.log ++
      p.kept (l.machine.eventsOfRun p.lenient (some k)
        (.limit, l.machine.reset.after k.toNat))⟩) := by
  have sound := Machine.Sound.reset l.machine
  have left : (l.machine.reset.after k.toNat).current? ≠ none := by
    intro stopped
    rw [(sound.after k.toNat).halted_iff.mpr stopped] at going
    contradiction
  have events : l.machine.eventsOfRun p.lenient (some k) (.limit, l.machine.reset.after k.toNat) =
      Machine.eventsOfSteps p.lenient k.toNat l.machine.reset ++
        [.limitReached k (l.machine.reset.after k.toNat).pc] := by
    rw [Machine.eventsOfRun_limit, Machine.steps_after_reset,
      Machine.eventsOfSteps_length_executed]
  have loops := loops_of_limit (p := p) (l := l.change Machine.reset) sound going
    (fun j less => allows_of_lt less l.machine) (not_allows_of_running left)
  rw [tell_eq] at loops
  rw [events, LogPolicy.kept_append, ← List.append_assoc]
  exact loops

theorem runs_of_run {result : Outcome × Machine}
    (ran : l.machine.run (limit.map Int.toNat) = some result) :
    l.Runs p limit (result.1,
      ⟨result.2, l.log ++ p.kept (l.machine.eventsOfRun p.lenient limit result)⟩) := by
  obtain ⟨outcome, last⟩ := result
  cases limit with
  | none =>
    obtain ⟨rfl, stopped, n, rfl⟩ := Machine.run_none_eq_some_iff.mp ran
    have sound := (Machine.Sound.reset l.machine).after n
    exact runs_of_halted (sound.halted_iff.mpr stopped) (fun j _ k none => by cases none)
  | some k =>
    have result : l.machine.runWithin k.toNat = (outcome, last) := Option.some.inj ran
    have there : last = l.machine.reset.after k.toNat := by
      rw [← Machine.runWithin_snd, result]
    have ends := @Machine.halted_of_run l.machine (some k) outcome last ran
    rcases ends with ⟨rfl, halted⟩ | ⟨rfl, going, -⟩
    · rw [there] at halted ⊢
      exact runs_of_halted halted (fun j less => allows_of_lt less l.machine)
    · rw [there] at going ⊢
      exact runs_of_limit going

/-- A run with a log is the run without one, and the log takes what the run tells. -/
theorem runs_iff {p : LogPolicy} {result : Outcome × Logged} :
    l.Runs p limit result ↔ ∃ ended, l.machine.run (limit.map Int.toNat) = some ended ∧
      result = (ended.1,
        ⟨ended.2, l.log ++ p.kept (l.machine.eventsOfRun p.lenient limit ended)⟩) := by
  constructor
  · intro runs
    cases ran : l.machine.run (limit.map Int.toNat) with
    | some ended => exact ⟨ended, rfl, runs.unique (runs_of_run ran)⟩
    | none =>
      obtain ⟨unlimited, endless⟩ := Machine.run_eq_none_iff.mp ran
      obtain rfl := Option.map_eq_none_iff.mp unlimited
      obtain ⟨n, halted⟩ := exists_halted_of_loops runs (Machine.Sound.reset l.machine)
      exact absurd ((endless n).symm.trans halted) Bool.false_ne_true
  · rintro ⟨ended, ran, rfl⟩
    exact runs_of_run ran

end Run

end Logged

end TapeMachine
