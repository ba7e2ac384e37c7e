import TapeMachine.Compile
import TapeMachine.Proofs.Machine.Budget
import TapeMachine.Proofs.Text.Utf8
import TapeMachine.Proofs.Workspace
import TapeMachine.Session

set_option autoImplicit false

namespace TapeMachine

namespace Config

private theorem load_ne_endless (d : Directory) (config : Value) :
    load d config ≠ .error .endless := by
  have entriesFail (entries : Value.Entries) :
      (ofEntries entries).mapError Failure.ofRefusal ≠ .error .endless := by
    refine mapError_ne_error (fun refusal => ?_) _
    cases refusal <;> exact fun same => nomatch same
  have fileFails (shown : String) : ofFile d shown ≠ .error .endless := by
    have unreachable (cause : Directory.Fault) : Failure.file cause ≠ .endless :=
      fun same => nomatch same
    have unreadable (cause : Directory.Fault) :
        Failure.config (.unreadable shown cause) ≠ .endless := fun same => nomatch same
    rw [ofFile]
    refine bind_ne_error (mapError_ne_error unreachable _) fun found => ?_
    split
    · exact fun same => nomatch same
    · refine bind_ne_error (mapError_ne_error unreadable _) fun bytes => ?_
      refine bind_ne_error (mapError_ne_error (fun fault => ?_) _) fun document => ?_
      · split <;> exact fun same => nomatch same
      · rw [ofDocument]
        split
        · exact entriesFail _
        · exact fun same => nomatch same
  cases config with
  | null => exact entriesFail []
  | map entries => exact entriesFail entries
  | str path => exact fileFails path
  | path path => exact fileFails path
  | _ => exact fun same => nomatch same

end Config

theorem Opcode.ofChar_ne_halt (c : Char) : ofChar c ≠ .halt := by
  unfold ofChar
  split <;> decide

namespace Compile

theorem bytes_of_valid {content : List UInt8} {text : List Char}
    (valid : Text.Utf8.decode content = .ok text) : bytes content = .ok (source text) := by
  rw [bytes, valid]
  rfl

theorem decode_source (text : List Char) :
    Opcode.decode (source text) = Opcode.ofSource text :=
  Opcode.decode_encode (Opcode.ofSource text)

end Compile

namespace Session

/-- What is reported of a run. -/
def report : Machine × Outcome × Machine → Report
  | (_, outcome, last) => ⟨last.outputText, last.steps, outcome⟩

section Report

private theorem exists_run_leave (name : String) (content : List UInt8) (w : Workspace) :
    ∃ next, (leave name content).run w = (.ok (), next) := by
  rw [leave, Activity.run_bind, Activity.run_files]
  dsimp only
  cases w.directory.write name content with
  | ok directory => exact ⟨_, rfl⟩
  | error cause => exact ⟨_, rfl⟩

private theorem exists_run_leaveAll (last : Machine) (w : Workspace) :
    ∃ next, (leaveAll last).run w = (.ok (), next) := by
  obtain ⟨dumped, dump⟩ := exists_run_leave "memory_dump.txt"
    (Text.Utf8.ofString (Dump.render last)) w
  obtain ⟨binary, code⟩ := exists_run_leave "out.bin" (Opcode.encode last.code.toList) dumped
  obtain ⟨listed, listing⟩ := exists_run_leave "out.hex"
    (Text.Utf8.ofString (Listing.render (Opcode.encode last.code.toList))) binary
  refine ⟨listed, ?_⟩
  simp only [leaveAll, Activity.run_bind, dump, code, listing]

theorem run_perform_fst (c : Config) (ops : List Opcode) (input : String) (w : Workspace) :
    ((perform c ops input).run w).1 = (run c ops (inputBytes input)).map report := by
  rw [perform, Activity.run_bind, Activity.run_ofExcept]
  cases run c ops (inputBytes input) with
  | error failure => rfl
  | ok result =>
    obtain ⟨loaded, outcome, last⟩ := result
    have opened : Log.isOpen.run w = (.ok w.log.isSome, w) := rfl
    simp only [mapError_ok, Activity.run_bind, opened]
    cases w.log.isSome with
    | false => rfl
    | true =>
      -- Recording and what is left behind always succeed, so the answer is the one after them.
      have recorded : (Log.record (events c loaded outcome last)).run w =
          (.ok (), ((Log.record (events c loaded outcome last)).run w).2) := rfl
      obtain ⟨next, left⟩ := exists_run_leaveAll last
        ((Log.record (events c loaded outcome last)).run w).2
      simp only [if_true, Activity.run_bind]
      rw [recorded]
      simp only [left]
      rfl

theorem run_configure (config : Value) (w : Workspace) :
    (configure config).run w = (Config.load w.directory config, w) := by
  have kept : (Config.load w.directory config).mapError id = Config.load w.directory config := by
    cases Config.load w.directory config <;> rfl
  rw [configure, Activity.run_bind, Activity.run_files]
  dsimp only
  rw [Activity.run_ofExcept, kept]

/-- Whoever configures and performs a program is answered by the report of its run. -/
theorem run_configured_fst (ops : List Opcode) (input : String) (config : Value) (w : Workspace) :
    ((configure config >>= fun c => perform c ops input).run w).1 =
      Config.load w.directory config >>= fun c => (run c ops (inputBytes input)).map report := by
  rw [Activity.run_bind, run_configure]
  cases Config.load w.directory config with
  | error failure => rfl
  | ok c => exact run_perform_fst c ops input w

end Report

section Endless

theorem run_eq_endless_iff {c : Config} {ops : List Opcode} {bytes : List UInt8} :
    run c ops bytes = .error .endless ↔ c.stepLimit = none ∧ ∃ m, machine c = .ok m ∧
      ∀ n, (((m.load ops).feed bytes).reset.after n).halted = false := by
  -- A machine may be refused for its capacity, but that is another failure.
  have fits : machine c ≠ .error .endless := by
    have tape (fault : Tape.Fault) : Failure.tape fault ≠ .endless := fun same => nomatch same
    exact mapError_ne_error tape _
  rw [run]
  cases built : machine c with
  | error failure =>
    constructor
    · intro same
      rw [built] at fits
      exact absurd (congrArg Except.error (Except.error.inj same)) fits
    · rintro ⟨-, m, same, -⟩
      cases same
  | ok m =>
    simp only [Except.ok.injEq, exists_eq_left', ← Machine.run_eq_none_iff, bind, Except.bind]
    cases ran : ((m.load ops).feed bytes).run c.stepLimit with
    | none => simp [throw, throwThe, MonadExceptOf.throw]
    | some result => simp [pure, Except.pure]

theorem run_configured_eq_endless_iff {ops : List Opcode} {input : String} {config : Value}
    {w : Workspace} :
    ((configure config >>= fun c => perform c ops input).run w).1 = .error .endless ↔
      ∃ c m, Config.load w.directory config = .ok c ∧ c.stepLimit = none ∧ machine c = .ok m ∧
        ∀ n, (((m.load ops).feed (inputBytes input)).reset.after n).halted = false := by
  rw [run_configured_fst]
  cases loaded : Config.load w.directory config with
  | error failure =>
    have loads := Config.load_ne_endless w.directory config
    rw [loaded] at loads
    constructor
    · intro same
      exact absurd (congrArg Except.error (Except.error.inj same)) loads
    · rintro ⟨c, m, same, -⟩
      cases same
  | ok c =>
    have reported : (run c ops (inputBytes input)).map report = .error .endless ↔
        run c ops (inputBytes input) = .error .endless := by
      cases run c ops (inputBytes input) <;> simp [Except.map]
    have same : (Except.ok c >>= fun c => (run c ops (inputBytes input)).map report) =
        (run c ops (inputBytes input)).map report := rfl
    rw [same, reported, run_eq_endless_iff]
    constructor
    · rintro ⟨unlimited, m, built, going⟩
      exact ⟨c, m, rfl, unlimited, built, going⟩
    · rintro ⟨c', m, same, unlimited, built, going⟩
      cases same
      exact ⟨unlimited, m, built, going⟩

end Endless

/--
Every source text can be compiled, and what its binary loads is one instruction for each character,
none of which stops, and the stop mark behind them. A session with the binary is the session with
the text: the same report or failure, the same files and printed text. The answer that the program
runs for ever stands for just that, which takes a configuration that sets no limit.
-/
theorem runBytes_of_compiled (source input : String) (config : Value) :
    ∃ code, Compile.bytes (Text.Utf8.ofString source) = .ok code ∧
      (∀ m : Machine, m.load (Opcode.decode code) = m.load (Opcode.ofSource source.toList) ∧
        (m.load (Opcode.decode code)).program.toList =
          source.toList.map Opcode.ofChar ++ [.halt]) ∧
      .halt ∉ source.toList.map Opcode.ofChar ∧
      ∀ w, (runBytes code input config).run w = (runSource source input config).run w ∧
        (((runBytes code input config).run w).1 = .error .endless ↔
          ∃ c m, Config.load w.directory config = .ok c ∧ c.stepLimit = none ∧
            machine c = .ok m ∧ ∀ n, (((m.load (Opcode.ofSource source.toList)).feed
              (inputBytes input)).reset.after n).halted = false) := by
  have decoded := Compile.decode_source source.toList
  have compiled := Compile.bytes_of_valid (Text.Utf8.decode_ofString source)
  refine ⟨Compile.source source.toList, compiled, ?_, ?_, ?_⟩
  · intro m
    rw [decoded]
    refine ⟨rfl, ?_⟩
    simp [Machine.program, Machine.load, Machine.reset, Opcode.ofSource]
  · intro stops
    obtain ⟨c, -, halt⟩ := List.mem_map.mp stops
    exact Opcode.ofChar_ne_halt c halt
  · intro w
    rw [runBytes, runSource, decoded]
    exact ⟨rfl, run_configured_eq_endless_iff⟩

end Session

end TapeMachine
