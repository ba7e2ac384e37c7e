import TapeMachine.Command
import TapeMachine.Proofs.Config.Normal
import TapeMachine.Proofs.Record
import TapeMachine.Proofs.Session.Quiet
import TapeMachine.Proofs.Text.Fields

set_option autoImplicit false

namespace TapeMachine

open Activity (Quiet)

private theorem Machine.output_eq_of_outputText_eq {m m' : Machine}
    (same : m.outputText = m'.outputText) :
    m.output = m'.output := by
  have numbers := congrArg (fun text : String => text.toList.map Char.toNat) same
  simp only [Record.map_toNat_outputText] at numbers
  have bytes : Function.Injective UInt8.toNat := fun _ _ => UInt8.toNat_inj.mp
  exact Array.toList_inj.mp (List.map_injective_iff.mpr bytes numbers)

namespace Command

section Text

variable {r r' : Report}

def stepsLine (n : Nat) : List Char := "STEPS: ".toList ++ Text.decimal n

/-- The lines that are printed behind the output; nothing stands behind the last line break. -/
def trailer (r : Report) : List (List Char) :=
  match r.outcome with
  | .halted => [stepsLine r.steps, []]
  | .limit => [stepsLine r.steps, "STATE: limit".toList, []]

private theorem stepsLine_injective : Function.Injective stepsLine := by
  intro n n' same
  exact Text.decimal_injective (List.append_cancel_left same)

private theorem stepsLine_ne_state (n : Nat) : stepsLine n ≠ "STATE: limit".toList := by
  intro same
  have third := congrArg (fun text : List Char => text[2]?) same
  have letter : (stepsLine n)[2]? = some 'E' := rfl
  rw [letter] at third
  exact absurd third (by decide)

private theorem notMem_trailer (r : Report) : ∀ line ∈ trailer r, '\n' ∉ line := by
  have steps : '\n' ∉ stepsLine r.steps := by
    unfold stepsLine
    rw [List.mem_append]
    exact not_or_intro (by decide) (Text.notMem_decimal rfl _)
  have state : '\n' ∉ "STATE: limit".toList := by decide
  unfold trailer
  cases r.outcome with
  | halted =>
    simp only [List.forall_mem_cons, List.not_mem_nil, false_implies, implies_true, and_true]
    exact ⟨steps, not_false⟩
  | limit =>
    simp only [List.forall_mem_cons, List.not_mem_nil, false_implies, implies_true, and_true]
    exact ⟨steps, state, not_false⟩

private theorem trailer_ne_nil (r : Report) : trailer r ≠ [] := by
  unfold trailer
  cases r.outcome <;> exact List.cons_ne_nil _ _

private theorem toList_reportText (r : Report) :
    (reportText r).toList = r.output.toList ++ '\n' :: ['\n'].intercalate (trailer r) := by
  unfold reportText trailer stepsLine
  cases r.outcome <;>
  · simp only [String.toList_append, Text.toList_toString, List.append_assoc,
      List.intercalate_cons_cons, List.intercalate_singleton]
    rfl

private theorem splitOn_reportText (r : Report) :
    (reportText r).toList.splitOn '\n' = r.output.toList.splitOn '\n' ++ trailer r := by
  rw [toList_reportText, List.splitOn_append_cons_self,
    List.splitOn_intercalate '\n' (notMem_trailer r) (trailer_ne_nil r)]

/--
Lines of any kind before it do not hide the trailer: the line before the last break tells whether it
is the longer one.
-/
private theorem append_trailer_injective {front front' : List (List Char)}
    (same : front ++ trailer r = front' ++ trailer r') :
    front = front' ∧ r.steps = r'.steps ∧ r.outcome = r'.outcome := by
  obtain ⟨output, n, outcome⟩ := r
  obtain ⟨output', n', outcome'⟩ := r'
  -- With different ends, the lines of the steps and of the state would be the same.
  have mixed (front front' : List (List Char)) (n n' : Nat) :
      front ++ [stepsLine n, []] ≠ front' ++ [stepsLine n', "STATE: limit".toList, []] := by
    intro same
    have moved : front ++ [stepsLine n, []] =
        (front' ++ [stepsLine n']) ++ ["STATE: limit".toList, []] := by
      rw [same, List.append_assoc, List.singleton_append]
    exact stepsLine_ne_state n (List.cons.inj (List.append_inj_right' moved rfl)).1
  cases outcome with
  | halted =>
    cases outcome' with
    | halted =>
      obtain ⟨fronts, lines⟩ := List.append_inj' same rfl
      exact ⟨fronts, stepsLine_injective (List.cons.inj lines).1, rfl⟩
    | limit => exact absurd same (mixed front front' n n')
  | limit =>
    cases outcome' with
    | halted => exact absurd same.symm (mixed front' front n' n)
    | limit =>
      obtain ⟨fronts, lines⟩ := List.append_inj' same rfl
      exact ⟨fronts, stepsLine_injective (List.cons.inj lines).1, rfl⟩

theorem reportText_injective : Function.Injective reportText := by
  intro r r' same
  have lines := congrArg (fun text : String => text.toList.splitOn '\n') same
  simp only [splitOn_reportText] at lines
  obtain ⟨outputs, steps, outcome⟩ := append_trailer_injective lines
  have output : r.output = r'.output := String.toList_inj.mp (Text.eq_of_splitOn_eq outputs)
  obtain ⟨_, _, _⟩ := r
  obtain ⟨_, _, _⟩ := r'
  rw [Report.mk.injEq]
  exact ⟨output, steps, outcome⟩

end Text

section Run

variable {a : Arguments} {c : Config} {w w' : Workspace}

/-- The configuration that a command line names. -/
def configOf (a : Arguments) : Value :=
  match a.value? "--config" with
  | some path => .str path
  | none => .null

/-- The input that a command line gives or names a file of. -/
def inputOf (a : Arguments) : Activity String :=
  let file := (a.value? "--input-file").getD ""
  if file ≠ "" then Activity.readText (Path.ofString file).text
  else pure ((a.value? "--input").getD "")

/-- The instructions in a program file. -/
def programOf (program : String) : Activity (List Opcode) := do
  let path := Path.ofString program
  if path.suffix = ['.', 'b', 'i', 'n'] then return Opcode.decode (← Activity.readFile path.text)
  else return Opcode.ofSource (← Compile.readSource path.text).toList

/--
The run that a command line asks for. The log is begun first, as it may stand where a file is that
is read.
-/
def runOf (a : Arguments) : Activity (Machine × Outcome × Machine) := do
  Log.start ((a.value? "--logfile").getD defaultLog) (a.has "--debug") (a.has "--console")
  let c ← Session.configure (configOf a)
  let input ← inputOf a
  let ops ← programOf a.operand
  Activity.ofExcept id (Session.run c ops (inputBytes input))

/-- The same run with all that it leaves behind, once the configuration is known. -/
def sessionOf (a : Arguments) (c : Config) : Activity Report := do
  let input ← inputOf a
  let ops ← programOf a.operand
  Session.perform c ops input

private theorem quiet_inputOf (a : Arguments) : Quiet (inputOf a) := by
  unfold inputOf
  dsimp only
  split
  · exact Activity.quiet_readText _
  · exact Activity.quiet_pure _

private theorem quiet_programOf (program : String) : Quiet (programOf program) := by
  unfold programOf
  dsimp only
  split
  · exact (Activity.quiet_readFile _).bind fun _ => Activity.quiet_pure _
  · exact (Compile.quiet_readSource _).bind fun _ => Activity.quiet_pure _

private theorem quiet_sessionOf (a : Arguments) (c : Config) : Quiet (sessionOf a c) :=
  (quiet_inputOf a).bind fun input => (quiet_programOf _).bind fun ops =>
    Session.quiet_perform c ops input

private theorem runFile_eq (program input : String) (c : Config) :
    runFile program input c = programOf program >>= fun ops => Session.perform c ops input := by
  unfold runFile programOf
  dsimp only
  split <;> simp only [bind_assoc, pure_bind]

private theorem run_configured_toEntries {d : Directory} {v : Value}
    (loaded : Config.load d v = .ok c) (ops : List Opcode) (input : String) (w : Workspace) :
    (Session.configure (.map c.toEntries) >>= fun c' => Session.perform c' ops input).run w =
      (Session.perform c ops input).run w := by
  rw [Activity.run_bind, Session.run_configure, Config.load_toEntries loaded]

/--
A file is run as a session runs its bytes or its text under the entries of the configuration: what
has been loaded once need not be loaded again.
-/
theorem run_runFile_eq_session {d : Directory} {v : Value} (loaded : Config.load d v = .ok c)
    (program input : String) (w : Workspace) :
    (runFile program input c).run w =
      if (Path.ofString program).suffix = ['.', 'b', 'i', 'n'] then
        (Activity.readFile (Path.ofString program).text >>= fun bytes =>
          Session.runBytes bytes input (.map c.toEntries)).run w
      else
        (Compile.readSource (Path.ofString program).text >>= fun source =>
          Session.runSource source input (.map c.toEntries)).run w := by
  unfold runFile
  dsimp only
  split
  · rw [Activity.run_bind, Activity.run_bind]
    split
    · exact (run_configured_toEntries loaded _ input _).symm
    · rfl
  · rw [Activity.run_bind, Activity.run_bind]
    split
    · exact (run_configured_toEntries loaded _ input _).symm
    · rfl

/-- Report on a program file, once its input has been read; returns the exit status. -/
def reportOn (program : String) (c : Config) (input : String) : Activity Nat := do
  if !(← Activity.fileExists (Path.ofString program).text) then
    Activity.printLine ("Program file not found: " ++ program)
    return 2
  Activity.print (reportText (← runFile program input c))
  return 0

private theorem runConfigured_eq (a : Arguments) (c : Config) : runConfigured a c = (do
    let file := (a.value? "--input-file").getD ""
    if file ≠ "" && !(← Activity.fileExists (Path.ofString file).text) then
      Activity.printLine ("Input file not found: " ++ file)
      return 2
    inputOf a >>= reportOn a.operand c) := by
  unfold runConfigured inputOf reportOn
  dsimp only
  refine bind_congr fun there => ?_
  split
  · rfl
  · split <;> rfl

private theorem exists_of_run_reportOn {program input : String}
    (ended : (reportOn program c input).run w = (.ok 0, w')) :
    ∃ r next, (runFile program input c).run w = (.ok r, next) ∧
      w' = { next with printed := next.printed ++ reportText r } := by
  unfold reportOn at ended
  obtain ⟨there, _, checked, rest⟩ := Activity.run_bind_eq_ok_iff.mp ended
  obtain ⟨-, rfl⟩ := Activity.run_fileExists_eq_ok_iff.mp checked
  cases there with
  | false => cases rest
  | true =>
    obtain ⟨r, next, ran, printed⟩ := Activity.run_bind_eq_ok_iff.mp rest
    cases printed
    exact ⟨r, next, ran, rfl⟩

private theorem exists_of_run_runConfigured (ended : (runConfigured a c).run w = (.ok 0, w')) :
    ∃ r next, (sessionOf a c).run w = (.ok r, next) ∧
      w' = { next with printed := next.printed ++ reportText r } := by
  rw [runConfigured_eq] at ended
  dsimp only at ended
  obtain ⟨there, _, checked, rest⟩ := Activity.run_bind_eq_ok_iff.mp ended
  obtain ⟨-, rfl⟩ := Activity.run_fileExists_eq_ok_iff.mp checked
  split at rest
  · cases rest
  · obtain ⟨input, fed, given, reported⟩ := Activity.run_bind_eq_ok_iff.mp rest
    obtain ⟨r, next, ran, printed⟩ := exists_of_run_reportOn reported
    rw [runFile_eq] at ran
    exact ⟨r, next, Activity.run_bind_eq_ok_iff.mpr ⟨input, fed, given, ran⟩, printed⟩

private theorem exists_of_run_sessionOf {r : Report}
    (performed : (sessionOf a c).run w = (.ok r, w')) :
    ∃ input fed ops found ran, (inputOf a).run w = (.ok input, fed) ∧
      (programOf a.operand).run fed = (.ok ops, found) ∧
      Session.run c ops (inputBytes input) = .ok ran ∧ r = Session.report ran := by
  obtain ⟨input, fed, given, rest⟩ := Activity.run_bind_eq_ok_iff.mp performed
  obtain ⟨ops, found, program, rest⟩ := Activity.run_bind_eq_ok_iff.mp rest
  have answered := Session.run_perform_fst c ops input found
  rw [rest] at answered
  cases ran : Session.run c ops (inputBytes input) with
  | error failure =>
    rw [ran] at answered
    cases answered
  | ok result =>
    rw [ran] at answered
    cases answered
    exact ⟨input, fed, ops, found, result, given, program, ran, rfl⟩

private theorem exists_of_run_performRun (plain : a.has "--console" = false)
    (ended : (performRun a).run w = (.ok 0, w')) :
    ∃ ran, ((runOf a).run w).1 = .ok ran ∧
      w'.printed = w.printed ++ reportText (Session.report ran) := by
  obtain ⟨_, started, start, rest⟩ := Activity.run_bind_eq_ok_iff.mp ended
  obtain ⟨silent, unprinted⟩ := Log.run_start (plain ▸ start)
  have configured := Session.run_configure (configOf a) started
  rw [Activity.run_bind, Activity.run_files] at rest
  dsimp only at rest
  split at rest
  · next c loaded =>
    change Config.load started.directory (configOf a) = .ok c at loaded
    rw [loaded] at configured
    obtain ⟨r, next, performed, rfl⟩ := exists_of_run_runConfigured rest
    have quiet := (quiet_sessionOf a c started silent).2
    rw [performed] at quiet
    have unprinted : next.printed = w.printed := quiet.trans unprinted
    obtain ⟨input, fed, ops, found, ran, given, program, run, rfl⟩ :=
      exists_of_run_sessionOf performed
    refine ⟨ran, ?_, by rw [← unprinted]⟩
    simp only [runOf, Activity.run_bind, start, configured, given, program, run,
      Activity.run_ofExcept, mapError_ok]
  · cases rest
  · cases rest

end Run

/-- A command line that was carried out without echo and ended well. -/
structure Invocation where
  words : List String
  arguments : Arguments
  before : Workspace
  after : Workspace
  accepted : Arguments.read runUsage words = .accepted arguments
  plain : arguments.has "--console" = false
  ended : (perform .run words).run before = (.ok 0, after)

namespace Invocation

def Printed (i : Invocation) (text : String) : Prop :=
  i.after.printed = i.before.printed ++ text

/-- How the run ended that was asked for. -/
def Ran (i : Invocation) (outcome : Outcome) (last : Machine) : Prop :=
  ∃ loaded, ((runOf i.arguments).run i.before).1 = .ok (loaded, outcome, last)

variable {i : Invocation} {outcome outcome' : Outcome} {last last' : Machine}

private theorem Ran.unique (ran : i.Ran outcome last) (ran' : i.Ran outcome' last') :
    outcome = outcome' ∧ last = last' := by
  obtain ⟨loaded, ran⟩ := ran
  obtain ⟨loaded', ran'⟩ := ran'
  cases ran.symm.trans ran'
  exact ⟨rfl, rfl⟩

private theorem Printed.unique {text text' : String} (printed : i.Printed text)
    (printed' : i.Printed text') : text = text' :=
  (String.append_right_inj i.before.printed).mp (printed.symm.trans printed')

private theorem exists_ran (i : Invocation) : ∃ outcome last, i.Ran outcome last ∧
    i.Printed (reportText ⟨last.outputText, last.steps, outcome⟩) := by
  have ended := i.ended
  rw [perform, withArguments, i.accepted] at ended
  obtain ⟨⟨loaded, outcome, last⟩, ran, printed⟩ := exists_of_run_performRun i.plain ended
  exact ⟨outcome, last, ⟨loaded, ran⟩, printed⟩

end Invocation

/--
Reports that are printed alike are alike, whatever characters the outputs have. A command line that
ends well without echo prints the report of the run that it asks for and nothing else, so that if
another one prints the same text, its run had the same output, the same number of steps and the same
outcome.
-/
theorem report_unambiguous :
    Function.Injective reportText ∧
    ∀ i : Invocation, ∃ outcome last, i.Ran outcome last ∧
      i.Printed (reportText ⟨last.outputText, last.steps, outcome⟩) ∧
      ∀ (i' : Invocation) outcome' last' text, i'.Ran outcome' last' →
        i.Printed text → i'.Printed text →
        last.output = last'.output ∧ last.steps = last'.steps ∧ outcome = outcome' := by
  refine ⟨reportText_injective, ?_⟩
  intro i
  obtain ⟨outcome, last, ran, printed⟩ := i.exists_ran
  refine ⟨outcome, last, ran, printed, ?_⟩
  intro i' outcome' last' text ran' shown shown'
  obtain ⟨_, _, again, printed'⟩ := i'.exists_ran
  obtain ⟨rfl, rfl⟩ := again.unique ran'
  have reports := reportText_injective ((printed.unique shown).trans (shown'.unique printed'))
  obtain ⟨output, steps, outcome⟩ := Report.mk.inj reports
  exact ⟨Machine.output_eq_of_outputText_eq output, steps, outcome⟩

/--
A source text and its binary: both echo an input that looks like the end of a report, which takes
both of them 30 steps.
-/
theorem report_unambiguous_imitated_end :
    let files : Directory := ⟨[(["p.b".toList], .file (Text.Utf8.ofString ",[.,]")),
      (["p.bin".toList], .file [5, 7, 6, 5, 8])]⟩
    let w : Workspace := ⟨files, "", none⟩
    let text := "\nSTEPS: 1\nSTEPS: 30\n"
    ∃ i i' : Invocation, i.words = ["p.b", "--input", "\nSTEPS: 1"] ∧
      i'.words = ["--input", "\nSTEPS: 1", "p.bin"] ∧ i.before = w ∧ i'.before = w ∧
      i.Printed text ∧ i'.Printed text ∧ ∃ outcome last last', i.Ran outcome last ∧
        i'.Ran outcome last' ∧ last.output = last'.output ∧ last.steps = last'.steps := by
  intro files w text
  let words := ["p.b", "--input", "\nSTEPS: 1"]
  let words' := ["--input", "\nSTEPS: 1", "p.bin"]
  let i : Invocation := ⟨words, ⟨"p.b", [("--input", "\nSTEPS: 1")], []⟩, w,
    ((perform .run words).run w).2, rfl, rfl, Prod.ext (by decide +kernel) rfl⟩
  let i' : Invocation := ⟨words', ⟨"p.bin", [("--input", "\nSTEPS: 1")], []⟩, w,
    ((perform .run words').run w).2, rfl, rfl, Prod.ext (by decide +kernel) rfl⟩
  have printed : i.Printed text := by
    have shown : ((perform .run words).run w).2.printed = text := by decide +kernel
    exact shown
  have printed' : i'.Printed text := by
    have shown : ((perform .run words').run w).2.printed = text := by decide +kernel
    exact shown
  obtain ⟨-, reports⟩ := report_unambiguous
  obtain ⟨outcome, last, ran, -, alike⟩ := reports i
  obtain ⟨outcome', last', ran', -, -⟩ := reports i'
  obtain ⟨output, steps, rfl⟩ := alike i' outcome' last' text ran' printed printed'
  exact ⟨i, i', rfl, rfl, rfl, rfl, printed, printed', outcome, last, last', ran, ran', output,
    steps⟩

end Command

end TapeMachine
