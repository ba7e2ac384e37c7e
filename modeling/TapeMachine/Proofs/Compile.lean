import TapeMachine.Proofs.Directory
import TapeMachine.Proofs.Machine.Stripped
import TapeMachine.Proofs.Session

set_option autoImplicit false

namespace TapeMachine

namespace Text

variable {text : List Char}

/-- The line break that is written with two characters and read as one. -/
def longBreak : List Char := ['\r', '\n']

private theorem longBreak_infix_cons_iff {c : Char} {rest : List Char}
    (other : ∀ after, c = '\r' → rest = '\n' :: after → False) :
    longBreak <:+: c :: rest ↔ longBreak <:+: rest := by
  have front : ¬ longBreak <+: c :: rest := by
    rintro ⟨after, same⟩
    obtain ⟨carriage, feed⟩ := List.cons.inj same
    exact other after carriage.symm feed.symm
  rw [List.infix_cons_iff, or_iff_right front]

private theorem length_unifyBreaks_le (text : List Char) :
    (unifyBreaks text).length ≤ text.length := by
  fun_induction unifyBreaks text with
  | case1 rest ih =>
    simp only [List.length_cons]
    omega
  | case2 rest other ih => simpa using ih
  | case3 c rest other alone ih => simpa using ih
  | case4 => exact le_rfl

private theorem length_unifyBreaks_lt (paired : longBreak <:+: text) :
    (unifyBreaks text).length < text.length := by
  fun_induction unifyBreaks text with
  | case1 rest ih =>
    have le := length_unifyBreaks_le rest
    simp only [List.length_cons]
    omega
  | case2 rest other ih =>
    rw [longBreak_infix_cons_iff (fun after _ => other after)] at paired
    simpa using ih paired
  | case3 c rest other alone ih =>
    rw [longBreak_infix_cons_iff other] at paired
    simpa using ih paired
  | case4 => simp [longBreak] at paired

private theorem ofSource_unifyBreaks (single : ¬ longBreak <:+: text) :
    Opcode.ofSource (unifyBreaks text) = Opcode.ofSource text := by
  fun_induction unifyBreaks text with
  | case1 rest ih =>
    have front : longBreak <:+: '\r' :: '\n' :: rest := ⟨[], rest, rfl⟩
    exact absurd front single
  | case2 rest other ih =>
    rw [longBreak_infix_cons_iff (fun after _ => other after)] at single
    exact congrArg (Opcode.nop :: ·) (ih single)
  | case3 c rest other alone ih =>
    rw [longBreak_infix_cons_iff other] at single
    exact congrArg (Opcode.ofChar c :: ·) (ih single)
  | case4 => rfl

private theorem ofSource_unifyBreaks_eq_iff :
    Opcode.ofSource (unifyBreaks text) = Opcode.ofSource text ↔ ¬ longBreak <:+: text := by
  constructor
  · intro same paired
    have shorter := length_unifyBreaks_lt paired
    have lengths := congrArg List.length same
    simp only [Opcode.ofSource, List.length_map] at lengths
    omega
  · exact ofSource_unifyBreaks

private theorem stripped_unifyBreaks (text : List Char) :
    Opcode.stripped (Opcode.ofSource (unifyBreaks text)) =
      Opcode.stripped (Opcode.ofSource text) := by
  have cons (c : Char) (rest : List Char) : Opcode.stripped (Opcode.ofSource (c :: rest)) =
      Opcode.stripped [Opcode.ofChar c] ++ Opcode.stripped (Opcode.ofSource rest) := by
    simp only [Opcode.ofSource, Opcode.stripped, List.map_cons, ← List.filter_append,
      List.singleton_append]
  fun_induction unifyBreaks text with
  | case1 rest ih =>
    rw [cons, ih, cons, cons]
    rfl
  | case2 rest other ih =>
    rw [cons, ih, cons]
    rfl
  | case3 c rest other alone ih => rw [cons, ih, cons]
  | case4 => rfl

end Text

private theorem Machine.feed_load (bytes : List UInt8) (ops : List Opcode) (m : Machine) :
    (m.load ops).feed bytes = (m.feed bytes).load ops := by
  simp [load, feed, reset, Tape.reset, Tape.blank]

namespace Session

/-- What a report says apart from the number of steps. -/
def withoutSteps (r : Report) : String × Outcome := (r.output, r.outcome)

private theorem map_report_of_stripped_eq {c : Config} {ops ops' : List Opcode} {bytes : List UInt8}
    (unlimited : c.stepLimit = none) (same : Opcode.stripped ops = Opcode.stripped ops') :
    ((run c ops bytes).map report).map withoutSteps =
      ((run c ops' bytes).map report).map withoutSteps := by
  rw [run, run, unlimited]
  cases machine c with
  | error failure => rfl
  | ok m =>
    have alike := Machine.run_none_of_stripped_eq (m := m.feed bytes) same
    rw [← Machine.feed_load, ← Machine.feed_load] at alike
    simp only [bind, Except.bind]
    -- Either both runs end or neither does, so that two of the four cases are left.
    revert alike
    cases ((m.load ops).feed bytes).run none with
    | none =>
      cases ((m.load ops').feed bytes).run none with
      | none => exact fun _ => rfl
      | some result' =>
        intro alike
        contradiction
    | some result =>
      cases ((m.load ops').feed bytes).run none with
      | none =>
        intro alike
        contradiction
      | some result' =>
        intro alike
        obtain ⟨outcome, last⟩ := result
        obtain ⟨outcome', last'⟩ := result'
        simp only [Option.map_some, Option.some.injEq, Machine.leftBehind, Prod.mk.injEq] at alike
        obtain ⟨rfl, output, -⟩ := alike
        simp [pure, Except.pure, Except.map, report, withoutSteps, Machine.outputText, output]

private theorem map_runBytes_source {text : List Char} {input : String} {config : Value}
    {w : Workspace}
    (unlimited : ∀ c, Config.load w.directory config = .ok c → c.stepLimit = none) :
    ((runBytes (Compile.source text) input config).run w).1.map withoutSteps =
      ((runSource (String.ofList (Text.unifyBreaks text)) input config).run w).1.map
        withoutSteps := by
  rw [runBytes, runSource, run_configured_fst, run_configured_fst, Compile.decode_source,
    String.toList_ofList]
  cases loaded : Config.load w.directory config with
  | error failure => rfl
  | ok c =>
    exact map_report_of_stripped_eq (unlimited c loaded) (Text.stripped_unifyBreaks text).symm

end Session

namespace Compile

variable {path : String} {content : List UInt8} {text : List Char} {w : Workspace}

private theorem run_existing (found : w.directory.read (Path.ofString path).text = .ok content) :
    (existing path).run w = (.ok (Path.ofString path), w) := by
  simp only [existing, Activity.run_bind, Activity.run_fileExists,
    Directory.exists_eq_of_read found, mapError_ok, if_true]
  rfl

theorem run_readSource (found : w.directory.read (Path.ofString path).text = .ok content)
    (valid : Text.Utf8.decode content = .ok text) :
    (readSource path).run w = (.ok (String.ofList (Text.unifyBreaks text)), w) := by
  rw [readSource, Activity.run_bind, run_existing found]
  exact Activity.run_readText found valid

theorem run_file (found : w.directory.read (Path.ofString path).text = .ok content)
    (valid : Text.Utf8.decode content = .ok text) (out? : Option String) (listing : Bool) :
    (file path out? listing).run w =
      let out := outputPath (Path.ofString path) out?
      match w.directory.write out (source text) with
      | .ok directory =>
        ((if listing then
            Activity.writeText (Path.ofString (out ++ ".hex")).text (Listing.render (source text))
          else pure ()) >>= fun _ => pure out : Activity String).run
          { w with directory := directory }
      | .error fault => (.error (.file fault), w) := by
  simp only [file, Activity.run_bind, run_existing found, Activity.run_readFile, found,
    mapError_ok, Activity.run_ofExcept, bytes_of_valid valid, Activity.run_writeFile]
  cases w.directory.write (outputPath (Path.ofString path) out?) (source text) with
  | ok directory =>
    cases listing with
    | false => simp only [Bool.false_eq_true, if_false, Activity.run_pure]
    | true => simp only [if_true, Activity.run_bind, Activity.run_pure]
  | error fault => rfl

private theorem exists_write_of_run_file
    (found : w.directory.read (Path.ofString path).text = .ok content)
    (valid : Text.Utf8.decode content = .ok text) {out? : Option String} {listing : Bool}
    {out : String} {w' : Workspace}
    (compiled : (file path out? listing).run w = (.ok out, w')) :
    ∃ d, w.directory.write out (source text) = .ok d ∧ d.read out = .ok (source text) := by
  rw [run_file found valid] at compiled
  dsimp only at compiled
  cases written : w.directory.write (outputPath (Path.ofString path) out?) (source text) with
  | error fault =>
    rw [written] at compiled
    cases compiled
  | ok directory =>
    rw [written] at compiled
    dsimp only at compiled
    rw [Activity.run_bind] at compiled
    split at compiled
    · next u next ran =>
      cases compiled
      exact ⟨directory, written, Directory.read_of_write written⟩
    · cases compiled

/--
The binary of a readable source file is written and found where the compilation says. It holds the
program that is read from the file exactly if no carriage return stands before a line feed there;
then sessions with both are the same. Otherwise they write the same output and end alike at least
under configurations that set no limit.
-/
theorem file_agrees_with_source
    (found : w.directory.read (Path.ofString path).text = .ok content)
    (valid : Text.Utf8.decode content = .ok text) :
    ∃ code source, (readSource path).run w = (.ok source, w) ∧
      (∀ out? listing out w', (file path out? listing).run w = (.ok out, w') →
        ∃ d, w.directory.write out code = .ok d ∧ d.read out = .ok code) ∧
      (∀ out? d, w.directory.write (outputPath (Path.ofString path) out?) code = .ok d →
        (file path out? false).run w =
          (.ok (outputPath (Path.ofString path) out?), { w with directory := d })) ∧
      (Opcode.decode code = Opcode.ofSource source.toList ↔ ¬ Text.longBreak <:+: text) ∧
      ∀ input config v,
        (¬ Text.longBreak <:+: text → (Session.runBytes code input config).run v =
          (Session.runSource source input config).run v) ∧
        ((∀ c, Config.load v.directory config = .ok c → c.stepLimit = none) →
          ((Session.runBytes code input config).run v).1.map Session.withoutSteps =
            ((Session.runSource source input config).run v).1.map Session.withoutSteps) := by
  have programs :
      Opcode.decode (source text) = Opcode.ofSource (String.ofList (Text.unifyBreaks text)).toList ↔
        ¬ Text.longBreak <:+: text := by
    rw [decode_source, String.toList_ofList, eq_comm, Text.ofSource_unifyBreaks_eq_iff]
  refine ⟨source text, String.ofList (Text.unifyBreaks text), run_readSource found valid, ?_, ?_,
    programs, ?_⟩
  · intro out? listing out w' compiled
    exact exists_write_of_run_file found valid compiled
  · intro out? d written
    rw [run_file found valid]
    dsimp only
    rw [written]
    rfl
  · intro input config v
    refine ⟨?_, Session.map_runBytes_source⟩
    intro single
    rw [Session.runBytes, Session.runSource, programs.mpr single]

/-- A workspace with one source file in it. -/
def workspaceWith (content : List UInt8) : Workspace :=
  ⟨⟨[([['p', '.', 'b']], .file content)]⟩, "", none⟩

theorem file_agrees_with_source_lone_return :
    ∃ code source, (readSource "p.b").run (workspaceWith [43, 13, 46]) =
        (.ok source, workspaceWith [43, 13, 46]) ∧
      ∀ input config v, (Session.runBytes code input config).run v =
        (Session.runSource source input config).run v := by
  have valid : Text.Utf8.decode [43, 13, 46] = .ok ['+', '\r', '.'] := by decide +kernel
  have found : (workspaceWith [43, 13, 46]).directory.read (Path.ofString "p.b").text =
      .ok [43, 13, 46] := by decide +kernel
  have single : ¬ Text.longBreak <:+: ['+', '\r', '.'] := by decide
  obtain ⟨code, source, read, -, -, -, agree⟩ := file_agrees_with_source found valid
  exact ⟨code, source, read, fun input config v => (agree input config v).1 single⟩

/-- A line break of two characters costs the binary a step more than the text. -/
theorem file_disagrees_with_source_long_break :
    let w := workspaceWith [43, 13, 10, 46]
    Text.Utf8.decode [43, 13, 10, 46] = .ok ['+', '\r', '\n', '.'] ∧
    ((file "p.b" none false).run w).1 = .ok "p.bin" ∧
    ((file "p.b" none false).run w).2.directory.read "p.bin" = .ok [1, 0, 0, 6] ∧
    ((readSource "p.b").run w).1 = .ok "+\n." ∧
    ((Session.runBytes [1, 0, 0, 6] "" .null).run w).1 = .ok ⟨"\x01", 5, .halted⟩ ∧
    ((Session.runSource "+\n." "" .null).run w).1 = .ok ⟨"\x01", 4, .halted⟩ := by
  decide +kernel

end Compile

end TapeMachine
