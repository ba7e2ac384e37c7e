import TapeMachine.Proofs.Compile.Source
import TapeMachine.Proofs.Config

/-!
What sessions leave behind. Main statement: with an open log, the binary and the listing that a
session leaves behind are those of the program that was loaded, as the compiler makes them of a
source text; and a session with that binary reports the same again and leaves the same behind.
-/

set_option autoImplicit false

namespace TapeMachine

namespace Opcode

/-- A byte that is the code of no instruction becomes the code of doing nothing. -/
def known (b : UInt8) : UInt8 := if b ≤ 8 ∨ b = 255 then b else 0

private theorem code_ofByte (b : UInt8) : (ofByte b).code = known b := by
  have all : ∀ i : Fin 256, (ofByte (.ofFin i)).code = known (.ofFin i) := by decide +kernel
  exact all b.toFin

theorem encode_decode (code : List UInt8) : encode (decode code) = code.map known := by
  simp only [encode, decode, List.map_map, Function.comp_def, code_ofByte]

end Opcode

namespace Session

/-- Where a session leaves the binary of its program. -/
def binaryPlace : Place := ["out.bin".toList]

/-- Where a session leaves the listing of its program. -/
def listingPlace : Place := ["out.hex".toList]

private theorem locate_binary (d : Directory) : d.locate "out.bin" = .ok binaryPlace := rfl

private theorem locate_listing (d : Directory) : d.locate "out.hex" = .ok listingPlace := rfl

/-- That the program can be left behind: both files can be written, as no folder is in the way. -/
structure Writable (d : Directory) : Prop where
  binary : d.target "out.bin" = .ok binaryPlace
  listing : d.target "out.hex" = .ok listingPlace

/-- That a workspace has only been written to: the log is open as before, and no folder is new. -/
private structure Written (w w' : Workspace) : Prop where
  log : w'.log.isSome = w.log.isSome
  files : ∀ place, w.directory.lookup place ≠ some .folder →
    w'.directory.lookup place ≠ some .folder

/-- That a session has left a program behind, and that its log is open. -/
structure Leaves (ops : List Opcode) (w : Workspace) : Prop where
  log : w.log.isSome
  binary : w.directory.read "out.bin" = .ok (Opcode.encode ops)
  listing : w.directory.read "out.hex" =
    .ok (Text.Utf8.ofString (Listing.render (Opcode.encode ops)))

variable {w w' w'' : Workspace} {c : Config} {ops : List Opcode} {input : String} {config : Value}
  {r : Report}

section Left

private theorem Written.trans (first : Written w w') (second : Written w' w'') : Written w w'' where
  log := second.log.trans first.log
  files := fun place noFolder => second.files place (first.files place noFolder)

private theorem Written.write {name : String} {content : List UInt8} {d : Directory}
    (written : w.directory.write name content = .ok d) : Written w { w with directory := d } := by
  obtain ⟨place, -, -, rfl⟩ := Directory.exists_of_write written
  exact ⟨rfl, fun other noFolder => Directory.lookup_ne_folder_of_put noFolder⟩

private theorem Written.writable (written : Written w w') (writable : Writable w.directory) :
    Writable w'.directory := by
  obtain ⟨-, binary⟩ := Directory.target_eq_ok_iff.mp writable.binary
  obtain ⟨-, listing⟩ := Directory.target_eq_ok_iff.mp writable.listing
  exact ⟨Directory.target_eq_ok_iff.mpr ⟨locate_binary _, written.files _ binary⟩,
    Directory.target_eq_ok_iff.mpr ⟨locate_listing _, written.files _ listing⟩⟩

private theorem run_record_written (events : List Event) (w : Workspace) :
    ∃ next, (Log.record events).run w = (.ok (), next) ∧ Written w next := by
  refine ⟨((Log.record events).run w).2, rfl, ?_⟩
  obtain ⟨directory, printed, log⟩ := w
  cases log with
  | none => exact ⟨rfl, fun place noFolder => noFolder⟩
  | some log => exact ⟨rfl, fun place noFolder => Directory.lookup_ne_folder_of_put noFolder⟩

private theorem run_leave_written (name : String) (content : List UInt8) (w : Workspace) :
    ∃ next, (leave name content).run w = (.ok (), next) ∧ Written w next := by
  rw [leave, Activity.run_bind, Activity.run_files]
  dsimp only
  cases written : w.directory.write name content with
  | ok directory => exact ⟨_, rfl, .write written⟩
  | error cause => exact run_record_written [.notWritten name cause.message] w

private theorem run_leave_of_target {name : String} {place : Place}
    (target : w.directory.target name = .ok place) (content : List UInt8) :
    ∃ d, w.directory.write name content = .ok d ∧
      (leave name content).run w = (.ok (), { w with directory := d }) := by
  have written := Directory.write_of_target target content
  refine ⟨_, written, ?_⟩
  rw [leave, Activity.run_bind, Activity.run_files]
  dsimp only
  rw [written]
  rfl

private theorem run_leaveAll (writable : Writable w.directory) (opened : w.log.isSome)
    (last : Machine) :
    ∃ next, (leaveAll last).run w = (.ok (), next) ∧ Leaves last.code.toList next := by
  obtain ⟨dumped, dump, toDump⟩ := run_leave_written "memory_dump.txt"
    (Text.Utf8.ofString (Dump.render last)) w
  obtain ⟨d, written, binary⟩ := run_leave_of_target (toDump.writable writable).binary
    (Opcode.encode last.code.toList)
  obtain ⟨d', written', listing⟩ := run_leave_of_target
    ((toDump.trans (.write written)).writable writable).listing
    (Text.Utf8.ofString (Listing.render (Opcode.encode last.code.toList)))
  have apart : binaryPlace ≠ listingPlace := by decide
  refine ⟨{ dumped with directory := d' }, ?_, toDump.log.trans opened, ?_,
    Directory.read_of_write written'⟩
  · simp only [leaveAll, Activity.run_bind, dump, binary, listing]
  · refine Directory.read_of_write_elsewhere written' (Directory.read_of_write written) ?_
    intro place located same
    rw [locate_listing, Except.ok.injEq] at located
    rw [locate_binary, Except.ok.injEq] at same
    exact apart (same.trans located.symm)

theorem code_of_run {bytes : List UInt8} {loaded last : Machine} {outcome : Outcome}
    (ran : run c ops bytes = .ok (loaded, outcome, last)) : last.code.toList = ops := by
  rw [run, bind_eq_ok_iff] at ran
  obtain ⟨m, -, rest⟩ := ran
  dsimp only at rest
  split at rest
  · next result =>
    cases rest
    obtain ⟨n, rfl⟩ := Machine.exists_after_of_run result
    rw [Machine.code_after]
    simp [Machine.feed, Machine.load, Machine.reset]
  · contradiction

private theorem leaves_of_run_perform (writable : Writable w.directory) (opened : w.log.isSome)
    (performed : (perform c ops input).run w = (.ok r, w')) : Leaves ops w' := by
  rw [perform, Activity.run_bind_eq_ok_iff] at performed
  obtain ⟨⟨loaded, outcome, last⟩, next, performed, rest⟩ := performed
  obtain ⟨ran, same⟩ := Activity.run_ofExcept_eq_ok_iff.mp performed
  rw [same] at rest
  have isOpen : Log.isOpen.run w = (.ok true, w) := by
    rw [← opened]
    rfl
  obtain ⟨recorded, record, written⟩ := run_record_written (events c loaded outcome last) w
  obtain ⟨next, left, leaves⟩ := run_leaveAll (written.writable writable)
    (written.log.trans opened) last
  simp only [Activity.run_bind, isOpen, if_true, record, left] at rest
  cases rest
  exact code_of_run ran ▸ leaves

end Left

section Replay

theorem leaves_of_run_configured (writable : Writable w.directory) (opened : w.log.isSome)
    (performed : (configure config >>= fun c => perform c ops input).run w = (.ok r, w')) :
    Leaves ops w' := by
  obtain ⟨c, next, configured, performed⟩ := Activity.run_bind_eq_ok_iff.mp performed
  rw [run_configure] at configured
  obtain ⟨-, rfl⟩ := Prod.mk.inj configured
  exact leaves_of_run_perform writable opened performed

private theorem Leaves.writable (leaves : Leaves ops w) : Writable w.directory := by
  obtain ⟨place, located, binary⟩ := Directory.locate_of_read leaves.binary
  obtain ⟨place', located', listing⟩ := Directory.locate_of_read leaves.listing
  rw [locate_binary, Except.ok.injEq] at located
  rw [locate_listing, Except.ok.injEq] at located'
  subst located located'
  exact ⟨Directory.target_eq_ok_iff.mpr ⟨rfl, Directory.ne_folder_of_file binary⟩,
    Directory.target_eq_ok_iff.mpr ⟨rfl, Directory.ne_folder_of_file listing⟩⟩

theorem run_configured_again
    (performed : (configure config >>= fun c => perform c ops input).run w = (.ok r, w'))
    (same : Config.load w''.directory config = Config.load w.directory config) :
    ∃ v, (configure config >>= fun c => perform c ops input).run w'' = (.ok r, v) := by
  have answered := congrArg Prod.fst performed
  rw [run_configured_fst, ← same, ← run_configured_fst] at answered
  exact ⟨((configure config >>= fun c => perform c ops input).run w'').2, Prod.ext answered rfl⟩

private theorem read_listing_of_compiled {source path out : String} {out? : Option String}
    (found : w.directory.read (Path.ofString path).text = .ok (Text.Utf8.ofString source))
    (compiled : (Compile.file path out? true).run w = (.ok out, w')) :
    w'.directory.read (Compile.listingPath out) =
      .ok (Text.Utf8.ofString (Listing.render (Compile.source source.toList))) := by
  obtain ⟨-, content, code, d, compiles, rfl⟩ := Compile.run_file_eq_ok_iff.mp compiled
  obtain rfl := Except.ok.inj (found.symm.trans compiles.found)
  have bytes := Compile.bytes_of_valid (Text.Utf8.decode_ofString source)
  obtain rfl := Except.ok.inj (bytes.symm.trans compiles.compiled)
  exact compiles.read_listing rfl

/--
With an open log, and no folder in the way of its files: a source text leaves behind the binary that
its bytes are compiled to, and the listing that compiling a file with these bytes writes. A binary
leaves itself behind, with a zero for every byte that is the code of no instruction, and a listing
of that. Run in its turn, what is left behind is reported on in the same way, and leaves itself
behind. The condition that the configuration still loads as before concerns only a configuration
that names a file, which one of the session's own files might be: a mapping, or none at all, names
no file (`Config.pathOf?` is `none`), and for these the condition asks for nothing.
-/
theorem artefacts_replay_run (opened : w.log.isSome) (writable : Writable w.directory)
    (input : String) (config : Value) :
    (∀ source r w', (runSource source input config).run w = (.ok r, w') →
      ∃ code, Compile.bytes (Text.Utf8.ofString source) = .ok code ∧
        w'.directory.read "out.bin" = .ok code ∧
        w'.directory.read "out.hex" = .ok (Text.Utf8.ofString (Listing.render code)) ∧
        ∀ path out? out v v',
          v.directory.read (Path.ofString path).text = .ok (Text.Utf8.ofString source) →
          (Compile.file path out? true).run v = (.ok out, v') →
          v'.directory.read (Compile.listingPath out) = w'.directory.read "out.hex") ∧
    ∀ code r w', (runBytes code input config).run w = (.ok r, w') →
      let kept := code.map Opcode.known
      let listing := Text.Utf8.ofString (Listing.render kept)
      w'.directory.read "out.bin" = .ok kept ∧ w'.directory.read "out.hex" = .ok listing ∧
      ((∀ shown, Config.pathOf? config = some shown →
          Config.load w'.directory config = Config.load w.directory config) →
        ∃ w'', (runBytes kept input config).run w' = (.ok r, w'') ∧
          w''.directory.read "out.bin" = .ok kept ∧
          w''.directory.read "out.hex" = .ok listing) := by
  constructor
  · intro source r w' performed
    have leaves := leaves_of_run_configured writable opened performed
    refine ⟨Compile.source source.toList,
      Compile.bytes_of_valid (Text.Utf8.decode_ofString source), leaves.binary, leaves.listing, ?_⟩
    intro path out? out v v' found compiled
    rw [read_listing_of_compiled found compiled]
    exact leaves.listing.symm
  · intro code r w' performed kept listing
    have leaves := leaves_of_run_configured writable opened performed
    have encoded : Opcode.encode (Opcode.decode code) = kept := Opcode.encode_decode code
    have decoded : Opcode.decode kept = Opcode.decode code := by
      rw [← encoded, Opcode.decode_encode]
    have left {v : Workspace} (leaves : Leaves (Opcode.decode code) v) :
        v.directory.read "out.bin" = .ok kept ∧ v.directory.read "out.hex" = .ok listing := by
      have binary := leaves.binary
      have listed := leaves.listing
      rw [encoded] at binary listed
      exact ⟨binary, listed⟩
    refine ⟨(left leaves).1, (left leaves).2, ?_⟩
    intro settled
    have same : Config.load w'.directory config = Config.load w.directory config := by
      cases named : Config.pathOf? config with
      | none => exact Config.load_of_pathOf?_eq_none named w.directory w'.directory
      | some shown => exact settled shown named
    obtain ⟨w'', again⟩ := run_configured_again performed same
    have leaves' := leaves_of_run_configured leaves.writable leaves.log again
    rw [runBytes, decoded]
    exact ⟨w'', again, left leaves'⟩

/--
The log stands where the binary goes, the dump cannot be written, and the binary has bytes in it
that stand for nothing, and a stop mark. The text has a character that takes two bytes.
-/
theorem artefacts_replay_run_unknown_bytes :
    let w : Workspace := ⟨⟨[(["memory_dump.txt".toList], .folder), (binaryPlace, .file [])]⟩, "",
      some ⟨binaryPlace, 0, false⟩⟩
    let kept : List UInt8 := [1, 0, 6, 255, 0, 6]
    Writable w.directory ∧
    (∃ w', (runSource "+ī." "" .null).run w = (.ok ⟨"\x01", 4, .halted⟩, w') ∧
      w'.directory.read "out.bin" = .ok [1, 0, 6]) ∧
    ∃ w', (runBytes [1, 9, 6, 255, 200, 6] "" .null).run w = (.ok ⟨"\x01", 4, .halted⟩, w') ∧
      w'.directory.read "out.bin" = .ok kept ∧
      ∃ w'', (runBytes kept "" .null).run w' = (.ok ⟨"\x01", 4, .halted⟩, w'') ∧
        w''.directory.read "out.bin" = .ok kept := by
  intro w kept
  have writable : Writable w.directory := ⟨by decide +kernel, by decide +kernel⟩
  obtain ⟨ofSource, ofBytes⟩ := artefacts_replay_run rfl writable "" .null
  have text : (runSource "+ī." "" .null).run w =
      (.ok ⟨"\x01", 4, .halted⟩, ((runSource "+ī." "" .null).run w).2) :=
    Prod.ext (by decide +kernel) rfl
  have binary : (runBytes [1, 9, 6, 255, 200, 6] "" .null).run w =
      (.ok ⟨"\x01", 4, .halted⟩, ((runBytes [1, 9, 6, 255, 200, 6] "" .null).run w).2) :=
    Prod.ext (by decide +kernel) rfl
  obtain ⟨code, compiled, left, -⟩ := ofSource _ _ _ text
  have bytes : Compile.bytes (Text.Utf8.ofString "+ī.") = .ok [1, 0, 6] := by decide +kernel
  obtain rfl := Except.ok.inj (bytes.symm.trans compiled)
  obtain ⟨left', -, again⟩ := ofBytes _ _ _ binary
  obtain ⟨w'', replayed, left'', -⟩ := again (by intro shown named; contradiction)
  exact ⟨writable, ⟨_, text, left⟩, _, binary, left', w'', replayed, left''⟩

end Replay

end Session

end TapeMachine
