import TapeMachine.Proofs.Compile.Bytes
import TapeMachine.Proofs.Directory.Siblings

/-!
Source files beside their binaries. Main statement: compiling a file writes the binary and, if it is
asked for, the listing, and nothing else; the source stays as it is, and compiling it again changes
nothing, unless its suffix is the suffix of binaries already. Then the binary takes the place of the
source.
-/

set_option autoImplicit false

namespace TapeMachine.Compile

open Directory (Apart)

/-- The suffix of binaries. -/
private def binarySuffix : List Char := ['.', 'b', 'i', 'n']

/-- Where the listing of a binary goes. -/
def listingPath (out : String) : String := (Path.ofString (out ++ ".hex")).text

/-- That a source file is compiled: what it holds, its binary, and how the files are left. -/
structure Compiles (source out : String) (listing : Bool) (d : Directory)
    (content code : List UInt8) (d' : Directory) : Prop where
  found : d.read source = .ok content
  compiled : bytes content = .ok code
  written : ∃ between, d.write out code = .ok between ∧
    if listing then
      between.write (listingPath out) (Text.Utf8.ofString (Listing.render code)) = .ok d'
    else d' = between

variable {path source out : String} {out? : Option String} {listing : Bool} {w w' : Workspace}
  {d d' : Directory} {content code : List UInt8}

section Run

private theorem run_existing_eq_ok_iff {p : Path} : (existing path).run w = (.ok p, w') ↔
    w.directory.exists? (Path.ofString path).text = .ok true ∧ p = Path.ofString path ∧ w' = w := by
  rw [existing, Activity.run_bind_eq_ok_iff]
  constructor
  · rintro ⟨there, next, checked, rest⟩
    obtain ⟨found, rfl⟩ := Activity.run_fileExists_eq_ok_iff.mp checked
    cases there with
    | false => cases rest
    | true =>
      cases rest
      exact ⟨found, rfl, rfl⟩
  · rintro ⟨found, rfl, rfl⟩
    exact ⟨true, w', Activity.run_fileExists_eq_ok_iff.mpr ⟨found, rfl⟩, rfl⟩

/-- When a file is compiled successfully, and how. -/
theorem run_file_eq_ok_iff : (file path out? listing).run w = (.ok out, w') ↔
    out = outputPath (Path.ofString path) out? ∧ ∃ content code d,
      Compiles (Path.ofString path).text out listing w.directory content code d ∧
        w' = { w with directory := d } := by
  simp only [file, Activity.run_bind_eq_ok_iff, run_existing_eq_ok_iff,
    Activity.run_readFile_eq_ok_iff, Activity.run_ofExcept_eq_ok_iff,
    Activity.run_writeFile_eq_ok_iff]
  constructor
  · rintro ⟨_, _, ⟨-, rfl, rfl⟩, content, _, ⟨found, rfl⟩, code, _, ⟨compiled, rfl⟩, -, _,
      ⟨between, written, rfl⟩, rest⟩
    cases listing with
    | false =>
      cases rest
      exact ⟨rfl, content, code, between, ⟨found, compiled, between, written, rfl⟩, rfl⟩
    | true =>
      obtain ⟨_, _, ran, returned⟩ := Activity.run_bind_eq_ok_iff.mp rest
      obtain ⟨d, listed, rfl⟩ := Activity.run_writeFile_eq_ok_iff.mp ran
      cases returned
      exact ⟨rfl, content, code, d, ⟨found, compiled, between, written, listed⟩, rfl⟩
  · rintro ⟨rfl, content, code, d, ⟨found, compiled, between, written, rest⟩, rfl⟩
    refine ⟨_, _, ⟨Directory.exists_eq_of_read found, rfl, rfl⟩, content, _, ⟨found, rfl⟩, code, _,
      ⟨compiled, rfl⟩, (), _, ⟨between, written, rfl⟩, ?_⟩
    cases listing with
    | false =>
      obtain rfl : d = between := rest
      rfl
    | true =>
      exact Activity.run_bind_eq_ok_iff.mpr
        ⟨(), _, Activity.run_writeFile_eq_ok_iff.mpr ⟨d, rest, rfl⟩, rfl⟩

end Run

section Effect

variable (compiles : Compiles source out listing d content code d')

include compiles

theorem Compiles.read_out (apart : Apart (listingPath out) out) : d'.read out = .ok code := by
  obtain ⟨between, written, rest⟩ := compiles.written
  have there := Directory.read_of_write written
  cases listing with
  | false =>
    obtain rfl : d' = between := rest
    exact there
  | true => exact Directory.read_of_write_elsewhere rest there (apart between)

theorem Compiles.read_source (apart : Apart out source) (apart' : Apart (listingPath out) source) :
    d'.read source = .ok content := by
  obtain ⟨between, written, rest⟩ := compiles.written
  have kept := Directory.read_of_write_elsewhere written compiles.found (apart d)
  cases listing with
  | false =>
    obtain rfl : d' = between := rest
    exact kept
  | true => exact Directory.read_of_write_elsewhere rest kept (apart' between)

theorem Compiles.read_listing (listed : listing = true) :
    d'.read (listingPath out) = .ok (Text.Utf8.ofString (Listing.render code)) := by
  obtain ⟨between, -, rest⟩ := compiles.written
  rw [if_pos listed] at rest
  exact Directory.read_of_write rest

private theorem Compiles.locate_of_lookup_ne {place : Place}
    (changed : d'.lookup place ≠ d.lookup place) :
    d'.locate out = .ok place ∨ listing = true ∧ d'.locate (listingPath out) = .ok place := by
  obtain ⟨between, written, rest⟩ := compiles.written
  cases listing with
  | false =>
    obtain rfl : d' = between := rest
    exact .inl (Directory.locate_of_lookup_ne written changed)
  | true =>
    by_cases same : d'.lookup place = between.lookup place
    · rw [same] at changed
      have located := Directory.locate_of_lookup_ne written changed
      exact .inl (Directory.locate_of_write rest located)
    · exact .inr ⟨rfl, Directory.locate_of_lookup_ne rest same⟩

theorem Compiles.again (kept : d'.read source = .ok content) (there : d'.read out = .ok code)
    {again : Bool} (asked : again = true → listing = true) :
    ∃ d'', Compiles source out again d' content code d'' ∧
      ∀ place, d''.lookup place = d'.lookup place := by
  obtain ⟨between, written, same⟩ := Directory.write_of_read there
  cases again with
  | false => exact ⟨between, ⟨kept, compiles.compiled, between, written, rfl⟩, same⟩
  | true =>
    have listed := Directory.read_of_lookup_eq same (compiles.read_listing (asked rfl))
    obtain ⟨d'', relisted, same'⟩ := Directory.write_of_read listed
    refine ⟨d'', ⟨kept, compiles.compiled, between, written, relisted⟩, ?_⟩
    intro place
    rw [same', same]

end Effect

section Names

/-- The name of the binary of a source file. -/
private def binaryName (p : Path) : List Char := Path.replaceSuffix binarySuffix p.name

private theorem outputPath_none (p : Path) :
    outputPath p none = (p.sibling (binaryName p)).text := rfl

variable {p : Path} (normal : p.Normal) (named : p.names ≠ [])

include normal named

private theorem isName_binaryName : Path.IsName (binaryName p) ∧ binaryName p ≠ ['.', '.'] := by
  have isName := normal.isName_name named
  have long : 4 < (binaryName p).length :=
    Path.length_lt_replaceSuffix binarySuffix isName.ne_nil
  constructor
  · have noSlash : '/' ∉ binarySuffix := by decide
    exact Path.isName_of_one_lt_length (by omega)
      (Path.noSlash_replaceSuffix isName.noSlash noSlash)
  · intro same
    rw [same] at long
    contradiction

private theorem isName_listingName : Path.IsName (binaryName p ++ ['.', 'h', 'e', 'x']) ∧
    binaryName p ++ ['.', 'h', 'e', 'x'] ≠ ['.', '.'] := by
  obtain ⟨isName, -⟩ := isName_binaryName normal named
  have long : 4 ≤ (binaryName p ++ ['.', 'h', 'e', 'x']).length := by simp
  constructor
  · have noSlash : '/' ∉ ['.', 'h', 'e', 'x'] := by decide
    exact Path.isName_of_one_lt_length (by omega) (List.not_mem_append isName.noSlash noSlash)
  · intro same
    rw [same] at long
    contradiction

private theorem listingPath_outputPath :
    listingPath (outputPath p none) = outputPath p none ++ ".hex" ∧
      listingPath (outputPath p none) =
        (p.sibling (binaryName p ++ ['.', 'h', 'e', 'x'])).text := by
  have joined := Path.text_sibling_append p (binaryName p) ['.', 'h', 'e', 'x']
  rw [← outputPath_none] at joined
  have read : listingPath (outputPath p none) =
      (Path.ofString (p.sibling (binaryName p ++ ['.', 'h', 'e', 'x'])).text).text := by
    rw [← joined]
    rfl
  rw [Path.ofString_text (normal.sibling (isName_listingName normal named).1)] at read
  exact ⟨read.trans joined.symm, read⟩

private theorem apart_outputPath (other : p.suffix ≠ binarySuffix) :
    Apart (outputPath p none) p.text := by
  obtain ⟨isName, inside⟩ := isName_binaryName normal named
  have ne : p.name ≠ binaryName p := by
    intro same
    exact other ((Path.replaceSuffix_eq_self_iff binarySuffix p).mp same.symm)
  have apart := Directory.apart_sibling normal (normal.isName_name named) isName inside ne
  rw [Path.sibling_name named] at apart
  exact apart.symm

private theorem apart_listingPath :
    Apart (listingPath (outputPath p none)) p.text ∧
      Apart (listingPath (outputPath p none)) (outputPath p none) := by
  obtain ⟨isName, inside⟩ := isName_listingName normal named
  rw [(listingPath_outputPath normal named).2]
  constructor
  · have ne : p.name ≠ binaryName p ++ ['.', 'h', 'e', 'x'] :=
      (Path.replaceSuffix_append_ne ['b', 'i', 'n'] ['h', 'e', 'x']).symm
    have apart := Directory.apart_sibling normal (normal.isName_name named) isName inside ne
    rw [Path.sibling_name named] at apart
    exact apart.symm
  · have ne : binaryName p ≠ binaryName p ++ ['.', 'h', 'e', 'x'] := by simp
    exact (Directory.apart_sibling normal (isName_binaryName normal named).1 isName inside ne).symm

omit normal named in
private theorem outputPath_of_suffix (same : p.suffix = binarySuffix) (named : p.names ≠ []) :
    outputPath p none = p.text := by
  rw [outputPath_none, binaryName, (Path.replaceSuffix_eq_self_iff binarySuffix p).mpr same,
    Path.sibling_name named]

end Names

/--
When a source file is compiled beside itself, the binary of its bytes stands where the compilation
says, with its listing if one is asked for, and no other place changes. Unless the suffix of the
source is `.bin`, the source keeps its bytes, and compiling it again, with no listing that is not
there, ends at the same path and changes no place. A source with that suffix is replaced by its
binary.
-/
theorem file_spares_source (compiled : (file path none listing).run w = (.ok out, w')) :
    let p := Path.ofString path
    ∃ content code,
      w.directory.read p.text = .ok content ∧ bytes content = .ok code ∧
      w' = { w with directory := w'.directory } ∧
      w'.directory.read out = .ok code ∧
      (listing = true → w'.directory.read (out ++ ".hex") =
        .ok (Text.Utf8.ofString (Listing.render code))) ∧
      (∀ place, w'.directory.lookup place ≠ w.directory.lookup place →
        w'.directory.locate out = .ok place ∨
          listing = true ∧ w'.directory.locate (out ++ ".hex") = .ok place) ∧
      (p.suffix ≠ ['.', 'b', 'i', 'n'] →
        w'.directory.read p.text = .ok content ∧
        ∀ again, (again = true → listing = true) →
          ∃ d, (file path none again).run w' = (.ok out, { w' with directory := d }) ∧
            ∀ place, d.lookup place = w'.directory.lookup place) ∧
      (p.suffix = ['.', 'b', 'i', 'n'] → out = p.text) := by
  intro p
  obtain ⟨rfl, content, code, d', compiles, rfl⟩ := run_file_eq_ok_iff.mp compiled
  have normal : p.Normal := Path.normal_ofString path
  have named : p.names ≠ [] := Directory.named_of_read normal compiles.found
  obtain ⟨apart, apart'⟩ := apart_listingPath normal named
  obtain ⟨listed, -⟩ := listingPath_outputPath normal named
  have there := compiles.read_out apart'
  rw [← listed]
  refine ⟨content, code, compiles.found, compiles.compiled, rfl, there, compiles.read_listing,
    fun place => compiles.locate_of_lookup_ne, ?_, ?_⟩
  · intro other
    have kept := compiles.read_source (apart_outputPath normal named other) apart
    refine ⟨kept, ?_⟩
    intro again asked
    obtain ⟨d'', compiles', same⟩ := compiles.again kept there asked
    exact ⟨d'', run_file_eq_ok_iff.mpr ⟨rfl, content, code, d'', compiles', rfl⟩, same⟩
  · intro same
    exact outputPath_of_suffix same named

theorem file_spares_source_two_suffixes :
    let folder := ['s', 'u', 'b']
    let w : Workspace :=
      ⟨⟨[([folder], .folder), ([folder, ['p', '.', 'q', '.', 'b']], .file [43])]⟩, "", none⟩
    ∃ w', (file "./sub//p.q.b" none true).run w = (.ok "sub/p.q.bin", w') ∧
      w'.directory.read "sub/p.q.b" = .ok [43] ∧ w'.directory.read "sub/p.q.bin" = .ok [1] ∧
      ∃ d, (file "./sub//p.q.b" none true).run w' =
          (.ok "sub/p.q.bin", { w' with directory := d }) ∧
        ∀ place, d.lookup place = w'.directory.lookup place := by
  intro folder w
  have compiled : (file "./sub//p.q.b" none true).run w =
      (.ok "sub/p.q.bin", ((file "./sub//p.q.b" none true).run w).2) :=
    Prod.ext (by decide +kernel) rfl
  have text : (Path.ofString "./sub//p.q.b").text = "sub/p.q.b" := by decide +kernel
  have other : (Path.ofString "./sub//p.q.b").suffix ≠ ['.', 'b', 'i', 'n'] := by decide +kernel
  have before : w.directory.read "sub/p.q.b" = .ok [43] := by decide +kernel
  obtain ⟨content, code, found, translated, -, there, -, -, spared, -⟩ :=
    file_spares_source compiled
  rw [text, before] at found
  obtain rfl : [43] = content := Except.ok.inj found
  have binary : bytes [43] = .ok [1] := by decide +kernel
  rw [binary] at translated
  obtain rfl : [1] = code := Except.ok.inj translated
  obtain ⟨kept, again⟩ := spared other
  rw [text] at kept
  exact ⟨_, compiled, kept, there, again true fun listed => listed⟩

/-- A source with the suffix of binaries is lost, and compiling it again loses the binary. -/
theorem file_replaces_source_with_binary_suffix :
    let w : Workspace := ⟨⟨[([['p', '.', 'b', 'i', 'n']], .file [43])]⟩, "", none⟩
    let w' := ((file "p.bin" none false).run w).2
    w.directory.read "p.bin" = .ok [43] ∧
    ((file "p.bin" none false).run w).1 = .ok "p.bin" ∧
    w'.directory.read "p.bin" = .ok [1] ∧
    ((file "p.bin" none false).run w').1 = .ok "p.bin" ∧
    ((file "p.bin" none false).run w').2.directory.read "p.bin" = .ok [0] := by
  decide +kernel

end TapeMachine.Compile
