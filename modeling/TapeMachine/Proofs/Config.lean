import Mathlib.Control.Monad.Basic
import TapeMachine.Config.Loading
import TapeMachine.Proofs.Directory
import TapeMachine.Proofs.Failing

/-!
Configurations from values of any type and from files. Main statements: whatever a configuration is
asked for with, there is one or a fault that says why not, apart from three kinds of failure that
are told exactly; and what comes of the document in a file depends on whether it is a mapping, and
else on whether it counts as false.
-/

set_option autoImplicit false

namespace TapeMachine

namespace Value

/-- What counts as false: nothing, no, zero, and everything that is empty. -/
inductive Blank : Value → Prop
  | null : Blank .null
  | no : Blank (.bool false)
  | zero : Blank (.int 0)
  | zeroFloat {x : Binary64} (zero : x.isZero = true) : Blank (.float x)
  | text : Blank (.str "")
  | bytes : Blank (.bytes [])
  | list : Blank (.list [])
  | map : Blank (.map [])
  | set : Blank (.set [])

def IsMapping (v : Value) : Prop := ∃ entries, v = .map entries

/-- A floating-point number that no integer comes near. -/
def IsInfinite (v : Value) : Prop := ∃ negative, v = .float (.infinity negative)

theorem isTruthy_eq_false_iff {v : Value} : v.isTruthy = false ↔ v.Blank := by
  constructor
  · intro blank
    cases v with
    | null => exact .null
    | bool b =>
      obtain rfl : b = false := blank
      exact .no
    | int n =>
      obtain rfl : n = 0 := by simpa [isTruthy] using blank
      exact .zero
    | float x => exact .zeroFloat (by simpa [isTruthy] using blank)
    | str text =>
      obtain rfl : text = "" := by simpa [isTruthy] using blank
      exact .text
    | bytes bs =>
      obtain rfl : bs = [] := by simpa [isTruthy] using blank
      exact .bytes
    | list items =>
      obtain rfl : items = [] := by simpa [isTruthy] using blank
      exact .list
    | map entries =>
      obtain rfl : entries = [] := by simpa [isTruthy] using blank
      exact .map
    | set items =>
      obtain rfl : items = [] := by simpa [isTruthy] using blank
      exact .set
    | _ => contradiction
  · intro blank
    cases blank with
    | zeroFloat zero => simp [isTruthy, zero]
    | _ => rfl

private theorem toInt_eq_infinity_iff {v : Value} :
    v.toInt = .error .infinityToInteger ↔ v.IsInfinite := by
  -- A text that is no numeral is refused as a text.
  have numeral {base : Nat} {shown : List Char} (fault : Numeral.Fault) :
      ofNumeralFault base shown fault ≠ .infinityToInteger := by
    cases fault <;> exact fun same => nomatch same
  have text {base : Nat} {shown : List Char} (read : Except Numeral.Fault Int) :
      read.mapError (ofNumeralFault base shown) ≠ .error .infinityToInteger := by
    intro same
    obtain ⟨fault, -, converted⟩ := mapError_eq_error_iff.mp same
    exact numeral fault converted
  constructor
  · intro refused
    cases v with
    | float x =>
      cases x with
      | infinity negative => exact ⟨negative, rfl⟩
      | _ => cases refused
    | str numeral => exact absurd refused (text _)
    | bytes numeral => exact absurd refused (text _)
    | _ => cases refused
  · rintro ⟨negative, rfl⟩
    rfl

end Value

namespace Config

/-- The configuration that nothing asks to be different. -/
def initial : Config := ⟨16, by decide, some 100000, false, []⟩

/-- The value of a setting among some entries. -/
def setting (key : String) (default : Value) (entries : Value.Entries) : Value :=
  (entries.get? key).getD default

/--
Whether entries ask for infinitely many cells, or for a limit that is an infinite number once the
cells have been counted.
-/
def AskInfinite (entries : Value.Entries) : Prop :=
  (setting cellsKey (.int defaultCells) entries).IsInfinite ∨
    (∃ n, (setting cellsKey (.int defaultCells) entries).toInt = .ok n) ∧
      (setting limitKey (.int defaultLimit) entries).IsInfinite

section Entries

variable {v : Value} {entries : Value.Entries}

theorem number_eq_ok_iff {n : Int} : number v = .ok n ↔ v.toInt = .ok n := by
  rw [number]
  split <;> simp_all

private theorem number_eq_unbounded_iff : number v = .error .unbounded ↔ v.IsInfinite := by
  rw [← Value.toInt_eq_infinity_iff, number]
  split <;> simp_all

private theorem limit_eq_unbounded_iff : limit v = .error .unbounded ↔ v.IsInfinite := by
  rw [← number_eq_unbounded_iff]
  cases v with
  | null => exact iff_of_false (fun same => nomatch same) (fun same => nomatch same)
  | _ =>
    rw [limit]
    · exact map_eq_error_iff
    · exact fun same => nomatch same

private theorem make_ne_unbounded (cells : Int) (limit : Option Int) (lenient : Bool)
    (others : Value.Entries) : make cells limit lenient others ≠ .error .unbounded := by
  rw [make]
  split
  · split <;> exact fun same => nomatch same
  · exact fun same => nomatch same

private theorem ofEntries_eq_unbounded_iff :
    ofEntries entries = .error .unbounded ↔ AskInfinite entries := by
  simp only [ofEntries, bind_eq_error_iff, make_ne_unbounded, and_false, exists_false, or_false,
    number_eq_unbounded_iff, limit_eq_unbounded_iff, number_eq_ok_iff, exists_and_right]
  rfl

private theorem fault_ofEntries {refusal : Refusal} (refused : ofEntries entries = .error refusal) :
    refusal = .unbounded ∨ (∃ cause, refusal = .fault (.badType cause)) ∨
      refusal = .fault .noCells ∨ refusal = .fault .negativeLimit := by
  have counted {v : Value} (failed : number v = .error refusal) :
      refusal = .unbounded ∨ ∃ cause, refusal = .fault (.badType cause) := by
    rw [number] at failed
    split at failed
    · contradiction
    · exact .inl (Except.error.inj failed).symm
    · next cause _ _ => exact .inr ⟨cause, (Except.error.inj failed).symm⟩
  have limited {v : Value} (failed : limit v = .error refusal) : number v = .error refusal := by
    cases v with
    | null => contradiction
    | _ =>
      rw [limit] at failed
      · exact map_eq_error_iff.mp failed
      · exact fun same => nomatch same
  rw [ofEntries, bind_eq_error_iff] at refused
  rcases refused with cells | ⟨n, -, rest⟩
  · exact (counted cells).imp_right .inl
  · rcases bind_eq_error_iff.mp rest with steps | ⟨k, -, made⟩
    · exact (counted (limited steps)).imp_right .inl
    · rw [make] at made
      split at made
      · split at made
        · exact .inr (.inr (.inr (Except.error.inj made).symm))
        · contradiction
      · exact .inr (.inr (.inl (Except.error.inj made).symm))

end Entries

section Document

variable {shown : String} {document : Value}

theorem ofDocument_map (shown : String) (entries : Value.Entries) :
    ofDocument shown (.map entries) = (ofEntries entries).mapError .ofRefusal := by
  cases entries <;> rfl

theorem ofDocument_blank (blank : document.Blank) : ofDocument shown document = .ok initial := by
  rw [ofDocument, Value.isTruthy_eq_false_iff.mpr blank]
  rfl

theorem ofDocument_other (filled : ¬ document.Blank) (other : ¬ document.IsMapping) :
    ofDocument shown document = .error (.config (.notMapping shown)) := by
  rw [← Value.isTruthy_eq_false_iff, Bool.not_eq_false] at filled
  rw [ofDocument, filled, if_pos rfl]
  split
  · next entries => exact absurd ⟨entries, rfl⟩ other
  · rfl

end Document

section File

/-- The path of the file that a value names. -/
def pathOf? : Value → Option String
  | .str path => some path
  | .path path => some path
  | _ => none

variable {d : Directory} {v : Value} {shown : String} {bytes : List UInt8}
  {document : Yaml.Document}

theorem load_of_pathOf? (named : pathOf? v = some shown) : load d v = ofFile d shown := by
  cases v with
  | str path =>
    obtain rfl : path = shown := Option.some.inj named
    rfl
  | path path =>
    obtain rfl : path = shown := Option.some.inj named
    rfl
  | _ => contradiction

theorem load_of_pathOf?_eq_none (unnamed : pathOf? v = none) (d d' : Directory) :
    load d' v = load d v := by
  cases v with
  | str path => contradiction
  | path path => contradiction
  | _ => rfl

private theorem bind_ofDocument (shown : String) (parsed : Except Yaml.Fault Yaml.Document) :
    ((parsed.mapError fun fault =>
        if fault = .malformed then Failure.config (.malformed shown) else .document fault) >>=
      fun document => ofDocument shown document.value) =
      match parsed with
      | .error fault =>
        .error (if fault = .malformed then .config (.malformed shown) else .document fault)
      | .ok document => ofDocument shown document.value := by
  cases parsed <;> rfl

theorem ofFile_eq (d : Directory) (shown : String) :
    ofFile d shown = match d.exists? (Path.ofString shown).text with
      | .error fault => .error (.file fault)
      | .ok false => .error (.config (.missing shown))
      | .ok true =>
        match d.read (Path.ofString shown).text with
        | .error cause => .error (.config (.unreadable shown cause))
        | .ok bytes =>
          match Yaml.Document.ofBytes bytes with
          | .error fault =>
            .error (if fault = .malformed then .config (.malformed shown) else .document fault)
          | .ok document => ofDocument shown document.value := by
  rw [ofFile]
  cases d.exists? (Path.ofString shown).text with
  | error fault => rfl
  | ok found =>
    cases found with
    | false => rfl
    | true =>
      cases d.read (Path.ofString shown).text with
      | error cause => rfl
      | ok bytes => exact bind_ofDocument shown (Yaml.Document.ofBytes bytes)

theorem load_of_read (named : pathOf? v = some shown)
    (found : d.read (Path.ofString shown).text = .ok bytes) :
    load d v = match Yaml.Document.ofBytes bytes with
      | .error fault =>
        .error (if fault = .malformed then .config (.malformed shown) else .document fault)
      | .ok document => ofDocument shown document.value := by
  rw [load_of_pathOf? named, ofFile_eq, Directory.exists_eq_of_read found]
  simp only [found]

/-- The entries that a value gives: its own, or those of the document in the file that it names. -/
inductive Gives (d : Directory) : Value → Value.Entries → Prop
  | nothing : Gives d .null []
  | mapping (entries : Value.Entries) : Gives d (.map entries) entries
  | file {v : Value} {shown : String} {bytes : List UInt8} {document : Yaml.Document}
      {entries : Value.Entries} (named : pathOf? v = some shown)
      (found : d.read (Path.ofString shown).text = .ok bytes)
      (parsed : Yaml.Document.ofBytes bytes = .ok document)
      (holds : document.value = .map entries ∨ document.value.Blank ∧ entries = []) :
      Gives d v entries

/-- What can fail although it is no fault of a configuration. -/
inductive Stray (d : Directory) (v : Value) : Failure → Prop
  | infinite {entries : Value.Entries} (given : Gives d v entries)
      (asked : AskInfinite entries) : Stray d v (.value .infinityToInteger)
  | unsearchable {shown : String} {fault : Directory.Fault} (named : pathOf? v = some shown)
      (failed : d.exists? (Path.ofString shown).text = .error fault) : Stray d v (.file fault)
  /-- The bytes are no text, or something in the text is no value of the type that it claims. -/
  | unreadable {shown : String} {bytes : List UInt8} {fault : Yaml.Fault}
      (named : pathOf? v = some shown) (found : d.read (Path.ofString shown).text = .ok bytes)
      (failed : Yaml.Document.ofBytes bytes = .error fault) (other : fault ≠ .malformed) :
      Stray d v (.document fault)

variable {entries : Value.Entries} {failure : Failure}

theorem Gives.load_eq (given : Gives d v entries) :
    load d v = (ofEntries entries).mapError .ofRefusal := by
  cases given with
  | nothing => rfl
  | mapping => rfl
  | file named found parsed holds =>
    rw [load_of_read named found, parsed]
    rcases holds with mapping | ⟨blank, rfl⟩
    · dsimp only
      rw [mapping, ofDocument_map]
    · exact ofDocument_blank blank

theorem Stray.load_eq (stray : Stray d v failure) : load d v = .error failure := by
  cases stray with
  | infinite given asked =>
    rw [given.load_eq, ofEntries_eq_unbounded_iff.mpr asked]
    rfl
  | unsearchable named failed => rw [load_of_pathOf? named, ofFile_eq, failed]
  | unreadable named found failed other =>
    rw [load_of_read named found, failed]
    simp only [if_neg other]

private theorem Stray.ne_config (stray : Stray d v failure) (fault : Fault) :
    failure ≠ .config fault := by
  cases stray <;> exact fun same => nomatch same

private theorem Gives.stray (given : Gives d v entries)
    (failed : (ofEntries entries).mapError Failure.ofRefusal = .error failure)
    (noFault : ∀ fault, failure ≠ .config fault) : Stray d v failure := by
  obtain ⟨refusal, refused, rfl⟩ := mapError_eq_error_iff.mp failed
  cases refusal with
  | fault f => exact absurd rfl (noFault f)
  | unbounded => exact .infinite given (ofEntries_eq_unbounded_iff.mp refused)

private theorem stray_of_ofFile (named : pathOf? v = some shown)
    (failed : ofFile d shown = .error failure) (noFault : ∀ fault, failure ≠ .config fault) :
    Stray d v failure := by
  rw [ofFile_eq] at failed
  split at failed
  · next fault searched =>
    obtain rfl := Except.error.inj failed
    exact .unsearchable named searched
  · exact absurd (Except.error.inj failed).symm (noFault _)
  · split at failed
    · exact absurd (Except.error.inj failed).symm (noFault _)
    · next bytes found =>
      split at failed
      · next fault parsed =>
        obtain rfl := Except.error.inj failed
        split at noFault
        · exact absurd rfl (noFault _)
        · next other =>
          rw [if_neg other]
          exact .unreadable named found parsed other
      · next document parsed =>
        by_cases blank : document.value.Blank
        · rw [ofDocument_blank blank] at failed
          contradiction
        · by_cases mapping : document.value.IsMapping
          · obtain ⟨entries, holds⟩ := mapping
            rw [holds, ofDocument_map] at failed
            exact Gives.stray (.file named found parsed (.inl holds)) failed noFault
          · rw [ofDocument_other blank mapping] at failed
            exact absurd (Except.error.inj failed).symm (noFault _)

/-- Failures that are no faults of a configuration are those that are told above. -/
theorem stray_of_load (failed : load d v = .error failure)
    (noFault : ∀ fault, failure ≠ .config fault) : Stray d v failure := by
  cases v with
  | null => exact Gives.stray .nothing failed noFault
  | map entries => exact Gives.stray (.mapping entries) failed noFault
  | str path => exact stray_of_ofFile rfl failed noFault
  | path path => exact stray_of_ofFile rfl failed noFault
  | _ => exact absurd (Except.error.inj failed).symm (noFault _)

/--
Whatever a configuration is asked for with, there is one, or a fault of it that says why not, unless
an infinite number is asked for, the name of a file is too long to be looked for, or the bytes of a
file are no text or hold a scalar of the wrong type. These three end in failures of their own.
-/
theorem load_answers_unless_stray (d : Directory) (v : Value) :
    (((∃ c, load d v = .ok c) ∨ ∃ fault, load d v = .error (.config fault)) ↔
      ∀ failure, ¬ Stray d v failure) ∧
    ∀ failure, Stray d v failure → load d v = .error failure := by
  refine ⟨⟨?_, ?_⟩, fun failure stray => stray.load_eq⟩
  · rintro (⟨c, loaded⟩ | ⟨fault, failed⟩) failure stray
    · rw [stray.load_eq] at loaded
      contradiction
    · rw [stray.load_eq] at failed
      exact stray.ne_config fault (Except.error.inj failed)
  · intro none
    cases answer : load d v with
    | ok c => exact .inl ⟨c, rfl⟩
    | error failure =>
      by_cases known : ∃ fault, failure = .config fault
      · obtain ⟨fault, rfl⟩ := known
        exact .inr ⟨fault, rfl⟩
      · exact absurd (stray_of_load answer fun fault same => known ⟨fault, same⟩) (none failure)

/-- An infinite number of cells is no fault of the configuration that asks for it. -/
theorem load_strays_for_infinite_cells :
    let v : Value := .map [(.str "memory_cells", .float (.infinity false))]
    load ⟨[]⟩ v = .error (.value .infinityToInteger) ∧
    ¬ ((∃ c, load ⟨[]⟩ v = .ok c) ∨ ∃ fault, load ⟨[]⟩ v = .error (.config fault)) := by
  intro v
  have infinite : load ⟨[]⟩ v = .error (.value .infinityToInteger) := rfl
  refine ⟨infinite, ?_⟩
  rintro (⟨c, loaded⟩ | ⟨fault, failed⟩)
  · rw [infinite] at loaded
    contradiction
  · rw [infinite] at failed
    cases failed

/--
A document in a file that is a mapping is the configuration that this mapping is. One that counts as
false asks for nothing. Every other one is refused, and nothing else is refused for this reason.
-/
theorem load_document (named : pathOf? v = some shown)
    (found : d.read (Path.ofString shown).text = .ok bytes)
    (parsed : Yaml.Document.ofBytes bytes = .ok document) :
    (∀ entries, document.value = .map entries → load d v = load d (.map entries)) ∧
    (document.value.Blank → load d v = load d .null ∧ load d v = .ok initial) ∧
    (load d v = .error (.config (.notMapping shown)) ↔
      ¬ document.value.Blank ∧ ¬ document.value.IsMapping) := by
  have loaded : load d v = ofDocument shown document.value := by
    rw [load_of_read named found, parsed]
  refine ⟨?_, ?_, ?_⟩
  · intro entries mapping
    rw [loaded, mapping, ofDocument_map]
    rfl
  · intro blank
    rw [loaded, ofDocument_blank blank]
    exact ⟨rfl, rfl⟩
  · constructor
    · intro refused
      rw [loaded] at refused
      constructor
      · intro blank
        rw [ofDocument_blank blank] at refused
        contradiction
      · rintro ⟨entries, mapping⟩
        rw [mapping, ofDocument_map] at refused
        obtain ⟨refusal, failed, converted⟩ := mapError_eq_error_iff.mp refused
        rcases fault_ofEntries failed with rfl | ⟨cause, rfl⟩ | rfl | rfl <;> cases converted
    · rintro ⟨filled, other⟩
      rw [loaded, ofDocument_other filled other]

/-- A directory with one file in it. -/
def directoryWith (bytes : List UInt8) : Directory := ⟨[([['c']], .file bytes)]⟩

/-- How many items a document has, if it is a list. -/
def length? : Except Yaml.Fault Yaml.Document → Option Nat
  | .ok (.tree (.list items)) => some items.length
  | _ => none

private theorem exists_items {parsed : Except Yaml.Fault Yaml.Document} {n : Nat}
    (counted : length? parsed = some n) :
    ∃ items, parsed = .ok (.tree (.list items)) ∧ items.length = n := by
  cases parsed with
  | error fault => contradiction
  | ok document =>
    cases document with
    | web g => contradiction
    | tree v =>
      cases v with
      | list items => exact ⟨items, rfl, Option.some.inj counted⟩
      | _ => contradiction

theorem load_document_list :
    (directoryWith [91, 91, 93, 93]).read (Path.ofString "c").text = .ok [91, 91, 93, 93] ∧
    (∃ item, Yaml.Document.ofBytes [91, 91, 93, 93] = .ok (.tree (.list [item]))) ∧
    load (directoryWith [91, 91, 93, 93]) (.path "c") = .error (.config (.notMapping "c")) := by
  have found : (directoryWith [91, 91, 93, 93]).read (Path.ofString "c").text =
      .ok [91, 91, 93, 93] := by decide +kernel
  have counted : length? (Yaml.Document.ofBytes [91, 91, 93, 93]) = some 1 := by decide +kernel
  obtain ⟨items, parsed, one⟩ := exists_items counted
  obtain ⟨item, rfl⟩ := List.length_eq_one_iff.mp one
  have refused := (load_document (v := .path "c") rfl found parsed).2.2
  refine ⟨found, ⟨item, parsed⟩, refused.mpr ⟨?_, ?_⟩⟩
  · intro blank
    cases blank
  · rintro ⟨entries, mapping⟩
    cases mapping

/-- An empty list is no mapping either, and yet it asks for nothing. -/
theorem load_document_empty_list :
    (directoryWith [91, 93]).read (Path.ofString "c").text = .ok [91, 93] ∧
    Yaml.Document.ofBytes [91, 93] = .ok (.tree (.list [])) ∧
    ¬ (Value.list []).IsMapping ∧
    load (directoryWith [91, 93]) (.str "c") = .ok initial ∧
    load (directoryWith [91, 93]) (.str "c") ≠ .error (.config (.notMapping "c")) := by
  have found : (directoryWith [91, 93]).read (Path.ofString "c").text = .ok [91, 93] := by
    decide +kernel
  have counted : length? (Yaml.Document.ofBytes [91, 93]) = some 0 := by decide +kernel
  obtain ⟨items, parsed, none⟩ := exists_items counted
  obtain rfl := List.length_eq_zero_iff.mp none
  have accepted : load (directoryWith [91, 93]) (.str "c") = .ok initial := by
    rw [load_of_read (v := .str "c") rfl found, parsed]
    exact ofDocument_blank .list
  refine ⟨found, parsed, ?_, accepted, ?_⟩
  · rintro ⟨entries, mapping⟩
    cases mapping
  · rw [accepted]
    intro same
    cases same

end File

end Config

end TapeMachine
