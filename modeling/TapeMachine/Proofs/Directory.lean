import TapeMachine.Directory

set_option autoImplicit false

namespace TapeMachine.Directory

variable {d d' : Directory} {place other : Place} {bytes : List UInt8}

theorem lookup_put_self (noFolder : d.lookup place ≠ some .folder) :
    (d.put place bytes).lookup place = some (.file bytes) := by
  unfold lookup at noFolder
  split at noFolder
  · contradiction
  · next ordinary =>
    have others : (d.entries.filter fun entry => entry.1 != place).find?
        (fun entry => entry.1 == place) = none := by
      rw [List.find?_eq_none]
      intro entry kept
      simpa using (List.mem_filter.mp kept).2
    rw [lookup, if_neg ordinary, put, List.find?_append, others]
    simp

theorem ne_folder_of_file (there : d.lookup place = some (.file bytes)) :
    d.lookup place ≠ some .folder := by
  rw [there]
  exact fun same => nomatch same

theorem lookup_put_of_ne (ne : other ≠ place) :
    (d.put place bytes).lookup other = d.lookup other := by
  have kept : (fun entry : Place × Entry =>
      decide ((entry.1 != place) = true ∧ (entry.1 == other) = true)) =
      fun entry => entry.1 == other := by
    funext entry
    by_cases same : entry.1 = other
    · simp [same, ne]
    · simp [same]
  have added : [(place, Entry.file bytes)].find? (fun entry => entry.1 == other) = none := by
    simpa using ne.symm
  rw [lookup, lookup, put, List.find?_append, List.find?_filter, kept, added, Option.or_none]

theorem folder_of_follow {name : List Char} {rest : List (List Char)} {start target : Place}
    (found : d.follow (name :: rest) start = .ok target) : d.lookup start = some .folder := by
  rw [follow] at found
  cases here : d.lookup start with
  | none =>
    rw [here] at found
    contradiction
  | some entry =>
    rw [here] at found
    cases entry with
    | file content => contradiction
    | folder => rfl

private theorem follow_mono (folders : ∀ p, d.lookup p = some .folder → d'.lookup p = some .folder)
    {names : List (List Char)} {start target : Place}
    (found : d.follow names start = .ok target) : d'.follow names start = .ok target := by
  induction names generalizing start with
  | nil => exact found
  | cons name rest ih =>
    have here := folder_of_follow found
    rw [follow, here] at found
    rw [follow, folders start here]
    revert found
    -- The same name leads on in both, so that only the rest of the way is left.
    dsimp only
    split
    · exact ih
    · split
      · exact ih
      · split
        · intro tooLong
          contradiction
        · exact ih

theorem locate_eq_ok_iff {path : String} {target : Place} :
    d.locate path = .ok target ↔ path.toList.contains '\x00' = false ∧ path.toList ≠ [] ∧
      (Text.Utf8.encode path.toList).length ≤ maxPath ∧
      d.follow (Path.splitSlashes path.toList)
        (if path.toList.head? = some '/' then [['/']] else []) = .ok target := by
  simp only [locate]
  split
  · next null =>
    rw [null]
    simp
  · next plain =>
    split
    · next empty => simp [empty]
    · next named =>
      split
      · next long => simp [Nat.not_le.mpr long]
      · next fits =>
        have plain' : path.toList.contains '\x00' = false := by simpa using plain
        have fits' := Nat.not_lt.mp fits
        simp only [plain', fits', named, ne_eq, not_false_eq_true, true_and]
        generalize d.follow (Path.splitSlashes path.toList) _ = followed
        cases followed with
        | error cause => exact iff_of_false (fun same => nomatch same) (fun same => nomatch same)
        | ok place =>
          constructor
          all_goals
            intro same
            cases same
            rfl

theorem locate_mono (folders : ∀ p, d.lookup p = some .folder → d'.lookup p = some .folder)
    {path : String} {target : Place} (found : d.locate path = .ok target) :
    d'.locate path = .ok target := by
  rw [locate_eq_ok_iff] at found ⊢
  obtain ⟨plain, named, fits, followed⟩ := found
  exact ⟨plain, named, fits, follow_mono folders followed⟩

theorem locate_put {path : String} {target : Place} (noFolder : d.lookup place ≠ some .folder)
    (found : d.locate path = .ok target) : (d.put place bytes).locate path = .ok target := by
  apply locate_mono _ found
  intro p folder
  have ne : p ≠ place := by
    rintro rfl
    exact noFolder folder
  rw [lookup_put_of_ne ne]
  exact folder

theorem locate_of_read {path : String} (found : d.read path = .ok bytes) :
    ∃ place, d.locate path = .ok place ∧ d.lookup place = some (.file bytes) := by
  rw [read] at found
  cases located : d.locate path with
  | error fault =>
    rw [located] at found
    contradiction
  | ok place =>
    refine ⟨place, rfl, ?_⟩
    rw [located] at found
    simp only [bind, Except.bind] at found
    split at found
    · next content here =>
      rw [here]
      cases found
      rfl
    · contradiction
    · contradiction

theorem read_of_locate {path : String} (located : d.locate path = .ok place)
    (there : d.lookup place = some (.file bytes)) : d.read path = .ok bytes := by
  rw [read, located]
  simp only [bind, Except.bind, there]
  rfl

theorem exists_eq_of_read {path : String} (found : d.read path = .ok bytes) :
    d.exists? path = .ok true := by
  obtain ⟨place, located, here⟩ := locate_of_read found
  rw [exists?, located]
  simp [here]

theorem target_eq_ok_iff {path : String} :
    d.target path = .ok place ↔ d.locate path = .ok place ∧ d.lookup place ≠ some .folder := by
  rw [target]
  cases d.locate path with
  | error fault =>
    constructor
    · intro found
      contradiction
    · rintro ⟨located, -⟩
      contradiction
  | ok other =>
    by_cases folder : d.lookup other = some .folder
    · constructor
      · intro found
        simp [folder, bind, Except.bind] at found
      · rintro ⟨located, noFolder⟩
        obtain rfl := Except.ok.inj located
        exact absurd folder noFolder
    · simp only [bind, Except.bind, if_neg folder]
      constructor
      · intro found
        obtain rfl := Except.ok.inj found
        exact ⟨rfl, folder⟩
      · rintro ⟨located, -⟩
        exact located

theorem write_of_target {path : String} (found : d.target path = .ok place)
    (bytes : List UInt8) : d.write path bytes = .ok (d.put place bytes) := by
  rw [write, found]
  rfl

theorem exists_of_write {path : String} (written : d.write path bytes = .ok d') :
    ∃ place, d.locate path = .ok place ∧ d.lookup place ≠ some .folder ∧
      d' = d.put place bytes := by
  cases found : d.target path with
  | error fault =>
    rw [write, found] at written
    contradiction
  | ok place =>
    rw [write_of_target found] at written
    obtain ⟨located, noFolder⟩ := target_eq_ok_iff.mp found
    exact ⟨place, located, noFolder, (Except.ok.inj written).symm⟩

theorem lookup_ne_folder_of_put (noFolder : d.lookup other ≠ some .folder) :
    (d.put place bytes).lookup other ≠ some .folder := by
  by_cases same : other = place
  · rw [same] at noFolder ⊢
    exact ne_folder_of_file (lookup_put_self noFolder)
  · rw [lookup_put_of_ne same]
    exact noFolder

theorem read_of_write {path : String} (written : d.write path bytes = .ok d') :
    d'.read path = .ok bytes := by
  obtain ⟨place, located, noFolder, rfl⟩ := exists_of_write written
  exact read_of_locate (locate_put noFolder located) (lookup_put_self noFolder)

theorem locate_of_write {path other : String} {target : Place}
    (written : d.write path bytes = .ok d') (located : d.locate other = .ok target) :
    d'.locate other = .ok target := by
  obtain ⟨place, -, noFolder, rfl⟩ := exists_of_write written
  exact locate_put noFolder located

theorem locate_of_lookup_ne {path : String} (written : d.write path bytes = .ok d')
    (changed : d'.lookup other ≠ d.lookup other) : d'.locate path = .ok other := by
  obtain ⟨place, located, noFolder, rfl⟩ := exists_of_write written
  have same : other = place := Classical.byContradiction fun ne => changed (lookup_put_of_ne ne)
  rw [same]
  exact locate_put noFolder located

theorem read_of_write_elsewhere {path second : String} {content : List UInt8}
    (written : d.write path bytes = .ok d') (found : d.read second = .ok content)
    (elsewhere : ∀ place, d.locate path = .ok place → d.locate second ≠ .ok place) :
    d'.read second = .ok content := by
  obtain ⟨place, located, noFolder, rfl⟩ := exists_of_write written
  obtain ⟨target, located', there⟩ := locate_of_read found
  have ne : target ≠ place := by
    rintro rfl
    exact elsewhere target located located'
  apply read_of_locate (locate_put noFolder located')
  rw [lookup_put_of_ne ne]
  exact there

theorem read_of_lookup_eq (same : ∀ p, d'.lookup p = d.lookup p) {path : String}
    (found : d.read path = .ok bytes) : d'.read path = .ok bytes := by
  obtain ⟨place, located, there⟩ := locate_of_read found
  have folders (p : Place) (folder : d.lookup p = some .folder) : d'.lookup p = some .folder := by
    rw [same]
    exact folder
  apply read_of_locate (locate_mono folders located)
  rw [same]
  exact there

theorem write_of_read {path : String} (found : d.read path = .ok bytes) :
    ∃ d', d.write path bytes = .ok d' ∧ ∀ p, d'.lookup p = d.lookup p := by
  obtain ⟨place, located, there⟩ := locate_of_read found
  have noFolder := ne_folder_of_file there
  refine ⟨d.put place bytes, write_of_target (target_eq_ok_iff.mpr ⟨located, noFolder⟩) bytes, ?_⟩
  intro p
  by_cases same : p = place
  · rw [same, lookup_put_self noFolder, there]
  · exact lookup_put_of_ne same

theorem put_put (place : Place) (first second : List UInt8) (d : Directory) :
    (d.put place first).put place second = d.put place second := by
  simp [put, List.filter_append, List.filter_filter]

theorem write_of_write {path : String} (written : d.write path bytes = .ok d')
    (second : List UInt8) :
    ∃ d'', d.write path second = .ok d'' ∧ d'.write path second = .ok d'' := by
  obtain ⟨place, located, noFolder, rfl⟩ := exists_of_write written
  have found := target_eq_ok_iff.mpr ⟨located, noFolder⟩
  have found' : (d.put place bytes).target path = .ok place :=
    target_eq_ok_iff.mpr ⟨locate_put noFolder located, lookup_ne_folder_of_put noFolder⟩
  refine ⟨d.put place second, write_of_target found second, ?_⟩
  rw [write_of_target found', put_put]

section Replaced

variable {content : List UInt8} (there : d.lookup place = some (.file content))

include there

private theorem follow_put_of_file (names : List (List Char)) (start : Place) :
    (d.put place bytes).follow names start = d.follow names start := by
  have noFolder := ne_folder_of_file there
  induction names generalizing start with
  | nil => rfl
  | cons name rest ih =>
    rw [follow, follow]
    by_cases same : start = place
    · rw [same, there, lookup_put_self noFolder]
    · rw [lookup_put_of_ne same]
      simp only [ih]

private theorem locate_put_of_file (path : String) :
    (d.put place bytes).locate path = d.locate path := by
  simp only [locate, follow_put_of_file there]

theorem exists?_put_of_file (path : String) :
    (d.put place bytes).exists? path = d.exists? path := by
  have noFolder := ne_folder_of_file there
  have stands (target : Place) :
      ((d.put place bytes).lookup target).isSome = (d.lookup target).isSome := by
    by_cases same : target = place
    · rw [same, there, lookup_put_self noFolder]
      rfl
    · rw [lookup_put_of_ne same]
  simp only [exists?, locate_put_of_file there, stands]

theorem read_put_of_ne {path : String} (elsewhere : d.locate path ≠ .ok place) :
    (d.put place bytes).read path = d.read path := by
  rw [read, read, locate_put_of_file there]
  cases located : d.locate path with
  | error fault => rfl
  | ok target =>
    have ne : target ≠ place := by
      rintro rfl
      exact elsewhere located
    simp only [bind, Except.bind, lookup_put_of_ne ne]

end Replaced

end TapeMachine.Directory
