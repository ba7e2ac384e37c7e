import Mathlib.Data.List.Forall2

set_option autoImplicit false

namespace TapeMachine

variable {ε ε' α β : Type} {first x : Except ε α} {second : α → Except ε β} {a : α} {b : β} {e : ε}

section Sequence

theorem ok_bind (a : α) (second : α → Except ε β) : (Except.ok a >>= second) = second a := rfl

theorem bind_eq_ok_iff : (first >>= second) = .ok b ↔ ∃ a, first = .ok a ∧ second a = .ok b := by
  constructor
  · intro done
    cases first with
    | error cause => contradiction
    | ok a => exact ⟨a, rfl, done⟩
  · rintro ⟨a, rfl, done⟩
    exact done

theorem bind_eq_error_iff :
    (first >>= second) = .error e ↔
      first = .error e ∨ ∃ a, first = .ok a ∧ second a = .error e := by
  constructor
  · intro failed
    cases first with
    | error cause => exact .inl (congrArg Except.error (Except.error.inj failed))
    | ok a => exact .inr ⟨a, rfl, failed⟩
  · rintro (rfl | ⟨a, rfl, failed⟩)
    · rfl
    · exact failed

theorem bind_ne_error (start : first ≠ .error e) (rest : ∀ a, second a ≠ .error e) :
    (first >>= second) ≠ .error e := by
  intro failed
  rcases bind_eq_error_iff.mp failed with same | ⟨a, -, same⟩
  · exact start same
  · exact rest a same

theorem bind_pure_eq_ok_iff {f : α → β} :
    (x >>= fun a => pure (f a)) = .ok b ↔ ∃ a, x = .ok a ∧ f a = b := by
  rw [bind_eq_ok_iff]
  exact exists_congr fun a => and_congr_right fun _ => ⟨Except.ok.inj, congrArg Except.ok⟩

theorem exists_bind_pure_iff {f : α → β} :
    (∃ b, (x >>= fun a => pure (f a)) = .ok b) ↔ ∃ a, x = .ok a := by
  simp only [bind_pure_eq_ok_iff]
  constructor
  · rintro ⟨_, a, same, -⟩
    exact ⟨a, same⟩
  · rintro ⟨a, same⟩
    exact ⟨f a, a, same, rfl⟩

end Sequence

section Converted

theorem map_eq_ok_iff {f : α → β} : x.map f = .ok b ↔ ∃ a, x = .ok a ∧ f a = b :=
  bind_pure_eq_ok_iff

theorem map_eq_error_iff {f : α → β} : x.map f = .error e ↔ x = .error e := by
  constructor
  · intro failed
    cases x with
    | error cause => exact congrArg Except.error (Except.error.inj failed)
    | ok a => contradiction
  · rintro rfl
    rfl

variable {convert : ε → ε'} {e' : ε'}

theorem mapError_ok (convert : ε → ε') (a : α) :
    (Except.ok a : Except ε α).mapError convert = .ok a := rfl

theorem mapError_eq_ok_iff : x.mapError convert = .ok a ↔ x = .ok a := by
  constructor
  · intro done
    cases x with
    | error cause => contradiction
    | ok b => exact congrArg Except.ok (Except.ok.inj done)
  · rintro rfl
    rfl

theorem mapError_eq_error_iff :
    x.mapError convert = .error e' ↔ ∃ cause, x = .error cause ∧ convert cause = e' := by
  constructor
  · intro failed
    cases x with
    | error cause => exact ⟨cause, rfl, Except.error.inj failed⟩
    | ok a => contradiction
  · rintro ⟨cause, rfl, rfl⟩
    rfl

theorem mapError_ne_error (never : ∀ cause, convert cause ≠ e') (x : Except ε α) :
    x.mapError convert ≠ .error e' := by
  intro failed
  obtain ⟨cause, -, same⟩ := mapError_eq_error_iff.mp failed
  exact never cause same

end Converted

theorem isOk_iff : x.isOk = true ↔ ∃ a, x = .ok a := by
  cases x with
  | error cause => exact iff_of_false Bool.false_ne_true (by rintro ⟨a, same⟩; contradiction)
  | ok a => exact iff_of_true rfl ⟨a, rfl⟩

theorem not_isOk_iff : ¬ x.isOk = true ↔ ∃ e, x = .error e := by
  cases x with
  | error cause => exact iff_of_true Bool.false_ne_true ⟨cause, rfl⟩
  | ok a => exact iff_of_false (fun failed => failed rfl) (by rintro ⟨e, same⟩; contradiction)

section Lists

variable {f : α → Except ε β} {items : List α} {results : List β}

theorem mapM_eq_ok_iff :
    items.mapM f = .ok results ↔ List.Forall₂ (fun a b => f a = .ok b) items results := by
  induction items generalizing results with
  | nil =>
    rw [List.forall₂_nil_left_iff, List.mapM_nil]
    exact ⟨fun done => (Except.ok.inj done).symm, fun none => none ▸ rfl⟩
  | cons a rest ih =>
    simp only [List.mapM_cons, List.forall₂_cons_left_iff, bind_eq_ok_iff, ← ih]
    constructor
    · rintro ⟨b, head, bs, tail, same⟩
      exact ⟨b, bs, head, tail, (Except.ok.inj same).symm⟩
    · rintro ⟨b, bs, head, tail, rfl⟩
      exact ⟨b, head, bs, tail, rfl⟩

theorem exists_mapM (all : ∀ a ∈ items, ∃ b, f a = .ok b) : ∃ bs, items.mapM f = .ok bs := by
  induction items with
  | nil => exact ⟨[], rfl⟩
  | cons a rest ih =>
    obtain ⟨b, head⟩ := all a List.mem_cons_self
    obtain ⟨bs, tail⟩ := ih fun a later => all a (List.mem_cons_of_mem _ later)
    exact ⟨b :: bs, mapM_eq_ok_iff.mpr (.cons head (mapM_eq_ok_iff.mp tail))⟩

end Lists

end TapeMachine
