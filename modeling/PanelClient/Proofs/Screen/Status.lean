import PanelClient.Screen.Status

/-!
# Laws of the status

What is shown of a failure depends on the errors that were shown before, but not on whether
something is going on (`showing_setLoading`), and there is always something shown
(`hasErrors_showing`).
-/

namespace PanelClient.Status

variable {α : Type} (status : Status) (outcome : Outcome α) (shown : List Field)

@[simp] theorem setLoading_loading (loading : Bool) :
    (status.setLoading loading).loading = loading := rfl

@[simp] theorem clearErrors_loading : status.clearErrors.loading = status.loading := rfl

@[simp] theorem setFieldError_loading (field : Field) (message : String) :
    (status.setFieldError field message).loading = status.loading := rfl

@[simp] theorem setGeneralError_loading (message : String) :
    (status.setGeneralError message).loading = status.loading := rfl

@[simp] theorem fail_loading (message : String) : (status.fail message).loading = false := rfl

@[simp] theorem setFieldErrors_loading (fieldErrors : FieldErrors) :
    (status.setFieldErrors shown fieldErrors).loading = status.loading := by
  unfold setFieldErrors
  induction fieldErrors generalizing status with
  | nil => rfl
  | cons entry rest ih =>
    rw [List.foldl_cons, ih]
    dsimp only
    split
    · split <;> simp
    · rfl

/-- A failure that is shown does not change whether something is going on. -/
@[simp] theorem showing_loading : (status.showing outcome shown).loading = status.loading := by
  cases outcome with
  | invalid message fieldErrors =>
    simp only [showing]
    split <;> simp
  | _ => rfl

theorem setFieldErrors_setLoading (fieldErrors : FieldErrors) (loading : Bool) :
    (status.setFieldErrors shown fieldErrors).setLoading loading =
      (status.setLoading loading).setFieldErrors shown fieldErrors := by
  unfold setFieldErrors
  induction fieldErrors generalizing status with
  | nil => rfl
  | cons entry rest ih =>
    rw [List.foldl_cons, List.foldl_cons, ih]
    congr 1
    dsimp only
    split
    · split <;> rfl
    · rfl

theorem showing_setLoading (loading : Bool) :
    (status.showing outcome shown).setLoading loading =
      (status.setLoading loading).showing outcome shown := by
  cases outcome with
  | invalid message fieldErrors =>
    have hfields : (status.setFieldErrors shown fieldErrors).hasFieldErrors =
        ((status.setLoading loading).setFieldErrors shown fieldErrors).hasFieldErrors := by
      rw [← setFieldErrors_setLoading]
      rfl
    simp only [showing, ← hfields]
    split
    · exact setFieldErrors_setLoading ..
    · rw [← setFieldErrors_setLoading]
      rfl
  | _ => rfl

theorem hasErrors_setGeneralError (message : String) :
    (status.setGeneralError message).hasErrors = true := by
  simp [hasErrors, setGeneralError]

theorem hasErrors_setFieldError (field : Field) (message : String) :
    (status.setFieldError field message).hasErrors = true := by
  have hfield : (status.setFieldError field message).hasFieldErrors = true :=
    List.any_eq_true.2 ⟨field, Field.mem_all field, by simp [setFieldError]⟩
  rw [hasErrors, hfield, Bool.true_or]

/-- Of every failure something is shown. -/
theorem hasErrors_showing (h : outcome.isSuccess = false) :
    (status.showing outcome shown).hasErrors = true := by
  cases outcome with
  | success value => cases h
  | invalid message fieldErrors =>
    simp only [showing]
    split
    · next hfields => rw [hasErrors, hfields, Bool.true_or]
    · exact hasErrors_setGeneralError ..
  | _ => exact hasErrors_setGeneralError ..

end PanelClient.Status
