import PanelClient.Proofs.Backend.Wording
import PanelClient.Proofs.Entries.Order
import PanelClient.Proofs.Screen.Page
import PanelClient.Proofs.Screen.Status
import PanelClient.Proofs.Screen.Validation

/-!
# How failures are shown

What a view shows of a failed outcome if it showed no error before (`Outcome.ShownBy`). The messages
about inputs are taken over one key after the other; what that leaves at an input is told from the
whole of them (`Status.fieldError_setFieldErrors`), by induction over the keys, whatever was shown
at the start. With that a failure is shown as it should be on every page, and nothing else changes
(`Page.failure_shown`).
-/

namespace PanelClient

variable {α : Type}

theorem Field.key_of_ofKey? {key : String} {field : Field} (h : ofKey? key = some field) :
    field.key = key := by
  simpa using List.find?_some h

/-! ## Messages about inputs -/

/-- What is said at an input of a view with these inputs: the first message about it. -/
def FieldErrors.messageAt? (fieldErrors : FieldErrors) (shown : List Field) (field : Field) :
    Option String :=
  if field ∈ shown then (Entries.get? field.key fieldErrors).bind List.head? else none

namespace FieldErrors

variable {shown : List Field} {fieldErrors : FieldErrors} {field : Field} {text : String}

theorem messageAt?_eq_some :
    fieldErrors.messageAt? shown field = some text ↔
      field ∈ shown ∧ ∃ more, Entries.get? field.key fieldErrors = some (text :: more) := by
  unfold messageAt?
  by_cases hshown : field ∈ shown
  · rw [if_pos hshown, and_iff_right hshown, Option.bind_eq_some_iff]
    constructor
    · rintro ⟨messages, hmessages, hfirst⟩
      obtain ⟨more, rfl⟩ := List.head?_eq_some_iff.1 hfirst
      exact ⟨more, hmessages⟩
    · rintro ⟨more, hmessages⟩
      exact ⟨text :: more, hmessages, rfl⟩
  · rw [if_neg hshown]
    exact iff_of_false nofun fun h => hshown h.1

theorem messageAt?_of_fresh (hfresh : field.key ∉ fieldErrors.map Prod.fst) :
    fieldErrors.messageAt? shown field = none := by
  rw [messageAt?, Entries.get?_eq_none_of_fresh hfresh, Option.bind_none, ite_self]

/-- A key has no more to say if it stands twice nowhere. -/
theorem messageAt?_cons {entry : String × List String} {rest : FieldErrors}
    (hfresh : entry.1 ∉ rest.map Prod.fst) :
    messageAt? (entry :: rest) shown field =
      (messageAt? rest shown field).or (messageAt? [entry] shown field) := by
  obtain ⟨key, messages⟩ := entry
  by_cases hkey : key = field.key
  · subst hkey
    rw [messageAt?_of_fresh hfresh, Option.none_or]
    simp only [messageAt?, Entries.get?_cons, if_true]
  · simp only [messageAt?, Entries.get?_cons, if_neg hkey, Entries.get?_nil, Option.bind_none,
      ite_self, Option.or_none]

end FieldErrors

namespace Status

variable (status : Status) (shown : List Field) (field : Field)

/-- With the first message of one key, if the view has an input of that name. -/
def takeMessages (entry : String × List String) : Status :=
  match Field.ofKey? entry.1, entry.2 with
  | some field, first :: _ =>
    if shown.contains field then status.setFieldError field first else status
  | _, _ => status

theorem setFieldErrors_cons (entry : String × List String) (rest : FieldErrors) :
    status.setFieldErrors shown (entry :: rest) =
      (status.takeMessages shown entry).setFieldErrors shown rest := rfl

theorem setFieldErrors_generalError (fieldErrors : FieldErrors) :
    (status.setFieldErrors shown fieldErrors).generalError = status.generalError := by
  induction fieldErrors generalizing status with
  | nil => rfl
  | cons entry rest ih =>
    rw [setFieldErrors_cons, ih, takeMessages]
    split
    · split <;> rfl
    · rfl

theorem fieldError_takeMessages (entry : String × List String) :
    (status.takeMessages shown entry).fieldError field =
      (FieldErrors.messageAt? [entry] shown field).or (status.fieldError field) := by
  obtain ⟨key, messages⟩ := entry
  by_cases hkey : key = field.key
  · subst hkey
    simp only [takeMessages, Field.ofKey?_key, FieldErrors.messageAt?, Entries.get?_cons, if_true,
      Option.bind_some, List.contains_eq_mem, decide_eq_true_eq]
    cases messages with
    | nil => simp
    | cons first more =>
      by_cases hshown : field ∈ shown
      · simp [hshown, setFieldError]
      · simp [hshown]
  · have hnone : FieldErrors.messageAt? [(key, messages)] shown field = none := by
      apply FieldErrors.messageAt?_of_fresh
      simpa using Ne.symm hkey
    rw [hnone, Option.none_or, takeMessages]
    split
    · next other first more hother _ =>
      -- the key is that of another input
      have hne : field ≠ other := by
        rintro rfl
        exact hkey (Field.key_of_ofKey? hother).symm
      split
      · exact if_neg hne
      · rfl
    · rfl

/-- What all messages together leave at an input: the first one about it, or else what was there. -/
theorem fieldError_setFieldErrors {fieldErrors : FieldErrors}
    (hkeys : (fieldErrors.map Prod.fst).Nodup) :
    (status.setFieldErrors shown fieldErrors).fieldError field =
      (fieldErrors.messageAt? shown field).or (status.fieldError field) := by
  induction fieldErrors generalizing status with
  | nil =>
    rw [FieldErrors.messageAt?_of_fresh (by simp), Option.none_or]
    rfl
  | cons entry rest ih =>
    obtain ⟨hfresh, hrest⟩ := List.nodup_cons.1 hkeys
    rw [setFieldErrors_cons, ih _ hrest, fieldError_takeMessages,
      FieldErrors.messageAt?_cons hfresh, Option.or_assoc]

/-! ## The errors of a status -/

theorem mem_fieldErrors {field : Field} {text : String} :
    (field, text) ∈ status.fieldErrors ↔ status.fieldError field = some text := by
  simp only [fieldErrors, List.mem_filterMap, Option.map_eq_some_iff, Prod.mk.injEq]
  constructor
  · rintro ⟨_, -, _, herror, rfl, rfl⟩
    exact herror
  · intro herror
    exact ⟨field, Field.mem_all field, text, herror, rfl, rfl⟩

/-- No input stands twice among the errors. -/
theorem nodup_fieldErrors : (status.fieldErrors.map Prod.fst).Nodup := by
  have hinputs : status.fieldErrors.map Prod.fst =
      Field.all.filter fun field => (status.fieldError field).isSome := by
    rw [fieldErrors, List.map_filterMap, ← List.filterMap_eq_filter]
    congr 1
    funext field
    cases herror : status.fieldError field <;> simp [Option.guard, herror]
  rw [hinputs]
  exact (show Field.all.Nodup by decide).sublist List.filter_sublist

end Status

/-- On a page that was discarded a change of the status changes nothing. -/
theorem Program.advance_changeStatus_of_tornDown {σ : Type} [HasStatus σ] (setting : Setting)
    (f : Status → Status) (next : Program σ Unit) {scene : Scene σ}
    (hdown : scene.tornDown = true) :
    ((changeStatus f).bind fun _ => next).advance setting scene = next.advance setting scene := by
  show next.advance setting (scene.update (HasStatus.modify f)) = _
  rw [Scene.update, if_pos hdown]

/-! ## Failures -/

/-- The errors of a status are what a view with these inputs is to show of a failure. A refused
input has an entry at each input that the view has and that there is a message about, the first one,
and its own message only if there is no such entry; all other failures have a message alone. -/
def Outcome.ShownBy (outcome : Outcome α) (shown : List Field) (status : Status) : Prop :=
  match outcome with
  | .success _ => False
  | .invalid message fieldErrors =>
    (status.fieldErrors.map Prod.fst).Nodup ∧
      (∀ field text, (field, text) ∈ status.fieldErrors ↔
        field ∈ shown ∧ ∃ more, fieldErrors.get? field.key = some (text :: more)) ∧
      status.generalError = if status.fieldErrors = [] then some message else none
  | .unauthorized message | .serverError message =>
    status.fieldErrors = [] ∧ status.generalError = some message
  | .unreachable _ => status.fieldErrors = [] ∧ status.generalError = some Status.networkError

namespace Status

variable {status : Status}

theorem hasFieldErrors_eq_false : status.hasFieldErrors = false ↔ status.fieldErrors = [] := by
  rw [hasFieldErrors, List.any_eq_false, fieldErrors, List.filterMap_eq_nil_iff]
  simp

theorem hasErrors_eq_false :
    status.hasErrors = false ↔ status.fieldErrors = [] ∧ status.generalError = none := by
  rw [hasErrors, Bool.or_eq_false_iff, hasFieldErrors_eq_false, Option.isSome_eq_false_iff,
    Option.isNone_iff_eq_none]

theorem fieldError_of_fieldErrors_eq_nil (h : status.fieldErrors = []) (field : Field) :
    status.fieldError field = none := by
  apply Option.eq_none_iff_forall_ne_some.2
  intro text herror
  have hmem := status.mem_fieldErrors.2 herror
  rw [h] at hmem
  cases hmem

/-- The message of a refused input is shown only where none of its entries is. -/
theorem showing_invalid (message : String) (fieldErrors : FieldErrors) (shown : List Field) :
    status.showing (.invalid message fieldErrors : Outcome α) shown =
      { status.setFieldErrors shown fieldErrors with
        generalError :=
          if (status.setFieldErrors shown fieldErrors).fieldErrors = [] then some message
          else status.generalError } := by
  simp only [showing]
  by_cases hnil : (status.setFieldErrors shown fieldErrors).fieldErrors = []
  · rw [hasFieldErrors_eq_false.2 hnil, if_neg Bool.false_ne_true, if_pos hnil]
    rfl
  · rw [if_pos (Bool.not_eq_false _ ▸ mt hasFieldErrors_eq_false.1 hnil), if_neg hnil,
      ← setFieldErrors_generalError]

/-- Without errors before, a failure is shown as it should be. -/
theorem shownBy_showing {outcome : Outcome α} (hfailed : outcome.isSuccess = false)
    (hkeys : (outcome.fieldErrors.map Prod.fst).Nodup) (hclear : status.hasErrors = false)
    (shown : List Field) : outcome.ShownBy shown (status.showing outcome shown) := by
  obtain ⟨hfields, hgeneral⟩ := hasErrors_eq_false.1 hclear
  cases outcome with
  | success value => cases hfailed
  | invalid message fieldErrors =>
    have hkeys : (fieldErrors.map Prod.fst).Nodup := hkeys
    rw [showing_invalid, hgeneral]
    refine ⟨nodup_fieldErrors _, fun field text => ?_, rfl⟩
    rw [mem_fieldErrors, ← FieldErrors.messageAt?_eq_some]
    show (status.setFieldErrors shown fieldErrors).fieldError field = some text ↔ _
    rw [fieldError_setFieldErrors _ _ _ hkeys, fieldError_of_fieldErrors_eq_nil hfields,
      Option.or_none]
  | unauthorized message | serverError message => exact ⟨hfields, rfl⟩
  | unreachable message => exact ⟨hfields, rfl⟩

/-- Whether something is going on has no part in what is shown. -/
theorem shownBy_setLoading {outcome : Outcome α} {shown : List Field}
    (h : outcome.ShownBy shown status) (loading : Bool) :
    outcome.ShownBy shown (status.setLoading loading) := by
  cases outcome <;> exact h

end Status

namespace Page

/-- The view shows the failure in place of no errors, and is as before in all but its status. -/
structure ShowsFailure (page : Page) (outcome : Outcome α) (shown : List Field)
    (before after : page.View) : Prop where
  errors : outcome.ShownBy shown (page.status after)
  hasErrors : (page.status after).hasErrors = true
  rest : HasStatus.setStatus (page.status before) after = before

/-- What sets the status of a view changes nothing else. -/
theorem setStatus_modify (page : Page) (change : Status → Status) (view : page.View) :
    HasStatus.setStatus (page.status view) (HasStatus.modify change view) = view := by
  cases page <;> rfl

variable (page : Page) {outcome : Outcome α} {view : page.View}

theorem showsFailure_modify (hfailed : outcome.isSuccess = false)
    (hkeys : (outcome.fieldErrors.map Prod.fst).Nodup)
    (hclear : (page.status view).hasErrors = false) (shown : List Field) :
    page.ShowsFailure outcome shown view (HasStatus.modify (.showing outcome shown) view) where
  errors := by
    rw [status, HasStatus.status_modify]
    exact Status.shownBy_showing hfailed hkeys hclear shown
  hasErrors := by
    rw [status, HasStatus.status_modify]
    exact Status.hasErrors_showing _ _ _ hfailed
  rest := page.setStatus_modify _ view

/-- On a page without errors a failure is shown as it should be, and nothing else changes: recorded,
it leaves it open whether something is going on; shown, it says that nothing is. A page that was
discarded shows no more. -/
theorem failure_shown (setting : Setting) (scene : Scene page.View) (shown : List Field)
    (next : Program page.View Unit) (hfailed : outcome.isSuccess = false)
    (hkeys : (outcome.fieldErrors.map Prod.fst).Nodup)
    (hclear : (page.status scene.view).hasErrors = false) :
    let recording := (Program.recordFailure outcome shown).bind fun _ => next
    let showing := (Program.showFailure outcome shown).bind fun _ => next
    (scene.tornDown = true → recording.advance setting scene = next.advance setting scene ∧
        showing.advance setting scene = next.advance setting scene) ∧
      (scene.tornDown = false → ∃ recorded ended : page.View,
        recording.advance setting scene = next.advance setting { scene with view := recorded } ∧
        page.ShowsFailure outcome shown scene.view recorded ∧
        (page.status recorded).loading = (page.status scene.view).loading ∧
        showing.advance setting scene = next.advance setting { scene with view := ended } ∧
        page.ShowsFailure outcome shown scene.view ended ∧
        (page.status ended).loading = false) := by
  intro recording showing
  constructor
  · intro hdown
    exact ⟨Program.advance_changeStatus_of_tornDown setting _ next hdown,
      Program.advance_changeStatus_of_tornDown setting _ next hdown⟩
  · intro hup
    have hrecorded := page.showsFailure_modify hfailed hkeys hclear shown
    refine ⟨HasStatus.modify (.showing outcome shown) scene.view,
      HasStatus.modify (fun status => (status.showing outcome shown).setLoading false) scene.view,
      Program.advance_changeStatus setting _ next hup, hrecorded, ?_,
      Program.advance_changeStatus setting _ next hup, ⟨?_, ?_, ?_⟩, ?_⟩
    · rw [status, HasStatus.status_modify, Status.showing_loading]
      rfl
    · have herrors := hrecorded.errors
      rw [status, HasStatus.status_modify] at herrors ⊢
      exact Status.shownBy_setLoading herrors false
    · rw [status, HasStatus.status_modify]
      exact Status.hasErrors_showing _ _ _ hfailed
    · exact page.setStatus_modify _ scene.view
    · rw [status, HasStatus.status_modify, Status.setLoading_loading]

/-- Of a refused registration the first message about the password is shown at its input; a key
without messages and a key that is no input of the page have no part in it. -/
theorem failure_shown_of_register :
    let refused : Outcome Unit := .invalid "Refused"
      [("captcha", ["wrong"]), ("email", []), ("password", ["too short", "too plain"])]
    let setting : Setting := { client := ⟨"https://panel.example"⟩ }
    let scene := Scene.initial (Register.screen setting.client).initial ⟨.memory []⟩
    refused.isSuccess = false ∧ (refused.fieldErrors.map Prod.fst).Nodup ∧
      (Page.register.status scene.view).hasErrors = false ∧
      ∃ ended : Register.View,
        (Program.showFailure refused [.email, .password]).advance setting scene =
          ({ scene with view := ended }, .finished) ∧
        (.password, "too short") ∈ ended.status.fieldErrors ∧
        (∀ text, (.email, text) ∉ ended.status.fieldErrors) ∧ ended.status.generalError = none := by
  intro refused setting scene
  have hkeys : (refused.fieldErrors.map Prod.fst).Nodup := by decide
  obtain ⟨-, hup⟩ :=
    Page.register.failure_shown setting scene [.email, .password] (.done ()) rfl hkeys rfl
  obtain ⟨_, ended, -, -, -, hended, ⟨⟨-, hentries, hgeneral⟩, -, -⟩, -⟩ := hup rfl
  have hpassword : (.password, "too short") ∈ ended.status.fieldErrors :=
    (hentries .password "too short").2 ⟨by decide, ["too plain"], by decide⟩
  have hemail (text : String) : (.email, text) ∉ ended.status.fieldErrors := by
    intro hmem
    obtain ⟨-, more, hmessages⟩ := (hentries .email text).1 hmem
    exact absurd hmessages (by simp [Entries.get?_cons, Field.key])
  refine ⟨rfl, hkeys, rfl, ended, hended, hpassword, hemail, ?_⟩
  exact hgeneral.trans (if_neg (List.ne_nil_of_mem hpassword))

end Page

end PanelClient
