import PanelClient.Proofs.Backend.Query
import PanelClient.Proofs.Screen.Status

/-!
# What a reply brings

Except for a sign-in, what a query comes to is decided by the reply alone (`Query.value_finish`);
the session has no part in it. A failure is shown as one line (`Outcome.rendering?`) on views without
inputs (`Status.showing_nil`).
-/

namespace PanelClient

/-! ## Values that the session has no part in -/

namespace SessionM

variable {α β : Type}

/-- The value of the work is the same with every session. -/
def Fixed (work : SessionM α) : Prop :=
  ∀ a b, (work a).value = (work b).value

theorem fixed_pure (value : α) : (pure value : SessionM α).Fixed := fun _ _ => rfl

theorem fixed_unit (work : SessionM Unit) : work.Fixed := fun _ _ => rfl

theorem Fixed.bind {work : SessionM α} {next : α → SessionM β} (h : work.Fixed)
    (hnext : ∀ value, (next value).Fixed) : (work >>= next).Fixed := by
  intro a b
  rw [bind_apply, bind_apply, h a b]
  exact hnext _ _ _

end SessionM

namespace Operation

open SessionM

variable {α β : Type}

theorem fixed_onSuccess {next : β → SessionM (Outcome α)} (h : ∀ value, (next value).Fixed)
    (outcome : Outcome β) : (onSuccess next outcome).Fixed := by
  cases outcome with
  | success value => exact h value
  | _ => exact fixed_pure _

theorem fixed_decodeRecord [Record.Readable α] (what : String) (value : Json) :
    (decodeRecord what value : SessionM (Outcome α)).Fixed := by
  unfold decodeRecord
  split
  · exact fixed_pure _
  · exact (fixed_unit _).bind fun _ => fixed_pure _

theorem fixed_decodeList [Record.Readable α] (what : String) (value : Json) :
    (decodeList what value : SessionM (List α)).Fixed := by
  unfold decodeList
  split
  · exact fixed_pure _
  · exact (fixed_unit _).bind fun _ => fixed_pure _

theorem fixed_fetchList [Record.Readable α] (endpoint : Endpoint) (what : String)
    (outcome : Outcome Payload) : ((fetchList α endpoint what).complete outcome).Fixed :=
  fixed_onSuccess (fun _ => (fixed_decodeList _ _).bind fun _ => fixed_pure _) outcome

theorem fixed_getSubscribe (outcome : Outcome Payload) : (getSubscribe.complete outcome).Fixed := by
  refine fixed_onSuccess (fun payload => (fixed_decodeRecord _ _).bind fun found => ?_) outcome
  cases found with
  | success subscription =>
    dsimp only
    split
    · exact (fixed_unit _).bind fun _ => fixed_pure _
    · exact fixed_pure _
  | _ => exact fixed_pure _

end Operation

namespace Query

open Operation

/-- What a query comes to with a reply, if it does not sign in. -/
def outcome (query : Query) (reply : Http.Reply) : Outcome query.Value :=
  (query.operation.complete (Outcome.ofReply reply) ⟨.memory []⟩).value

theorem fixed_complete {query : Query} (h : query.signsInAs? = none) (outcome : Outcome Payload) :
    (query.operation.complete outcome).Fixed := by
  cases query with
  | login | register => cases h
  | forgotPassword | sendEmailVerify | createOrder => exact SessionM.fixed_pure _
  | checkoutOrder => exact fixed_onSuccess (fun _ => fixed_decodeRecord _ _) outcome
  | getConfig | getUserInfo | getDashboardStats =>
    exact fixed_onSuccess (fun _ => fixed_decodeRecord _ _) outcome
  | getPlans | getPublicPlans | getServers | getOrders | getPaymentMethods =>
    exact fixed_fetchList _ _ outcome
  | getSubscribe => exact fixed_getSubscribe outcome

theorem value_finish {query : Query} (h : query.signsInAs? = none) (client : Client)
    (reply : Http.Reply) (session : Session) :
    (query.operation.finish client reply session).value = query.outcome reply :=
  fixed_complete h (Outcome.ofReply reply) session ⟨.memory []⟩

end Query

/-! ## Failures that are shown -/

/-- How a failure is shown where there are no inputs. -/
def Outcome.rendering? {α : Type} : Outcome α → Option String
  | success _ => none
  | invalid message _ | unauthorized message | serverError message => some message
  | unreachable _ => some Status.networkError

theorem Outcome.isSome_rendering? {α : Type} (outcome : Outcome α) :
    outcome.rendering?.isSome = !outcome.isSuccess := by
  cases outcome <;> rfl

/-- A view without inputs shows no error at any. -/
theorem Status.setFieldErrors_nil (status : Status) (fieldErrors : FieldErrors) :
    status.setFieldErrors [] fieldErrors = status := by
  unfold setFieldErrors
  induction fieldErrors generalizing status with
  | nil => rfl
  | cons entry rest ih =>
    rw [List.foldl_cons]
    dsimp only
    split
    · exact ih status
    · exact ih status

/-- Without errors at inputs, showing a failure there sets the general error. -/
theorem Status.showing_nil {α : Type} (outcome : Outcome α) {status : Status}
    (h : status.fieldError = fun _ => none) :
    status.showing outcome [] =
      { status with generalError := outcome.rendering?.or status.generalError } := by
  cases outcome with
  | invalid message fieldErrors =>
    have hnone : status.hasFieldErrors = false := by
      simp [hasFieldErrors, h]
    simp only [showing, setFieldErrors_nil, hnone, Bool.false_eq_true, if_false]
    rfl
  | _ => rfl

end PanelClient
