import PanelClient.Proofs.Backend.Query
import PanelClient.Proofs.Backend.Refusal
import PanelClient.Screen.Status

/-!
# What failures say

Every failure says something, and what it says is empty only where the backend gives the empty text
for it (`Outcome.said?_ofReply`). What an operation makes of a failure says as much
(`Query.wordedBy_finish`): it passes the failure on, or fails with words of its own.
-/

namespace PanelClient

variable {α β : Type}

namespace Http.Reply

/-- The reply is a failure, and its message is the empty text. -/
def IsSilent (reply : Reply) : Prop :=
  ∃ status body, reply = .response status body ∧ status ≠ 200 ∧
    Outcome.BodyHas body "message" (.text "")

/-- The reply refuses the input, and the first that it says about the field is the empty text. -/
def IsSilentAt (field : Field) (reply : Reply) : Prop :=
  ∃ body fieldErrors more, reply = .response 422 body ∧
    Outcome.BodyHas body "errors" (Json.ofFieldErrors fieldErrors) ∧
    (field.key, "" :: more) ∈ fieldErrors

end Http.Reply

/-! ## The words of a reply -/

namespace Outcome

/-- What a failure says. -/
def said? : Outcome α → Option String
  | success _ => none
  | invalid message _ | unauthorized message | unreachable message | serverError message =>
    some message

/-- The messages about inputs that come with an outcome. -/
def fieldErrors : Outcome α → FieldErrors
  | invalid _ fieldErrors => fieldErrors
  | _ => []

theorem fallback_ne_empty (status : Nat) : fallback status ≠ "" := by
  unfold fallback
  dsimp only
  split
  · decide
  · split
    · decide
    · split <;> simp

theorem render_ne_empty (value : Json) : Json.render value ≠ "" := by
  obtain ⟨first, rest, hchars, -⟩ := Json.chars_head value
  rw [Json.render, hchars, Ne, String.ofList_eq_empty_iff]
  exact List.cons_ne_nil first rest

/-- The words of a value are empty only if it is the empty text. -/
theorem words?_eq_empty_iff {value : Json} : words? value = some "" ↔ value = .text "" := by
  cases value with
  | text text => simp [words?]
  | integer n => simpa [words?] using render_ne_empty (.integer n)
  | number x => simpa [words?] using render_ne_empty (.number x)
  | bool b => simpa [words?] using render_ne_empty (.bool b)
  | _ => simp [words?]

theorem message?_eq_empty_iff {body : String} :
    message? body = some "" ↔ BodyHas body "message" (.text "") := by
  constructor
  · intro h
    obtain ⟨value, hvalue, hwords⟩ := Option.bind_eq_some_iff.1 h
    obtain rfl := words?_eq_empty_iff.1 hwords
    obtain ⟨members, hmembers, hmessage⟩ := Option.bind_eq_some_iff.1 hvalue
    obtain ⟨envelope, henvelope, hobject⟩ := Option.bind_eq_some_iff.1 hmembers
    cases envelope with
    | object _ =>
      cases hobject
      exact ⟨members, henvelope, hmessage⟩
    | _ => cases hobject
  · exact message?_of_bodyHas

/-- Without a message, or with one that is not empty, a failure is not silent. -/
theorem getD_message?_eq_empty_iff {body : String} (status : Nat) :
    (message? body).getD (fallback status) = "" ↔ BodyHas body "message" (.text "") := by
  rw [← message?_eq_empty_iff]
  cases message? body with
  | none => simpa using fallback_ne_empty status
  | some message => simp

theorem said?_ofResponse {status : Nat} (h : status ≠ 200) (body : String) :
    (ofResponse status body).said? = some ((message? body).getD (fallback status)) := by
  rw [ofResponse, if_neg h]
  split
  · rfl
  · split <;> rfl

theorem failure_message_ne_empty (failure : Http.Failure) : failure.message ≠ "" := by
  intro hempty
  cases failure <;> exact absurd (String.append_eq_empty_iff.1 hempty).1 (by decide)

/-- Every reply that is no success has an outcome that says something, and what it says is empty
exactly if that is the message of the reply. -/
theorem said?_ofReply {reply : Http.Reply} (h : ∀ body, reply ≠ .response 200 body) :
    ∃ message, (ofReply reply).said? = some message ∧ (message = "" ↔ reply.IsSilent) := by
  cases reply with
  | response status body =>
    have hstatus : status ≠ 200 := by
      rintro rfl
      exact h body rfl
    refine ⟨_, said?_ofResponse hstatus body, (getD_message?_eq_empty_iff status).trans ?_⟩
    constructor
    · exact fun hempty => ⟨status, body, rfl, hstatus, hempty⟩
    · rintro ⟨_, _, ⟨⟩, -, hempty⟩
      exact hempty
  | failure failure =>
    refine ⟨failure.message, ?_, iff_of_false (failure_message_ne_empty failure) nofun⟩
    simp only [ofReply, ofFailure]
    split <;> rfl

theorem bodyHas_of_mem_bodyFieldErrors {body : String} {entry : String × List String}
    (h : entry ∈ bodyFieldErrors body) :
    ∃ fieldErrors, BodyHas body "errors" (Json.ofFieldErrors fieldErrors) ∧
      entry ∈ fieldErrors := by
  unfold bodyFieldErrors at h
  cases hread : ((bodyMembers? body).bind (Entries.get? "errors")).bind fieldErrors? with
  | none => simp [hread] at h
  | some fieldErrors =>
    rw [hread] at h
    obtain ⟨value, hvalue, herrors⟩ := Option.bind_eq_some_iff.1 hread
    obtain rfl := fieldErrors?_eq_some_iff.1 herrors
    obtain ⟨members, hmembers, hmember⟩ := Option.bind_eq_some_iff.1 hvalue
    obtain ⟨envelope, henvelope, hobject⟩ := Option.bind_eq_some_iff.1 hmembers
    refine ⟨fieldErrors, ?_, h⟩
    cases envelope with
    | object _ =>
      cases hobject
      exact ⟨members, henvelope, hmember⟩
    | _ => cases hobject

/-! ## The words of an operation -/

/-- Where the outcome says the empty text, one of the replies does. -/
structure WordedBy (replies : List Http.Reply) (outcome : Outcome α) : Prop where
  said : outcome.said? = some "" → ∃ reply ∈ replies, reply.IsSilent
  field : ∀ (field : Field) more, (field.key, "" :: more) ∈ outcome.fieldErrors →
    ∃ reply ∈ replies, reply.IsSilentAt field

variable {replies : List Http.Reply}

theorem wordedBy_success (value : α) : (success value).WordedBy replies :=
  ⟨nofun, nofun⟩

theorem wordedBy_serverError {message : String} (h : message ≠ "") :
    (serverError message : Outcome α).WordedBy replies :=
  ⟨fun hempty => absurd (Option.some.inj hempty) h, nofun⟩

theorem WordedBy.mono {more : List Http.Reply} {outcome : Outcome α}
    (h : outcome.WordedBy replies) (hmore : replies ⊆ more) : outcome.WordedBy more where
  said hempty := (h.said hempty).imp fun _ => .imp_left (hmore ·)
  field field rest hempty := (h.field field rest hempty).imp fun _ => .imp_left (hmore ·)

theorem wordedBy_ofReply (reply : Http.Reply) : (ofReply reply).WordedBy [reply] := by
  by_cases hsuccess : ∃ body, reply = .response 200 body
  · obtain ⟨body, rfl⟩ := hsuccess
    exact wordedBy_success _
  · obtain ⟨message, hsaid, hsilent⟩ := said?_ofReply (not_exists.1 hsuccess)
    refine ⟨fun hempty => ⟨reply, List.mem_singleton_self _, hsilent.1 ?_⟩, ?_⟩
    · exact Option.some.inj (hsaid.symm.trans hempty)
    · intro field more hfield
      refine ⟨reply, List.mem_singleton_self _, ?_⟩
      cases reply with
      | response status body =>
        rw [ofReply, ofResponse] at hfield
        split at hfield
        · cases hfield
        · split at hfield
          · cases hfield
          · split at hfield
            · next hinvalid =>
              obtain ⟨fieldErrors, hbody, hmem⟩ := bodyHas_of_mem_bodyFieldErrors hfield
              subst hinvalid
              exact ⟨body, fieldErrors, more, rfl, hbody, hmem⟩
            · cases hfield
      | failure failure =>
        simp only [ofReply, ofFailure] at hfield
        split at hfield <;> cases hfield

end Outcome

namespace SessionM

/-- Whatever the session is, the work comes to an outcome that is worded by the replies. -/
def Worded (replies : List Http.Reply) (work : SessionM (Outcome α)) : Prop :=
  ∀ session, (work session).value.WordedBy replies

variable {replies : List Http.Reply}

theorem worded_success (value : α) :
    (pure (.success value) : SessionM (Outcome α)).Worded replies :=
  fun _ => Outcome.wordedBy_success value

theorem Worded.bind {work : SessionM (Outcome β)} {next : Outcome β → SessionM (Outcome α)}
    (h : work.Worded replies)
    (hnext : ∀ outcome, outcome.WordedBy replies → (next outcome).Worded replies) :
    (work >>= next).Worded replies := by
  intro session
  rw [bind_apply]
  exact hnext _ (h session) _

end SessionM

namespace Operation

open SessionM

variable {replies : List Http.Reply}

/-- A failure is passed on as it is. -/
theorem worded_onSuccess {next : β → SessionM (Outcome α)} {outcome : Outcome β}
    (h : outcome.WordedBy replies) (hnext : ∀ value, (next value).Worded replies) :
    (onSuccess next outcome).Worded replies := by
  intro session
  cases outcome with
  | success value => exact hnext value session
  | _ => exact ⟨h.said, h.field⟩

theorem worded_decodeRecord [Record.Readable α] (what : String) (value : Json) :
    (decodeRecord what value : SessionM (Outcome α)).Worded replies := by
  unfold decodeRecord
  split
  · exact worded_success _
  · exact fun _ => Outcome.wordedBy_serverError (by simp)

theorem worded_remember (email : String) (signIn : SignIn) :
    (remember email signIn).Worded replies := by
  intro session
  rw [(remember_eq email session signIn).2]
  split
  · exact Outcome.wordedBy_success _
  · exact Outcome.wordedBy_serverError (by simp)

theorem worded_rememberSubscription {outcome : Outcome Subscription}
    (h : outcome.WordedBy replies) : (rememberSubscription outcome).Worded replies := by
  intro session
  cases outcome with
  | success subscription =>
    simp only [rememberSubscription]
    split <;> exact Outcome.wordedBy_success _
  | _ => exact h

theorem worded_fetchRecord (α : Type) [Record.Readable α] (endpoint : Endpoint) (what : String)
    {outcome : Outcome Payload} (h : outcome.WordedBy replies) :
    ((fetchRecord α endpoint what).complete outcome).Worded replies :=
  worded_onSuccess h fun _ => worded_decodeRecord what _

theorem worded_fetchList [Record.Readable α] (endpoint : Endpoint) (what : String)
    {outcome : Outcome Payload} (h : outcome.WordedBy replies) :
    ((fetchList α endpoint what).complete outcome).Worded replies :=
  worded_onSuccess h fun _ _ => Outcome.wordedBy_success _

end Operation

namespace Query

open Operation

variable {replies : List Http.Reply}

theorem worded_complete (query : Query) {outcome : Outcome Payload}
    (h : outcome.WordedBy replies) : (query.operation.complete outcome).Worded replies := by
  cases query with
  | login | register =>
    exact worded_onSuccess h fun _ => (worded_decodeRecord _ _).bind fun _ hrecord =>
      worded_onSuccess hrecord (worded_remember _)
  | getSubscribe =>
    exact worded_onSuccess h fun _ => (worded_decodeRecord _ _).bind fun _ =>
      worded_rememberSubscription
  | forgotPassword | sendEmailVerify | createOrder =>
    intro session
    cases outcome with
    | success payload => exact Outcome.wordedBy_success _
    | _ => exact ⟨h.said, h.field⟩
  | checkoutOrder => exact worded_onSuccess h fun _ => worded_decodeRecord (α := CheckoutResult) _ _
  | getConfig => exact worded_fetchRecord SystemConfig _ _ h
  | getUserInfo => exact worded_fetchRecord UserInfo _ _ h
  | getDashboardStats => exact worded_fetchRecord DashboardStats _ _ h
  | getPlans | getPublicPlans | getServers | getOrders | getPaymentMethods =>
    exact worded_fetchList _ _ h

/-- What a query comes to says the empty text only where its reply does. -/
theorem wordedBy_finish (query : Query) (client : Client) (reply : Http.Reply)
    (session : Session) :
    (query.operation.finish client reply session).value.WordedBy [reply] :=
  query.worded_complete (Outcome.wordedBy_ofReply reply) session

end Query

end PanelClient
