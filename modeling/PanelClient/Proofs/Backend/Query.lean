import PanelClient.Proofs.Session.Work

/-!
# Questions to the backend

The fifteen operations as data (`Query`), each with its arguments, the type of its answer and the
operation itself. Thirteen of them leave the session alone (`Query.keeps_finish`); what the other
two do is said by the record that the reply holds (`Record.ofReply?`).
-/

namespace PanelClient

/-- No two endpoints have the same path. -/
theorem Endpoint.path_inj {a b : Endpoint} : a.path = b.path ↔ a = b := by
  constructor
  · intro h
    cases a <;> cases b <;> first | rfl | exact absurd h (by decide)
  · rintro rfl
    rfl

/-- The record that a reply holds, if it is a success and its payload can be decoded. -/
def Record.ofReply? (α : Type) [Record.Readable α] (reply : Http.Reply) : Option α :=
  (Outcome.ofReply reply).value?.bind fun payload =>
    (Record.decode payload.data : Except Record.Reason α).toOption

/-- An operation of the backend with its arguments. -/
inductive Query where
  | login (email password : String)
  | register (email password : String) (inviteCode emailCode : Option String)
  | forgotPassword (email password emailCode : String)
  | sendEmailVerify (email : String)
  | getConfig
  | getUserInfo
  | getSubscribe
  | getDashboardStats
  | getPlans
  | getPublicPlans
  | getServers
  | getOrders
  | getPaymentMethods
  | createOrder (planId : Int) (period : String) (couponCode : Option String)
  | checkoutOrder (tradeNo : String) (method : Int)

namespace Query

def Value : Query → Type
  | login .. | register .. => SignIn
  | forgotPassword .. | sendEmailVerify .. => Unit
  | getConfig => SystemConfig
  | getUserInfo => UserInfo
  | getSubscribe => Subscription
  | getDashboardStats => DashboardStats
  | getPlans | getPublicPlans => List Plan
  | getServers => List ServerNode
  | getOrders => List Order
  | getPaymentMethods => List PaymentMethod
  | createOrder .. => String
  | checkoutOrder .. => CheckoutResult

def operation : (query : Query) → Operation query.Value
  | login email password => Operation.login email password
  | register email password inviteCode emailCode =>
    Operation.register email password inviteCode emailCode
  | forgotPassword email password emailCode => Operation.forgotPassword email password emailCode
  | sendEmailVerify email => Operation.sendEmailVerify email
  | getConfig => Operation.getConfig
  | getUserInfo => Operation.getUserInfo
  | getSubscribe => Operation.getSubscribe
  | getDashboardStats => Operation.getDashboardStats
  | getPlans => Operation.getPlans
  | getPublicPlans => Operation.getPublicPlans
  | getServers => Operation.getServers
  | getOrders => Operation.getOrders
  | getPaymentMethods => Operation.getPaymentMethods
  | createOrder planId period couponCode => Operation.createOrder planId period couponCode
  | checkoutOrder tradeNo method => Operation.checkoutOrder tradeNo method

end Query

namespace Operation

open SessionM Session

variable {α β : Type}

theorem finish_value (operation : Operation α) (client : Client) (reply : Http.Reply)
    (session : Session) :
    (operation.finish client reply session).value =
      (operation.complete (Outcome.ofReply reply) session).value := rfl

theorem finish_session (operation : Operation α) (client : Client) (reply : Http.Reply)
    (session : Session) :
    (operation.finish client reply session).session =
      (operation.complete (Outcome.ofReply reply) session).session := rfl

/-- The reply is logged first, and then its outcome is worked on. -/
theorem finish_eq (operation : Operation α) (client : Client) (reply : Http.Reply)
    (session : Session) :
    operation.finish client reply session =
      let worked := operation.complete (Outcome.ofReply reply) session
      { worked with
        events := .requestFinished (Client.method operation.call) (client.url operation.call)
          (Outcome.ofReply reply).label :: worked.events } := rfl

/-! ## Work that leaves the session alone -/

theorem keeps_onSuccess {next : β → SessionM (Outcome α)} (h : ∀ value, (next value).Keeps)
    (outcome : Outcome β) : (onSuccess next outcome).Keeps := by
  cases outcome with
  | success value => exact h value
  | _ => exact keeps_pure _

theorem keeps_decodeRecord [Record.Readable α] (what : String) (value : Json) :
    (decodeRecord what value : SessionM (Outcome α)).Keeps := by
  unfold decodeRecord
  split
  · exact keeps_pure _
  · exact (keeps_log _).bind fun _ => keeps_pure _

theorem keeps_decodeList [Record.Readable α] (what : String) (value : Json) :
    (decodeList what value : SessionM (List α)).Keeps := by
  unfold decodeList
  split
  · exact keeps_pure _
  · exact (keeps_log _).bind fun _ => keeps_pure _

theorem keeps_fetchRecord (α : Type) [Record.Readable α] (endpoint : Endpoint) (what : String)
    (outcome : Outcome Payload) : ((fetchRecord α endpoint what).complete outcome).Keeps :=
  keeps_onSuccess (fun _ => keeps_decodeRecord _ _) outcome

theorem keeps_fetchList [Record.Readable α] (endpoint : Endpoint) (what : String)
    (outcome : Outcome Payload) : ((fetchList α endpoint what).complete outcome).Keeps :=
  keeps_onSuccess (fun _ => (keeps_decodeList _ _).bind fun _ => keeps_pure _) outcome

/-! ## Work on a decoded record -/

section Decoded

variable [Record.Readable α] {reply : Http.Reply} {record : α} (what : String) (session : Session)
  (next : Outcome α → SessionM (Outcome β))

/-- A record that can be decoded is what the work goes on with. -/
theorem onSuccess_decodeRecord_of_some (h : Record.ofReply? α reply = some record) :
    (onSuccess (fun payload => decodeRecord what payload.data >>= next)
        (Outcome.ofReply reply) session).value = (next (.success record) session).value ∧
      (onSuccess (fun payload => decodeRecord what payload.data >>= next)
        (Outcome.ofReply reply) session).session = (next (.success record) session).session := by
  cases houtcome : Outcome.ofReply reply with
  | success payload =>
    simp only [Record.ofReply?, houtcome, Outcome.value?, Option.bind_some] at h
    simp only [onSuccess, decodeRecord, bind_apply]
    cases hdecode : (Record.decode payload.data : Except Record.Reason α) with
    | ok found =>
      obtain rfl : found = record := by simpa [hdecode, Except.toOption] using h
      exact ⟨rfl, rfl⟩
    | error reason => simp [hdecode, Except.toOption] at h
  | _ => simp [Record.ofReply?, houtcome, Outcome.value?] at h

/-- Without a record the work is a failure, if what follows passes failures on. -/
theorem onSuccess_decodeRecord_of_none (h : Record.ofReply? α reply = none)
    (hnext : ∀ message, next (.serverError message) = pure (.serverError message)) :
    (onSuccess (fun payload => decodeRecord what payload.data >>= next)
        (Outcome.ofReply reply) session).value.isSuccess = false ∧
      (onSuccess (fun payload => decodeRecord what payload.data >>= next)
        (Outcome.ofReply reply) session).session = session := by
  cases houtcome : Outcome.ofReply reply with
  | success payload =>
    simp only [Record.ofReply?, houtcome, Outcome.value?, Option.bind_some] at h
    simp only [onSuccess, decodeRecord, bind_apply]
    cases hdecode : (Record.decode payload.data : Except Record.Reason α) with
    | ok found => simp [hdecode, Except.toOption] at h
    | error reason =>
      simp only [bind_apply, pure_apply, hnext, log_session]
      exact ⟨rfl, trivial⟩
  | _ => exact ⟨rfl, rfl⟩

end Decoded

/-! ## Signing in -/

section SignIn

variable (endpoint : Endpoint) (what email : String) (members : List (String × Json))
  (client : Client) (session : Session) (reply : Http.Reply)

/-- What a record of a sign-in puts into the store: nothing without a credential. -/
def granted (email : String) : Option SignIn → List (String × String)
  | some record =>
    if Text.isBlank record.credential then []
    else credentials record.credential (record.token.getD "") email
  | none => []

theorem nodup_granted (record? : Option SignIn) : ((granted email record?).map Prod.fst).Nodup := by
  unfold granted
  split
  · split
    · exact List.nodup_nil
    · exact nodup_credentials ..
  · exact List.nodup_nil

/-- What is remembered of a record, and whether all of it could be written. -/
theorem remember_eq (record : SignIn) :
    (remember email record session).session =
        ⟨(session.store.setAll (granted email (some record))).2⟩ ∧
      (remember email record session).value =
        match (session.store.setAll (granted email (some record))).1 with
        | .ok () => .success record
        | .error error => .serverError ("Failed to save session: " ++ error.message) := by
  cases hblank : Text.isBlank record.credential with
  | true =>
    simp only [remember, granted, hblank, if_true]
    exact ⟨rfl, rfl⟩
  | false =>
    obtain ⟨hvalue, hsession⟩ :=
      storeCredentials_eq_setAll session record.credential (record.token.getD "") email
    simp only [remember, granted, hblank, Bool.false_eq_true, if_false, bind_apply]
    rw [hvalue, hsession]
    rcases (session.store.setAll _).1 with _ | ⟨⟩ <;> exact ⟨rfl, rfl⟩

/-- A sign-in changes the session by what the record of its reply puts into the store. -/
theorem signIn_session :
    ((signIn endpoint what email members).finish client reply session).session =
      ⟨(session.store.setAll (granted email (Record.ofReply? SignIn reply))).2⟩ := by
  cases hrecord : Record.ofReply? SignIn reply with
  | none =>
    exact (onSuccess_decodeRecord_of_none what session (onSuccess (remember email)) hrecord
      fun _ => rfl).2
  | some record =>
    exact (onSuccess_decodeRecord_of_some what session (onSuccess (remember email)) hrecord).2.trans
      (remember_eq email session record).1

/-- A sign-in succeeds if there is a record in its reply and all of it could be written. -/
theorem signIn_value? :
    ((signIn endpoint what email members).finish client reply session).value.value? =
      match (session.store.setAll (granted email (Record.ofReply? SignIn reply))).1 with
      | .ok () => Record.ofReply? SignIn reply
      | .error _ => none := by
  cases hrecord : Record.ofReply? SignIn reply with
  | none =>
    have failed := (onSuccess_decodeRecord_of_none what session (onSuccess (remember email)) hrecord
      fun _ => rfl).1
    exact Option.not_isSome_iff_eq_none.1 (Bool.eq_false_iff.1 failed)
  | some record =>
    have value := (onSuccess_decodeRecord_of_some what session (onSuccess (remember email))
      hrecord).1.trans (remember_eq email session record).2
    rw [finish_value]
    refine (congrArg Outcome.value? value).trans ?_
    rcases (session.store.setAll _).1 with _ | ⟨⟩ <;> rfl

end SignIn

/-! ## The subscription -/

section Subscription

variable (client : Client) (session : Session) {reply : Http.Reply} {subscription : Subscription}

/-- Remembers the address of a subscription unless it is blank. -/
def rememberSubscription (outcome : Outcome Subscription) : SessionM (Outcome Subscription) := do
  match outcome with
  | .success subscription => do
    if !Text.isBlank subscription.subscribeUrl then
      Session.setSubscribeUrl subscription.subscribeUrl
    return .success subscription
  | failure => return failure

/-- A subscription that can be decoded is a success, and its address is remembered unless it is
blank. -/
theorem getSubscribe_of_some (h : Record.ofReply? Subscription reply = some subscription) :
    (getSubscribe.finish client reply session).value = .success subscription ∧
      (getSubscribe.finish client reply session).session =
        if Text.isBlank subscription.subscribeUrl then session
        else ⟨(session.store.set subscribeUrlKey subscription.subscribeUrl).2⟩ := by
  obtain ⟨hvalue, hsession⟩ :=
    onSuccess_decodeRecord_of_some "subscription" session rememberSubscription h
  refine ⟨hvalue.trans ?_, hsession.trans ?_⟩
  all_goals
    simp only [rememberSubscription]
    cases hblank : Text.isBlank subscription.subscribeUrl with
    | true => rfl
    | false => simp [setSubscribeUrl, put_session]

/-- Without a subscription in the reply nothing is remembered. -/
theorem getSubscribe_of_none (h : Record.ofReply? Subscription reply = none) :
    (getSubscribe.finish client reply session).value.isSuccess = false ∧
      (getSubscribe.finish client reply session).session = session :=
  onSuccess_decodeRecord_of_none "subscription" session rememberSubscription h fun _ => rfl

end Subscription

end Operation

namespace Query

open Operation SessionM

/-- Where a query is asked. -/
def endpoint : Query → Endpoint
  | login .. => .login
  | register .. => .register
  | forgotPassword .. => .forgotPassword
  | sendEmailVerify _ => .sendEmailVerify
  | getConfig => .systemConfig
  | getUserInfo => .userInfo
  | getSubscribe => .subscription
  | getDashboardStats => .dashboardStats
  | getPlans => .plans
  | getPublicPlans => .publicPlans
  | getServers => .servers
  | getOrders => .orders
  | getPaymentMethods => .paymentMethods
  | createOrder .. => .createOrder
  | checkoutOrder .. => .checkoutOrder

theorem path_eq (query : Query) : query.operation.call.path = query.endpoint.path := by
  cases query <;> rfl

/-- The address under which a query signs in. -/
def signsInAs? : Query → Option String
  | login email _ => some email
  | register email _ _ _ => some email
  | _ => none

/-- Nothing else is asked where one signs in. -/
theorem endpoint_of_none {query : Query} (h : query.signsInAs? = none) :
    query.endpoint ≠ .login ∧ query.endpoint ≠ .register := by
  cases query with
  | login | register => cases h
  | _ => exact ⟨nofun, nofun⟩

theorem signIn_session {query : Query} {email : String} (h : query.signsInAs? = some email)
    (client : Client) (session : Session) (reply : Http.Reply) :
    (query.operation.finish client reply session).session =
      ⟨(session.store.setAll (granted email (Record.ofReply? SignIn reply))).2⟩ := by
  cases query with
  | login => cases h; exact Operation.signIn_session ..
  | register => cases h; exact Operation.signIn_session ..
  | _ => cases h

/-- The query may change the session. -/
def isRemembered : Query → Bool
  | login .. | register .. | getSubscribe => true
  | _ => false

/-- Only sign-ins and the subscription change the session. -/
theorem keeps_finish (query : Query) (h : query.isRemembered = false) (client : Client)
    (reply : Http.Reply) : (query.operation.finish client reply).Keeps := by
  intro session
  rw [finish_session]
  cases query with
  | login email password => simp [isRemembered] at h
  | register email password inviteCode emailCode => simp [isRemembered] at h
  | getSubscribe => simp [isRemembered] at h
  | forgotPassword email password emailCode => rfl
  | sendEmailVerify email => rfl
  | createOrder planId period couponCode => rfl
  | checkoutOrder tradeNo method =>
    exact keeps_onSuccess (fun _ => keeps_decodeRecord _ _) _ session
  | getConfig => exact keeps_fetchRecord SystemConfig .systemConfig _ _ session
  | getUserInfo => exact keeps_fetchRecord UserInfo .userInfo _ _ session
  | getDashboardStats => exact keeps_fetchRecord DashboardStats .dashboardStats _ _ session
  | getPlans => exact keeps_fetchList .plans _ _ session
  | getPublicPlans => exact keeps_fetchList .publicPlans _ _ session
  | getServers => exact keeps_fetchList .servers _ _ session
  | getOrders => exact keeps_fetchList .orders _ _ session
  | getPaymentMethods => exact keeps_fetchList .paymentMethods _ _ session

end Query

end PanelClient
