import PanelClient.Proofs.Session.History

/-!
# Alike runs on two sessions

Two runs are compared by what counts of their sessions, requests and replies (`Comparison`). Work is
steady if it cannot tell sessions apart that are alike: its value is the same, it logs the same, and
it leaves sessions that are alike again (`SessionM.Steady`). If everything that a program can do with
a session is alike (`Comparison.Lawful`), whole runs are, and they write the same log
(`alike_history`).
-/

namespace PanelClient

variable {α β : Type}

/-! ## Alike work -/

/-- Successes with related values, or the same failure. -/
inductive Outcome.Alike (post : α → α → Prop) : Outcome α → Outcome α → Prop
  | success {value other : α} (h : post value other) :
      Alike post (.success value) (.success other)
  | failure {outcome : Outcome α} (h : outcome.isSuccess = false) : Alike post outcome outcome

theorem Outcome.alike_refl {post : α → α → Prop} (hpost : ∀ value, post value value)
    (outcome : Outcome α) : outcome.Alike post outcome := by
  cases outcome with
  | success value => exact .success (hpost value)
  | _ => exact .failure rfl

theorem Outcome.Alike.label_eq {post : α → α → Prop} {outcome other : Outcome α}
    (h : outcome.Alike post other) : outcome.label = other.label := by
  cases h <;> rfl

/-- Two pieces of work came to related values and alike sessions, and logged the same. -/
structure Worked.Alike (alike : Session → Session → Prop) (post : α → α → Prop)
    (worked other : Worked α) : Prop where
  value : post worked.value other.value
  session : alike worked.session other.session
  events : worked.events = other.events

namespace SessionM

section

variable {alike : Session → Session → Prop} {post : α → α → Prop} {post' : β → β → Prop}

/-- On alike sessions the two pieces of work come to the same, up to the relation of values. -/
def Alike (alike : Session → Session → Prop) (post : α → α → Prop) (work other : SessionM α) :
    Prop :=
  ∀ session twin, alike session twin → (work session).Alike alike post (other twin)

/-- The work cannot tell alike sessions apart. -/
def Steady (alike : Session → Session → Prop) (work : SessionM α) : Prop :=
  work.Alike alike Eq work

theorem alike_pure {value other : α} (h : post value other) :
    (pure value : SessionM α).Alike alike post (pure other) :=
  fun _ _ hsession => ⟨h, hsession, rfl⟩

theorem Alike.bind {work other : SessionM α} {next after : α → SessionM β}
    (h : work.Alike alike post other)
    (hnext : ∀ value twin, post value twin → (next value).Alike alike post' (after twin)) :
    (work >>= next).Alike alike post' (other >>= after) := by
  intro session twin hsession
  obtain ⟨hvalue, hworked, hevents⟩ := h session twin hsession
  obtain ⟨hlast, hlater, hmore⟩ := hnext _ _ hvalue _ _ hworked
  refine ⟨hlast, hlater, ?_⟩
  simp only [bind_apply, hevents, hmore]

theorem steady_pure (value : α) : (pure value : SessionM α).Steady alike := alike_pure rfl

theorem steady_log (event : Log.Event) : (log event).Steady alike :=
  fun _ _ hsession => ⟨rfl, hsession, rfl⟩

/-- After steady work both sides go on with the same value. -/
theorem Steady.bind {work : SessionM α} {next after : α → SessionM β} (h : work.Steady alike)
    (hnext : ∀ value, (next value).Alike alike post' (after value)) :
    (work >>= next).Alike alike post' (work >>= after) :=
  Alike.bind h fun value _ heq => heq ▸ hnext value

end

end SessionM

/-! ## Alike operations -/

namespace Operation

open SessionM

variable {alike : Session → Session → Prop} {post : α → α → Prop} {post' : β → β → Prop}

theorem alike_onSuccess {next after : α → SessionM (Outcome β)} {outcome other : Outcome α}
    (houtcome : outcome.Alike post other)
    (hnext : ∀ value twin, post value twin →
      (next value).Alike alike (Outcome.Alike post') (after twin)) :
    (onSuccess next outcome).Alike alike (Outcome.Alike post') (onSuccess after other) := by
  cases houtcome with
  | success h => exact hnext _ _ h
  | failure h =>
    cases outcome with
    | success value => cases h
    | _ => exact alike_pure (.failure rfl)

theorem steady_onSuccess {next : β → SessionM (Outcome α)} (h : ∀ value, (next value).Steady alike)
    (outcome : Outcome β) : (onSuccess next outcome).Steady alike := by
  cases outcome with
  | success value => exact h value
  | _ => exact steady_pure _

theorem steady_decodeRecord [Record.Readable α] (what : String) (value : Json) :
    (decodeRecord what value : SessionM (Outcome α)).Steady alike := by
  unfold decodeRecord
  split
  · exact steady_pure _
  · exact (steady_log _).bind fun _ => steady_pure _

theorem steady_decodeList [Record.Readable α] (what : String) (value : Json) :
    (decodeList what value : SessionM (List α)).Steady alike := by
  unfold decodeList
  split
  · exact steady_pure _
  · exact (steady_log _).bind fun _ => steady_pure _

theorem steady_fetchRecord (α : Type) [Record.Readable α] (endpoint : Endpoint) (what : String)
    (outcome : Outcome Payload) :
    ((fetchRecord α endpoint what).complete outcome).Steady alike :=
  steady_onSuccess (fun _ => steady_decodeRecord _ _) outcome

theorem steady_fetchList [Record.Readable α] (endpoint : Endpoint) (what : String)
    (outcome : Outcome Payload) :
    ((fetchList α endpoint what).complete outcome).Steady alike :=
  steady_onSuccess (fun _ => (steady_decodeList _ _).bind fun _ => steady_pure _) outcome

/-- The subscription is fetched steadily if its address can be put into the store so. -/
theorem steady_getSubscribe (hput : ∀ url, (Session.setSubscribeUrl url).Steady alike)
    (outcome : Outcome Payload) : (getSubscribe.complete outcome).Steady alike := by
  refine steady_onSuccess (fun payload => (steady_decodeRecord _ _).bind fun decoded => ?_) outcome
  cases decoded with
  | success subscription =>
    by_cases hblank : Text.isBlank subscription.subscribeUrl = true
    · simp only [hblank, Bool.not_true, Bool.false_eq_true, if_false]
      exact steady_pure _
    · rw [Bool.not_eq_true] at hblank
      simp only [hblank, Bool.not_false, if_true]
      exact (hput _).bind fun _ => steady_pure _
  | _ => exact steady_pure _

/-- What becomes of two replies is alike if their outcomes have the same label and are worked on
alike. -/
theorem alike_finish {related : Outcome α → Outcome α → Prop} {operation : Operation α}
    {client : Client} {reply other : Http.Reply}
    (hlabel : (Outcome.ofReply reply).label = (Outcome.ofReply other).label)
    (h : (operation.complete (Outcome.ofReply reply)).Alike alike related
      (operation.complete (Outcome.ofReply other))) :
    (operation.finish client reply).Alike alike related (operation.finish client other) := by
  intro session twin hsession
  obtain ⟨hvalue, hworked, hevents⟩ := h session twin hsession
  rw [finish_eq, finish_eq]
  exact ⟨hvalue, hworked, by simp only [hlabel, hevents]⟩

end Operation

/-- Of what a sign-in comes to, the records of two successes may differ as `signIn` says. All other
outcomes are alike if they are the same. -/
def Query.AlikeOutcome (signIn : SignIn → SignIn → Prop) :
    (query : Query) → Outcome query.Value → Outcome query.Value → Prop
  | .login .. | .register .. => fun outcome other => Outcome.Alike signIn outcome other
  | _ => Eq

theorem Query.alikeOutcome_of_none {query : Query} (h : query.signsInAs? = none)
    (signIn : SignIn → SignIn → Prop) : query.AlikeOutcome signIn = Eq := by
  cases query <;> first | rfl | cases h

/-- Every operation but a sign-in is steady if the subscription's address can be stored so. -/
theorem Query.steady_finish {alike : Session → Session → Prop}
    (hput : ∀ url, (Session.setSubscribeUrl url).Steady alike) {query : Query}
    (h : query.signsInAs? = none) (client : Client) (reply : Http.Reply) :
    (query.operation.finish client reply).Steady alike := by
  refine Operation.alike_finish rfl ?_
  cases query with
  | login | register => cases h
  | getSubscribe => exact Operation.steady_getSubscribe hput _
  | checkoutOrder =>
    exact Operation.steady_onSuccess
      (fun _ => Operation.steady_decodeRecord (α := CheckoutResult) _ _) _
  | getConfig => exact Operation.steady_fetchRecord SystemConfig _ _ _
  | getUserInfo => exact Operation.steady_fetchRecord UserInfo _ _ _
  | getDashboardStats => exact Operation.steady_fetchRecord DashboardStats _ _ _
  | getPlans | getPublicPlans | getServers | getOrders | getPaymentMethods =>
    exact Operation.steady_fetchList _ _ _
  | _ => exact SessionM.steady_pure _

/-! ## Comparisons -/

/-- What counts of two runs when they are compared. -/
structure Comparison where
  session : Session → Session → Prop
  /-- What is left of a request when what does not count is taken away. -/
  request : Http.Request → Http.Request
  /-- Two replies to a call with the path that are taken for the same. -/
  reply : String → Http.Reply → Http.Reply → Prop
  /-- Two records of a sign-in that are taken for the same. -/
  signIn : SignIn → SignIn → Prop

namespace Comparison

/-- Nothing that a program does with a session brings out what does not count. -/
structure Lawful (like : Comparison) : Prop where
  reply_refl : ∀ path reply, like.reply path reply reply
  request : ∀ (client : Client) (call : Call) session twin, like.session session twin →
    like.request (client.request session call) = like.request (client.request twin call)
  language : ∀ session twin, like.session session twin → session.language = twin.language
  userEmail : ∀ session twin, like.session session twin → session.userEmail = twin.userEmail
  finish : ∀ (query : Query) (client : Client) reply other,
    like.reply query.operation.call.path reply other →
      (query.operation.finish client reply).Alike like.session (query.AlikeOutcome like.signIn)
        (query.operation.finish client other)
  setLanguage : ∀ code, (Session.setLanguage code).Steady like.session
  logout : Operation.logout.Steady like.session

end Comparison

/-! ## Alike histories -/

/-- The same is done, and what is replied is taken for the same. -/
inductive Action.Alike (like : Comparison) : Action → Action → Prop
  | ask (query : Query) {reply other : Http.Reply}
      (h : like.reply query.operation.call.path reply other) :
      Alike like (.ask query reply) (.ask query other)
  | logout : Alike like .logout .logout
  | setLanguage (code : String) : Alike like (.setLanguage code) (.setLanguage code)

/-- The same happened, up to what an outcome brought. -/
inductive Happening.Alike (like : Comparison) : Happening → Happening → Prop
  | answered (query : Query) {outcome other : Outcome query.Value}
      (h : query.AlikeOutcome like.signIn outcome other) :
      Alike like (.answered query outcome) (.answered query other)
  | loggedOut : Alike like .loggedOut .loggedOut
  | languageSet (code : String) : Alike like (.languageSet code) (.languageSet code)

structure Turn.Alike (like : Comparison) (turn other : Turn) : Prop where
  before : like.session turn.before other.before
  sent : turn.sent.map like.request = other.sent.map like.request
  happening : turn.happening.Alike like other.happening

/-- What is logged with an action. -/
def Action.events (client : Client) (session : Session) : Action → List Log.Event
  | ask query reply => (query.operation.finish client reply session).events
  | logout => (Operation.logout session).events
  | setLanguage code => (Session.setLanguage code session).events

/-- What is logged in a run, in order. -/
def logged (client : Client) (session : Session) : List Action → List Log.Event
  | [] => []
  | action :: rest =>
    action.events client session ++ logged client (action.run client session).2 rest

section

variable {like : Comparison} (hlike : like.Lawful) (client : Client)

include hlike

theorem Action.Alike.run {action other : Action} (h : action.Alike like other)
    {session twin : Session} (hsession : like.session session twin) :
    (action.run client session).1.Alike like (other.run client twin).1 ∧
      like.session (action.run client session).2 (other.run client twin).2 ∧
      action.events client session = other.events client twin := by
  cases h with
  | ask query hreply =>
    obtain ⟨hvalue, hlater, hevents⟩ := hlike.finish query client _ _ hreply session twin hsession
    have hrequest := hlike.request client query.operation.call session twin hsession
    exact ⟨⟨hsession, congrArg (List.cons · []) hrequest, .answered query hvalue⟩, hlater, hevents⟩
  | logout =>
    obtain ⟨-, hlater, hevents⟩ := hlike.logout session twin hsession
    exact ⟨⟨hsession, rfl, .loggedOut⟩, hlater, hevents⟩
  | setLanguage code =>
    obtain ⟨-, hlater, hevents⟩ := hlike.setLanguage code session twin hsession
    exact ⟨⟨hsession, rfl, .languageSet code⟩, hlater, hevents⟩

/-- Alike actions on alike sessions come to the same turn by turn, and write the same log. -/
theorem alike_history {actions others : List Action}
    (h : List.Forall₂ (Action.Alike like) actions others) {session twin : Session}
    (hsession : like.session session twin) :
    List.Forall₂ (Turn.Alike like) (history client session actions).1
        (history client twin others).1 ∧
      logged client session actions = logged client twin others ∧
      like.session (history client session actions).2 (history client twin others).2 := by
  induction h generalizing session twin with
  | nil => exact ⟨.nil, rfl, hsession⟩
  | cons haction _ ih =>
    obtain ⟨hturn, hnext, hevents⟩ := haction.run hlike client hsession
    obtain ⟨hturns, hlogged, hlast⟩ := ih hnext
    exact ⟨.cons hturn hturns, by simp only [logged, hevents, hlogged], hlast⟩

end

end PanelClient
