import Mathlib.Data.List.Induction
import PanelClient.Proofs.Backend.Query

/-!
# The session as a record of its history

A run is a list of actions: questions to the backend with the replies they get, and what a program
does to the session without asking anyone. `history` performs them and notes for each of them the
session before it, the requests it sent and what it came to. `session_recalls_history` says that the
session afterwards holds nothing but what the last sign-in, the last subscription and the last
choice of a language left there, and that every request carried the credential of its moment.
-/

namespace PanelClient

open Session SessionM

/-! ## Runs -/

/-- Something that a program does with the session. -/
inductive Action where
  | ask (query : Query) (reply : Http.Reply)
  | logout
  | setLanguage (code : String)

inductive Happening where
  | answered (query : Query) (outcome : Outcome query.Value)
  | loggedOut
  | languageSet (code : String)

structure Turn where
  before : Session
  sent : List Http.Request
  happening : Happening

def Action.run (client : Client) (session : Session) : Action → Turn × Session
  | ask query reply =>
    let worked := query.operation.finish client reply session
    (⟨session, [client.request session query.operation.call], .answered query worked.value⟩,
      worked.session)
  | logout => (⟨session, [], .loggedOut⟩, (Operation.logout session).session)
  | setLanguage code =>
    (⟨session, [], .languageSet code⟩, (Session.setLanguage code session).session)

/-- Performs actions one after the other: what they came to, and the session afterwards. -/
def history (client : Client) (session : Session) : List Action → List Turn × Session
  | [] => ([], session)
  | action :: rest =>
    let (turn, next) := action.run client session
    let (turns, last) := history client next rest
    (turn :: turns, last)

theorem history_concat (client : Client) (session : Session) (actions : List Action)
    (action : Action) :
    history client session (actions ++ [action]) =
      ((history client session actions).1 ++
          [(action.run client (history client session actions).2).1],
        (action.run client (history client session actions).2).2) := by
  induction actions generalizing session with
  | nil => rfl
  | cons first rest ih =>
    simp only [List.cons_append, history, ih]

/-! ## What is remembered of a run -/

namespace Happening

def isLogout : Happening → Bool
  | loggedOut => true
  | _ => false

/-- Someone signed in, by an address, and was given a credential. -/
def signIn? : Happening → Option (String × SignIn)
  | answered (.login email _) (.success granted)
  | answered (.register email _ _ _) (.success granted) =>
    if Text.isBlank (SignIn.credential granted) then none else some (email, granted)
  | _ => none

/-- A subscription came with an address. -/
def subscribeUrl? : Happening → Option String
  | answered .getSubscribe (.success subscription) =>
    if Text.isBlank (Subscription.subscribeUrl subscription) then none
    else some (Subscription.subscribeUrl subscription)
  | _ => none

def language? : Happening → Option String
  | languageSet code => some code
  | _ => none

/-- What someone who signed in has to show. -/
def credential? (happening : Happening) : Option String :=
  happening.signIn?.map fun (_, granted) => granted.credential

/-- The token of someone who signed in; blank if there was none. -/
def token? (happening : Happening) : Option String :=
  happening.signIn?.map fun (_, granted) => granted.token.getD ""

/-- The address of someone who signed in. -/
def userEmail? (happening : Happening) : Option String :=
  happening.signIn?.map Prod.fst

/-- The latest value since the last time the user signed out, if there is one. Otherwise it is
blank if the user ever signed out, and what it was at the beginning if not. -/
def remembered (value? : Happening → Option String) (initial : String)
    (happenings : List Happening) : String :=
  match (happenings.reverse.takeWhile fun happening => !happening.isLogout).findSome? value? with
  | some value => value
  | none => if happenings.any isLogout then "" else initial

/-- The latest value, or what it was at the beginning. -/
def latest (value? : Happening → Option String) (initial : String)
    (happenings : List Happening) : String :=
  (happenings.reverse.findSome? value?).getD initial

theorem remembered_concat (value? : Happening → Option String) (initial : String)
    (happenings : List Happening) (happening : Happening) :
    remembered value? initial (happenings ++ [happening]) =
      if happening.isLogout then ""
      else (value? happening).getD (remembered value? initial happenings) := by
  simp only [remembered, List.reverse_append, List.reverse_singleton, List.singleton_append,
    List.takeWhile_cons, List.any_append, List.any_cons, List.any_nil, Bool.or_false]
  cases hlogout : happening.isLogout with
  | true => simp
  | false =>
    simp only [Bool.not_false, if_true, List.findSome?_cons, Bool.or_false]
    cases value? happening <;> rfl

theorem latest_concat (value? : Happening → Option String) (initial : String)
    (happenings : List Happening) (happening : Happening) :
    latest value? initial (happenings ++ [happening]) =
      (value? happening).getD (latest value? initial happenings) := by
  simp only [latest, List.reverse_append, List.reverse_singleton, List.singleton_append,
    List.findSome?_cons]
  cases value? happening <;> rfl

/-- What a happening puts into the store. -/
def writes (happening : Happening) : List (String × String) :=
  match happening with
  | loggedOut => clearedKeys.map fun key => (key, "")
  | languageSet code => [(languageKey, code)]
  | answered .. =>
    match happening.signIn?, happening.subscribeUrl? with
    | some (email, granted), _ => credentials granted.credential (granted.token.getD "") email
    | none, some url => [(subscribeUrlKey, url)]
    | none, none => []

/-! ## What one action changes -/

theorem writes_login (email password : String) (outcome : Outcome SignIn) :
    (answered (.login email password) outcome).writes = Operation.granted email outcome.value? := by
  cases outcome with
  | success record =>
    simp only [writes, signIn?, subscribeUrl?, Operation.granted, Outcome.value?]
    cases Text.isBlank record.credential <;> rfl
  | _ => rfl

theorem writes_register (email password : String) (inviteCode emailCode : Option String)
    (outcome : Outcome SignIn) :
    (answered (.register email password inviteCode emailCode) outcome).writes =
      Operation.granted email outcome.value? := by
  cases outcome with
  | success record =>
    simp only [writes, signIn?, subscribeUrl?, Operation.granted, Outcome.value?]
    cases Text.isBlank record.credential <;> rfl
  | _ => rfl

/-- Only sign-ins and the subscription are remembered. -/
theorem writes_of_not_isRemembered {query : Query} (h : query.isRemembered = false)
    (outcome : Outcome query.Value) : (answered query outcome).writes = [] := by
  cases query <;> first | rfl | simp [Query.isRemembered] at h

end Happening

open Happening

section Step

variable {session : Session} (client : Client)

/-- What a happening of a sign-in writes is what the record of the reply puts into the store. -/
theorem writes_of_signsInAs? (h : session.store.IsReliable) {query : Query} {email : String}
    (hquery : query.signsInAs? = some email) (reply : Http.Reply) :
    (answered query (query.operation.finish client reply session).value).writes =
      Operation.granted email (Record.ofReply? SignIn reply) := by
  have hvalue (endpoint : Endpoint) (what : String) (members : List (String × Json)) :
      ((Operation.signIn endpoint what email members).finish client reply session).value.value? =
        Record.ofReply? SignIn reply := by
    obtain ⟨after, hall, -⟩ := h.setAll_eq (Operation.granted email (Record.ofReply? SignIn reply))
    rw [Operation.signIn_value?, hall]
  cases query with
  | login =>
    cases hquery
    exact (writes_login ..).trans (congrArg (Operation.granted email) (hvalue ..))
  | register =>
    cases hquery
    exact (writes_register ..).trans (congrArg (Operation.granted email) (hvalue ..))
  | _ => cases hquery

theorem getSubscribe_session (h : session.store.IsReliable) (reply : Http.Reply) :
    (Operation.getSubscribe.finish client reply session).session =
      ⟨(session.store.setAll (answered .getSubscribe
        (Operation.getSubscribe.finish client reply session).value).writes).2⟩ := by
  cases hrecord : Record.ofReply? Subscription reply with
  | none =>
    obtain ⟨hvalue, hsession⟩ := Operation.getSubscribe_of_none client session hrecord
    rw [hsession]
    cases hout : (Operation.getSubscribe.finish client reply session).value with
    | success subscription => rw [hout] at hvalue; cases hvalue
    | _ => rfl
  | some subscription =>
    obtain ⟨hvalue, hsession⟩ := Operation.getSubscribe_of_some client session hrecord
    rw [hvalue, hsession]
    simp only [writes, signIn?, subscribeUrl?]
    cases Text.isBlank subscription.subscribeUrl with
    | true => rfl
    | false =>
      obtain ⟨after, hset, -⟩ := h.set_eq subscribeUrlKey subscription.subscribeUrl
      simp only [Bool.false_eq_true, if_false, Store.setAll, hset]

/-- An action leaves in the store what its happening writes, and nothing else. -/
theorem Action.run_session (h : session.store.IsReliable) (action : Action) :
    (action.run client session).2 =
      ⟨(session.store.setAll (action.run client session).1.happening.writes).2⟩ := by
  cases action with
  | logout =>
    simp only [run, Operation.logout, clear_session, writes, clearedKeys, List.map_cons,
      List.map_nil, List.foldl_cons, List.foldl_nil]
    rw [h.setAll_snd]
    rfl
  | setLanguage code =>
    simp only [run, Session.setLanguage, put_session, writes]
    rw [h.setAll_snd]
    rfl
  | ask query reply =>
    simp only [run]
    cases hremembered : query.isRemembered with
    | false =>
      rw [writes_of_not_isRemembered hremembered]
      exact query.keeps_finish hremembered client reply session
    | true =>
      cases hemail : query.signsInAs? with
      | some email =>
        rw [writes_of_signsInAs? client h hemail reply]
        exact Query.signIn_session hemail client session reply
      | none =>
        cases query with
        | login => cases hemail
        | register => cases hemail
        | getSubscribe => exact getSubscribe_session client h reply
        | _ => cases hremembered

end Step

/-! ## What a run leaves -/

theorem Happening.nodup_writes (happening : Happening) :
    (happening.writes.map Prod.fst).Nodup := by
  cases happening with
  | loggedOut => simp [writes, clearedKeys, authDataKey, tokenKey, userEmailKey, subscribeUrlKey]
  | languageSet code => simp [writes]
  | answered query outcome =>
    simp only [writes]
    split
    · exact nodup_credentials ..
    · simp
    · simp

theorem Happening.subscribeUrl?_of_signIn? {happening : Happening} {signedIn : String × SignIn}
    (h : happening.signIn? = some signedIn) : happening.subscribeUrl? = none := by
  cases happening with
  | answered query outcome => cases query <;> first | rfl | cases h
  | _ => rfl

/-- What becomes of the five values when what a happening writes is written. -/
theorem Happening.lookup_writes (happening : Happening) (old : String) :
    (happening.writes.lookup authDataKey).getD old =
        (if happening.isLogout then "" else happening.credential?.getD old) ∧
      (happening.writes.lookup tokenKey).getD old =
        (if happening.isLogout then "" else happening.token?.getD old) ∧
      (happening.writes.lookup userEmailKey).getD old =
        (if happening.isLogout then "" else happening.userEmail?.getD old) ∧
      (happening.writes.lookup subscribeUrlKey).getD old =
        (if happening.isLogout then "" else happening.subscribeUrl?.getD old) ∧
      (happening.writes.lookup languageKey).getD old = happening.language?.getD old := by
  cases happening with
  | loggedOut => exact ⟨rfl, rfl, rfl, rfl, rfl⟩
  | languageSet code => exact ⟨rfl, rfl, rfl, rfl, rfl⟩
  | answered query outcome =>
    cases hsignIn : (answered query outcome).signIn? with
    | some signedIn =>
      have hurl := subscribeUrl?_of_signIn? hsignIn
      simp only [writes, credential?, token?, userEmail?, hsignIn, hurl]
      exact ⟨rfl, rfl, rfl, rfl, rfl⟩
    | none =>
      simp only [writes, credential?, token?, userEmail?, hsignIn]
      cases (answered query outcome).subscribeUrl? <;> exact ⟨rfl, rfl, rfl, rfl, rfl⟩

/-- The values of a session are what a history makes of those of another. -/
structure Session.Recalls (session initial : Session) (happenings : List Happening) : Prop where
  authData : session.authData.expose =
    remembered credential? initial.authData.expose happenings
  token : session.token.expose = remembered token? initial.token.expose happenings
  userEmail : session.userEmail = remembered userEmail? initial.userEmail happenings
  subscribeUrl : session.subscribeUrl = remembered subscribeUrl? initial.subscribeUrl happenings
  language : session.language = latest language? initial.language happenings

/-- Writing what a happening writes prolongs the history by it. -/
theorem Session.Recalls.concat {session initial : Session} {happenings : List Happening}
    (hstore : session.store.IsReliable) (h : session.Recalls initial happenings)
    (happening : Happening) :
    (Session.mk (session.store.setAll happening.writes).2).Recalls initial
      (happenings ++ [happening]) := by
  have values := session.value_setAll hstore happening.nodup_writes
  have written := happening.lookup_writes
  constructor
  · rw [remembered_concat, ← h.authData]
    exact (values authDataKey).trans (written _).1
  · rw [remembered_concat, ← h.token]
    exact (values tokenKey).trans (written _).2.1
  · rw [remembered_concat, ← h.userEmail]
    exact (values userEmailKey).trans (written _).2.2.1
  · rw [remembered_concat, ← h.subscribeUrl]
    exact (values subscribeUrlKey).trans (written _).2.2.2.1
  · rw [latest_concat, ← h.language]
    exact (values languageKey).trans (written _).2.2.2.2

/-- After every run the store is reliable and the session recalls what happened. -/
theorem history_recalls (client : Client) {session : Session} (h : session.store.IsReliable)
    (actions : List Action) :
    (history client session actions).2.store.IsReliable ∧
      (history client session actions).2.Recalls session
        ((history client session actions).1.map Turn.happening) := by
  induction actions using List.reverseRecOn with
  | nil => exact ⟨h, ⟨rfl, rfl, rfl, rfl, rfl⟩⟩
  | append_singleton before action ih =>
    obtain ⟨hstore, hrecalls⟩ := ih
    rw [history_concat, List.map_append]
    rw [Action.run_session client hstore action]
    obtain ⟨after, hall, kept⟩ :=
      hstore.setAll_eq (action.run client (history client session before).2).1.happening.writes
    refine ⟨?_, hrecalls.concat hstore _⟩
    rw [hall]
    exact kept

/-! ## What is sent along the way -/

/-- The credential is in the only header of its name, and there only if someone is signed in. -/
theorem authorization_of_request (client : Client) (session : Session) (call : Call) :
    ((client.request session call).headers.filter fun header =>
        Http.sameHeaderName header.1 "Authorization") =
      if session.isLoggedIn then [("Authorization", session.authData.expose)] else [] := by
  have fixed : [("Content-Type", "application/json"), ("Accept", "application/json")].filter
      (fun header => Http.sameHeaderName header.1 "Authorization") = [] := by decide
  have same : Http.sameHeaderName "Authorization" "Authorization" = true := by decide
  simp only [Client.request, List.filter_append, fixed, List.nil_append, Client.authorization,
    Text.trim_eq_empty_iff, isLoggedIn, Secret.isBlank]
  by_cases hblank : Text.isBlank session.authData.expose <;> simp [hblank, same]

/-- Every request of a run carries the credential that the session had when it was sent. -/
theorem authorization_of_sent (client : Client) (session : Session) (actions : List Action) :
    ∀ turn ∈ (history client session actions).1, ∀ request ∈ turn.sent,
      (request.headers.filter fun header => Http.sameHeaderName header.1 "Authorization") =
        if turn.before.isLoggedIn then [("Authorization", turn.before.authData.expose)]
        else [] := by
  induction actions generalizing session with
  | nil => simp [history]
  | cons action rest ih =>
    intro turn hturn request hrequest
    simp only [history, List.mem_cons] at hturn
    rcases hturn with rfl | hturn
    · cases action with
      | ask query reply =>
        obtain rfl := List.mem_singleton.1 hrequest
        exact authorization_of_request ..
      | _ => cases hrequest
    · exact ih _ turn hturn request hrequest

/-! ## The session of a run -/

/-- After any run over a store that takes every write, the session is what the run's happenings make
of the session before it, and every request of the run carried the credential of its moment in the
one header of that name, or no such header if nobody was signed in. -/
theorem session_recalls_history (client : Client) (session : Session)
    (hstore : session.store.IsReliable) (actions : List Action) :
    (history client session actions).2.Recalls session
        ((history client session actions).1.map Turn.happening) ∧
      ∀ turn ∈ (history client session actions).1, ∀ request ∈ turn.sent,
        (request.headers.filter fun header => Http.sameHeaderName header.1 "Authorization") =
          if turn.before.isLoggedIn then [("Authorization", turn.before.authData.expose)]
          else [] :=
  ⟨(history_recalls client hstore actions).2, authorization_of_sent client session actions⟩

/-- Someone signs out and in again and fetches the plans, which do not arrive. -/
theorem session_recalls_visit :
    let actions : List Action :=
      [.logout, .setLanguage "de",
        .ask (.login "a@b.c" "secret")
          (.response 200 "\x7b\"data\":\x7b\"auth_data\":\"Bearer x\"\x7d\x7d"),
        .ask .getPlans (.failure (.timeout "10 s"))]
    let run := history ⟨"https://panel.example"⟩ ⟨.memory []⟩ actions
    run.2.authData.expose = "Bearer x" ∧ run.2.userEmail = "a@b.c" ∧ run.2.language = "de" ∧
      ∀ turn ∈ run.1, ∀ request ∈ turn.sent,
        (request.headers.filter fun header => Http.sameHeaderName header.1 "Authorization") =
          if turn.before.isLoggedIn then [("Authorization", turn.before.authData.expose)]
          else [] := by
  intro actions run
  obtain ⟨hrecalls, hsent⟩ :=
    session_recalls_history ⟨"https://panel.example"⟩ ⟨.memory []⟩ trivial actions
  exact ⟨hrecalls.authData.trans (by decide +kernel), hrecalls.userEmail.trans (by decide +kernel),
    hrecalls.language.trans (by decide +kernel), hsent⟩

end PanelClient
