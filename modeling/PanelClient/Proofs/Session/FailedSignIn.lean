import PanelClient.Proofs.Backend.Query

/-!
# Sign-ins that fail

A sign-in whose record cannot be written fails, but what was written before, and what a store keeps
although it could not write it, stays. `signIn_agrees_iff` says exactly when a session is left as it
was.
-/

namespace PanelClient

open Session SessionM

namespace Session

/-- The five values of one session are those of another. -/
structure Agrees (session other : Session) : Prop where
  authData : session.authData = other.authData
  token : session.token = other.token
  userEmail : session.userEmail = other.userEmail
  subscribeUrl : session.subscribeUrl = other.subscribeUrl
  language : session.language = other.language

theorem Agrees.isLoggedIn {session other : Session} (h : session.Agrees other) :
    session.isLoggedIn = other.isLoggedIn := by
  rw [Session.isLoggedIn, Session.isLoggedIn, h.authData]

theorem agrees_of_value {session other : Session}
    (h : ∀ key, session.value key = other.value key) : session.Agrees other where
  authData := congrArg Secret.mk (h authDataKey)
  token := congrArg Secret.mk (h tokenKey)
  userEmail := h userEmailKey
  subscribeUrl := h subscribeUrlKey
  language := h languageKey

/-- Sessions that agree have the same value under every name of a credential. -/
theorem Agrees.value {session other : Session} (h : session.Agrees other)
    {authData token email : String} {pair : String × String}
    (hpair : pair ∈ credentials authData token email) :
    session.value pair.1 = other.value pair.1 := by
  simp only [credentials, List.mem_cons, List.not_mem_nil, or_false] at hpair
  rcases hpair with rfl | rfl | rfl
  · exact congrArg Secret.expose h.authData
  · exact congrArg Secret.expose h.token
  · exact h.userEmail

variable (session : Session) {pairs : List (String × String)}

/-- Writes leave every value as it was exactly if each text that took its place was there before. -/
theorem value_setAll_eq_iff (hnodup : (pairs.map Prod.fst).Nodup) :
    (∀ key, (Session.mk (session.store.setAll pairs).2).value key = session.value key) ↔
      ∀ pair ∈ session.store.reached pairs, session.value pair.1 = pair.2 := by
  constructor
  · intro same pair hpair
    rw [← same pair.1, value, Store.get?_setAll_of_mem hnodup hpair]
    rfl
  · intro present key
    by_cases hkey : key ∈ (session.store.reached pairs).map Prod.fst
    · obtain ⟨pair, hpair, rfl⟩ := List.mem_map.1 hkey
      rw [present pair hpair, value, Store.get?_setAll_of_mem hnodup hpair]
      rfl
    · rw [value, Store.get?_setAll_of_not_mem hkey]
      rfl

end Session

namespace Operation

theorem mem_credentials_of_mem_granted {email : String} {record? : Option SignIn}
    {pair : String × String} (h : pair ∈ granted email record?) :
    ∃ authData token, pair ∈ credentials authData token email := by
  unfold granted at h
  split at h
  · split at h
    · cases h
    · exact ⟨_, _, h⟩
  · cases h

theorem signIn_isSuccess (endpoint : Endpoint) (what email : String)
    (members : List (String × Json)) (client : Client) (session : Session) (reply : Http.Reply) :
    ((signIn endpoint what email members).finish client reply session).value.isSuccess = true ↔
      (Record.ofReply? SignIn reply).isSome ∧
        (session.store.setAll (granted email (Record.ofReply? SignIn reply))).1 = .ok () := by
  rw [Outcome.isSuccess, signIn_value?]
  rcases (session.store.setAll _).1 with _ | ⟨⟩ <;> simp

end Operation

namespace Query

variable {query : Query} {email : String}

theorem signIn_isSuccess (h : query.signsInAs? = some email) (client : Client) (session : Session)
    (reply : Http.Reply) :
    (query.operation.finish client reply session).value.isSuccess = true ↔
      (Record.ofReply? SignIn reply).isSome ∧
        (session.store.setAll
          (Operation.granted email (Record.ofReply? SignIn reply))).1 = .ok () := by
  cases query with
  | login => cases h; exact Operation.signIn_isSuccess ..
  | register => cases h; exact Operation.signIn_isSuccess ..
  | _ => cases h

/-- A sign-in fails without a record in its reply or if a text of the record cannot be written, and
it leaves the session as it was exactly if each text that took its place was there before. -/
theorem signIn_agrees_iff (h : query.signsInAs? = some email) (client : Client) (session : Session)
    (reply : Http.Reply) :
    ((query.operation.finish client reply session).value.isSuccess = true ↔
        (Record.ofReply? SignIn reply).isSome ∧
          (session.store.setAll
            (Operation.granted email (Record.ofReply? SignIn reply))).1 = .ok ()) ∧
      ((query.operation.finish client reply session).session.Agrees session ↔
        ∀ pair ∈ session.store.reached
            (Operation.granted email (Record.ofReply? SignIn reply)),
          session.value pair.1 = pair.2) := by
  refine ⟨signIn_isSuccess h client session reply, ?_⟩
  have same := session.value_setAll_eq_iff
    (Operation.nodup_granted email (Record.ofReply? SignIn reply))
  rw [signIn_session h, ← same]
  constructor
  · intro agrees
    refine same.2 fun pair hpair => ?_
    obtain ⟨_, _, hmem⟩ := Operation.mem_credentials_of_mem_granted
      (Store.reached_subset _ _ hpair)
    rw [← agrees.value hmem, value, Store.get?_setAll_of_mem (Operation.nodup_granted ..) hpair]
    rfl
  · exact agrees_of_value

/-- The address of the user cannot be written, but what can be is there already. -/
theorem signIn_agrees_again :
    let session : Session :=
      ⟨.guarded ["user_email"] [("auth_data", "Bearer x"), ("token", "t"), ("user_email", "a@b.c")]⟩
    let reply : Http.Reply := .response 200 "\x7b\"auth_data\":\"Bearer x\",\"token\":\"t\"\x7d"
    let worked := (login "d@e.f" "secret").operation.finish ⟨"https://panel.example"⟩ reply session
    worked.value.isSuccess = false ∧ worked.session.Agrees session ∧
      worked.session.isLoggedIn = true := by
  intro session reply worked
  have h : (login "d@e.f" "secret").signsInAs? = some "d@e.f" := rfl
  obtain ⟨-, hagrees⟩ := signIn_agrees_iff h ⟨"https://panel.example"⟩ session reply
  have hsame : worked.session.Agrees session := hagrees.2 (by decide +kernel)
  refine ⟨by decide +kernel, hsame, ?_⟩
  rw [hsame.isLoggedIn]
  decide +kernel

/-- The token cannot be written, and the credential stays although the sign-in failed. -/
theorem signIn_not_agrees :
    let worked := (login "a@b.c" "secret").operation.finish ⟨"https://panel.example"⟩
      (.response 200 "\x7b\"auth_data\":\"Bearer x\",\"token\":\"t\"\x7d")
      ⟨.guarded ["token"] []⟩
    worked.value.isSuccess = false ∧ worked.session.isLoggedIn = true ∧
      Session.isLoggedIn ⟨.guarded ["token"] []⟩ = false := by
  decide +kernel

end Query

end PanelClient
