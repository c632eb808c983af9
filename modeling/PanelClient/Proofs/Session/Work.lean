import PanelClient.Backend.Operation
import PanelClient.Proofs.Store.Writes

/-!
# What work on a session changes

Most work leaves the session as it is (`SessionM.Keeps`). A sign-in puts several texts into the
store, of which the first that cannot be written ends the rest (`storeCredentials_eq_setAll`);
signing out blanks every text on its own (`clear_session`). `value_setAll` says which values a
session has after writes to a reliable store.
-/

namespace PanelClient

variable {α β : Type}

namespace SessionM

/-- The work leaves every session as it is. -/
def Keeps (work : SessionM α) : Prop := ∀ session, (work session).session = session

theorem keeps_pure (value : α) : Keeps (pure value) := fun _ => rfl

theorem keeps_log (event : Log.Event) : Keeps (log event) := fun _ => rfl

theorem Keeps.bind {work : SessionM α} {next : α → SessionM β} (h : work.Keeps)
    (hnext : ∀ value, (next value).Keeps) : (work >>= next).Keeps := by
  intro session
  rw [bind_apply, hnext, h]

@[simp] theorem set_value (key text : String) (session : Session) :
    (set key text session).value = (session.store.set key text).1 := rfl

@[simp] theorem set_session (key text : String) (session : Session) :
    (set key text session).session = ⟨(session.store.set key text).2⟩ := rfl

@[simp] theorem log_session (event : Log.Event) (session : Session) :
    (log event session).session = session := rfl

end SessionM

open SessionM

namespace Session

variable (session : Session)

/-- What a sign-in puts into the store, in order. -/
def credentials (authData token email : String) : List (String × String) :=
  [(authDataKey, authData), (tokenKey, token), (userEmailKey, email)]

theorem nodup_credentials (authData token email : String) :
    ((credentials authData token email).map Prod.fst).Nodup := by
  simp [credentials, authDataKey, tokenKey, userEmailKey]

theorem put_session (key text : String) :
    (put key text session).session = ⟨(session.store.set key text).2⟩ := by
  simp only [put, bind_apply, set_value, set_session]
  cases (session.store.set key text).1 <;> rfl

/-- Of what is put into a reliable store, each name has its text, and other names keep theirs. -/
theorem value_setAll {pairs : List (String × String)} (hstore : session.store.IsReliable)
    (hnodup : (pairs.map Prod.fst).Nodup) (key : String) :
    (Session.mk (session.store.setAll pairs).2).value key =
      (pairs.lookup key).getD (session.value key) := by
  simp only [value]
  cases hlookup : pairs.lookup key with
  | none =>
    have fresh : key ∉ (session.store.reached pairs).map Prod.fst := by
      rw [hstore.reached_eq, List.mem_map]
      rintro ⟨pair, hpair, rfl⟩
      have other := List.lookup_eq_none_iff.1 hlookup pair hpair
      simp at other
    rw [Store.get?_setAll_of_not_mem fresh]
    rfl
  | some text =>
    have put : (key, text) ∈ session.store.reached pairs := by
      rw [hstore.reached_eq]
      obtain ⟨before, after, rfl, -⟩ := List.lookup_eq_some_iff.1 hlookup
      simp
    rw [Store.get?_setAll_of_mem hnodup put]
    rfl

theorem clear_session :
    (clear session).session =
      clearedKeys.foldl (fun session key => ⟨(session.store.set key "").2⟩) session := by
  simp only [clear, clearedKeys, List.forM_eq_forM, List.forM_cons, List.forM_nil, bind_apply,
    put_session, pure_apply, log_session, List.foldl_cons, List.foldl_nil]

theorem storeCredentials_eq_setAll (authData token email : String) :
    (storeCredentials authData token email session).value =
        (session.store.setAll (credentials authData token email)).1 ∧
      (storeCredentials authData token email session).session =
        ⟨(session.store.setAll (credentials authData token email)).2⟩ := by
  simp only [storeCredentials, bind_apply, set_value, set_session, credentials, Store.setAll]
  rcases session.store.set authDataKey authData with ⟨_ | ⟨⟩, first⟩
  · exact ⟨rfl, rfl⟩
  simp only [bind_apply, set_value, set_session]
  rcases first.set tokenKey token with ⟨_ | ⟨⟩, second⟩
  · exact ⟨rfl, rfl⟩
  simp only [bind_apply, set_value, set_session]
  rcases second.set userEmailKey email with ⟨_ | ⟨⟩, third⟩
  · exact ⟨rfl, rfl⟩
  · exact ⟨rfl, rfl⟩

end Session

end PanelClient
