import PanelClient.Proofs.Screen.SignIn

/-!
# The import after a sign-in

A sign-in that succeeds fetches the subscription and hands its address on. Whatever comes of that,
the page ends as it would have otherwise: only the stored address of the subscription may differ
(`import_does_not_interfere`).
-/

namespace PanelClient

open Session Controller SigningIn

/-! ## What a sign-in writes -/

theorem Submission.operation_of_signIn? {submission : Submission} {email : String}
    {operation : Operation SignIn} (h : submission.signIn? = some (email, operation)) :
    ∃ endpoint what members, operation = Operation.signIn endpoint what email members := by
  cases submission with
  | login => cases h; exact ⟨_, _, _, rfl⟩
  | register => cases h; exact ⟨_, _, _, rfl⟩
  | _ => cases h

theorem SigningIn.granted_eq {submission : Submission} {email : String}
    {operation : Operation SignIn} (h : submission.signIn? = some (email, operation))
    (client : Client) (session : Session) (reply : Http.Reply) :
    granted client operation session reply =
      ⟨(session.store.setAll (Operation.granted email (Record.ofReply? SignIn reply))).2⟩ := by
  obtain ⟨endpoint, what, members, rfl⟩ := Submission.operation_of_signIn? h
  exact Operation.signIn_session ..

/-- A sign-in does not touch the address of the subscription. -/
theorem SigningIn.subscribeUrl_granted {submission : Submission} {email : String}
    {operation : Operation SignIn} (h : submission.signIn? = some (email, operation))
    (client : Client) (session : Session) (reply : Http.Reply) :
    (granted client operation session reply).subscribeUrl = session.subscribeUrl := by
  have hfresh : subscribeUrlKey ∉
      (session.store.reached (Operation.granted email (Record.ofReply? SignIn reply))).map
        Prod.fst := by
    intro hmem
    have hmem := List.map_subset Prod.fst (Store.reached_subset _ _) hmem
    unfold Operation.granted at hmem
    split at hmem
    · split at hmem
      · cases hmem
      · revert hmem
        simp [credentials, subscribeUrlKey, authDataKey, tokenKey, userEmailKey]
    · cases hmem
  rw [granted_eq h, subscribeUrl, value, Store.get?_setAll_of_not_mem hfresh]
  rfl

theorem SigningIn.takes_granted {submission : Submission} {email : String}
    {operation : Operation SignIn} (h : submission.signIn? = some (email, operation))
    (client : Client) (session : Session) (reply : Http.Reply) (key : String) :
    (granted client operation session reply).store.takes key = session.store.takes key := by
  rw [granted_eq h]
  exact Store.takes_setAll ..

/-! ## Two runs -/

/-- A sign-in is served whose own call succeeds. Whatever the fetch of the subscription and the
importer come to, it is served to its end. If the fetch brings an address, it is stored, unless the
store does not take it, and the importer is called with it once; otherwise neither is done. Any two
runs end with the same view, the same effects, the same requests and the same values of the session
but for that address. -/
theorem import_does_not_interfere (page : Page) (submission : Submission) (email : String)
    (operation : Operation SignIn) (c : Controller page.Request page.View) (reply : Http.Reply)
    (hdue : c.Due submission) (hsignIn : submission.signIn? = some (email, operation))
    (hcomplete : submission.complaint? = none) (hup : c.scene.tornDown = false)
    (hsuccess : (operation.finish c.setting.client reply c.scene.session).value.isSuccess = true) :
    (∀ fetched handover, c.ServesOut reply (.reply reply :: .reply fetched ::
      (Subscription.offered? fetched).toList.map fun _ => .handover handover)) ∧
    (∀ moves, c.ServesOut reply moves → ∃ fetched,
      (c.along told (.serveRequest :: moves)).filterMap Answer.reply? = [reply, fetched] ∧
      (c.steps (.serveRequest :: moves)).scene.session.subscribeUrl =
        (if c.scene.session.store.takes subscribeUrlKey then
          (Subscription.offered? fetched).getD c.scene.session.subscribeUrl
        else c.scene.session.subscribeUrl) ∧
      (c.steps (.serveRequest :: moves)).scene.handedOn = c.scene.handedOn ++
        (Subscription.offered? fetched).toList.map fun url => (Form.profileName, url)) ∧
    ∀ moves₁ moves₂, c.ServesOut reply moves₁ → c.ServesOut reply moves₂ →
      let last₁ := (c.steps (.serveRequest :: moves₁)).scene
      let last₂ := (c.steps (.serveRequest :: moves₂)).scene
      last₁.view = last₂.view ∧
        c.along emitted (.serveRequest :: moves₁) = c.along emitted (.serveRequest :: moves₂) ∧
        last₁.sent = last₂.sent ∧
        ∀ key, key ≠ subscribeUrlKey → last₁.session.value key = last₂.session.value key := by
  refine ⟨serves_out hdue hsignIn hcomplete hup hsuccess, fun moves h => ?_,
    fun moves₁ moves₂ h₁ h₂ => ?_⟩
  · obtain ⟨fetched, hcompleted⟩ := completed hdue hsignIn hsuccess h
    refine ⟨fetched, hcompleted.replies, ?_, hcompleted.handedOn⟩
    rw [hcompleted.session, subscribeUrl, value_importing, takes_granted hsignIn]
    simp only [true_and]
    rw [show (granted c.setting.client operation c.scene.session reply).value subscribeUrlKey = _
      from subscribeUrl_granted hsignIn ..]
  · obtain ⟨fetched₁, hfirst⟩ := completed hdue hsignIn hsuccess h₁
    obtain ⟨fetched₂, hsecond⟩ := completed hdue hsignIn hsuccess h₂
    refine ⟨hfirst.view.trans hsecond.view.symm, hfirst.emitted.trans hsecond.emitted.symm,
      hfirst.sent.trans hsecond.sent.symm, fun key hkey => ?_⟩
    rw [hfirst.session, hsecond.session, value_importing, value_importing,
      if_neg fun h => hkey h.1, if_neg fun h => hkey h.1]

/-- Someone signs in. The subscription does not arrive, or it does and the import of it fails. -/
theorem import_does_not_interfere_with_login :
    let setting : Setting := ⟨⟨"https://panel.example"⟩, 60⟩
    let opening := Controller.opening (Page.login.screen setting.client) setting ⟨.memory []⟩
    let c := opening.steps [.start, .send (Login.Request.login "a@b.c" "secret")]
    let reply := Http.Reply.response 200 "\x7b\"auth_data\":\"Bearer x\"\x7d"
    let fetched := Http.Reply.response 200 "\x7b\"subscribe_url\":\"https://sub.example/s/1\"\x7d"
    let last₁ := (c.steps [.serveRequest, .reply reply, .reply (.failure (.timeout "10 s"))]).scene
    let last₂ := (c.steps [.serveRequest, .reply reply, .reply fetched,
      .handover ⟨[], some "no profile"⟩]).scene
    last₁.view = last₂.view ∧ last₁.sent = last₂.sent ∧
      last₁.session.userEmail = last₂.session.userEmail := by
  intro setting opening c reply fetched last₁ last₂
  have hsuccess : ((Operation.login "a@b.c" "secret").finish c.setting.client reply
      c.scene.session).value.isSuccess = true := by
    decide +kernel
  obtain ⟨hserves, -, halike⟩ := import_does_not_interfere .login (.login "a@b.c" "secret") "a@b.c"
    (.login "a@b.c" "secret") c reply ⟨rfl, rfl, rfl⟩ rfl rfl rfl hsuccess
  have hoffered : Subscription.offered? fetched = some "https://sub.example/s/1" := by
    decide +kernel
  have hfailed : c.ServesOut reply [.reply reply, .reply (.failure (.timeout "10 s"))] :=
    hserves (.failure (.timeout "10 s")) ⟨[], none⟩
  have hfetched : c.ServesOut reply
      [.reply reply, .reply fetched, .handover ⟨[], some "no profile"⟩] := by
    have h := hserves fetched ⟨[], some "no profile"⟩
    rw [hoffered] at h
    exact h
  obtain ⟨hview, -, hsent, hvalue⟩ := halike _ _ hfailed hfetched
  exact ⟨hview, hsent, hvalue userEmailKey (by decide)⟩

/-- Where the store does not take the address, the fetched one is handed on but not stored. -/
theorem import_without_storing :
    let setting : Setting := ⟨⟨"https://panel.example"⟩, 60⟩
    let opening := Controller.opening (Page.login.screen setting.client) setting
      ⟨.guarded ["subscribe_url"] []⟩
    let c := opening.steps [.start, .send (Login.Request.login "a@b.c" "secret")]
    let moves : List (Move Page.login.Request) := [.serveRequest,
      .reply (.response 200 "\x7b\"auth_data\":\"Bearer x\"\x7d"),
      .reply (.response 200 "\x7b\"subscribe_url\":\"https://sub.example/s/1\"\x7d"),
      .handover ⟨[], none⟩]
    c.along emitted moves = [.finish .ok] ∧
      (c.steps moves).scene.handedOn = [("Panel", "https://sub.example/s/1")] ∧
      (c.steps moves).scene.session.subscribeUrl = "" := by
  decide +kernel

end PanelClient
