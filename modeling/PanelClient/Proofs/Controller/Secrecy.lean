import PanelClient.Proofs.Controller.Likeness
import PanelClient.Proofs.Screen.Steady
import PanelClient.Proofs.Session.Secrecy

/-!
# Secrets do not get out

Two runs that differ only in secrets, in the session that they begin with and in what is replied to
sign-ins, differ in nothing that can be observed but the one header that carries the credential
(`secrets_kept`). A screen that is run twice so goes in step with itself, for the pages are steady.
-/

namespace PanelClient

variable {ρ σ : Type}

/-- Runs of a screen are compared by everything but the texts of secrets, so their clocks agree. -/
def concealed (timeless : σ → σ) : Likeness σ :=
  { secrecy with timeless, timed := True }

namespace Controller

/-- The same moves, one after the other, but for what is replied to the request that is waited for:
the replies may differ as the secrets of a sign-in do. -/
inductive Twins : Controller ρ σ → List (Move ρ) → List (Move ρ) → Prop
  | nil (c : Controller ρ σ) : Twins c [] []
  | same {c : Controller ρ σ} (move : Move ρ) {rest others : List (Move ρ)}
      (hrest : Twins (c.step move) rest others) : Twins c (move :: rest) (move :: others)
  | reply {c : Controller ρ σ} {request : Http.Request} {path : String} {reply other : Http.Reply}
      {rest others : List (Move ρ)} (hawaits : c.Awaits request)
      (hurl : request.url = c.setting.client.baseUrl ++ path) (hreply : reply.Alike path other)
      (hrest : Twins (c.step (.reply reply)) rest others) :
      Twins c (.reply reply :: rest) (.reply other :: others)

/-- What is observed of two controllers is the same, but for secrets in the session and the header
that carries the credential. -/
structure SameButSecrets (c twin : Controller ρ σ) : Prop where
  view : c.scene.view = twin.scene.view
  effects : c.scene.effects = twin.scene.effects
  log : c.scene.log = twin.scene.log
  handedOn : c.scene.handedOn = twin.scene.handedOn
  sent : c.scene.sent.map Http.Request.redacted = twin.scene.sent.map Http.Request.redacted
  session : c.scene.session.Alike twin.scene.session

variable {timeless : σ → σ}

theorem Alike.sameButSecrets {c twin : Controller ρ σ}
    (h : c.Alike (concealed timeless) twin) : SameButSecrets c twin where
  view := (h.scene.clock trivial).1
  effects := h.scene.effects
  log := h.scene.log
  handedOn := h.scene.handedOn
  sent := h.scene.sent
  session := h.scene.session

/-- With twin moves, the controllers of a steady screen stay alike. -/
theorem Alike.twins {c twin : Controller ρ σ}
    (h : c.Alike (concealed timeless) twin) {moves others : List (Move ρ)}
    (hmoves : c.Twins moves others) :
    (c.steps moves).Alike (concealed timeless) (twin.steps others) := by
  induction hmoves generalizing twin with
  | nil => exact h
  | same move hrest ih => exact ih (h.step secrecy_lawful (.same move))
  | reply hawaits hurl hreply hrest ih =>
    refine ih (h.step secrecy_lawful (.reply fun call hsent => ?_))
    -- the reply is to the request that was sent last, so it is the call that is waited for
    rw [hawaits.sent, Option.map_some, Option.some.injEq, hurl, Client.url,
      String.append_right_inj] at hsent
    exact hsent ▸ hreply

end Controller

open Controller

/-- Two runs whose sessions at first, and whose replies to sign-ins, differ in nothing but the texts
of secrets, blank in neither. In runs of calls to the backend the outcomes are the same but for the
secrets of a sign-in's record, in runs of a page under its controller the views and effects are the
same, and in both what is logged, the requests without the credential's header, and the sessions
but for secrets. -/
theorem secrets_kept {session twin : Session} (hsession : session.Alike twin) :
    (∀ (client : Client) (actions others : List Action),
      List.Forall₂ (Action.Alike secrecy) actions others →
        List.Forall₂ (Turn.Alike secrecy) (history client session actions).1
            (history client twin others).1 ∧
          logged client session actions = logged client twin others ∧
          (history client session actions).2.Alike (history client twin others).2) ∧
      ∀ (page : Page) (setting : Setting) (moves others : List (Move page.Request)),
        (opening (page.screen setting.client) setting session).Twins moves others →
          SameButSecrets ((opening (page.screen setting.client) setting session).steps moves)
            ((opening (page.screen setting.client) setting twin).steps others) := by
  constructor
  · intro client actions others hactions
    exact alike_history secrecy_lawful client hactions hsession
  · intro page setting moves others hmoves
    have hopening : (opening (page.screen setting.client) setting session).Alike
        (concealed page.timeless) (opening (page.screen setting.client) setting twin) :=
      alike_opening (page.steady secrecy_lawful True setting.client) setting hsession
    exact (hopening.twins hmoves).sameButSecrets

/-- Two users sign in on the same device, each after a session of their own. The credentials that are
kept at the end are theirs, and nothing else tells the runs apart. -/
theorem secrets_kept_of_login :
    let session : Session := ⟨.memory [("auth_data", "Bearer a")]⟩
    let twin : Session := ⟨.memory [("auth_data", "Bearer b")]⟩
    let setting : Setting := { client := ⟨"https://panel.example"⟩ }
    let body := "\x7b\"data\":\x7b\"auth_data\":\"Bearer x\"\x7d\x7d"
    let other := "\x7b\"data\":\x7b\"auth_data\":\"Bearer y\"\x7d\x7d"
    let actions (body : String) : List Action :=
      [.ask (.login "a@b.c" "secret") (.response 200 body), .ask .getPlans (.response 500 "")]
    let moves (body : String) : List (Move Page.login.Request) :=
      [.start, .send (Login.Request.login "a@b.c" "secret"), .serveRequest,
        .reply (.response 200 body), .reply (.response 404 "")]
    let c := (opening (Page.login.screen setting.client) setting session).steps (moves body)
    let d := (opening (Page.login.screen setting.client) setting twin).steps (moves other)
    logged setting.client session (actions body) = logged setting.client twin (actions other) ∧
      SameButSecrets c d ∧ c.scene.session.authData.expose = "Bearer x" ∧
      d.scene.session.authData.expose = "Bearer y" ∧ c.scene.sent.length = 2 := by
  intro session twin setting body other actions moves c d
  have hsession : session.Alike twin := by
    have hnone : Entries.Alike [] [] := fun _ => .inl rfl
    exact .memory (hnone.insert (.inr ⟨List.mem_cons_self, "Bearer a", "Bearer b", rfl, rfl,
      by decide +kernel, by decide +kernel⟩))
  have hreply : (Http.Reply.response 200 body).Alike Endpoint.login.path (.response 200 other) := by
    have hdata : (Payload.ofBody body).data = .object [("auth_data", .text "Bearer x")] := by
      simp only [body]
      rfl
    have hother : (Payload.ofBody other).data = .object [("auth_data", .text "Bearer y")] := by
      simp only [other]
      rfl
    refine .inr ⟨.inl rfl, body, other, rfl, rfl, ?_⟩
    rw [hdata, hother]
    refine .object fun name => ?_
    rw [Entries.get?_cons, Entries.get?_cons]
    split
    · next heq =>
      subst heq
      exact .inr ⟨List.mem_cons_self, "Bearer x", "Bearer y", rfl, rfl, by decide +kernel,
        by decide +kernel⟩
    · exact .inl rfl
  have hactions : List.Forall₂ (Action.Alike secrecy) (actions body) (actions other) :=
    .cons (.ask _ hreply) (.cons (.ask _ (.inl rfl)) .nil)
  have hmoves : (opening (Page.login.screen setting.client) setting session).Twins (moves body)
      (moves other) :=
    .same _ (.same _ (.same _ (.reply ⟨⟨_, _, rfl⟩, rfl⟩ rfl hreply (.same _ (.nil _)))))
  obtain ⟨hhistory, hpages⟩ := secrets_kept hsession
  obtain ⟨-, hlogged, -⟩ := hhistory setting.client _ _ hactions
  exact ⟨hlogged, hpages .login setting _ _ hmoves, by decide +kernel, by decide +kernel,
    by decide +kernel⟩

end PanelClient
