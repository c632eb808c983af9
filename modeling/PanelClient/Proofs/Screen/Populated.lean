import PanelClient.Proofs.Screen.Fetching

/-!
# Populated screens

When a page is opened, and when it becomes active again, it makes its calls one after the other
(`Page.ensures_populated`). What it shows at the end, and which requests are sent meanwhile, is said
of every run in `populated_despite_failures`.
-/

namespace PanelClient

open Program

/-! ## Serving a page that is populated -/

namespace Page

/-- A page is populated by its load. -/
theorem program_of_populates (client : Client) (page : Page) {input : Input page.Request}
    (h : page.populates input = true) :
    (page.screen client).program input = (page.screen client).load := by
  cases page with
  | dashboard => rcases input with _ | (_ | _) | (_ | _) <;> first | rfl | cases h
  | account => rcases input with _ | (_ | (_ | _)) | _ <;> first | rfl | cases h
  | purchase | checkout => rcases input with _ | (_ | _) | _ <;> first | rfl | cases h
  | _ => cases h

theorem ensures_populated (client : Client) (page : Page) {input : Input page.Request}
    (hpopulates : page.populates input = true) {first : Progress page.View}
    (heffects : first.effects = []) (hanswers : first.answers = []) :
    ((page.screen client).program input).Ensures (AwaitsCall page.calls first)
      (fun _ => EndsPopulated page.calls page.populated first) first := by
  rw [program_of_populates client page hpopulates]
  cases page with
  | dashboard => exact Dashboard.ensures_load client heffects hanswers
  | account => exact Account.ensures_load client heffects hanswers
  | purchase => exact Purchase.ensures_load client heffects hanswers
  | checkout planId planName =>
    exact Checkout.ensures_load client planId planName heffects hanswers
  | _ => cases hpopulates

/-- A page that was populated shows no more than its last failure. -/
theorem status_populated {page : Page} {input : Input page.Request}
    (h : page.populates input = true) (replies : List Http.Reply) (session : Session)
    (view : page.View) :
    page.status (page.populated replies session view) = settled (page.error? replies) := by
  cases page with
  | dashboard | account | purchase | checkout => rfl
  | _ => cases h

/-- There is an error exactly if a call failed that is reported. -/
theorem isSome_error? (page : Page) (replies : List Http.Reply) :
    (page.error? replies).isSome ↔ ∃ query ∈ page.reports, ∃ outcome,
      page.outcome? replies query = some outcome ∧ outcome.isSuccess = false := by
  have hfailed (query : Query) (outcome : Outcome query.Value) :
      outcome.isSuccess = false ↔ ∃ text, outcome.rendering? = some text := by
    rw [← Option.isSome_iff_exists, Outcome.isSome_rendering?, Bool.not_eq_true']
  rw [error?, List.getLast?_isSome]
  constructor
  · intro h
    obtain ⟨text, htext⟩ := List.exists_mem_of_ne_nil _ h
    obtain ⟨query, hquery, hbind⟩ := List.mem_filterMap.1 htext
    obtain ⟨outcome, houtcome, hrendering⟩ := Option.bind_eq_some_iff.1 hbind
    exact ⟨query, hquery, outcome, houtcome, (hfailed query outcome).2 ⟨text, hrendering⟩⟩
  · rintro ⟨query, hquery, outcome, houtcome, hfailure⟩
    obtain ⟨text, hrendering⟩ := (hfailed query outcome).1 hfailure
    apply List.ne_nil_of_mem (a := text)
    exact List.mem_filterMap.2 ⟨query, hquery, by rw [houtcome]; exact hrendering⟩

/-- The next call depends on no more than the replies so far. -/
theorem calls_take (page : Page) (replies : List Http.Reply) {k : Nat} (h : k ≤ replies.length) :
    (page.calls (replies.take k))[k]? = (page.calls replies)[k]? := by
  cases page with
  | dashboard =>
    rcases k with _ | _ | k
    · rfl
    · rfl
    · have htwo : (replies.take (k + 2))[1]? = replies[1]? := List.getElem?_take_of_lt (by omega)
      rw [calls, calls, htwo]
  | account =>
    rcases k with _ | k
    · rfl
    · have hone : (replies.take (k + 1))[0]? = replies[0]? := List.getElem?_take_of_lt (by omega)
      rw [calls, calls, hone]
  | _ => rfl

end Page

/-- A request shows nothing of the session but the credential. -/
theorem Client.request_congr (client : Client) {session other : Session}
    (h : session.authData = other.authData) (call : Call) :
    client.request session call = client.request other call := by
  simp only [request, authorization, h]

/-- The requests of a page that is populated are those of its calls. -/
theorem requests_of_follow (page : Page) {first : Progress page.View} {replies : List Http.Reply}
    {errands : List (Errand × Session)}
    (hfollow : Errand.Follow (AwaitsCall page.calls first) (replies.map .reply) errands)
    (hreplies : errands.length ≤ replies.length + 1)
    (hcalls : errands.length ≤ (page.calls replies).length) (client : Client) :
    errands.filterMap (Errand.request? client) =
      ((page.calls replies).take errands.length).map fun query =>
        client.request first.session query.operation.call := by
  have hmap : errands.map (Errand.request? client) =
      (((page.calls replies).take errands.length).map fun query =>
        client.request first.session query.operation.call).map some := by
    apply List.ext_getElem
    · simp [hcalls]
    · intro k hk _
      have hk : k < errands.length := by simpa using hk
      obtain ⟨errand, session, hget⟩ : ∃ errand session, errands[k] = (errand, session) :=
        ⟨_, _, rfl⟩
      obtain ⟨p, ⟨hfetched, query, hquery, rfl⟩, rfl, hanswers⟩ :=
        hfollow k errand session (by rw [List.getElem?_eq_getElem hk, hget])
      rw [← List.map_take] at hanswers
      rw [Progress.replies_of_answers hanswers, List.length_take_of_le (by omega),
        page.calls_take replies (by omega)] at hquery
      have hcall : (page.calls replies)[k] = query := (List.getElem?_eq_some_iff.1 hquery).2
      rw [List.getElem_map, List.getElem_map, List.getElem_map, List.getElem_take, hcall, hget]
      exact congrArg some (client.request_congr hfetched.credential query.operation.call)
  calc errands.filterMap (Errand.request? client)
    _ = (errands.map (Errand.request? client)).filterMap id := by
      rw [List.filterMap_map, Function.id_comp]
    _ = _ := by
      rw [hmap, List.filterMap_map]
      exact List.filterMap_some

open Controller

/-- A move that begins an input tells nothing. -/
theorem Controller.told_of_begins {ρ σ : Type} {c : Controller ρ σ} {move : Controller.Move ρ}
    {input : Input ρ} (h : c.begins move = [input]) : c.told move = [] := by
  unfold told
  split
  · cases h
  · cases h
  · cases h
  · rfl

/-- As many calls are made as there are replies, and one more as long as any is missing. -/
theorem sent_of_tracked {page : Page} {first : Progress page.View}
    {last : Controller page.Request page.View} {replies : List Http.Reply}
    {errands : List (Errand × Session)}
    (htracked : last.Tracked (AwaitsCall page.calls first) (replies.map .reply) errands)
    (hcalls : replies.length + last.activity.pending ≤ (page.calls replies).length)
    (hlast : last.activity.pending = 0 → replies.length = (page.calls replies).length)
    (client : Client) :
    errands.filterMap (Errand.request? client) =
      ((page.calls replies).take (replies.length + 1)).map fun query =>
        client.request first.session query.operation.call := by
  have hlength := htracked.length_eq
  rw [List.length_map] at hlength
  have hpending : last.activity.pending ≤ 1 := by
    cases last.activity <;> simp [Activity.pending]
  rw [requests_of_follow page htracked.follow (by omega) (by omega)]
  by_cases hnone : last.activity.pending = 0
  · have hall := hlast hnone
    rw [List.take_of_length_le (by omega), List.take_of_length_le (by omega)]
  · rw [hlength, show last.activity.pending = 1 by omega]

/-- When a page is populated, it makes its calls one after the other, whatever becomes of each, and
asks for no effect. As long as replies are missing it waits for the next; then it waits for input
and shows what the replies brought, what it showed before in place of what failed, no error at any
input, and a general error exactly if a call that is reported has failed: how the last one did. -/
theorem populated_despite_failures (page : Page) (input : Input page.Request)
    (c : Controller page.Request page.View) (move : Controller.Move page.Request)
    (moves : List (Controller.Move page.Request))
    (hscreen : c.screen = page.screen c.setting.client) (hbegins : c.begins move = [input])
    (hpopulates : page.populates input = true) (hserves : (c.step move).Serves moves)
    (hup : (c.steps (move :: moves)).scene.tornDown = false) :
    let served := move :: moves
    let last := c.steps served
    let replies := (c.along told served).filterMap Answer.reply?
    let calls := page.calls replies
    last.scene.sent = c.scene.sent ++ (calls.take (replies.length + 1)).map (fun query =>
        c.setting.client.request c.scene.session query.operation.call) ∧
      c.along emitted served = [] ∧
      ((∃ job next, last.activity = .busy job (.reply next)) ∧ replies.length < calls.length ∨
        last.activity = .waiting ∧ replies.length = calls.length ∧
          last.scene.view = page.populated replies c.scene.session c.scene.view ∧
          (page.status last.scene.view).fieldErrors = [] ∧
          (page.status last.scene.view).generalError = page.error? replies ∧
          ((page.error? replies).isSome ↔ ∃ query ∈ page.reports, ∃ outcome,
            page.outcome? replies query = some outcome ∧ outcome.isSuccess = false)) := by
  intro served last replies calls
  have hprogram : (c.screen.program input).Ensures
      (AwaitsCall page.calls (c.scene.progress [] []))
      (fun _ => EndsPopulated page.calls page.populated (c.scene.progress [] []))
      (c.scene.progress [] []) := by
    rw [hscreen]
    exact page.ensures_populated c.setting.client hpopulates rfl rfl
  have hbegun := stands_of_begins hbegins (up_of_steps hup) hprogram
  have hstands := hbegun.steps hserves hup
  have htracked := hbegun.tracked_steps (tracked_of_begins hbegins hprogram) hserves hup
  have htold : c.along told served = (c.step move).along told moves := by
    rw [along, told_of_begins hbegins, List.nil_append]
  rw [List.nil_append, ← htold] at hstands htracked
  have hsent := (c.steps_adds served).sent
  rcases hstands.waits_or_ends with ⟨hwaiting, hends⟩ | ⟨job, paused, errand, hbusy, hleads⟩
  · obtain ⟨hfetched, hlength, hview⟩ := hends
    have hanswers : c.along told served = replies.map .reply := hfetched.answers
    have hlength : replies.length = calls.length := hlength
    have hview : last.scene.view = page.populated replies c.scene.session c.scene.view := hview
    have hidle : ((c.step move).steps moves).activity.pending = 0 := by rw [hwaiting]; rfl
    rw [hanswers] at htracked
    refine ⟨hsent.trans ?_, hfetched.effects, .inr ⟨hwaiting, hlength, hview, ?_⟩⟩
    · congr 1
      exact sent_of_tracked htracked (by rw [hidle]; exact Nat.le_of_eq hlength)
        (fun _ => hlength) c.setting.client
    · rw [hview, Page.status_populated hpopulates]
      exact ⟨rfl, rfl, page.isSome_error? replies⟩
  · obtain ⟨hfetched, query, hquery, rfl⟩ := hleads.holds
    have hanswers : c.along told served = replies.map .reply := hfetched.answers
    have hmissing : replies.length < calls.length := (List.getElem?_eq_some_iff.1 hquery).1
    have hserving : ((c.step move).steps moves).activity.pending = 1 := by rw [hbusy]; rfl
    rw [hanswers] at htracked
    refine ⟨hsent.trans ?_, hfetched.effects, .inl ⟨?_, hmissing⟩⟩
    · congr 1
      exact sent_of_tracked htracked (by rw [hserving]; exact hmissing)
        (fun hidle => by rw [hserving] at hidle; cases hidle) c.setting.client
    · cases hleads with
      | reply hwait hnext => exact ⟨job, _, hbusy⟩

/-- The dashboard fetches the servers although nothing could be fetched before, and says last what
became of them. -/
theorem populated_despite_failures_of_dashboard :
    let setting : Setting := ⟨⟨"https://panel.example"⟩, 60⟩
    let c := Controller.opening (Page.dashboard.screen setting.client) setting ⟨.memory []⟩
    let moves : List (Controller.Move Dashboard.Request) :=
      [.reply (.response 401 ""), .reply (.response 500 ""), .reply (.failure (.timeout "late"))]
    let last := c.steps (.start :: moves)
    last.scene.sent = [Query.getSubscribe, .getUserInfo, .getServers].map (fun query =>
        setting.client.request c.scene.session query.operation.call) ∧
      last.activity = .waiting ∧
      (Page.dashboard.status last.scene.view).generalError = some Status.networkError := by
  intro setting c moves last
  have hserves : (c.step .start).Serves moves :=
    ⟨⟨_, _, rfl⟩, ⟨_, _, rfl⟩, ⟨_, _, rfl⟩, trivial⟩
  obtain ⟨hsent, -, ⟨⟨_, _, hbusy⟩, -⟩ | ⟨hwaiting, -, -, -, herror, -⟩⟩ :=
    populated_despite_failures .dashboard .load c .start moves rfl rfl rfl hserves rfl
  · cases hbusy
  · exact ⟨hsent, hwaiting, herror⟩

end PanelClient
