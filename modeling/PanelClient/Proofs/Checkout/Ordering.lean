import PanelClient.Proofs.Backend.Body
import PanelClient.Proofs.Checkout.Stages

/-!
# Orders and payments

What is sent when the checkout is asked for a plan. While the request is served, the requests that
are sent are those of the stages that the replies lead to (`sent_whileBusy`): the order, and after
that its payment exactly if there is an order to pay (`order_then_payment`).
-/

namespace PanelClient

namespace Controller

variable {ρ σ : Type}

/-- Moves for as long as a program is being served: the controller afterwards, and the replies that
came meanwhile, in order. -/
def whileBusy (c : Controller ρ σ) : List (Move ρ) → Controller ρ σ × List Http.Reply
  | [] => (c, [])
  | move :: rest =>
    match c.activity with
    | .busy _ _ =>
      let (last, replies) := whileBusy (c.step move) rest
      (last, move.reply?.toList ++ replies)
    | _ => (c, [])

theorem whileBusy_of_busy {c : Controller ρ σ} {job : Job} {paused : Paused σ}
    (h : c.activity = .busy job paused) (move : Move ρ) (rest : List (Move ρ)) :
    c.whileBusy (move :: rest) = (((c.step move).whileBusy rest).1,
      move.reply?.toList ++ ((c.step move).whileBusy rest).2) := by
  simp only [whileBusy, h]

theorem whileBusy_of_not_busy {c : Controller ρ σ} (h : ∀ job paused, c.activity ≠ .busy job paused)
    (moves : List (Move ρ)) : c.whileBusy moves = (c, []) := by
  cases moves with
  | nil => rfl
  | cons move rest =>
    unfold whileBusy
    split
    · next hactivity => exact absurd hactivity (h _ _)
    · rfl

/-- The request that a move answers, with the reply. -/
def answer? (c : Controller ρ σ) (move : Move ρ) : Option (Http.Request × Http.Reply) :=
  match move, c.activity, c.scene.sent.getLast? with
  | .reply reply, .busy _ (.reply _), some request => some (request, reply)
  | _, _, _ => none

/-- The requests that are answered in the course of moves, each with its reply. -/
def answered (c : Controller ρ σ) : List (Move ρ) → List (Http.Request × Http.Reply)
  | [] => []
  | move :: rest => (c.answer? move).toList ++ answered (c.step move) rest

theorem answer?_of_no_reply {c : Controller ρ σ} {move : Move ρ} (h : move.reply? = none) :
    c.answer? move = none := by
  cases move <;> first | rfl | cases h

theorem answer?_of_no_program {c : Controller ρ σ} {move : Move ρ} (h : c.program? move = none) :
    c.answer? move = none := by
  unfold answer?
  split
  · next hactivity _ =>
    simp only [program?, hactivity] at h
    cases h
  · rfl

end Controller

namespace Checkout

/-- The stages that replies lead to from a stage, one after the other. -/
def Stage.trail : Stage → List Http.Reply → List Stage
  | _, [] => []
  | stage, reply :: rest =>
    match stage.next reply with
    | none => []
    | some next => next :: trail next rest

section Serving

variable {setting : Setting} {planId : Int} {planName : String} {c : Controller Request View}

/-- While a program is served from a stage on, one request is sent for every stage that the replies
lead to, and no other. -/
theorem sent_whileBusy (hstaged : Staged setting planId planName c) {stage : Stage}
    (hwaits : WaitsAt setting.client planId stage c) (moves : List (Controller.Move Request)) :
    (c.whileBusy moves).1.scene.sent = c.scene.sent ++
      (stage.trail (c.whileBusy moves).2).map fun next =>
        setting.client.request c.scene.session (next.call planId) := by
  induction moves generalizing c stage with
  | nil => simp [Controller.whileBusy, Stage.trail]
  | cons move rest ih =>
    obtain ⟨job, hactivity⟩ := hwaits.activity
    have hnext := hstaged.step move
    have hprogram := Controller.program?_of_waits hactivity move
    rw [Controller.whileBusy_of_busy hactivity]
    cases hreply : move.reply? with
    | none =>
      rw [hreply] at hprogram
      have hstays := Controller.step_of_no_program hprogram
      rcases hstays.activity with hsame | hstopped
      · have hwaits' : WaitsAt setting.client planId stage (c.step move) :=
          ⟨⟨job, hsame.trans hactivity⟩, by rw [hstays.sent, hstays.session, hwaits.sent]⟩
        have hsent := ih hnext hwaits'
        rw [hstays.sent, hstays.session] at hsent
        exact hsent
      · rw [Controller.whileBusy_of_not_busy (by simp [hstopped])]
        simp [hstays.sent, Stage.trail]
    | some reply =>
      rw [hreply] at hprogram
      have hserved := Controller.step_of_program hprogram
        (takes_resume c.setting setting.client planId stage reply)
      have hsent := hserved.scene.sent
      unfold Stage.course at hserved hsent
      cases hstage : stage.next reply with
      | none =>
        rw [hstage] at hserved hsent
        have hwaiting : (c.step move).activity = .waiting := hserved.activity
        rw [Controller.whileBusy_of_not_busy (by simp [hwaiting])]
        simp [hsent, hstage, Stage.trail, Course.requests]
      | some next =>
        rw [hstage] at hserved hsent
        rw [ih hnext (waitsAt_of_served hstaged.setting_eq hserved), hserved.scene.session, hsent]
        simp [hstage, hstaged.setting_eq, Stage.trail, Course.requests, Stage.wait]

theorem trail_payment (tradeNo : String) (method : Int) (replies : List Http.Reply) :
    (Stage.payment tradeNo method).trail replies = [] := by
  cases replies <;> rfl

/-- After an order comes its payment, if the first reply is a success, and then nothing. -/
theorem trail_order (period : String) (couponCode : Option String) (method : Int)
    (replies : List Http.Reply) :
    (Stage.order period couponCode method).trail replies =
      match replies.head?.map Outcome.ofReply with
      | some (.success payload) => [.payment (Operation.tradeNumber payload.data) method]
      | _ => [] := by
  cases replies with
  | nil => rfl
  | cons reply rest =>
    simp only [Stage.trail, Stage.next, List.head?_cons, Option.map_some]
    cases Outcome.ofReply reply with
    | success payload => simp [Outcome.value?, trail_payment]
    | _ => rfl

/-- A request that is served sends the order and what the replies to it lead to. -/
theorem sent_serveRequest (hstaged : Staged setting planId planName c) {period : String}
    {couponCode : Option String} {method : Int} {rest : List Request}
    (hwaiting : c.activity = .waiting)
    (hrequests : c.requests = .checkout period couponCode method :: rest)
    (moves : List (Controller.Move Request)) :
    ((c.step .serveRequest).whileBusy moves).1.scene.sent = c.scene.sent ++
      setting.client.request c.scene.session ((Stage.order period couponCode method).call planId) ::
        (match ((c.step .serveRequest).whileBusy moves).2.head?.map Outcome.ofReply with
          | some (.success payload) => [setting.client.request c.scene.session
              ((Stage.payment (Operation.tradeNumber payload.data) method).call planId)]
          | _ => []) := by
  have hprogram : c.program? .serveRequest =
      some (.input, order setting.client planId period couponCode method) := by
    simp only [Controller.program?, hwaiting, hrequests, List.head?_cons, Option.map_some,
      hstaged.screen_eq]
    rfl
  have hserved := Controller.step_of_program hprogram
    (takes_order c.setting setting.client planId period couponCode method)
  rw [sent_whileBusy (hstaged.step .serveRequest) (waitsAt_of_served hstaged.setting_eq hserved),
    hserved.scene.sent, hserved.scene.session, trail_order, hstaged.setting_eq, List.append_assoc]
  congr 1
  rw [Course.requests, Option.map_some, Option.toList_some, List.singleton_append]
  congr 1
  split <;> rfl

/-- A payment follows exactly on an order that succeeds. -/
theorem countP_payments_next (client : Client) (session : Session) (stage : Stage)
    (reply : Http.Reply) :
    (Course.requests (stage.course client planId reply) client session).countP
        (posts client .checkoutOrder) =
      [(client.request session (stage.call planId), reply)].countP fun (request, reply) =>
        posts client .createOrder request && (Outcome.ofReply reply).isSuccess := by
  cases stage with
  | order period couponCode method =>
    cases houtcome : Outcome.ofReply reply <;>
      simp [Course.requests, Stage.course, Stage.next, Stage.wait, posts_call,
        Stage.posted?, houtcome, Outcome.value?, Outcome.isSuccess]
  | _ => simp [Course.requests, Stage.course, Stage.next, Stage.wait, posts_call,
      Stage.posted?]

/-- One move adds a payment exactly if it answers an order with a success. -/
theorem countP_payments_step (hstaged : Staged setting planId planName c)
    (move : Controller.Move Request) :
    (c.step move).scene.sent.countP (posts setting.client .checkoutOrder) =
      c.scene.sent.countP (posts setting.client .checkoutOrder) +
        (c.answer? move).toList.countP fun (request, reply) =>
          posts setting.client .createOrder request && (Outcome.ofReply reply).isSuccess := by
  cases hprogram : c.program? move with
  | none =>
    rw [(Controller.step_of_no_program hprogram).sent, Controller.answer?_of_no_program hprogram]
    rfl
  | some served =>
    obtain ⟨job, program⟩ := served
    rcases hstaged.program_cases hprogram with
      ⟨stage, reply, hwaits, rfl, rfl⟩ | ⟨stage?, hreply, hfirst, htakes⟩
    · have hserved := Controller.step_of_program hprogram
        (takes_resume c.setting setting.client planId stage reply)
      obtain ⟨job, hactivity⟩ := hwaits.activity
      have hanswer : c.answer? (.reply reply) =
          some (setting.client.request c.scene.session (stage.call planId), reply) := by
        simp only [Controller.answer?, hactivity, hwaits.sent]
      rw [hanswer, hserved.scene.sent, List.countP_append, hstaged.setting_eq,
        countP_payments_next]
      rfl
    · have hserved := Controller.step_of_program hprogram htakes
      rw [Controller.answer?_of_no_reply hreply, hserved.scene.sent, List.countP_append]
      cases stage? with
      | none => rfl
      | some stage =>
        have hstage := hfirst stage rfl
        cases stage with
        | payment tradeNo method => cases hstage
        | _ => simp [Course.requests, Stage.wait, hstaged.setting_eq, posts_call, Stage.posted?]

/-- In the course of moves as many payments are made as orders succeed. -/
theorem countP_payments (hstaged : Staged setting planId planName c)
    (moves : List (Controller.Move Request)) :
    (c.steps moves).scene.sent.countP (posts setting.client .checkoutOrder) =
      c.scene.sent.countP (posts setting.client .checkoutOrder) +
        (c.answered moves).countP fun (request, reply) =>
          posts setting.client .createOrder request && (Outcome.ofReply reply).isSuccess := by
  induction moves generalizing c with
  | nil => rfl
  | cons move rest ih =>
    have hrest := ih (hstaged.step move)
    have hmove := countP_payments_step hstaged move
    simp only [Controller.steps, List.foldl_cons] at hrest ⊢
    rw [hrest, hmove, Controller.answered, List.countP_append, Nat.add_assoc]

end Serving

/-! ## What is posted -/

/-- The member for a coupon: its trimmed code, unless nothing is left of it. -/
def couponMembers : Option String → List (String × Json)
  | none => []
  | some code => if Text.trim code = "" then [] else [("coupon_code", .text (Text.trim code))]

/-- The members of an order: a coupon, the period as it is, and the plan. -/
def orderMembers (planId : Int) (period : String) (couponCode : Option String) :
    List (String × Json) :=
  couponMembers couponCode ++ [("period", .text period), ("plan_id", .integer planId)]

def paymentMembers (tradeNo : String) (method : Int) : List (String × Json) :=
  [("method", .integer method), ("trade_no", .text tradeNo)]

section Bodies

variable (client : Client) (session : Session) {planId method : Int}

theorem optionalMember_trimmed (couponCode : Option String) :
    Operation.optionalMember "coupon_code" (couponCode.bind Text.trimmed?) =
      couponMembers couponCode := by
  cases couponCode with
  | none => rfl
  | some code =>
    simp only [Option.bind_some, Text.trimmed?, couponMembers, Text.trim_eq_empty_iff]
    split <;> rfl

theorem isPostable_of_mem_couponMembers {couponCode : Option String} {member : String × Json}
    (h : member ∈ couponMembers couponCode) : member.2.IsPostable := by
  unfold couponMembers at h
  split at h
  · cases h
  · split at h
    · cases h
    · obtain rfl := List.mem_singleton.1 h
      exact Json.isPostable_text _

theorem parse?_order_body (hplan : Json.IsSigned planId) (period : String)
    (couponCode : Option String) :
    (client.request session ((Stage.order period couponCode method).call planId)).body.bind
      Json.parse? = some (.object (orderMembers planId period couponCode)) := by
  have hpostable : ∀ member ∈ [("plan_id", Json.integer planId), ("period", .text period)] ++
      couponMembers couponCode, member.2.IsPostable := by
    rw [List.forall_mem_append, List.forall_mem_cons, List.forall_mem_singleton]
    exact ⟨⟨Json.isPostable_integer hplan, Json.isPostable_text period⟩,
      fun _ => isPostable_of_mem_couponMembers⟩
  have hsorted : Entries.ofPairs ([("plan_id", Json.integer planId), ("period", .text period)] ++
      couponMembers couponCode) = orderMembers planId period couponCode := by
    have hplan_id : "period" < "plan_id" := by decide
    have hcoupon : "coupon_code" < "period" := by decide
    have hpair := Entries.ofPairs_pair_of_lt hplan_id (Json.integer planId) (.text period)
    unfold orderMembers couponMembers
    split
    · rw [List.append_nil, hpair, List.nil_append]
    · split
      · rw [List.append_nil, hpair, List.nil_append]
      · rw [Entries.ofPairs_concat, hpair, Entries.insert_cons_of_lt hcoupon]
        rfl
  rw [← hsorted, ← parse?_body_post client session .createOrder hpostable,
    ← optionalMember_trimmed]
  rfl

theorem parse?_payment_body (tradeNo : String) (hmethod : Json.IsSigned method) :
    (client.request session ((Stage.payment tradeNo method).call planId)).body.bind Json.parse? =
      some (.object (paymentMembers tradeNo method)) := by
  have hpostable : ∀ member ∈ [("trade_no", Json.text tradeNo), ("method", .integer method)],
      member.2.IsPostable := by
    rw [List.forall_mem_cons, List.forall_mem_singleton]
    exact ⟨Json.isPostable_text tradeNo, Json.isPostable_integer hmethod⟩
  have hsorted : Entries.ofPairs [("trade_no", Json.text tradeNo), ("method", .integer method)] =
      paymentMembers tradeNo method := by
    have hlt : "method" < "trade_no" := by decide
    exact Entries.ofPairs_pair_of_lt hlt (Json.text tradeNo) (.integer method)
  rw [← hsorted]
  exact parse?_body_post client session .checkoutOrder hpostable

end Bodies

/-! ## Orders that are paid -/

/-- The request posts an object of the members to the endpoint. -/
def PostsMembers (client : Client) (endpoint : Endpoint) (members : List (String × Json))
    (request : Http.Request) : Prop :=
  posts client endpoint request = true ∧ request.body.bind Json.parse? = some (.object members)

/-- After any run, a request that is served sends an order of its plan, and if the first reply is a
success, a payment of the order that the reply names; nothing else is sent until the next program is
served. Over the run as many payments were sent as orders succeeded. -/
theorem order_then_payment (setting : Setting) (session : Session) {planId : Int}
    (hplan : Json.IsSigned planId) (planName : String) (before : List (Controller.Move Request)) :
    let opening := Controller.opening (screen setting.client planId planName) setting session
    let c := opening.steps before
    (∀ period couponCode method rest moves, Json.IsSigned method → c.activity = .waiting →
      c.requests = .checkout period couponCode method :: rest →
      ∃ (order : Http.Request) (payment : Payload → Http.Request),
        ((c.step .serveRequest).whileBusy moves).1.scene.sent = c.scene.sent ++ order ::
            (match ((c.step .serveRequest).whileBusy moves).2.head?.map Outcome.ofReply with
              | some (.success payload) => [payment payload]
              | _ => []) ∧
          PostsMembers setting.client .createOrder (orderMembers planId period couponCode) order ∧
          ∀ payload, PostsMembers setting.client .checkoutOrder
            (paymentMembers (match payload.data with
              | .text tradeNo => tradeNo
              | value => Json.render value) method) (payment payload)) ∧
      c.scene.sent.countP (posts setting.client .checkoutOrder) =
        (opening.answered before).countP fun (request, reply) =>
          posts setting.client .createOrder request && (Outcome.ofReply reply).isSuccess := by
  intro opening c
  constructor
  · intro period couponCode method rest moves hmethod hwaiting hrequests
    have hstaged : Staged setting planId planName c := staged_steps ..
    refine ⟨_, fun payload => setting.client.request c.scene.session
      ((Stage.payment (Operation.tradeNumber payload.data) method).call planId),
      sent_serveRequest hstaged hwaiting hrequests moves,
      ⟨posts_call .., parse?_order_body _ _ hplan period couponCode⟩,
      fun payload => ⟨posts_call .., ?_⟩⟩
    rw [parse?_payment_body _ _ _ hmethod]
    rfl
  · have hcount := countP_payments (staged_opening session : Staged setting planId planName opening)
      before
    rwa [show opening.scene.sent = [] from rfl, List.countP_nil, Nat.zero_add] at hcount

/-- An order with a coupon is paid by the number that its reply names. -/
theorem order_then_payment_of_coupon :
    let setting : Setting := ⟨⟨"https://panel.example"⟩, 60⟩
    let before : List (Controller.Move Request) :=
      [.start, .reply (.failure (.timeout "10 s")), .reply (.failure (.timeout "10 s")),
        .send (.checkout "month_price" (some " SAVE ") 1)]
    let c := (Controller.opening (screen setting.client 7 "Gold") setting ⟨.memory []⟩).steps before
    let created : Http.Reply := .response 200 "\x7b\"data\":\"T1\"\x7d"
    ∃ order payment : Http.Request,
      ((c.step .serveRequest).whileBusy [.reply created, .takeEffect]).1.scene.sent =
          c.scene.sent ++ [order, payment] ∧
        PostsMembers setting.client .createOrder
          [("coupon_code", .text "SAVE"), ("period", .text "month_price"), ("plan_id", .integer 7)]
          order ∧
        PostsMembers setting.client .checkoutOrder
          [("method", .integer 1), ("trade_no", .text "T1")] payment := by
  intro setting before c created
  have hplan : Json.IsSigned 7 := ⟨by decide, by decide⟩
  have hmethod : Json.IsSigned 1 := ⟨by decide, by decide⟩
  obtain ⟨order, payment, hsent, horder, hpayment⟩ :=
    (order_then_payment setting ⟨.memory []⟩ hplan "Gold" before).1 "month_price" (some " SAVE ") 1
      [] [.reply created, .takeEffect] hmethod rfl rfl
  exact ⟨order, payment _, hsent, horder, hpayment ⟨.text "T1", .object [("data", .text "T1")]⟩⟩

end Checkout

end PanelClient
