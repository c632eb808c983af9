import PanelClient.Screen.Checkout
import PanelClient.Proofs.Backend.Query
import PanelClient.Proofs.Controller.Course

/-!
# The stages of a checkout

The checkout only ever waits for one of four replies (`Stage`). `Stage.next` says which reply it
waits for after another, and `Stage.effects` what it asks for then; the screen's programs take just
these courses (`takes_load`, `takes_order`, `takes_resume`).
-/

namespace PanelClient.Checkout

open Program

inductive Stage where
  | plans
  | methods
  | order (period : String) (couponCode : Option String) (method : Int)
  | payment (tradeNo : String) (method : Int)

def settled (result : CheckoutResult) : List Effect :=
  match result.paymentUrl? with
  | some url => [.openUrl url]
  | none => if result.isCompleted then [.toast paymentSucceeded, .finish .ok] else []

/-- The record that the reply to a payment holds. -/
def result? (reply : Http.Reply) : Option CheckoutResult :=
  (Outcome.ofReply reply).value?.bind fun payload =>
    (Record.decode (Operation.checkoutSource payload) :
      Except Record.Reason CheckoutResult).toOption

namespace Stage

/-- What is waited for after a reply. -/
def next : Stage → Http.Reply → Option Stage
  | plans, _ => some methods
  | methods, _ => none
  | order _ _ method, reply =>
    (Outcome.ofReply reply).value?.map fun payload =>
      payment (Operation.tradeNumber payload.data) method
  | payment .., _ => none

/-- What is asked for after a reply. -/
def effects : Stage → Http.Reply → List Effect
  | payment .., reply => ((result? reply).map settled).getD []
  | _, _ => []

/-- The call whose reply is waited for. -/
def call (planId : Int) : Stage → Call
  | plans => Operation.getPlans.call
  | methods => Operation.getPaymentMethods.call
  | order period couponCode _ =>
    (Operation.createOrder planId period (couponCode.bind Text.trimmed?)).call
  | payment tradeNo method => (Operation.checkoutOrder tradeNo method).call

/-- How the screen goes on with the reply. -/
def resume (client : Client) (planId : Int) : Stage → Http.Reply → Program View Unit
  | plans, reply =>
    (onSession (Operation.getPlans.finish client reply)).bind (showPlans client planId)
  | methods, reply =>
    (onSession (Operation.getPaymentMethods.finish client reply)).bind showMethods
  | order period couponCode method, reply =>
    (onSession ((Operation.createOrder planId period (couponCode.bind Text.trimmed?)).finish client
      reply)).bind (payOrder client method)
  | payment tradeNo method, reply =>
    (onSession ((Operation.checkoutOrder tradeNo method).finish client reply)).bind conclude

/-- A call and how the screen goes on with its reply. -/
def wait (client : Client) (planId : Int) (stage : Stage) :
    Call × (Http.Reply → Program View Unit) :=
  (stage.call planId, stage.resume client planId)

/-- What the screen does with a reply. -/
def course (client : Client) (planId : Int) (stage : Stage) (reply : Http.Reply) : Course View :=
  ⟨stage.effects reply, (stage.next reply).map (wait client planId)⟩

end Stage

/-! ## The courses of the screen's programs -/

section Courses

variable (setting : Setting) (client : Client) (planId : Int)

theorem takes_load :
    (load client planId).Takes setting ⟨[], some (Stage.plans.wait client planId)⟩ :=
  ((takes_exchange _ _).update _).update _

theorem takes_order (period : String) (couponCode : Option String) (method : Int) :
    (order client planId period couponCode method).Takes setting
      ⟨[], some ((Stage.order period couponCode method).wait client planId)⟩ :=
  ((takes_exchange _ _).update _).update _

theorem takes_onLifecycle (planName : String) (signal : Lifecycle) :
    ((screen client planId planName).onLifecycle signal).Takes setting .finish ∨
      ((screen client planId planName).onLifecycle signal).Takes setting
        ⟨[], some (Stage.plans.wait client planId)⟩ := by
  cases signal with
  | resumed => exact .inr (takes_load setting client planId)
  | _ => exact .inl takes_done

theorem takes_showMethods (outcome : Outcome (List PaymentMethod)) :
    (showMethods outcome).Takes setting .finish := by
  have last : (setLoading false : Program View Unit).Takes setting .finish := takes_done.update _
  cases outcome <;> exact last.update _

theorem takes_showPlans (outcome : Outcome (List Plan)) :
    (showPlans client planId outcome).Takes setting
      ⟨[], some (Stage.methods.wait client planId)⟩ := by
  have last : (exchange Operation.getPaymentMethods.call
      (Stage.methods.resume client planId)).Takes setting
        ⟨[], some (Stage.methods.wait client planId)⟩ := takes_exchange _ _
  cases outcome with
  | success plans =>
    unfold showPlans
    dsimp only
    cases findPlan planId plans with
    | none => exact last.log _
    | some plan => exact last.update _
  | _ => exact last.update _

theorem takes_fail (message : String) :
    (fail message : Program View Unit).Takes setting .finish :=
  takes_done.update _

theorem takes_payOrder (method : Int) (outcome : Outcome String) :
    (payOrder client method outcome).Takes setting
      ⟨[], outcome.value?.map fun tradeNo =>
        (Stage.payment tradeNo method).wait client planId⟩ := by
  cases outcome with
  | success tradeNo => exact (takes_exchange _ _).log _
  | invalid message fieldErrors => exact takes_fail setting message
  | unreachable message => exact takes_fail setting _
  | unauthorized message => exact (takes_fail setting _).log _
  | serverError message => exact (takes_fail setting _).log _

theorem takes_settle (result : CheckoutResult) :
    (settle result).Takes setting ⟨settled result, none⟩ := by
  unfold settle settled
  cases result.paymentUrl? with
  | some url => exact (takes_done.ask _).update _
  | none =>
    dsimp only
    split
    · exact ((takes_done.ask _).ask _).update _
    · exact (takes_fail setting _).log _

theorem takes_conclude (outcome : Outcome CheckoutResult) :
    (conclude outcome).Takes setting ⟨(outcome.value?.map settled).getD [], none⟩ := by
  cases outcome with
  | success result => exact takes_settle setting result
  | invalid message fieldErrors => exact takes_fail setting message
  | unreachable message => exact (takes_fail setting _).log _
  | unauthorized message => exact (takes_fail setting _).log _
  | serverError message => exact (takes_fail setting _).log _

theorem createOrder_value (period : String) (couponCode : Option String) (reply : Http.Reply)
    (session : Session) :
    ((Operation.createOrder planId period couponCode).finish client reply session).value.value? =
      (Outcome.ofReply reply).value?.map fun payload => Operation.tradeNumber payload.data := by
  rw [Operation.finish_value]
  cases houtcome : Outcome.ofReply reply <;> rfl

theorem checkoutOrder_value (tradeNo : String) (method : Int) (reply : Http.Reply)
    (session : Session) :
    ((Operation.checkoutOrder tradeNo method).finish client reply session).value.value? =
      result? reply := by
  rw [Operation.finish_value]
  cases houtcome : Outcome.ofReply reply with
  | success payload =>
    simp only [Operation.checkoutOrder, Operation.onSuccess, Operation.decodeRecord, result?,
      houtcome, Outcome.value?, Option.bind_some]
    cases (Record.decode (Operation.checkoutSource payload) :
      Except Record.Reason CheckoutResult) <;> rfl
  | _ => simp [result?, houtcome]; rfl

/-- With every reply the screen takes the course of its stage. -/
theorem takes_resume (stage : Stage) (reply : Http.Reply) :
    (stage.resume client planId reply).Takes setting (stage.course client planId reply) := by
  cases stage with
  | plans =>
    exact .work (Query.keeps_finish .getPlans rfl client reply) fun _ =>
      takes_showPlans setting client planId _
  | methods =>
    exact .work (Query.keeps_finish .getPaymentMethods rfl client reply) fun _ =>
      takes_showMethods setting _
  | order period couponCode method =>
    refine .work (Query.keeps_finish (.createOrder ..) rfl client reply) fun session => ?_
    have course := takes_payOrder setting client planId method
      ((Operation.createOrder planId period (couponCode.bind Text.trimmed?)).finish client reply
        session).value
    rw [createOrder_value, Option.map_map] at course
    simp only [Stage.course, Stage.next, Option.map_map]
    exact course
  | payment tradeNo method =>
    refine .work (Query.keeps_finish (.checkoutOrder ..) rfl client reply)
      fun session => ?_
    have course := takes_conclude setting
      ((Operation.checkoutOrder tradeNo method).finish client reply session).value
    rw [checkoutOrder_value] at course
    exact course

end Courses

/-! ## The requests of the stages -/

/-- The request is a post to the endpoint. -/
def posts (client : Client) (endpoint : Endpoint) (request : Http.Request) : Bool :=
  request.method == .post && request.url == client.baseUrl ++ endpoint.path

theorem posts_request (client : Client) (endpoint : Endpoint) (session : Session) (call : Call) :
    posts client endpoint (client.request session call) =
      (call.body.isSome && call.path == endpoint.path) := by
  have hurl : (client.baseUrl ++ call.path == client.baseUrl ++ endpoint.path) =
      (call.path == endpoint.path) := by
    rw [Bool.eq_iff_iff, beq_iff_eq, beq_iff_eq, String.append_right_inj]
  simp only [posts, Client.request, Client.method, Client.url, hurl]
  cases call.body <;> rfl

/-- Where the call of a stage is posted to, if it is a post. -/
def Stage.posted? : Stage → Option Endpoint
  | plans | methods => none
  | order .. => some .createOrder
  | payment .. => some .checkoutOrder

/-- Only orders and payments are posted, each to its endpoint. -/
theorem posts_call (client : Client) (session : Session) (planId : Int) (stage : Stage)
    (endpoint : Endpoint) :
    posts client endpoint (client.request session (stage.call planId)) =
      (stage.posted? == some endpoint) := by
  rw [posts_request]
  cases stage with
  | plans => rfl
  | methods => rfl
  | order period couponCode method =>
    show (Endpoint.createOrder.path == endpoint.path) = (some Endpoint.createOrder == some endpoint)
    rw [Bool.eq_iff_iff, beq_iff_eq, beq_iff_eq, Endpoint.path_inj, Option.some_inj]
  | payment tradeNo method =>
    show (Endpoint.checkoutOrder.path == endpoint.path) =
      (some Endpoint.checkoutOrder == some endpoint)
    rw [Bool.eq_iff_iff, beq_iff_eq, beq_iff_eq, Endpoint.path_inj, Option.some_inj]

/-! ## Runs of the screen -/

/-- The controller waits at a stage, for the reply to its last request. -/
structure WaitsAt (client : Client) (planId : Int) (stage : Stage)
    (c : Controller Request View) : Prop where
  activity : ∃ job, c.activity = .busy job (.reply (stage.resume client planId))
  sent : c.scene.sent.getLast? = some (client.request c.scene.session (stage.call planId))

/-- The controller runs the checkout of a plan, and if it is busy, it waits at a stage. -/
structure Staged (setting : Setting) (planId : Int) (planName : String)
    (c : Controller Request View) : Prop where
  screen_eq : c.screen = screen setting.client planId planName
  setting_eq : c.setting = setting
  waits : ∀ job paused, c.activity = .busy job paused →
    ∃ stage, WaitsAt setting.client planId stage c

/-- The stage does not follow another. -/
def Stage.isFirst : Stage → Bool
  | plans | order .. => true
  | methods | payment .. => false

section Runs

variable {setting : Setting} {planId : Int} {planName : String} {c after : Controller Request View}

theorem staged_opening (session : Session) :
    Staged setting planId planName
      (Controller.opening (screen setting.client planId planName) setting session) where
  screen_eq := rfl
  setting_eq := rfl
  waits _ _ hactivity := by cases hactivity

theorem Staged.of_stays (h : Staged setting planId planName c)
    (hstays : Controller.Stays c after) : Staged setting planId planName after where
  screen_eq := hstays.screen.trans h.screen_eq
  setting_eq := hstays.setting.trans h.setting_eq
  waits job paused hactivity := by
    rcases hstays.activity with hsame | hstopped
    · obtain ⟨stage, ⟨job, hwaits⟩, hsent⟩ := h.waits job paused (hsame ▸ hactivity)
      exact ⟨stage, ⟨job, hsame.trans hwaits⟩, by rw [hstays.sent, hstays.session, hsent]⟩
    · rw [hstopped] at hactivity
      cases hactivity

theorem waitsAt_of_served (hsetting : c.setting = setting) {job : Job} {effects : List Effect}
    {stage : Stage}
    (hserved : Controller.Served job ⟨effects, some (stage.wait setting.client planId)⟩ c after) :
    WaitsAt setting.client planId stage after := by
  refine ⟨⟨job, hserved.activity⟩, ?_⟩
  rw [hserved.scene.session, hserved.scene.sent, hsetting]
  exact List.getLast?_concat ..

theorem Staged.of_served (h : Staged setting planId planName c) {job : Job}
    {effects : List Effect} {stage? : Option Stage}
    (hserved : Controller.Served job ⟨effects, stage?.map (Stage.wait setting.client planId)⟩ c
      after) : Staged setting planId planName after where
  screen_eq := hserved.screen.trans h.screen_eq
  setting_eq := hserved.setting.trans h.setting_eq
  waits busyJob paused hactivity := by
    cases stage? with
    | none =>
      rw [hserved.activity] at hactivity
      cases hactivity
    | some stage => exact ⟨stage, waitsAt_of_served h.setting_eq hserved⟩

theorem WaitsAt.program? {stage : Stage} (h : WaitsAt setting.client planId stage c)
    (move : Controller.Move Request) :
    ∃ job, c.program? move =
      move.reply?.map fun reply => (job, stage.resume setting.client planId reply) := by
  obtain ⟨job, hactivity⟩ := h.activity
  exact ⟨job, Controller.program?_of_waits hactivity move⟩

theorem WaitsAt.awaits {stage : Stage} (h : WaitsAt setting.client planId stage c) :
    c.Awaits (setting.client.request c.scene.session (stage.call planId)) := by
  obtain ⟨job, hactivity⟩ := h.activity
  exact ⟨⟨job, _, hactivity⟩, h.sent⟩

theorem Staged.of_awaits (h : Staged setting planId planName c) {request : Http.Request}
    (hawaits : c.Awaits request) : ∃ stage, WaitsAt setting.client planId stage c := by
  obtain ⟨job, next, hactivity⟩ := hawaits.activity
  exact h.waits job _ hactivity

/-- Whatever program a move has the controller run, it goes on from the stage with the reply that
came, or it begins anew and comes to a first stage at most. -/
theorem Staged.program_cases (h : Staged setting planId planName c)
    {move : Controller.Move Request} {job : Job} {program : Program View Unit}
    (hprogram : c.program? move = some (job, program)) :
    (∃ stage reply, WaitsAt setting.client planId stage c ∧ move = .reply reply ∧
        program = stage.resume setting.client planId reply) ∨
      ∃ stage? : Option Stage, move.reply? = none ∧ (∀ stage ∈ stage?, stage.isFirst = true) ∧
        program.Takes c.setting ⟨[], stage?.map (Stage.wait setting.client planId)⟩ := by
  unfold Controller.program? at hprogram
  split at hprogram
  · cases hprogram
    rw [h.screen_eq]
    exact .inr ⟨some .plans, rfl, by simp [Stage.isFirst], takes_load _ _ _⟩
  · cases hsignals : c.signals with
    | nil => simp [hsignals] at hprogram
    | cons signal rest =>
      simp only [hsignals, List.head?_cons, Option.map_some, Option.some.injEq,
        Prod.mk.injEq] at hprogram
      obtain ⟨-, rfl⟩ := hprogram
      rw [h.screen_eq]
      rcases takes_onLifecycle c.setting setting.client planId planName signal with htakes | htakes
      · exact .inr ⟨none, rfl, by simp, htakes⟩
      · exact .inr ⟨some .plans, rfl, by simp [Stage.isFirst], htakes⟩
  · cases hrequests : c.requests with
    | nil => simp [hrequests] at hprogram
    | cons request rest =>
      simp only [hrequests, List.head?_cons, Option.map_some, Option.some.injEq,
        Prod.mk.injEq] at hprogram
      obtain ⟨-, rfl⟩ := hprogram
      rw [h.screen_eq]
      obtain ⟨period, couponCode, method⟩ := request
      exact .inr ⟨some (.order period couponCode method), rfl, by simp [Stage.isFirst],
        takes_order _ _ _ _ _ _⟩
  · next reply job next hactivity =>
    cases hprogram
    obtain ⟨stage, hwaits⟩ := h.waits _ _ hactivity
    obtain ⟨_, hstage⟩ := hwaits.activity
    rw [hactivity] at hstage
    cases hstage
    exact .inl ⟨stage, _, hwaits, rfl, rfl⟩
  · next hactivity =>
    obtain ⟨stage, ⟨_, hstage⟩, _⟩ := h.waits _ _ hactivity
    rw [hactivity] at hstage
    cases hstage
  · next hactivity =>
    obtain ⟨stage, ⟨_, hstage⟩, _⟩ := h.waits _ _ hactivity
    rw [hactivity] at hstage
    cases hstage
  · cases hprogram

theorem Staged.step (h : Staged setting planId planName c) (move : Controller.Move Request) :
    Staged setting planId planName (c.step move) := by
  cases hprogram : c.program? move with
  | none => exact h.of_stays (Controller.step_of_no_program hprogram)
  | some served =>
    obtain ⟨job, program⟩ := served
    rcases h.program_cases hprogram with ⟨stage, reply, -, -, rfl⟩ | ⟨stage?, -, -, htakes⟩
    · exact h.of_served (Controller.step_of_program hprogram (takes_resume _ _ _ stage reply))
    · exact h.of_served (Controller.step_of_program hprogram htakes)

theorem staged_steps (setting : Setting) (planId : Int) (planName : String) (session : Session)
    (moves : List (Controller.Move Request)) :
    Staged setting planId planName
      ((Controller.opening (screen setting.client planId planName) setting session).steps moves) :=
  Controller.steps_induction (staged_opening session) (fun _ move h => h.step move) moves

end Runs

end PanelClient.Checkout
