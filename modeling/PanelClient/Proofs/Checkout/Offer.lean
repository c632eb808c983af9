import PanelClient.Proofs.Backend.Listing
import PanelClient.Proofs.Record.Members
import PanelClient.Proofs.Screen.Populated

/-!
# What a checkout offers

Which periods a checkout offers, and for what, is told from the reply itself: by the item of its
list that is the first with the number of the plan (`Plan.IsFirst`), and in this by the members that
are integers (`Plan.offered`). A plan that was decoded says the same as its item
(`Plan.periods_of_decode`), and the first plan with the number is decoded from the first item
(`Plan.find_of_forall₂`, by induction over the list). So a checkout that was loaded offers just
these periods, at just these prices, whatever it showed before (`Checkout.offered_as_listed`).
-/

namespace PanelClient

open Record

/-! ## What a list brings -/

namespace Operation

variable {α : Type} [Readable α] (endpoint : Endpoint) (what : String) (session : Session)

theorem value?_fetchList_of_ok (body : String) :
    ∃ records, ((fetchList α endpoint what).complete (.ofReply (.response 200 body))
        session).value.value? = some records ∧
      ListsOrNone (Payload.ofBody body).data records := by
  obtain ⟨records, hvalue, hlists⟩ :=
    fetchList_success (α := α) endpoint what (.ofBody body) session
  exact ⟨records, congrArg Outcome.value? hvalue, hlists⟩

theorem value?_fetchList_of_failed {reply : Http.Reply} (h : ∀ body, reply ≠ .response 200 body) :
    ((fetchList α endpoint what).complete (.ofReply reply) session).value.value? = none := by
  have hfailed : (Outcome.ofReply reply).isSuccess = false := by
    rw [Bool.eq_false_iff, Ne, Outcome.isSuccess_ofReply]
    rintro ⟨body, hreply⟩
    exact h body hreply
  rw [← fetchList_isSuccess (α := α) endpoint what _ session] at hfailed
  exact Option.isNone_iff_eq_none.1 (Option.isSome_eq_false_iff.1 hfailed)

end Operation

/-! ## Plans as they are listed -/

namespace Plan

/-- What the item of a list holds of a member of a plan. -/
def held? (item : Json) (name : String) : Option Json :=
  (Readable.reader : RecordReader Plan).held? item name

/-- The integer that an item holds under a name. -/
def integer? (item : Json) (name : String) : Option Int :=
  (held? item name).bind Json.integer?

/-- The number of an item; one that is missing counts as zero. -/
def number (item : Json) : Int :=
  (integer? item "id").getD 0

/-- The name of an item; one that is missing counts as empty. -/
def title (item : Json) : String :=
  ((held? item "name").bind Json.text?).getD ""

/-- The periods that an item has a price for, in order. -/
def offered (item : Json) : List PlanPeriod :=
  periodKeys.filterMap fun key => (integer? item key).map fun price => ⟨key, price⟩

/-- The reply lists plans, each of which can be read, and this item is the first with the
number. -/
def IsFirst (planId : Int) (reply : Http.Reply) (item : Json) : Prop :=
  ∃ body items, reply = .response 200 body ∧ (Payload.ofBody body).data = .array items ∧
    (∃ plans : List Plan, Lists (.array items) plans) ∧
    items.find? (fun other => number other == planId) = some item

/-- A plan that was decoded says what its item holds. -/
theorem eq_of_decode {item : Json} {plan : Plan} (h : Record.decode item = .ok plan) :
    plan.id = number item ∧ plan.name = title item ∧
      plan.monthPrice = integer? item "month_price" ∧
      plan.quarterPrice = integer? item "quarter_price" ∧
      plan.halfYearPrice = integer? item "half_year_price" ∧
      plan.yearPrice = integer? item "year_price" ∧
      plan.twoYearPrice = integer? item "two_year_price" ∧
      plan.threeYearPrice = integer? item "three_year_price" ∧
      plan.onetimePrice = integer? item "onetime_price" := by
  have hread : (Readable.reader : RecordReader Plan).read (held? item) = .ok plan :=
    RecordReader.read_of_decode h
  -- The members are taken off from the last to the first.
  simp only [Readable.reader, RecordReader.read_seq_eq_ok, RecordReader.read_map_eq_ok] at hread
  obtain ⟨_, _, ⟨_, _, ⟨_, _, ⟨_, _, hread, -, rfl⟩, -, rfl⟩, -, rfl⟩, -, rfl⟩ := hread
  obtain ⟨_, _, ⟨_, _, ⟨_, _, hread, htwoYear, rfl⟩, hthreeYear, rfl⟩, honetime, rfl⟩ := hread
  obtain ⟨_, _, ⟨_, _, ⟨_, _, hread, hquarter, rfl⟩, hhalfYear, rfl⟩, hyear, rfl⟩ := hread
  obtain ⟨_, _, ⟨_, _, ⟨_, _, hread, -, rfl⟩, -, rfl⟩, hmonth, rfl⟩ := hread
  obtain ⟨_, _, ⟨_, _, ⟨_, hid, rfl⟩, -, rfl⟩, hname, rfl⟩ := hread
  have hprice {name : String} {price : Option Int}
      (h : (RecordReader.member name none (optional signed)).read (held? item) = .ok price) :
      price = integer? item name :=
    RecordReader.eq_of_read_optional RecordReader.isPart_signed h
  exact ⟨RecordReader.eq_of_read_withDefault RecordReader.isPart_signed hid,
    RecordReader.eq_of_read_withDefault RecordReader.isPart_words hname, hprice hmonth,
    hprice hquarter, hprice hhalfYear, hprice hyear, hprice htwoYear, hprice hthreeYear,
    hprice honetime⟩

/-- A plan that was decoded has the periods that its item offers. -/
theorem periods_of_decode {item : Json} {plan : Plan} (h : Record.decode item = .ok plan) :
    plan.periods = offered item := by
  obtain ⟨-, -, hmonth, hquarter, hhalfYear, hyear, htwoYear, hthreeYear, honetime⟩ :=
    eq_of_decode h
  apply List.filterMap_congr
  intro key hkey
  have hprice : plan.priceFor key = integer? item key := by
    simp only [periodKeys, List.mem_cons, List.not_mem_nil, or_false] at hkey
    rcases hkey with rfl | rfl | rfl | rfl | rfl | rfl | rfl
    · exact hmonth
    · exact hquarter
    · exact hhalfYear
    · exact hyear
    · exact htwoYear
    · exact hthreeYear
    · exact honetime
  rw [hprice]

/-- Nothing is offered under a name that is no period, such as that of the reset of the traffic. -/
theorem key_of_mem_offered {item : Json} {period : PlanPeriod} (h : period ∈ offered item) :
    period.key ∈ periodKeys := by
  obtain ⟨key, hkey, hperiod⟩ := List.mem_filterMap.1 h
  obtain ⟨price, -, rfl⟩ := Option.map_eq_some_iff.1 hperiod
  exact hkey

/-- The first item with a number is the plan that is found by it. -/
theorem find_of_forall₂ {items : List Json} {plans : List Plan}
    (h : List.Forall₂ (fun item plan => Record.decode item = .ok plan) items plans)
    (planId : Int) :
    Option.Rel (fun item plan => Record.decode item = .ok plan)
      (items.find? fun item => number item == planId) (findPlan planId plans) := by
  induction h with
  | nil => exact .none
  | @cons item plan items plans hplan _ ih =>
    have hnumber : plan.id = number item := (eq_of_decode hplan).1
    by_cases hid : number item = planId
    · rw [List.find?_cons_of_pos (by simpa using hid), findPlan,
        List.find?_cons_of_pos (by simpa [hnumber] using hid)]
      exact .some hplan
    · rw [List.find?_cons_of_neg (by simpa using hid), findPlan,
        List.find?_cons_of_neg (by simpa [hnumber] using hid)]
      exact ih

section Listed

variable {body : String} {items : List Json} {plans : List Plan} (planId : Int)

theorem isFirst_iff (hdata : (Payload.ofBody body).data = .array items)
    (hplans : List.Forall₂ (fun item plan => Record.decode item = .ok plan) items plans)
    (item : Json) : IsFirst planId (.response 200 body) item ↔
      items.find? (fun other => number other == planId) = some item := by
  constructor
  · rintro ⟨_, others, hreply, hothers, -, hfind⟩
    cases hreply
    cases hdata.symm.trans hothers
    exact hfind
  · intro hfind
    exact ⟨body, items, rfl, hdata, ⟨plans, items, rfl, hplans⟩, hfind⟩

/-- A plan is found in what a payload lists exactly if there is a first item with the number. -/
theorem find_of_listsOrNone (h : ListsOrNone (Payload.ofBody body).data plans) :
    (∃ item plan, IsFirst planId (.response 200 body) item ∧ Record.decode item = .ok plan ∧
        findPlan planId plans = some plan) ∨
      (∀ item, ¬ IsFirst planId (.response 200 body) item) ∧ findPlan planId plans = none := by
  rcases h with ⟨items, hdata, hplans⟩ | ⟨rfl, hnone⟩
  · have hfirst := isFirst_iff planId hdata hplans
    have hfound := find_of_forall₂ hplans planId
    generalize findPlan planId plans = plan? at hfound ⊢
    cases hfind : items.find? fun other => number other == planId with
    | none =>
      rw [hfind] at hfound
      cases hfound
      exact .inr ⟨fun item hitem => by simp [hfirst, hfind] at hitem, rfl⟩
    | some item =>
      rw [hfind] at hfound
      cases hfound with
      | some hplan => exact .inl ⟨item, _, (hfirst item).2 hfind, hplan, rfl⟩
  · refine .inr ⟨?_, rfl⟩
    rintro item ⟨_, others, hreply, hothers, ⟨plans, hplans⟩, -⟩
    cases hreply
    exact hnone plans (hothers ▸ hplans)

end Listed

theorem IsFirst.unique {planId : Int} {reply : Http.Reply} {item other : Json}
    (hitem : IsFirst planId reply item) (hother : IsFirst planId reply other) : item = other := by
  obtain ⟨body, items, rfl, hdata, -, hfind⟩ := hitem
  obtain ⟨_, _, hreply, hdata', -, hfind'⟩ := hother
  cases hreply
  cases hdata.symm.trans hdata'
  exact Option.some.inj (hfind.symm.trans hfind')

/-- The plan with the number, if the reply brings plans and it is one of them. -/
def found? (planId : Int) (reply : Http.Reply) : Option Plan :=
  let plans : Outcome (List Plan) := Query.getPlans.outcome reply
  plans.value?.bind (findPlan planId)

/-- A plan is found exactly if the reply has a first item with the number. -/
theorem found?_cases (planId : Int) (reply : Http.Reply) :
    (∃ item plan, IsFirst planId reply item ∧ Record.decode item = .ok plan ∧
        found? planId reply = some plan) ∨
      (∀ item, ¬ IsFirst planId reply item) ∧ found? planId reply = none := by
  by_cases hok : ∃ body, reply = .response 200 body
  · obtain ⟨body, rfl⟩ := hok
    obtain ⟨plans, hplans, hlists⟩ := Operation.value?_fetchList_of_ok (α := Plan) .plans "plans"
      ⟨.memory []⟩ body
    have hfound : found? planId (.response 200 body) = findPlan planId plans :=
      congrArg (Option.bind · (findPlan planId)) hplans
    rw [hfound]
    exact find_of_listsOrNone planId hlists
  · have hnone := Operation.value?_fetchList_of_failed (α := Plan) .plans "plans" ⟨.memory []⟩
      fun body hreply => hok ⟨body, hreply⟩
    refine .inr ⟨?_, congrArg (Option.bind · (findPlan planId)) hnone⟩
    rintro item ⟨body, _, hreply, -⟩
    exact hok ⟨body, hreply⟩

end Plan

namespace Checkout

open Program Controller

/-- The periods and the name of the plan are those of the first item that is listed with its number;
an empty name does not count. Without such an item they stay as they are. -/
structure Offers (planId : Int) (reply : Http.Reply) (before after : View) : Prop where
  listed : ∀ item, Plan.IsFirst planId reply item →
    after.periods = Plan.offered item ∧ (∀ period ∈ after.periods, period.key ≠ "reset_price") ∧
      after.planName = if Plan.title item = "" then before.planName else Plan.title item
  unlisted : (∀ item, ¬ Plan.IsFirst planId reply item) →
    after.periods = before.periods ∧ after.planName = before.planName

/-- A success brings all the ways to pay that it lists, or none if anything about the list is wrong;
nothing else changes them. -/
def Accepts (reply : Http.Reply) (before after : View) : Prop :=
  match reply with
  | .response 200 body => ListsOrNone (Payload.ofBody body).data after.paymentMethods
  | _ => after.paymentMethods = before.paymentMethods

theorem offers_shows (planId : Int) (reply : Http.Reply) (methods : Outcome (List PaymentMethod))
    (view : View) :
    Offers planId reply view (shows planId (Query.getPlans.outcome reply) methods view) := by
  have hperiods : (shows planId (Query.getPlans.outcome reply) methods view).periods =
      ((Plan.found? planId reply).map Plan.periods).getD view.periods := rfl
  have hname : (shows planId (Query.getPlans.outcome reply) methods view).planName =
      (((Plan.found? planId reply).map Plan.name).filter fun name => !name.isEmpty).getD
        view.planName := rfl
  rcases Plan.found?_cases planId reply with ⟨item, plan, hfirst, hplan, hfound⟩ | ⟨hnone, hfound⟩
  · rw [hfound, Option.map_some] at hperiods hname
    rw [Option.getD_some, Plan.periods_of_decode hplan] at hperiods
    rw [getD_filter_isEmpty, (Plan.eq_of_decode hplan).2.1] at hname
    constructor
    · intro other hother
      obtain rfl := hfirst.unique hother
      refine ⟨hperiods, ?_, ?_⟩
      · rw [hperiods]
        intro period hperiod heq
        have hkey := Plan.key_of_mem_offered hperiod
        rw [heq] at hkey
        exact absurd hkey (by decide)
      · simpa only [String.isEmpty_iff] using hname
    · intro hnone
      exact absurd hfirst (hnone item)
  · rw [hfound] at hperiods hname
    constructor
    · intro item hfirst
      exact absurd hfirst (hnone item)
    · intro _
      exact ⟨hperiods, hname⟩

theorem accepts_shows (planId : Int) (plans : Outcome (List Plan)) (reply : Http.Reply)
    (view : View) :
    Accepts reply view (shows planId plans (Query.getPaymentMethods.outcome reply) view) := by
  unfold Accepts
  split
  · next body =>
    obtain ⟨methods, hmethods, hlists⟩ := Operation.value?_fetchList_of_ok (α := PaymentMethod)
      .paymentMethods "payment methods" ⟨.memory []⟩ body
    have hshown : (shows planId plans (Query.getPaymentMethods.outcome (.response 200 body))
        view).paymentMethods = methods :=
      congrArg (Option.getD · view.paymentMethods) hmethods
    rw [hshown]
    exact hlists
  · next hreply =>
    have hnone := Operation.value?_fetchList_of_failed (α := PaymentMethod) .paymentMethods
      "payment methods" ⟨.memory []⟩ fun body heq => hreply body heq
    exact congrArg (Option.getD · view.paymentMethods) hnone

/-- When a checkout loads, its two calls are answered one after the other, and nothing else is
waited for. What it shows then is told by the replies. If the list of plans can be read and has items
with the plan's number, the periods are those for which the first of them has a price that is an
integer, in the order of the periods, each at that price and the reset of the traffic never among
them, and the name is that of the item unless it is empty; otherwise periods and name are those from
before. The ways to pay are replaced exactly if the call for them succeeds, whatever became of the
plans. -/
theorem offered_as_listed (planId : Int) (planName : String) (c : Controller Request View)
    (move : Controller.Move Request) (moves : List (Controller.Move Request))
    (input : Input Request) (hscreen : c.screen = screen c.setting.client planId planName)
    (hbegins : c.begins move = [input]) (hload : input = .load ∨ input = .signal .resumed)
    (hserves : (c.step move).Serves moves)
    (hup : (c.steps (move :: moves)).scene.tornDown = false) :
    let last := c.steps (move :: moves)
    let replies := (c.along told (move :: moves)).filterMap Answer.reply?
    (∃ job next, last.activity = .busy job (.reply next)) ∧ replies.length < 2 ∨
      ∃ plans methods, replies = [plans, methods] ∧ last.activity = .waiting ∧
        Offers planId plans c.scene.view last.scene.view ∧
        Accepts methods c.scene.view last.scene.view := by
  intro last replies
  let page : Page := .checkout planId planName
  have hprogram : (c.screen.program input).Ensures
      (AwaitsCall page.calls (c.scene.progress [] []))
      (fun _ => EndsPopulated page.calls (fun replies _ => populated planId planName replies)
        (c.scene.progress [] [])) (c.scene.progress [] []) := by
    have hprogram : c.screen.program input = load c.setting.client planId := by
      rw [hscreen]
      rcases hload with rfl | rfl <;> rfl
    rw [hprogram]
    exact ensures_load c.setting.client planId planName rfl rfl
  have hstands := (stands_of_begins hbegins (up_of_steps hup) hprogram).steps hserves hup
  have htold : c.along told (move :: moves) = (c.step move).along told moves := by
    rw [along, told_of_begins hbegins, List.nil_append]
  rw [List.nil_append, ← htold] at hstands
  rcases hstands.waits_or_ends with ⟨hwaiting, hends⟩ | ⟨job, paused, errand, hbusy, hleads⟩
  · right
    obtain ⟨-, hlength, hview⟩ := hends
    have hlength : replies.length = 2 := hlength
    have hview : last.scene.view = populated planId planName replies c.scene.view := hview
    obtain ⟨plans, methods, hreplies⟩ := List.length_eq_two.1 hlength
    have hplans : page.outcome? [plans, methods] .getPlans =
        some (Query.getPlans.outcome plans) := rfl
    have hmethods : page.outcome? [plans, methods] .getPaymentMethods =
        some (Query.getPaymentMethods.outcome methods) := rfl
    refine ⟨plans, methods, hreplies, hwaiting, ?_⟩
    rw [hview, hreplies, populated_eq hplans hmethods]
    exact ⟨offers_shows planId plans _ _, accepts_shows planId _ methods _⟩
  · left
    obtain ⟨-, query, hquery, rfl⟩ := hleads.holds
    have hmissing : replies.length < 2 := (List.getElem?_eq_some_iff.1 hquery).1
    refine ⟨?_, hmissing⟩
    cases hleads with
    | reply hwait hnext => exact ⟨job, _, hbusy⟩

set_option maxRecDepth 4000 in
/-- A month for nothing is offered, a quarter without a price is not, and the name, which is empty,
does not count. The ways to pay cannot be fetched, and none are shown. -/
theorem offered_as_listed_of_free_month :
    let setting : Setting := ⟨⟨"https://panel.example"⟩, 60⟩
    let c := Controller.opening (screen setting.client 7 "Gold") setting ⟨.memory []⟩
    let body := "\x7b\"data\":[\x7b\"id\":7,\"month_price\":0,\"quarter_price\":null\x7d]\x7d"
    let last := c.steps [.start, .reply (.response 200 body), .reply (.response 401 "")]
    last.activity = .waiting ∧ last.scene.view.periods = [⟨"month_price", 0⟩] ∧
      last.scene.view.planName = "Gold" ∧ last.scene.view.paymentMethods = [] := by
  intro setting c body last
  let moves : List (Controller.Move Request) :=
    [.reply (.response 200 body), .reply (.response 401 "")]
  let item : Json :=
    .object [("id", .integer 7), ("month_price", .integer 0), ("quarter_price", .null)]
  have hdata : (Payload.ofBody body).data = .array [item] := by
    unfold body item
    rfl
  have hfirst : Plan.IsFirst 7 (.response 200 body) item :=
    ⟨body, [item], rfl, hdata, ⟨_, list_eq_ok_iff.1 rfl⟩, rfl⟩
  have hserves : (c.step .start).Serves moves := by
    refine ⟨⟨_, _, rfl⟩, ?_, trivial⟩
    have hpending : ((c.step .start).step (.reply (.response 200 body))).activity.pending = 1 := by
      decide +kernel
    generalize ((c.step .start).step (.reply (.response 200 body))).activity = activity
      at hpending ⊢
    cases activity with
    | busy job paused => exact ⟨job, paused, rfl⟩
    | _ => cases hpending
  have hreplied : (c.along told (.start :: moves)).filterMap Answer.reply? =
      [.response 200 body, .response 401 ""] := by decide +kernel
  obtain ⟨-, hmissing⟩ | ⟨plans, methods, hreplies, hwaiting, hoffers, haccepts⟩ :=
    offered_as_listed 7 "Gold" c .start moves .load rfl rfl (.inl rfl) hserves (by decide +kernel)
  · rw [hreplied] at hmissing
    exact absurd hmissing (by decide)
  · cases hreplied.symm.trans hreplies
    obtain ⟨hperiods, -, hname⟩ := hoffers.listed item hfirst
    exact ⟨hwaiting, hperiods, hname, haccepts⟩

end Checkout

end PanelClient
