import PanelClient.Controller.Run
import PanelClient.Proofs.Backend.Body
import PanelClient.Proofs.Backend.Query
import PanelClient.Proofs.Entries.Order

/-!
# What a request says

An operation that posts has arguments (`Query.arguments?`), and its body is read as the object of
those that were given, each under its name, and of nothing else (`Query.posted`). The other
operations fetch, and have no body. Either way one request is made, to the base address and the path
of the endpoint (`Query.says_what_was_asked`).
-/

namespace PanelClient

/-- All slashes at the end of an address are dropped, and nothing else. -/
theorem Client.dropSlashes_eq (url : String) :
    ∃ slashes, url.toList = (dropSlashes url).toList ++ List.replicate slashes '/' ∧
      (dropSlashes url).toList.getLast? ≠ some '/' := by
  have hslashes : url.toList.reverse.takeWhile (· == '/') =
      List.replicate (url.toList.reverse.takeWhile (· == '/')).length '/' := by
    apply List.eq_replicate_of_mem
    intro c hc
    simpa using List.mem_takeWhile_imp hc
  refine ⟨(url.toList.reverse.takeWhile (· == '/')).length, ?_, ?_⟩
  · calc url.toList
      _ = (url.toList.reverse.takeWhile (· == '/') ++
            url.toList.reverse.dropWhile (· == '/')).reverse := by
        rw [List.takeWhile_append_dropWhile, List.reverse_reverse]
      _ = (url.toList.reverse.dropWhile (· == '/')).reverse ++
            (url.toList.reverse.takeWhile (· == '/')).reverse := List.reverse_append
      _ = _ := by
        rw [hslashes, List.reverse_replicate, List.length_replicate, dropSlashes,
          String.toList_ofList]
  · rw [dropSlashes, String.toList_ofList, List.getLast?_reverse]
    intro hhead
    have hnot := List.head?_dropWhile_not (· == '/') url.toList.reverse
    rw [hhead] at hnot
    simp at hnot

/-- To perform an operation one request is sent. With its reply, whenever that comes, the program
goes on with the outcome, and nothing more has been sent. -/
theorem Program.perform_sends_once {σ α : Type} (setting : Setting) (operation : Operation α)
    (next : Outcome α → Program σ Unit) (scene : Scene σ) :
    ∃ resumed, ((perform setting.client operation).bind next).advance setting scene =
        ({ scene with
            sent := scene.sent ++ [setting.client.request scene.session operation.call] },
          .paused (.reply resumed)) ∧
      ∀ reply (later : Scene σ), ∃ worked : Scene σ, worked.sent = later.sent ∧
        (resumed reply).advance setting later =
          (next (operation.finish setting.client reply later.session).value).advance setting
            worked :=
  ⟨_, rfl, fun reply later =>
    ⟨later.work (fun session => (operation.finish setting.client reply session).session)
      fun session => (operation.finish setting.client reply session).events, rfl, rfl⟩⟩

namespace Query

/-- The arguments of an operation that posts, and the value that was given for each, if any. -/
def arguments? : Query → Option (List (String × Option Json))
  | login email password =>
    some [("email", some (.text email)), ("password", some (.text password))]
  | register email password inviteCode emailCode =>
    some [("email", some (.text email)), ("password", some (.text password)),
      ("invite_code", inviteCode.map .text), ("email_code", emailCode.map .text)]
  | forgotPassword email password emailCode =>
    some [("email", some (.text email)), ("password", some (.text password)),
      ("email_code", some (.text emailCode))]
  | sendEmailVerify email => some [("email", some (.text email))]
  | createOrder planId period couponCode =>
    some [("plan_id", some (.integer planId)), ("period", some (.text period)),
      ("coupon_code", couponCode.map .text)]
  | checkoutOrder tradeNo method =>
    some [("trade_no", some (.text tradeNo)), ("method", some (.integer method))]
  | _ => none

/-- The integers among the arguments fit signed words. -/
def IsSigned : Query → Prop
  | createOrder planId _ _ => Json.IsSigned planId
  | checkoutOrder _ method => Json.IsSigned method
  | _ => True

/-- What a request to a base address says is what a query asks: it goes to the endpoint, and either
fetches or has a body that is read as the object of the given arguments, and of no other member. -/
structure SaidBy (query : Query) (base : String) (request : Http.Request) : Prop where
  url : request.url = base ++ query.endpoint.path
  fetched : query.arguments? = none → request.method = .get ∧ request.body = none
  posted : ∀ arguments, query.arguments? = some arguments → request.method = .post ∧
    ∃ members, request.body.bind Json.parse? = some (.object members) ∧ Entries.Sorted members ∧
      ∀ name value, (name, value) ∈ members ↔ (name, some value) ∈ arguments

/-- The arguments that were given. -/
def given (arguments : List (String × Option Json)) : List (String × Json) :=
  arguments.filterMap fun argument => argument.2.map (Prod.mk argument.1)

theorem mem_given {arguments : List (String × Option Json)} {name : String} {value : Json} :
    (name, value) ∈ given arguments ↔ (name, some value) ∈ arguments := by
  simp only [given, List.mem_filterMap, Option.map_eq_some_iff, Prod.mk.injEq, Prod.exists]
  constructor
  · rintro ⟨_, _, hmem, _, rfl, rfl, rfl⟩
    exact hmem
  · intro hmem
    exact ⟨name, some value, hmem, value, rfl, rfl, rfl⟩

/-- The names of given arguments are among the names of all. -/
theorem given_names (arguments : List (String × Option Json)) :
    ((given arguments).map Prod.fst).Sublist (arguments.map Prod.fst) := by
  induction arguments with
  | nil => exact List.Sublist.slnil
  | cons argument rest ih =>
    obtain ⟨name, value⟩ := argument
    cases value with
    | none => exact ih.cons name
    | some value => exact ih.cons_cons name

variable {query : Query} {arguments : List (String × Option Json)}

theorem call_of_none (h : query.arguments? = none) :
    query.operation.call = Operation.fetch query.endpoint := by
  cases query <;> first | rfl | cases h

theorem call_of_some (h : query.arguments? = some arguments) :
    query.operation.call = Operation.post query.endpoint (given arguments) := by
  cases query with
  | register email password inviteCode emailCode =>
    cases h
    cases inviteCode <;> cases emailCode <;> rfl
  | createOrder planId period couponCode =>
    cases h
    cases couponCode <;> rfl
  | _ => cases h <;> rfl

theorem nodup_arguments (h : query.arguments? = some arguments) :
    (arguments.map Prod.fst).Nodup := by
  cases query <;> cases h <;> simp

/-- Every argument is read back from a body. -/
theorem isPostable_of_given (h : query.arguments? = some arguments) (hsigned : query.IsSigned) :
    ∀ member ∈ given arguments, member.2.IsPostable := by
  rintro ⟨name, value⟩ hmem
  have hargument : (name, some value) ∈ arguments := mem_given.1 hmem
  cases query with
  | createOrder planId period couponCode =>
    cases h
    simp only [List.mem_cons, Prod.mk.injEq, Option.some.injEq, List.not_mem_nil, or_false,
      eq_comm (a := some value), Option.map_eq_some_iff] at hargument
    rcases hargument with ⟨-, rfl⟩ | ⟨-, rfl⟩ | ⟨-, text, -, rfl⟩
    · exact Json.isPostable_integer hsigned
    · exact Json.isPostable_text period
    · exact Json.isPostable_text text
  | checkoutOrder tradeNo method =>
    cases h
    simp only [List.mem_cons, Prod.mk.injEq, Option.some.injEq, List.not_mem_nil, or_false]
      at hargument
    rcases hargument with ⟨-, rfl⟩ | ⟨-, rfl⟩
    · exact Json.isPostable_text tradeNo
    · exact Json.isPostable_integer hsigned
  | _ =>
    -- all other arguments are texts
    cases h <;>
    · simp only [List.mem_cons, Prod.mk.injEq, Option.some.injEq, List.not_mem_nil, or_false,
        eq_comm (a := some value), Option.map_eq_some_iff] at hargument
      have htext : ∃ text, value = .text text := by grind
      obtain ⟨text, rfl⟩ := htext
      exact Json.isPostable_text text

/-- The request of a query says what the query asks. -/
theorem saidBy_request (client : Client) (session : Session) (hsigned : query.IsSigned) :
    query.SaidBy client.baseUrl (client.request session query.operation.call) where
  url := congrArg (client.baseUrl ++ ·) query.path_eq
  fetched h := by
    rw [call_of_none h]
    exact ⟨rfl, rfl⟩
  posted arguments h := by
    have hnodup : ((given arguments).map Prod.fst).Nodup :=
      (nodup_arguments h).sublist (given_names arguments)
    rw [call_of_some h]
    refine ⟨rfl, Entries.ofPairs (given arguments), ?_, Entries.sorted_ofPairs _, ?_⟩
    · exact parse?_body_post client session query.endpoint (isPostable_of_given h hsigned)
    · intro name value
      rw [Entries.mem_ofPairs hnodup, mem_given]

/-- Whatever is asked, one request goes to the base address without its slashes and the path of the
endpoint, and says just what was asked. -/
theorem says_what_was_asked {σ : Type} (url : String) (cooldownSeconds : Nat) (query : Query)
    (hsigned : query.IsSigned) (scene : Scene σ) (next : Outcome query.Value → Program σ Unit) :
    ∃ base slashes, url.toList = base.toList ++ List.replicate slashes '/' ∧
      base.toList.getLast? ≠ some '/' ∧
      let setting : Setting := ⟨.ofUrl url, cooldownSeconds⟩
      let request := setting.client.request scene.session query.operation.call
      query.SaidBy base request ∧
      ∃ resumed, ((Program.perform setting.client query.operation).bind next).advance setting
          scene = ({ scene with sent := scene.sent ++ [request] }, .paused (.reply resumed)) ∧
        ∀ reply (later : Scene σ), ∃ worked : Scene σ, worked.sent = later.sent ∧
          (resumed reply).advance setting later =
            (next (query.operation.finish setting.client reply later.session).value).advance setting
              worked := by
  obtain ⟨slashes, hurl, hlast⟩ := Client.dropSlashes_eq url
  refine ⟨Client.dropSlashes url, slashes, hurl, hlast, ?_, ?_⟩
  · exact saidBy_request (.ofUrl url) scene.session hsigned
  · exact Program.perform_sends_once ⟨.ofUrl url, cooldownSeconds⟩ query.operation next scene

/-- An order says its coupon with the quotation mark, the backslash and the U+0000 in it. -/
theorem says_what_was_asked_of_coupon :
    let coupon := "\"\\\x00"
    let query := createOrder 7 "month_price" (some coupon)
    let scene : Scene Unit := .initial () ⟨.memory []⟩
    let request := (Client.ofUrl "http://panel.test//").request scene.session query.operation.call
    query.IsSigned ∧ (∃ base, query.SaidBy base request) ∧
      ∃ members, request.body.bind Json.parse? = some (.object members) ∧
        ("coupon_code", .text coupon) ∈ members := by
  intro coupon query scene request
  have hsigned : query.IsSigned := by
    show -0x8000000000000000 ≤ (7 : Int) ∧ (7 : Int) ≤ 0x7FFFFFFFFFFFFFFF
    decide
  obtain ⟨base, -, -, -, hsaid, -⟩ :=
    says_what_was_asked "http://panel.test//" 60 query hsigned scene fun _ => .done ()
  obtain ⟨-, members, hbody, -, hmembers⟩ := hsaid.posted _ rfl
  refine ⟨hsigned, ⟨base, hsaid⟩, members, hbody, ?_⟩
  rw [hmembers]
  simp [coupon]

end Query

end PanelClient
