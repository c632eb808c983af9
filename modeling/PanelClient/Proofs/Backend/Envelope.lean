import PanelClient.Proofs.Backend.Query

/-!
# Envelopes

A backend may wrap what it has to say as the member `data` of an object, beside members of its own.
An operation sees no more of a payload than one part of it (`Query.source`), and that part is the
same whether the value was wrapped or not, so wrapping cannot be told from the outcome, the session
or the log (`Query.finish_enveloped`).
-/

namespace PanelClient

namespace Query

open Operation

/-- The query asks what is to be done about a payment. -/
def isCheckout : Query → Bool
  | checkoutOrder .. => true
  | _ => false

/-- The part of a payload that a query works on. -/
def source (query : Query) (payload : Payload) : Json :=
  if query.isCheckout then checkoutSource payload else payload.data

/-- A query treats payloads with the same source in the same way. -/
theorem complete_congr (query : Query) {payload other : Payload}
    (h : query.source payload = query.source other) :
    query.operation.complete (.success payload) = query.operation.complete (.success other) := by
  cases query with
  | forgotPassword | sendEmailVerify => rfl
  | login | register =>
    have hdata : payload.data = other.data := h
    simp only [operation, Operation.login, Operation.register, signIn, onSuccess, hdata]
    rfl
  | getSubscribe =>
    have hdata : payload.data = other.data := h
    simp only [operation, Operation.getSubscribe, onSuccess, hdata]
    rfl
  | createOrder =>
    have hdata : payload.data = other.data := h
    simp only [operation, Operation.createOrder, Outcome.map, Outcome.andThen, hdata]
    rfl
  | checkoutOrder =>
    have hsource : checkoutSource payload = checkoutSource other := h
    simp only [operation, Operation.checkoutOrder, onSuccess, hsource]
    rfl
  | getConfig | getUserInfo | getDashboardStats =>
    have hdata : payload.data = other.data := h
    simp only [operation, Operation.getConfig, Operation.getUserInfo,
      Operation.getDashboardStats, fetchRecord, onSuccess, hdata]
    rfl
  | getPlans | getPublicPlans | getServers | getOrders | getPaymentMethods =>
    have hdata : payload.data = other.data := h
    simp only [operation, Operation.getPlans, Operation.getPublicPlans, Operation.getServers,
      Operation.getOrders, Operation.getPaymentMethods, fetchList, onSuccess, hdata]
    rfl

/-- The value cannot be taken for an envelope itself: it has no member `data`, or it is what is said
about a payment and has a member `type`, beside which `data` is not looked into. -/
def IsBare (query : Query) (value : Json) : Prop :=
  value.member? "data" = none ∨
    query.isCheckout = true ∧ (value.member? "type").isSome = true

theorem source_of_isBare {query : Query} {value : Json} (h : query.IsBare value) :
    query.source (.ofEnvelope value) = value := by
  rcases h with hdata | ⟨hcheckout, htype⟩
  · have hvalue : (Payload.ofEnvelope value).data = value := by
      rw [Payload.ofEnvelope, hdata, Option.getD_none]
    unfold source checkoutSource
    rw [hvalue]
    show (if _ then (if _ then value else value) else value) = value
    rw [ite_self, ite_self]
  · unfold source checkoutSource
    rw [if_pos hcheckout]
    exact if_pos htype

theorem source_of_envelope {query : Query} {value : Json} {members : Entries Json}
    (hdata : members.get? "data" = some value)
    (htype : query.isCheckout = true → members.get? "type" = none) :
    query.source (.ofEnvelope (.object members)) = value := by
  have hvalue : (Payload.ofEnvelope (.object members)).data = value := by
    show ((members.get? "data").getD (.object members)) = value
    rw [hdata, Option.getD_some]
  by_cases hcheckout : query.isCheckout = true
  · have huntyped : ¬ ((Json.object members).member? "type").isSome = true := by
      show ¬ (members.get? "type").isSome = true
      rw [htype hcheckout]
      exact Bool.false_ne_true
    rw [source, if_pos hcheckout, checkoutSource]
    exact (if_neg huntyped).trans hvalue
  · rw [source, if_neg hcheckout, hvalue]

/-- A success is what becomes of the value of its body. -/
theorem ofReply_of_parse {body : String} {envelope : Json} (h : Json.parse? body = some envelope) :
    Outcome.ofReply (.response 200 body) = .success (.ofEnvelope envelope) := by
  simp only [Outcome.ofReply, Outcome.ofResponse, if_true, Payload.ofBody, h]

/-- A value in an envelope comes to the same as the value alone: the same outcome, the same session
and the same events, whatever else is in the envelope. -/
theorem finish_enveloped (query : Query) (client : Client) (session : Session)
    {bare enveloped : String} {value : Json} {members : Entries Json}
    (hbare : Json.parse? bare = some value)
    (henveloped : Json.parse? enveloped = some (.object members))
    (hvalue : query.IsBare value) (hdata : members.get? "data" = some value)
    (htype : query.isCheckout = true → members.get? "type" = none) :
    query.operation.finish client (.response 200 enveloped) session =
      query.operation.finish client (.response 200 bare) session := by
  have hsame : query.source (.ofEnvelope (.object members)) = query.source (.ofEnvelope value) :=
    (source_of_envelope hdata htype).trans (source_of_isBare hvalue).symm
  rw [finish_eq, finish_eq, ofReply_of_parse henveloped, ofReply_of_parse hbare,
    query.complete_congr hsame]
  rfl

/-- An address to pay at stands in a member `data` beside its `type`; in an envelope with a message
of its own it is found all the same. -/
theorem finish_enveloped_checkout :
    let query := checkoutOrder "2024" 3
    let value := Json.object [("data", .text "https://pay.example"), ("type", .integer 1)]
    let members := [("data", value), ("message", .text "ok")]
    let bare := "\x7b\"type\":1,\"data\":\"https://pay.example\"\x7d"
    let enveloped := "\x7b\"message\":\"ok\",\"data\":" ++ bare ++ "\x7d"
    Json.parse? bare = some value ∧ Json.parse? enveloped = some (.object members) ∧
      query.IsBare value ∧
      query.operation.finish ⟨"https://panel.example"⟩ (.response 200 enveloped) ⟨.memory []⟩ =
        query.operation.finish ⟨"https://panel.example"⟩ (.response 200 bare) ⟨.memory []⟩ := by
  intro query value members bare enveloped
  have hbare : Json.parse? bare = some value := by
    simp only [bare, value]
    rfl
  have henveloped : Json.parse? enveloped = some (.object members) := by
    simp only [enveloped, bare, members, value]
    rfl
  have hvalue : query.IsBare value := .inr ⟨rfl, rfl⟩
  exact ⟨hbare, henveloped, hvalue, finish_enveloped query ⟨"https://panel.example"⟩ ⟨.memory []⟩
    hbare henveloped hvalue rfl fun _ => rfl⟩

end Query

end PanelClient
