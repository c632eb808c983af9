import PanelClient.Proofs.Checkout.Stages

/-!
# Confirmed payments

When the checkout confirms a payment. What a body has to say for that is told from the body itself
(`bodyMeansPaid`), not from how records are decoded; `confirms_iff` says that the screen confirms a
payment exactly on a reply to a payment with such a body.
-/

namespace PanelClient.Checkout

open Record

/-! ## Records that mean that nothing is left to pay -/

/-- A `type` that leaves nothing to pay. One that is missing counts as zero. -/
def meansPaid : Json → Bool
  | .null => true
  | .integer n => n == 0 || n == -1
  | _ => false

/-- A record that leaves nothing to pay: an object, or an array of its members. -/
def recordMeansPaid : Json → Bool
  | .object members => meansPaid ((Entries.get? "type" members).getD .null)
  | .array items => decide (items.length ≤ 2) && meansPaid (items.head?.getD .null)
  | _ => false

/-- A body that leaves nothing to pay. -/
def bodyMeansPaid (body : String) : Bool :=
  match Json.parse? body with
  | some envelope => recordMeansPaid (Operation.checkoutSource (.ofEnvelope envelope))
  | none => false

theorem looseWords_isOk (value : Json) : ∃ data, looseWords value = .ok data := by
  cases value <;> exact ⟨_, rfl⟩

/-- Only the `type` can be at fault in the record of a payment. -/
theorem read_result (member : String → Option Json) :
    ∃ data, (Readable.reader : RecordReader CheckoutResult).read member =
      match withDefault 0 signed ((member "type").getD .null) with
      | .ok kind => .ok ⟨kind, data⟩
      | .error reason => .error [⟨"type", reason⟩] := by
  have hreader : (Readable.reader : RecordReader CheckoutResult) =
      RecordReader.seq (RecordReader.map CheckoutResult.mk
        (.member "type" 0 (withDefault 0 signed))) (.member "data" none looseWords) := rfl
  have hkind : withDefault 0 signed .null = .ok 0 := rfl
  have hnone : looseWords .null = .ok none := rfl
  obtain ⟨data, hdata⟩ := looseWords_isOk ((member "data").getD .null)
  refine ⟨data, ?_⟩
  simp only [hreader, RecordReader.seq, RecordReader.map, RecordReader.read_member hkind,
    RecordReader.read_member hnone, hdata]
  cases withDefault 0 signed ((member "type").getD .null) <;> rfl

theorem signed_type (value : Json) :
    (withDefault 0 signed value).toOption.any (fun kind => kind == 0 || kind == -1) =
      meansPaid value := by
  cases value with
  | integer n =>
    simp only [withDefault, signed, meansPaid]
    by_cases hsmall : n ≤ Json.maxSigned
    · rw [if_pos hsmall]
      rfl
    · have hne : n ≠ 0 ∧ n ≠ -1 := by
        simp only [Json.maxSigned] at hsmall
        omega
      simp [if_neg hsmall, hne, Except.toOption]
  | _ => rfl

/-- A record is that of a completed payment exactly if it leaves nothing to pay. -/
theorem decode_isCompleted (value : Json) :
    ((Record.decode value : Except Reason CheckoutResult).toOption.any
      CheckoutResult.isCompleted) = recordMeansPaid value := by
  cases value with
  | object members =>
    obtain ⟨data, hread⟩ := read_result (RecordReader.ofMembers members)
    simp only [Record.decode, RecordReader.decode, hread, recordMeansPaid]
    rw [← signed_type]
    simp only [RecordReader.ofMembers]
    cases withDefault 0 signed ((Entries.get? "type" members).getD .null) <;> rfl
  | array items =>
    obtain ⟨data, hread⟩ := read_result (RecordReader.ofItems ["type", "data"] items)
    have names : (Readable.reader : RecordReader CheckoutResult).names = ["type", "data"] := rfl
    have first : RecordReader.ofItems ["type", "data"] items "type" = items.head? := by
      rw [List.head?_eq_getElem?]
      rfl
    simp only [Record.decode, RecordReader.decode, names, hread, first, recordMeansPaid]
    rw [← signed_type]
    cases withDefault 0 signed (items.head?.getD .null) with
    | error reason => simp [Except.toOption]
    | ok kind =>
      by_cases hlong : 2 < items.length
      · simp [hlong, Nat.not_le.2 hlong, Except.toOption]
      · simp [hlong, Nat.not_lt.1 hlong, Except.toOption, CheckoutResult.isCompleted]
  | _ => rfl

/-- A reply holds the record of a completed payment exactly if it is a success whose body leaves
nothing to pay. -/
theorem result?_isCompleted (reply : Http.Reply) :
    (result? reply).any CheckoutResult.isCompleted = true ↔
      ∃ body, reply = .response 200 body ∧ bodyMeansPaid body = true := by
  cases reply with
  | failure failure =>
    have hnone : result? (.failure failure) = none := by
      simp only [result?, Outcome.ofReply, Outcome.ofFailure]
      split <;> rfl
    simp [hnone]
  | response status body =>
    by_cases hstatus : status = 200
    · subst hstatus
      have hresult : (result? (.response 200 body)).any CheckoutResult.isCompleted =
          recordMeansPaid (Operation.checkoutSource (.ofBody body)) :=
        decode_isCompleted _
      simp only [hresult, Http.Reply.response.injEq, true_and, exists_eq_left', bodyMeansPaid,
        Payload.ofBody]
      cases Json.parse? body with
      | some envelope => rfl
      | none => simp [Operation.checkoutSource, Json.member?, Json.members?, recordMeansPaid]
    · have hnone : result? (.response status body) = none := by
        simp only [result?, Outcome.ofReply, Outcome.ofResponse, if_neg hstatus]
        split
        · rfl
        · split <;> rfl
      simp [hnone, hstatus]

theorem settled_of_isCompleted {result : CheckoutResult} (h : result.isCompleted = true) :
    settled result = [.toast paymentSucceeded, .finish .ok] := by
  have hkind : result.kind ≠ 1 := by
    simp only [CheckoutResult.isCompleted, Bool.or_eq_true, beq_iff_eq] at h
    omega
  simp [settled, CheckoutResult.paymentUrl?, hkind, h]

theorem isCompleted_of_mem_settled {result : CheckoutResult}
    (h : .toast paymentSucceeded ∈ settled result ∨ .finish .ok ∈ settled result) :
    result.isCompleted = true := by
  unfold settled at h
  split at h
  · simp at h
  · split at h
    · assumption
    · simp at h

/-- Only a payment is confirmed, by a success whose body leaves nothing to pay. -/
theorem body_of_confirms {stage : Stage} {reply : Http.Reply}
    (h : .toast paymentSucceeded ∈ stage.effects reply ∨ .finish .ok ∈ stage.effects reply) :
    (∃ tradeNo method, stage = .payment tradeNo method) ∧
      ∃ body, reply = .response 200 body ∧ bodyMeansPaid body = true := by
  cases stage with
  | payment tradeNo method =>
    refine ⟨⟨tradeNo, method, rfl⟩, (result?_isCompleted reply).1 ?_⟩
    simp only [Stage.effects] at h
    cases hresult : result? reply with
    | none => simp [hresult] at h
    | some result =>
      rw [hresult] at h
      exact isCompleted_of_mem_settled h
  | _ => simp [Stage.effects] at h

theorem effects_of_bodyMeansPaid {body : String} (h : bodyMeansPaid body = true)
    (tradeNo : String) (method : Int) :
    (Stage.payment tradeNo method).effects (.response 200 body) =
      [.toast paymentSucceeded, .finish .ok] := by
  have hcompleted := (result?_isCompleted (.response 200 body)).2 ⟨body, rfl, h⟩
  obtain ⟨result, hresult, hcompleted⟩ := Option.any_eq_true _ _ |>.1 hcompleted
  simp only [Stage.effects, hresult, Option.map_some, Option.getD_some]
  exact settled_of_isCompleted hcompleted

/-! ## Runs -/

/-- After any run, a move has the screen confirm a payment exactly if the screen is still there,
waits for the reply to a payment, and the move is a success whose body leaves nothing to pay. -/
theorem confirms_iff (setting : Setting) (session : Session) (planId : Int) (planName : String)
    (moves : List (Controller.Move Request)) (move : Controller.Move Request) :
    let opening := Controller.opening (screen setting.client planId planName) setting session
    let c := opening.steps moves
    (.toast paymentSucceeded ∈ c.emitted move ∨ .finish .ok ∈ c.emitted move) ↔
      c.scene.tornDown = false ∧ ∃ request body, c.Awaits request ∧
        posts setting.client .checkoutOrder request = true ∧
        move = .reply (.response 200 body) ∧ bodyMeansPaid body = true := by
  intro opening c
  have hstaged : Staged setting planId planName c := staged_steps ..
  constructor
  · intro hconfirms
    cases hprogram : c.program? move with
    | none => simp [Controller.emitted_of_no_program hprogram] at hconfirms
    | some served =>
      obtain ⟨job, program⟩ := served
      rcases hstaged.program_cases hprogram with
        ⟨stage, reply, hwaits, rfl, rfl⟩ | ⟨stage?, -, -, htakes⟩
      · rw [Controller.emitted_of_program hprogram (takes_resume _ _ _ stage reply)] at hconfirms
        cases htorn : c.scene.tornDown with
        | true => simp [htorn] at hconfirms
        | false =>
          rw [htorn] at hconfirms
          obtain ⟨⟨tradeNo, method, rfl⟩, body, rfl, hpaid⟩ := body_of_confirms hconfirms
          exact ⟨rfl, _, body, hwaits.awaits, posts_call .., rfl, hpaid⟩
      · rw [Controller.emitted_of_program hprogram htakes] at hconfirms
        simp at hconfirms
  · rintro ⟨htorn, request, body, hawaits, hposts, rfl, hpaid⟩
    obtain ⟨stage, hwaits⟩ := hstaged.of_awaits hawaits
    obtain ⟨tradeNo, method, rfl⟩ : ∃ tradeNo method, stage = .payment tradeNo method := by
      have hrequest := hwaits.awaits.request_eq hawaits
      rw [← hrequest, posts_call] at hposts
      cases stage with
      | payment tradeNo method => exact ⟨tradeNo, method, rfl⟩
      | _ => cases hposts
    obtain ⟨job, hprogram⟩ := hwaits.program? (.reply (.response 200 body))
    rw [Controller.emitted_of_program hprogram (takes_resume _ _ _ _ _), htorn]
    simp [Stage.course, effects_of_bodyMeansPaid hpaid]

/-- A payment is also confirmed if the body has no integer for its `type`: an empty object, one with
a `type` that is null, one about something else, an empty array. -/
theorem confirms_without_type :
    let setting : Setting := ⟨⟨"https://panel.example"⟩, 60⟩
    let c := (Controller.opening (screen setting.client 7 "Gold") setting ⟨.memory []⟩).steps
      [.start, .reply (.response 200 "[]"), .reply (.response 200 "[]"),
        .send (.checkout "month_price" none 1), .serveRequest,
        .reply (.response 200 "\x7b\"data\":\"T1\"\x7d")]
    ∀ body ∈ ["\x7b\x7d", "\x7b\"type\":null\x7d", "\x7b\"data\":\x7b\"id\":5\x7d\x7d", "[]"],
      c.emitted (.reply (.response 200 body)) = [.toast paymentSucceeded, .finish .ok] ∧
        ((Json.parse? body).bind fun envelope =>
          (Operation.checkoutSource (.ofEnvelope envelope)).member? "type").any
            (· matches .integer _) = false := by
  decide +kernel

end PanelClient.Checkout
