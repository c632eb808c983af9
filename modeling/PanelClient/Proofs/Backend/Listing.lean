import Mathlib.Data.List.Forall2
import PanelClient.Proofs.Backend.Query
import PanelClient.Proofs.Record.Pruned

/-!
# Lists of records

Five operations ask for a list. A success is a success whatever the body is: the list is there in
full if the payload is one (`Record.Lists`), and empty if anything about it is wrong
(`Record.ListsOrNone`), so that no list is ever told in part. That the list as a whole is read
exactly if each of its items is comes by induction over the items (`Record.forall₂_of_mapM`,
`Record.mapM_of_forall₂`).
-/

namespace PanelClient

variable {α : Type}

/-! ## Lists and their items -/

namespace Record

variable {kind : Kind α} {items : List Json} {records : List α}

/-- Items that are all read as a list are read one by one, each in its place. -/
theorem forall₂_of_mapM (h : items.mapM kind = .ok records) :
    List.Forall₂ (fun item record => kind item = .ok record) items records := by
  induction items generalizing records with
  | nil =>
    cases h
    exact .nil
  | cons item rest ih =>
    rw [List.mapM_cons] at h
    cases hitem : kind item with
    | error reason =>
      rw [hitem] at h
      cases h
    | ok first =>
      cases hrest : rest.mapM kind with
      | error reason =>
        rw [hitem, hrest] at h
        cases h
      | ok others =>
        rw [hitem, hrest] at h
        cases h
        exact .cons hitem (ih hrest)

theorem mapM_of_forall₂
    (h : List.Forall₂ (fun item record => kind item = .ok record) items records) :
    items.mapM kind = .ok records := by
  induction h with
  | nil => rfl
  | cons hitem _ ih =>
    rw [List.mapM_cons, hitem, ih]
    rfl

/-- The value is an array of records, each of which can be read by itself, and these are they. -/
def Lists [Readable α] (value : Json) (records : List α) : Prop :=
  ∃ items, value = .array items ∧
    List.Forall₂ (fun item record => Record.decode item = .ok record) items records

/-- All the records that the value lists, or none if it is anything but a list of records. -/
def ListsOrNone [Readable α] (value : Json) (records : List α) : Prop :=
  Lists value records ∨ records = [] ∧ ∀ others : List α, ¬ Lists value others

theorem list_eq_ok_iff [Readable α] {value : Json} :
    list decode value = .ok records ↔ Lists value records := by
  constructor
  · intro h
    cases value with
    | array items => exact ⟨items, rfl, forall₂_of_mapM h⟩
    | _ => cases h
  · rintro ⟨items, rfl, h⟩
    exact mapM_of_forall₂ h

end Record

/-! ## What becomes of a list -/

namespace Operation

open Record

theorem decodeList_listsOrNone [Readable α] (what : String) (value : Json) (session : Session) :
    ListsOrNone value (decodeList what value session : Worked (List α)).value := by
  unfold decodeList
  cases h : list (decode : Kind α) value with
  | ok records => exact .inl (list_eq_ok_iff.1 h)
  | error reason =>
    refine .inr ⟨rfl, fun others hothers => ?_⟩
    rw [list_eq_ok_iff.2 hothers] at h
    cases h

theorem fetchList_success [Readable α] (endpoint : Endpoint) (what : String) (payload : Payload)
    (session : Session) :
    ∃ records, ((fetchList α endpoint what).complete (.success payload) session).value =
      .success records ∧ ListsOrNone payload.data records :=
  ⟨_, rfl, decodeList_listsOrNone what payload.data session⟩

theorem fetchList_isSuccess [Readable α] (endpoint : Endpoint) (what : String)
    (outcome : Outcome Payload) (session : Session) :
    ((fetchList α endpoint what).complete outcome session).value.isSuccess = outcome.isSuccess := by
  cases outcome <;> rfl

end Operation

/-- Only a response with the status 200 is a success. -/
theorem Outcome.isSuccess_ofReply (reply : Http.Reply) :
    (Outcome.ofReply reply).isSuccess = true ↔ ∃ body, reply = .response 200 body := by
  cases reply with
  | response status body =>
    rw [ofReply, ofResponse]
    by_cases hstatus : status = 200
    · rw [if_pos hstatus, hstatus]
      exact iff_of_true rfl ⟨body, rfl⟩
    · have hfailed : ¬ ∃ other, Http.Reply.response status body = .response 200 other := by
        rintro ⟨other, heq⟩
        cases heq
        exact hstatus rfl
      rw [if_neg hstatus, iff_false_right hfailed]
      split
      · nofun
      · split <;> nofun
  | failure failure =>
    rw [ofReply, ofFailure]
    refine iff_of_false ?_ nofun
    split <;> nofun

/-- The lists that the backend sends. -/
inductive Listing where
  | plans
  | publicPlans
  | servers
  | orders
  | paymentMethods
deriving DecidableEq, Repr

namespace Listing

/-- What is listed. -/
def item : Listing → RecordType
  | plans | publicPlans => .plan
  | servers => .serverNode
  | orders => .order
  | paymentMethods => .paymentMethod

def operation : (listing : Listing) → Operation (List listing.item.Value)
  | plans => Operation.getPlans
  | publicPlans => Operation.getPublicPlans
  | servers => Operation.getServers
  | orders => Operation.getOrders
  | paymentMethods => Operation.getPaymentMethods

theorem operation_eq (listing : Listing) :
    ∃ endpoint what, listing.operation =
      Operation.fetchList listing.item.Value endpoint what := by
  cases listing <;> exact ⟨_, _, rfl⟩

/-- A list is told in full or not at all, and the session is left alone. Every response with the
status 200 is a success, whatever its body is: if the payload is an array of records, each of which
can be read by itself, these are the list, one for one, and in all other cases the list is empty.
Nothing else is a success. -/
theorem finish_listsOrNone (listing : Listing) (client : Client) (session : Session)
    (reply : Http.Reply) :
    let worked := listing.operation.finish client reply session
    worked.session = session ∧
      match reply with
      | .response 200 body => ∃ records, worked.value = .success records ∧
          Record.ListsOrNone (Payload.ofBody body).data records
      | _ => worked.value.isSuccess = false := by
  obtain ⟨endpoint, what, hoperation⟩ := listing.operation_eq
  rw [hoperation]
  intro worked
  refine ⟨Operation.keeps_fetchList endpoint what _ session, ?_⟩
  have hsuccess : worked.value.isSuccess = (Outcome.ofReply reply).isSuccess :=
    Operation.fetchList_isSuccess endpoint what _ session
  split
  · next body => exact Operation.fetchList_success endpoint what (.ofBody body) session
  · next hreply =>
    rw [hsuccess, Bool.eq_false_iff, Ne, Outcome.isSuccess_ofReply]
    rintro ⟨body, rfl⟩
    exact hreply body rfl

end Listing

end PanelClient
