import PanelClient.Proofs.Entries.Order
import PanelClient.Record.Account
import PanelClient.Record.Shop

/-!
# Members that do not count

A member that is `null` is as good as none, and a member that the record does not know is not looked
at. A reader of this kind (`RecordReader.SkipsNull`) cannot tell an object from what is left of it
without such members (`RecordReader.decode_pruned`). A record keeps to this if what it has without a
member is also what it makes of `null`, for each of its members (`skipsNull_member`). All records
that the backend sends do (`RecordType.skipsNull`).
-/

namespace PanelClient

open Record

variable {α β : Type}

/-! ## Members that count -/

def Json.isNull : Json → Bool
  | null => true
  | _ => false

namespace Record

/-- What counts of a member. -/
def present? (value? : Option Json) : Option Json :=
  value?.filter fun value => !value.isNull

theorem getD_present? (value? : Option Json) :
    (present? value?).getD .null = value?.getD .null := by
  rcases value? with _ | value
  · rfl
  · cases value <;> rfl

theorem present?_present? (value? : Option Json) :
    present? (present? value?) = present? value? := by
  simp [present?, Option.filter_filter]

namespace RecordReader

/-! ## Readers that skip what is null -/

/-- What is read depends on no more than the members that the record knows and that are not
`null`. -/
def SkipsNull (reader : RecordReader α) : Prop :=
  ∀ members others : String → Option Json,
    (∀ name ∈ reader.names, present? (members name) = present? (others name)) →
      reader.read members = reader.read others

theorem skipsNull_member {kind : Kind α} {absent : α} (h : kind .null = .ok absent)
    (name : String) : (member name absent kind).SkipsNull := by
  intro members others hsame
  have hvalue : (members name).getD .null = (others name).getD .null := by
    rw [← getD_present?, hsame name (List.mem_singleton_self name), getD_present?]
  rw [read_member h, read_member h, hvalue]

theorem skipsNull_map {reader : RecordReader α} {f : α → β} (h : reader.SkipsNull) :
    (f <$> reader).SkipsNull := by
  intro members others hsame
  show (reader.read members).map f = (reader.read others).map f
  rw [h members others hsame]

theorem skipsNull_seq {makers : RecordReader (α → β)} {reader : RecordReader α}
    (hmakers : makers.SkipsNull) (hreader : reader.SkipsNull) : (makers <*> reader).SkipsNull := by
  intro members others hsame
  have hfirst := hmakers members others fun name hname => hsame name (List.mem_append_left _ hname)
  have hlast := hreader members others fun name hname => hsame name (List.mem_append_right _ hname)
  show (RecordReader.seq makers reader).read members = (RecordReader.seq makers reader).read others
  simp only [RecordReader.seq, hfirst, hlast]

@[simp] theorem skipsNull_optional (name : String) (kind : Kind α) :
    (member name none (optional kind)).SkipsNull :=
  skipsNull_member (by rfl) name

@[simp] theorem skipsNull_withDefault (name : String) (default : α) (kind : Kind α) :
    (member name default (withDefault default kind)).SkipsNull :=
  skipsNull_member (by rfl) name

@[simp] theorem skipsNull_flag (name : String) (default : Bool) :
    (member name default (flag default)).SkipsNull :=
  skipsNull_member (by rfl) name

@[simp] theorem skipsNull_looseWords (name : String) :
    (member name none looseWords).SkipsNull :=
  skipsNull_member (by rfl) name

@[simp] theorem skipsNull_rateKind (name : String) :
    (member name "1" ServerNode.rateKind).SkipsNull :=
  skipsNull_member (by rfl) name

/-! ## Objects without what does not count -/

/-- The members that the record knows and that are not `null`. -/
def pruned (reader : RecordReader α) (members : Entries Json) : Entries Json :=
  members.filter fun entry => reader.names.contains entry.1 && !entry.2.isNull

theorem present?_pruned {reader : RecordReader α} {members : Entries Json}
    (h : (members.map Prod.fst).Nodup) {name : String} (hname : name ∈ reader.names) :
    present? (Entries.get? name (reader.pruned members)) = present? (members.get? name) := by
  have hkept : Entries.get? name (reader.pruned members) = present? (members.get? name) := by
    rw [pruned, Entries.get?_filter h]
    simp [present?, hname]
  rw [hkept, present?_present?]

/-- The record, or what is said in its place, is the same without the members that do not count. -/
theorem decode_pruned {reader : RecordReader α} (hreader : reader.SkipsNull) (title : String)
    {members : Entries Json} (h : (members.map Prod.fst).Nodup) :
    (reader.decode title (.object (reader.pruned members))).mapError Reason.message =
      (reader.decode title (.object members)).mapError Reason.message := by
  have hread : reader.read (ofMembers (reader.pruned members)) = reader.read (ofMembers members) :=
    hreader _ _ fun name hname => present?_pruned h hname
  simp only [decode, hread]
  rcases reader.read (ofMembers members) with (_ | ⟨first, rest⟩) | value <;> rfl

end RecordReader

end Record

/-! ## The records -/

/-- The records that the backend sends. -/
inductive RecordType where
  | signIn
  | systemConfig
  | userInfo
  | subscription
  | dashboardStats
  | plan
  | serverNode
  | order
  | paymentMethod
  | checkoutResult
deriving DecidableEq, Repr

namespace RecordType

abbrev Value : RecordType → Type
  | signIn => SignIn
  | systemConfig => SystemConfig
  | userInfo => UserInfo
  | subscription => Subscription
  | dashboardStats => DashboardStats
  | plan => Plan
  | serverNode => ServerNode
  | order => Order
  | paymentMethod => PaymentMethod
  | checkoutResult => CheckoutResult

instance : (type : RecordType) → Readable type.Value
  | signIn => inferInstanceAs (Readable SignIn)
  | systemConfig => inferInstanceAs (Readable SystemConfig)
  | userInfo => inferInstanceAs (Readable UserInfo)
  | subscription => inferInstanceAs (Readable Subscription)
  | dashboardStats => inferInstanceAs (Readable DashboardStats)
  | plan => inferInstanceAs (Readable Plan)
  | serverNode => inferInstanceAs (Readable ServerNode)
  | order => inferInstanceAs (Readable Order)
  | paymentMethod => inferInstanceAs (Readable PaymentMethod)
  | checkoutResult => inferInstanceAs (Readable CheckoutResult)

abbrev reader (type : RecordType) : RecordReader type.Value := Readable.reader

/-- For none of their members do the records tell one that is missing from `null`. -/
theorem skipsNull (type : RecordType) : type.reader.SkipsNull := by
  cases type <;> simp only [reader, Readable.reader]
  all_goals
    repeat' apply RecordReader.skipsNull_seq
    · exact RecordReader.skipsNull_map (by simp)
    all_goals simp

/-- What becomes of a record of the type, with the words of a fault. -/
def decoded (type : RecordType) (value : Json) : Except String type.Value :=
  (Record.decode value : Except Reason type.Value).mapError Reason.message

/-- Whatever the record, members that are `null` and members that it does not know can be left out
of an object: it is read as the same record, or the same is said of it. -/
theorem decoded_pruned (type : RecordType) {members : Entries Json}
    (h : (members.map Prod.fst).Nodup) :
    type.decoded (.object (type.reader.pruned members)) = type.decoded (.object members) :=
  RecordReader.decode_pruned type.skipsNull (Readable.title type.Value) h

/-- Of a server without a name or rate, with a remark that nothing asks for, the number is all that
counts. -/
theorem decoded_pruned_server :
    let members : Entries Json :=
      [("id", .integer 7), ("name", .null), ("rate", .null), ("remark", .text "new")]
    (members.map Prod.fst).Nodup ∧ serverNode.reader.pruned members = [("id", .integer 7)] ∧
      serverNode.decoded (.object [("id", .integer 7)]) = serverNode.decoded (.object members) := by
  intro members
  have hnodup : (members.map Prod.fst).Nodup := by decide
  exact ⟨hnodup, rfl, serverNode.decoded_pruned hnodup⟩

end RecordType

end PanelClient
