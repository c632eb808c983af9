import PanelClient.Inspect
import PanelClient.Record.Reader

/-!
# Records of the shop

Plans with their prices, the servers they give access to, orders, ways to pay, and what the backend
wants done about a payment. A price that is missing means that the period is not offered; a price of
zero is an offer.
-/

namespace PanelClient

open Inspect (Shape Shown)
open Record

/-- A plan that can be bought. -/
structure Plan where
  id : Int
  groupId : Int
  name : String
  content : Option String
  transferEnable : Int
  monthPrice : Option Int
  quarterPrice : Option Int
  halfYearPrice : Option Int
  yearPrice : Option Int
  twoYearPrice : Option Int
  threeYearPrice : Option Int
  onetimePrice : Option Int
  resetPrice : Option Int
  sort : Option Int
  renew : Bool
  resetTrafficMethod : Option Int
deriving DecidableEq, Repr, Inhabited

instance : Readable Plan where
  title := "struct Plan"
  reader := Plan.mk
    <$> .member "id" 0 (withDefault 0 signed)
    <*> .member "group_id" 0 (withDefault 0 signed)
    <*> .member "name" "" (withDefault "" words)
    <*> .member "content" none (optional words)
    <*> .member "transfer_enable" 0 (withDefault 0 signed)
    <*> .member "month_price" none (optional signed)
    <*> .member "quarter_price" none (optional signed)
    <*> .member "half_year_price" none (optional signed)
    <*> .member "year_price" none (optional signed)
    <*> .member "two_year_price" none (optional signed)
    <*> .member "three_year_price" none (optional signed)
    <*> .member "onetime_price" none (optional signed)
    <*> .member "reset_price" none (optional signed)
    <*> .member "sort" none (optional signed)
    <*> .member "renew" true (flag true)
    <*> .member "reset_traffic_method" none (optional signed)

/-- A period that a plan is offered for, and its price. -/
structure PlanPeriod where
  key : String
  price : Int
deriving DecidableEq, Repr, Inhabited

namespace Plan

/-- The periods that a plan can be bought for, in the order in which they are listed. -/
def periodKeys : List String :=
  ["month_price", "quarter_price", "half_year_price", "year_price", "two_year_price",
    "three_year_price", "onetime_price"]

def priceFor (plan : Plan) (key : String) : Option Int :=
  match key with
  | "month_price" => plan.monthPrice
  | "quarter_price" => plan.quarterPrice
  | "half_year_price" => plan.halfYearPrice
  | "year_price" => plan.yearPrice
  | "two_year_price" => plan.twoYearPrice
  | "three_year_price" => plan.threeYearPrice
  | "onetime_price" => plan.onetimePrice
  | "reset_price" => plan.resetPrice
  | _ => none

/-- The periods that the plan is offered for. -/
def periods (plan : Plan) : List PlanPeriod :=
  periodKeys.filterMap fun key => (plan.priceFor key).map fun price => ⟨key, price⟩

end Plan

instance : Shown PlanPeriod where
  shape period := .record "PlanPeriod"
    [("key", .text period.key), ("price", .integer period.price)]

instance : Shown Plan where
  shape plan := .record "Plan"
    [("id", .integer plan.id), ("group_id", .integer plan.groupId), ("name", .text plan.name),
      ("content", .option .text plan.content), ("transfer_enable", .integer plan.transferEnable),
      ("month_price", .option .integer plan.monthPrice),
      ("quarter_price", .option .integer plan.quarterPrice),
      ("half_year_price", .option .integer plan.halfYearPrice),
      ("year_price", .option .integer plan.yearPrice),
      ("two_year_price", .option .integer plan.twoYearPrice),
      ("three_year_price", .option .integer plan.threeYearPrice),
      ("onetime_price", .option .integer plan.onetimePrice),
      ("reset_price", .option .integer plan.resetPrice),
      ("sort", .option .integer plan.sort), ("renew", .bool plan.renew),
      ("reset_traffic_method", .option .integer plan.resetTrafficMethod)]

/-- A server that a plan gives access to. -/
structure ServerNode where
  id : Int
  groupId : List Int
  name : String
  parentId : Option Int
  host : String
  port : Int
  serverPort : Int
  tags : Option (List String)
  /-- How traffic over the server counts, as a decimal text. -/
  rate : String
  serverClass : Int
  online : Int
  serverType : String
deriving DecidableEq, Repr, Inhabited

/-- The rate of a server, one unless it is given. -/
def ServerNode.rateKind : Kind String := fun value =>
  (looseWords value).map fun rate => rate.getD "1"

instance : Readable ServerNode where
  title := "struct ServerNode"
  reader := ServerNode.mk
    <$> .member "id" 0 (withDefault 0 signed)
    <*> .member "group_id" [] (withDefault [] (list signed))
    <*> .member "name" "" (withDefault "" words)
    <*> .member "parent_id" none (optional signed)
    <*> .member "host" "" (withDefault "" words)
    <*> .member "port" 0 (withDefault 0 signed)
    <*> .member "server_port" 0 (withDefault 0 signed)
    <*> .member "tags" none (optional (list words))
    <*> .member "rate" "1" ServerNode.rateKind
    <*> .member "class" 0 (withDefault 0 signed)
    <*> .member "online" 0 (withDefault 0 signed)
    <*> .member "type" "" (withDefault "" words)

instance : Shown ServerNode where
  shape server := .record "ServerNode"
    [("id", .integer server.id), ("group_id", .list (server.groupId.map .integer)),
      ("name", .text server.name), ("parent_id", .option .integer server.parentId),
      ("host", .text server.host), ("port", .integer server.port),
      ("server_port", .integer server.serverPort),
      ("tags", .option (fun tags => .list (tags.map .text)) server.tags),
      ("rate", .text server.rate), ("server_class", .integer server.serverClass),
      ("online", .integer server.online), ("server_type", .text server.serverType)]

structure Order where
  id : Int
  inviteUserId : Option Int
  planId : Int
  period : String
  tradeNo : String
  totalAmount : Int
  status : Int
  commissionStatus : Int
  commissionBalance : Int
  createdAt : Int
  updatedAt : Int
deriving DecidableEq, Repr, Inhabited

instance : Readable Order where
  title := "struct Order"
  reader := Order.mk
    <$> .member "id" 0 (withDefault 0 signed)
    <*> .member "invite_user_id" none (optional signed)
    <*> .member "plan_id" 0 (withDefault 0 signed)
    <*> .member "period" "" (withDefault "" words)
    <*> .member "trade_no" "" (withDefault "" words)
    <*> .member "total_amount" 0 (withDefault 0 signed)
    <*> .member "status" 0 (withDefault 0 signed)
    <*> .member "commission_status" 0 (withDefault 0 signed)
    <*> .member "commission_balance" 0 (withDefault 0 signed)
    <*> .member "created_at" 0 (withDefault 0 signed)
    <*> .member "updated_at" 0 (withDefault 0 signed)

structure PaymentMethod where
  id : Int
  name : String
  payment : String
  icon : Option String
deriving DecidableEq, Repr, Inhabited

instance : Readable PaymentMethod where
  title := "struct PaymentMethod"
  reader := PaymentMethod.mk
    <$> .member "id" 0 (withDefault 0 signed)
    <*> .member "name" "" (withDefault "" words)
    <*> .member "payment" "" (withDefault "" words)
    <*> .member "icon" none (optional words)

instance : Shown PaymentMethod where
  shape method := .record "PaymentMethod"
    [("id", .integer method.id), ("name", .text method.name), ("payment", .text method.payment),
      ("icon", .option .text method.icon)]

/-- What the backend wants done about a payment. -/
structure CheckoutResult where
  /-- One to open an address; zero or minus one if nothing is left to pay. -/
  kind : Int
  data : Option String
deriving DecidableEq, Repr, Inhabited

instance : Readable CheckoutResult where
  title := "struct CheckoutResult"
  reader := CheckoutResult.mk
    <$> .member "type" 0 (withDefault 0 signed)
    <*> .member "data" none looseWords

namespace CheckoutResult

def paymentUrl? (result : CheckoutResult) : Option String :=
  if result.kind = 1 then result.data.filter fun url => !Text.isBlank url else none

def isCompleted (result : CheckoutResult) : Bool :=
  result.kind == 0 || result.kind == -1

end CheckoutResult

end PanelClient
