/-!
# Endpoints

The operations that the backend offers, and where each is found below the base address.
-/

namespace PanelClient

inductive Endpoint where
  | login
  | register
  | forgotPassword
  | sendEmailVerify
  | systemConfig
  | userInfo
  | subscription
  | dashboardStats
  | plans
  | publicPlans
  | createOrder
  | checkoutOrder
  | orders
  | paymentMethods
  | servers
deriving DecidableEq, Repr

/-- The path below the base address; `dashbord` is how the backend spells it. -/
def Endpoint.path : Endpoint → String
  | login => "/passport/auth/login"
  | register => "/passport/auth/register"
  | forgotPassword => "/passport/auth/forget"
  | sendEmailVerify => "/passport/comm/sendEmailVerify"
  | systemConfig => "/guest/comm/config"
  | userInfo => "/user/getUserInfo"
  | subscription => "/user/subscribe"
  | dashboardStats => "/user/dashbord"
  | plans => "/user/plan/fetch"
  | publicPlans => "/guest/plan/fetch"
  | createOrder => "/user/order/save"
  | checkoutOrder => "/user/order/checkout"
  | orders => "/user/order/fetch"
  | paymentMethods => "/user/order/getPaymentMethod"
  | servers => "/user/server/fetch"

end PanelClient
