import PanelClient.Inspect
import PanelClient.Record.Reader

/-!
# Records of the account

What the backend tells about signing in, about its own setup, and about the signed-in user. Sizes
are in bytes, money in cents, times in seconds of Unix time.
-/

namespace PanelClient

open Inspect (Shape Shown)
open Record

structure SignIn where
  token : Option String
  authData : Option String
deriving DecidableEq, Repr, Inhabited

/-- What later requests have to carry: the credential, or else the token. -/
def SignIn.credential (signIn : SignIn) : String :=
  (signIn.authData.or signIn.token).getD ""

instance : Readable SignIn where
  title := "struct LoginResponse"
  reader := SignIn.mk
    <$> .member "token" none (optional words)
    <*> .member "auth_data" none (optional words)

/-- Which inputs the backend wants, and what it says about itself. -/
structure SystemConfig where
  isEmailVerify : Bool := false
  isInviteForce : Bool := false
  isRecaptcha : Bool := false
  recaptchaSiteKey : Option String := none
  appDescription : Option String := none
  appUrl : Option String := none
  tosUrl : Option String := none
deriving DecidableEq, Repr, Inhabited

instance : Readable SystemConfig where
  title := "struct SystemConfig"
  reader := SystemConfig.mk
    <$> .member "is_email_verify" false (flag false)
    <*> .member "is_invite_force" false (flag false)
    <*> .member "is_recaptcha" false (flag false)
    <*> .member "recaptcha_site_key" none (optional words)
    <*> .member "app_description" none (optional words)
    <*> .member "app_url" none (optional words)
    <*> .member "tos_url" none (optional words)

instance : Shown SystemConfig where
  shape config := .record "SystemConfig"
    [("is_email_verify", .bool config.isEmailVerify),
      ("is_invite_force", .bool config.isInviteForce),
      ("is_recaptcha", .bool config.isRecaptcha),
      ("recaptcha_site_key", .option .text config.recaptchaSiteKey),
      ("app_description", .option .text config.appDescription),
      ("app_url", .option .text config.appUrl),
      ("tos_url", .option .text config.tosUrl)]

structure UserInfo where
  email : String
  transferEnable : Int
  lastLoginAt : Option Int
  createdAt : Int
  banned : Bool
  remindExpire : Bool
  remindTraffic : Bool
  expiredAt : Option Int
  balance : Int
  commissionBalance : Int
  planId : Option Int
  discount : Option Int
  commissionRate : Option Int
  telegramId : Option Int
  uuid : String
  avatarUrl : Option String
  upload : Int
  download : Int
deriving DecidableEq, Repr, Inhabited

instance : Readable UserInfo where
  title := "struct UserInfo"
  reader := UserInfo.mk
    <$> .member "email" "" (withDefault "" words)
    <*> .member "transfer_enable" 0 (withDefault 0 signed)
    <*> .member "last_login_at" none (optional signed)
    <*> .member "created_at" 0 (withDefault 0 signed)
    <*> .member "banned" false (flag false)
    <*> .member "remind_expire" false (flag false)
    <*> .member "remind_traffic" false (flag false)
    <*> .member "expired_at" none (optional signed)
    <*> .member "balance" 0 (withDefault 0 signed)
    <*> .member "commission_balance" 0 (withDefault 0 signed)
    <*> .member "plan_id" none (optional signed)
    <*> .member "discount" none (optional signed)
    <*> .member "commission_rate" none (optional signed)
    <*> .member "telegram_id" none (optional signed)
    <*> .member "uuid" "" (withDefault "" words)
    <*> .member "avatar_url" none (optional words)
    <*> .member "u" 0 (withDefault 0 signed)
    <*> .member "d" 0 (withDefault 0 signed)

structure Subscription where
  planId : Option Int
  token : String
  expiredAt : Option Int
  upload : Int
  download : Int
  transferEnable : Int
  subscribeUrl : String
  resetDay : Option Int
deriving DecidableEq, Repr, Inhabited

instance : Readable Subscription where
  title := "struct SubscribeData"
  reader := Subscription.mk
    <$> .member "plan_id" none (optional signed)
    <*> .member "token" "" (withDefault "" words)
    <*> .member "expired_at" none (optional signed)
    <*> .member "u" 0 (withDefault 0 signed)
    <*> .member "d" 0 (withDefault 0 signed)
    <*> .member "transfer_enable" 0 (withDefault 0 signed)
    <*> .member "subscribe_url" "" (withDefault "" words)
    <*> .member "reset_day" none (optional signed)

/-- The figures of the backend's own overview. -/
structure DashboardStats where
  upload : Int
  download : Int
  transferEnable : Int
  expiredAt : Option Int
  planId : Option Int
  subscribeUrl : Option String
  resetDay : Option Int
deriving DecidableEq, Repr, Inhabited

instance : Readable DashboardStats where
  title := "struct DashboardStats"
  reader := DashboardStats.mk
    <$> .member "u" 0 (withDefault 0 signed)
    <*> .member "d" 0 (withDefault 0 signed)
    <*> .member "transfer_enable" 0 (withDefault 0 signed)
    <*> .member "expired_at" none (optional signed)
    <*> .member "plan_id" none (optional signed)
    <*> .member "subscribe_url" none (optional words)
    <*> .member "reset_day" none (optional signed)

end PanelClient
