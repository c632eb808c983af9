import PanelClient.Proofs.Session.Likeness
import PanelClient.Proofs.Store.Files

/-!
# Secrets of a session

The credential and the token are the secrets of a session. Sessions are alike if they differ in
nothing but the texts of secrets (`Session.Alike`), and replies to a sign-in if their records do
(`Http.Reply.Alike`). No work brings such a difference out except into the store and into the one
header that carries the credential (`secrecy_lawful`): storing goes the same way whatever the text
(`Store.Alike.set`), and a record is read the same way, its faults included (`decode_alike`).
-/

namespace PanelClient

variable {α : Type}

/-! ## Texts that may differ -/

namespace Secret

/-- The names of secrets, in stores and in the records of sign-ins. -/
def names : List String := [Session.authDataKey, Session.tokenKey]

/-- What stands under a name is the same, or the name is that of a secret and it is two texts that
are both not blank. -/
def Alike (wrap : String → α) (name : String) (value other : α) : Prop :=
  value = other ∨ name ∈ names ∧ ∃ text twin, value = wrap text ∧ other = wrap twin ∧
    Text.isBlank text = false ∧ Text.isBlank twin = false

variable {wrap : String → α} {name : String} {value other : α}

theorem alike_refl (value : α) : Alike wrap name value value := .inl rfl

theorem Alike.eq_of_not_mem (h : Alike wrap name value other) (hname : name ∉ names) :
    value = other :=
  h.resolve_right fun hsecret => hname hsecret.1

theorem Alike.map {β : Type} {f : α → β} {wrapped : String → β}
    (hwrap : ∀ text, f (wrap text) = wrapped text) (h : Alike wrap name value other) :
    Alike wrapped name (f value) (f other) := by
  rcases h with rfl | ⟨hname, text, twin, rfl, rfl, hblank, hother⟩
  · exact alike_refl _
  · exact .inr ⟨hname, text, twin, hwrap text, hwrap twin, hblank, hother⟩

/-- Texts that may differ are blank together. -/
theorem Alike.isBlank_eq {text twin : String} (h : Alike id name text twin) :
    Text.isBlank text = Text.isBlank twin := by
  rcases h with rfl | ⟨-, text, twin, rfl, rfl, hblank, hother⟩
  · rfl
  · exact hblank.trans hother.symm

end Secret

/-! ## Alike stores -/

/-- The same names, and the same texts but for secrets. -/
def Entries.Alike (entries others : Entries String) : Prop :=
  ∀ name, Secret.Alike some name (entries.get? name) (others.get? name)

theorem Entries.Alike.insert {entries others : Entries String} (h : entries.Alike others)
    {name text twin : String} (htext : Secret.Alike id name text twin) :
    Entries.Alike (entries.insert name text) (others.insert name twin) := by
  intro asked
  rw [Entries.get?_insert, Entries.get?_insert]
  by_cases heq : name = asked
  · subst heq
    rw [if_pos rfl, if_pos rfl]
    exact htext.map fun _ => rfl
  · rw [if_neg heq, if_neg heq]
    exact h asked

/-- The places are alike on the outside, and so are the entries of two files. -/
def Spot.Alike (spot other : Spot) : Prop :=
  spot = other ∨ ∃ text twin values others, spot = .file text ∧ other = .file twin ∧
    FileStore.decode? text = some values ∧ FileStore.decode? twin = some others ∧
    Entries.Alike values others

/-- Stores of the same file, with entries that are alike and in the order in which they are kept, in
front of disks that are alike. -/
structure FileStore.Alike (store other : FileStore) : Prop where
  path : store.path = other.path
  values : Entries.Alike store.values other.values
  sorted : store.values.Sorted ∧ other.values.Sorted
  faults : store.disk.faults = other.disk.faults
  spot : store.disk.spot.Alike other.disk.spot

/-- Stores of the same kind with alike entries. -/
inductive Store.Alike : Store → Store → Prop
  | memory {values others : Entries String} (h : Entries.Alike values others) :
      Alike (.memory values) (.memory others)
  | guarded (refused : List String) {values others : Entries String}
      (h : Entries.Alike values others) : Alike (.guarded refused values) (.guarded refused others)
  | file {store other : FileStore} (h : store.Alike other) : Alike (.file store) (.file other)

theorem Store.Alike.get? {store other : Store} (h : store.Alike other) (name : String) :
    Secret.Alike some name (store.get? name) (other.get? name) := by
  cases h with
  | memory h => exact h name
  | guarded _ h => exact h name
  | file h => exact h.values name

/-- What is at a place and what becomes of it is no matter of secrets. -/
theorem Disk.refusal?_alike {disk other : Disk} (hfaults : disk.faults = other.faults)
    (hspot : disk.spot.Alike other.spot) : disk.refusal? = other.refusal? := by
  obtain ⟨spot, faults⟩ := disk
  obtain ⟨place, others⟩ := other
  obtain rfl : faults = others := hfaults
  rcases hspot with heq | ⟨text, twin, -, -, heq, hother, -⟩
  · obtain rfl : spot = place := heq
    rfl
  · obtain rfl : spot = .file text := heq
    obtain rfl : place = .file twin := hother
    rcases faults with _ | ⟨_ | _, _⟩ <;> rfl

theorem FileStore.Alike.persist {store other : FileStore} (h : store.Alike other) :
    store.persist.1 = other.persist.1 ∧ store.persist.2.Alike other.persist.2 := by
  have hrefusal := Disk.refusal?_alike h.faults h.spot
  have hfaults : store.disk.faults.drop 1 = other.disk.faults.drop 1 := by rw [h.faults]
  simp only [FileStore.persist, Disk.write]
  rw [← hrefusal]
  cases store.disk.refusal? with
  | some cause => exact ⟨by rw [h.path], h.path, h.values, h.sorted, hfaults, h.spot⟩
  | none =>
    refine ⟨rfl, h.path, h.values, h.sorted, hfaults, .inr ⟨_, _, store.values, other.values, rfl,
      rfl, ?_, ?_, h.values⟩⟩
    · exact decode?_render h.sorted.1
    · exact decode?_render h.sorted.2

/-- Whether a text can be stored does not depend on it, and alike texts leave alike stores. -/
theorem Store.Alike.set {store other : Store} (h : store.Alike other) {name text twin : String}
    (htext : Secret.Alike id name text twin) :
    (store.set name text).1 = (other.set name twin).1 ∧
      (store.set name text).2.Alike (other.set name twin).2 := by
  cases h with
  | memory h => exact ⟨rfl, .memory (h.insert htext)⟩
  | guarded refused h =>
    by_cases hrefused : refused.contains name = true
    · simp only [Store.set, hrefused, if_true]
      exact ⟨trivial, .guarded refused h⟩
    · simp only [Store.set, hrefused]
      exact ⟨rfl, .guarded refused (h.insert htext)⟩
  | @file store other h =>
    have halike : FileStore.Alike { store with values := store.values.insert name text }
        { other with values := other.values.insert name twin } :=
      ⟨h.path, h.values.insert htext, ⟨h.sorted.1.insert .., h.sorted.2.insert ..⟩, h.faults,
        h.spot⟩
    obtain ⟨hresult, hafter⟩ := halike.persist
    exact ⟨hresult, .file hafter⟩

/-! ## Alike sessions -/

namespace Session

open SessionM

/-- The sessions differ in nothing but the texts of secrets. -/
def Alike (session twin : Session) : Prop := session.store.Alike twin.store

theorem Alike.value {session twin : Session} (h : session.Alike twin) (key : String) :
    Secret.Alike id key (session.value key) (twin.value key) :=
  (h.get? key).map (f := fun text => text.getD "") fun _ => rfl

theorem Alike.value_eq {session twin : Session} (h : session.Alike twin) {key : String}
    (hkey : key ∉ Secret.names) : session.value key = twin.value key :=
  (h.value key).eq_of_not_mem hkey

theorem alike_set {key text twin : String} (h : Secret.Alike id key text twin) :
    (set key text).Alike Session.Alike Eq (set key twin) := by
  intro session other hsession
  obtain ⟨hresult, hafter⟩ := hsession.set h
  exact ⟨hresult, hafter, rfl⟩

theorem steady_put (key text : String) : (put key text).Steady Session.Alike := by
  refine Alike.bind (alike_set (Secret.alike_refl text)) fun result _ heq => heq ▸ ?_
  cases result with
  | ok done => exact steady_pure _
  | error error => exact steady_log _

theorem steady_clear : clear.Steady Session.Alike := by
  have hblank (keys : List String) :
      (keys.forM fun key => put key "").Steady Session.Alike := by
    induction keys with
    | nil => exact steady_pure _
    | cons key rest ih => exact (steady_put key "").bind fun _ => ih
  exact (hblank _).bind fun _ => steady_log _

theorem alike_storeCredentials {authData twinData token twinToken : String}
    (hdata : Secret.Alike id authDataKey authData twinData)
    (htoken : Secret.Alike id tokenKey token twinToken) (email : String) :
    (storeCredentials authData token email).Alike Session.Alike Eq
      (storeCredentials twinData twinToken email) := by
  refine (alike_set hdata).bind fun first _ heq => heq ▸ ?_
  rcases first with error | ⟨⟩
  · exact steady_pure _
  refine (alike_set htoken).bind fun second _ heq => heq ▸ ?_
  rcases second with error | ⟨⟩
  · exact steady_pure _
  refine (alike_set (Secret.alike_refl email)).bind fun third _ heq => heq ▸ ?_
  rcases third with error | ⟨⟩
  · exact steady_pure _
  · exact (steady_log _).bind fun _ => steady_pure _

end Session

/-! ## Alike records of sign-ins -/

/-- The records differ in nothing but the texts of secrets. -/
structure SignIn.Alike (signIn other : SignIn) : Prop where
  token : Secret.Alike some Session.tokenKey signIn.token other.token
  authData : Secret.Alike some Session.authDataKey signIn.authData other.authData

theorem SignIn.alike_refl (signIn : SignIn) : signIn.Alike signIn := ⟨.inl rfl, .inl rfl⟩

/-- What later requests carry differs as a secret does. -/
theorem SignIn.Alike.credential {signIn other : SignIn} (h : signIn.Alike other) :
    Secret.Alike id Session.authDataKey signIn.credential other.credential := by
  obtain ⟨token, authData⟩ := signIn
  obtain ⟨twin, twinData⟩ := other
  obtain ⟨htoken, hdata⟩ := h
  rcases hdata with heq | ⟨hname, text, other, rfl, rfl, hblank, hother⟩
  · obtain rfl : authData = twinData := heq
    cases authData with
    | some text => exact .inl rfl
    | none =>
      rcases htoken with heq | ⟨-, text, other, rfl, rfl, hblank, hother⟩
      · exact .inl (congrArg (Option.getD · "") heq)
      · exact .inr ⟨List.mem_cons_self, text, other, rfl, rfl, hblank, hother⟩
  · exact .inr ⟨hname, text, other, rfl, rfl, hblank, hother⟩

namespace Record

open RecordReader (ofMembers ofItems)

/-- The names of the members of a sign-in, by their places in an array. -/
def signInNames : List String := [Session.tokenKey, Session.authDataKey]

/-- The values differ in nothing but the texts of secrets, which stand under their names in an
object, or at their places in an array. -/
inductive AlikeSignIn : Json → Json → Prop
  | same (value : Json) : AlikeSignIn value value
  | object {members others : Entries Json}
      (h : ∀ name, Secret.Alike (some ∘ Json.text) name (members.get? name) (others.get? name)) :
      AlikeSignIn (.object members) (.object others)
  | array {items others : List Json}
      (h : ∀ place : Nat, Secret.Alike (some ∘ Json.text) ((signInNames[place]?).getD "")
        items[place]? others[place]?) :
      AlikeSignIn (.array items) (.array others)

/-- Of a record of a sign-in, both members are read, and the faults of both are reported. -/
theorem read_signIn (member : String → Option Json) :
    (Readable.reader : RecordReader SignIn).read member =
      match optional words ((member Session.tokenKey).getD .null),
        optional words ((member Session.authDataKey).getD .null) with
      | .ok token, .ok authData => .ok ⟨token, authData⟩
      | .ok _, .error reason => .error [⟨Session.authDataKey, reason⟩]
      | .error reason, .ok _ => .error [⟨Session.tokenKey, reason⟩]
      | .error reason, .error other =>
        .error [⟨Session.tokenKey, reason⟩, ⟨Session.authDataKey, other⟩] := by
  have hnull : optional words .null = .ok none := rfl
  show (RecordReader.seq (RecordReader.map SignIn.mk (.member "token" none (optional words)))
    (.member "auth_data" none (optional words))).read member = _
  simp only [RecordReader.seq, RecordReader.map, RecordReader.read_member hnull, Session.tokenKey,
    Session.authDataKey]
  cases optional words ((member "token").getD .null) <;>
    cases optional words ((member "auth_data").getD .null) <;> rfl

/-- Two results of reading: alike records, or the same faults. -/
inductive AlikeResult {ε : Type} : Except ε SignIn → Except ε SignIn → Prop
  | ok {record other : SignIn} (h : record.Alike other) : AlikeResult (.ok record) (.ok other)
  | error (fault : ε) : AlikeResult (.error fault) (.error fault)

theorem alikeResult_refl {ε : Type} (result : Except ε SignIn) : AlikeResult result result := by
  cases result with
  | ok record => exact .ok record.alike_refl
  | error fault => exact .error fault

/-- Where a secret stands, another is read as well. If something cannot be read, the faults are the
same, and there is a first one. -/
theorem read_alike (member other : String → Option Json)
    (htoken : Secret.Alike (some ∘ Json.text) Session.tokenKey (member Session.tokenKey)
      (other Session.tokenKey))
    (hdata : Secret.Alike (some ∘ Json.text) Session.authDataKey (member Session.authDataKey)
      (other Session.authDataKey)) :
    (∃ record twin : SignIn, Readable.reader.read member = .ok record ∧
        Readable.reader.read other = .ok twin ∧ record.Alike twin) ∨
      ∃ first rest, (Readable.reader : RecordReader SignIn).read member = .error (first :: rest) ∧
        (Readable.reader : RecordReader SignIn).read other = .error (first :: rest) := by
  rw [read_signIn, read_signIn]
  have hread {name : String} {value twin : Option Json}
      (h : Secret.Alike (some ∘ Json.text) name value twin) :
      (∃ text other, optional words (value.getD .null) = .ok text ∧
        optional words (twin.getD .null) = .ok other ∧ Secret.Alike some name text other) ∨
      ∃ reason, optional words (value.getD .null) = .error reason ∧
        optional words (twin.getD .null) = .error reason := by
    rcases h with rfl | ⟨hname, text, other, rfl, rfl, hblank, hother⟩
    · cases hvalue : optional words (value.getD .null) with
      | ok text => exact .inl ⟨text, text, rfl, rfl, .inl rfl⟩
      | error reason => exact .inr ⟨reason, rfl, rfl⟩
    · exact .inl ⟨_, _, rfl, rfl, .inr ⟨hname, text, other, rfl, rfl, hblank, hother⟩⟩
  rcases hread htoken with ⟨text, twin, htext, htwin, halike⟩ | ⟨reason, htext, htwin⟩ <;>
    rcases hread hdata with ⟨data, twinData, hd, htd, hdata'⟩ | ⟨fault, hd, htd⟩ <;>
    rw [htext, htwin, hd, htd]
  · exact .inl ⟨_, _, rfl, rfl, halike, hdata'⟩
  · exact .inr ⟨_, _, rfl, rfl⟩
  · exact .inr ⟨_, _, rfl, rfl⟩
  · exact .inr ⟨_, _, rfl, rfl⟩

theorem length_eq_of_alike {name : Nat → String} {items others : List Json}
    (h : ∀ place : Nat, Secret.Alike (some ∘ Json.text) (name place) items[place]?
      others[place]?) :
    items.length = others.length := by
  have hnone (place : Nat) : items[place]? = none ↔ others[place]? = none := by
    rcases h place with heq | ⟨-, text, twin, hitem, hother, -⟩
    · rw [heq]
    · rw [hitem, hother]
      exact ⟨nofun, nofun⟩
  have hitems := hnone items.length
  have hothers := hnone others.length
  simp only [List.getElem?_eq_none_iff] at hitems hothers
  omega

/-- Records that are alike are decoded alike, or refused for the same reason. -/
theorem decode_alike {value other : Json} (h : AlikeSignIn value other) :
    AlikeResult (decode value : Except Reason SignIn) (decode other) := by
  cases h with
  | same => exact alikeResult_refl _
  | @object members others h =>
    rcases read_alike (ofMembers members) (ofMembers others) (h _) (h _) with
      ⟨record, twin, hrecord, htwin, halike⟩ | ⟨first, rest, hfirst, hsecond⟩
    · simp only [decode, RecordReader.decode, hrecord, htwin]
      exact .ok halike
    · simp only [decode, RecordReader.decode, hfirst, hsecond]
      exact .error _
  | @array items others h =>
    have hlength := length_eq_of_alike h
    have hitem (place : Nat) (name : String) (hname : (signInNames[place]?).getD "" = name)
        (hplace : signInNames.idxOf name = place) :
        Secret.Alike (some ∘ Json.text) name (ofItems signInNames items name)
          (ofItems signInNames others name) := by
      rw [ofItems, ofItems, hplace, ← hname]
      exact h place
    have hnames : (Readable.reader : RecordReader SignIn).names = signInNames := rfl
    rcases read_alike _ _ (hitem 0 _ rfl (by decide)) (hitem 1 _ rfl (by decide)) with
      ⟨record, twin, hrecord, htwin, halike⟩ | ⟨first, rest, hfirst, hsecond⟩
    · simp only [decode, RecordReader.decode, hnames, hrecord, htwin, hlength]
      by_cases hlong : signInNames.length < others.length
      · rw [if_pos hlong, if_pos hlong]
        exact .error _
      · rw [if_neg hlong, if_neg hlong]
        exact .ok halike
    · simp only [decode, RecordReader.decode, hnames, hfirst, hsecond]
      exact .error _

end Record

/-! ## Alike sign-ins -/

/-- The replies to a call with the path are the same, or the call signs in and they are successes
whose records differ in nothing but the texts of secrets. -/
def Http.Reply.Alike (path : String) (reply other : Http.Reply) : Prop :=
  reply = other ∨ (path = Endpoint.login.path ∨ path = Endpoint.register.path) ∧
    ∃ body twin, reply = .response 200 body ∧ other = .response 200 twin ∧
      Record.AlikeSignIn (Payload.ofBody body).data (Payload.ofBody twin).data

namespace Operation

open SessionM

theorem alike_decodeRecord {value other : Json} (h : Record.AlikeSignIn value other)
    (what : String) :
    (decodeRecord what value).Alike Session.Alike (Outcome.Alike SignIn.Alike)
      (decodeRecord what other) := by
  have hdecoded := Record.decode_alike h
  unfold decodeRecord
  generalize (Record.decode value : Except Record.Reason SignIn) = result at *
  generalize (Record.decode other : Except Record.Reason SignIn) = twin at *
  cases hdecoded with
  | ok h => exact alike_pure (.success h)
  | error reason => exact (steady_log _).bind fun _ => alike_pure (.failure rfl)

/-- A sign-in is remembered in the same way whatever its secrets are. -/
theorem alike_remember {signIn other : SignIn} (h : signIn.Alike other) (email : String) :
    (remember email signIn).Alike Session.Alike (Outcome.Alike SignIn.Alike)
      (remember email other) := by
  have htoken : Secret.Alike id Session.tokenKey (signIn.token.getD "") (other.token.getD "") :=
    h.token.map (f := fun text => text.getD "") fun _ => rfl
  unfold remember
  rw [h.credential.isBlank_eq]
  by_cases hblank : Text.isBlank other.credential = true
  · rw [if_pos hblank, if_pos hblank]
    exact alike_pure (.success h)
  · rw [if_neg hblank, if_neg hblank]
    refine (Session.alike_storeCredentials h.credential htoken email).bind fun result _ heq =>
      heq ▸ ?_
    rcases result with error | ⟨⟩
    · exact (steady_log _).bind fun _ => alike_pure (.failure rfl)
    · exact alike_pure (.success h)

theorem alike_signIn (endpoint : Endpoint) (what email : String) (members : List (String × Json))
    (client : Client) {reply other : Http.Reply}
    (h : reply.Alike (signIn endpoint what email members).call.path other) :
    ((signIn endpoint what email members).finish client reply).Alike Session.Alike
      (Outcome.Alike SignIn.Alike) ((signIn endpoint what email members).finish client other) := by
  have halike : (Outcome.ofReply reply).Alike
      (fun payload twin => Record.AlikeSignIn payload.data twin.data) (Outcome.ofReply other) := by
    rcases h with rfl | ⟨-, body, twin, rfl, rfl, hdata⟩
    · exact Outcome.alike_refl (fun payload => .same payload.data) _
    · exact .success hdata
  refine alike_finish halike.label_eq ?_
  refine alike_onSuccess halike fun payload twin hpayload => ?_
  refine (alike_decodeRecord hpayload what).bind fun outcome twin houtcome => ?_
  exact alike_onSuccess houtcome fun _ _ hrecord => alike_remember hrecord email

end Operation

/-- What does not sign in is asked at another endpoint. -/
theorem Query.reply_eq_of_alike {query : Query} (h : query.signsInAs? = none)
    {reply other : Http.Reply} (halike : reply.Alike query.operation.call.path other) :
    reply = other := by
  refine halike.resolve_right fun hsecret => ?_
  rw [Query.path_eq, Endpoint.path_inj, Endpoint.path_inj] at hsecret
  exact hsecret.1.elim (Query.endpoint_of_none h).1 (Query.endpoint_of_none h).2

/-! ## Secrecy -/

/-- The request without the credential that it carries. -/
def Http.Request.redacted (request : Http.Request) : Http.Request :=
  { request with
    headers := request.headers.map fun (name, value) =>
      (name, if Http.sameHeaderName name "Authorization" then "" else value) }

/-- Runs are compared by everything but the texts of secrets. -/
def secrecy : Comparison where
  session := Session.Alike
  request := Http.Request.redacted
  reply path reply other := reply.Alike path other
  signIn := SignIn.Alike

theorem redacted_request_alike (client : Client) (call : Call) {session twin : Session}
    (h : session.Alike twin) :
    (client.request session call).redacted = (client.request twin call).redacted := by
  have hblank : Text.trim session.authData.expose = "" ↔ Text.trim twin.authData.expose = "" := by
    rw [Text.trim_eq_empty_iff, Text.trim_eq_empty_iff]
    exact iff_of_eq (congrArg (· = true) (h.value Session.authDataKey).isBlank_eq)
  simp only [Client.request, Http.Request.redacted, Client.authorization, hblank]
  by_cases htwin : Text.trim twin.authData.expose = ""
  · simp only [htwin, if_true]
  · have hname : Http.sameHeaderName "Authorization" "Authorization" = true := by decide
    simp only [htwin, if_false, List.map_append, List.map_cons, List.map_nil, hname, if_true]

/-- Nothing that a program does with a session tells what its secrets are. -/
theorem secrecy_lawful : secrecy.Lawful where
  reply_refl _ _ := .inl rfl
  request client call _ _ h := redacted_request_alike client call h
  language _ _ h := h.value_eq (by decide)
  userEmail _ _ h := h.value_eq (by decide)
  finish query client reply other h := by
    cases hquery : query.signsInAs? with
    | none =>
      rw [Query.alikeOutcome_of_none hquery, Query.reply_eq_of_alike hquery h]
      exact Query.steady_finish (Session.steady_put _) hquery client other
    | some email =>
      cases query with
      | login => exact Operation.alike_signIn _ _ _ _ client h
      | register => exact Operation.alike_signIn _ _ _ _ client h
      | _ => cases hquery
  setLanguage code := Session.steady_put _ code
  logout := Session.steady_clear

end PanelClient
