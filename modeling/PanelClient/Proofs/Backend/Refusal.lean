import PanelClient.Outcome.OfReply
import PanelClient.Proofs.Json.RoundTrip

/-!
# The words of refusals

What a backend says with a refusal stands in two members of the body: a message, and an object of
field errors, each an array of texts. The message is found whatever else the body holds
(`Outcome.message?_of_bodyHas`), and the field errors are taken exactly if they are well-formed as a
whole (`Outcome.fieldErrors?_eq_some_iff`). Both are found again in the text of an object
(`Outcome.bodyHas_render`), unless the reader refuses the text as a whole, as it does if containers
are nested too deeply or a number is too large (`Outcome.ofResponse_illegible`).
-/

namespace PanelClient

variable {α β : Type}

/-! ## Field errors as they are sent -/

namespace Json

def ofTexts (texts : List String) : Json :=
  .array (texts.map .text)

/-- An object with an array of texts for each field. -/
def ofFieldErrors (fieldErrors : FieldErrors) : Json :=
  .object (fieldErrors.map fun entry => (entry.1, ofTexts entry.2))

/-- The value is no object, or some member of it is not an array of texts. -/
def IsMalformed (errors : Json) : Prop :=
  ∀ members, errors = .object members → ∃ member ∈ members, ∀ texts, member.2 ≠ ofTexts texts

theorem IsMalformed.ne_ofFieldErrors {errors : Json} (h : errors.IsMalformed)
    (fieldErrors : FieldErrors) : errors ≠ ofFieldErrors fieldErrors := by
  intro heq
  obtain ⟨member, hmember, hnone⟩ := h _ heq
  obtain ⟨entry, -, rfl⟩ := List.mem_map.1 hmember
  exact hnone entry.2 rfl

end Json

/-- Reading each item succeeds exactly on a list that was written item by item. -/
theorem mapM_eq_some_iff_eq_map {read : α → Option β} {write : β → α}
    (h : ∀ item value, read item = some value ↔ item = write value) {items : List α}
    {values : List β} : items.mapM read = some values ↔ items = values.map write := by
  induction items generalizing values with
  | nil => cases values <;> simp
  | cons item rest ih =>
    cases values with
    | nil => simp [Option.bind_eq_some_iff]
    | cons value values =>
      simp [Option.bind_eq_some_iff, h, ih]

namespace Outcome

open Json (ofTexts ofFieldErrors)

theorem texts?_eq_some_iff {value : Json} {texts : List String} :
    texts? value = some texts ↔ value = ofTexts texts := by
  have htext (item : Json) (text : String) : item.text? = some text ↔ item = .text text := by
    cases item <;> simp [Json.text?]
  cases value with
  | array items =>
    rw [ofTexts, Json.array.injEq]
    exact mapM_eq_some_iff_eq_map htext
  | _ => simp [texts?, Json.items?, ofTexts]

/-- Field errors are made of nothing but an object whose members are all arrays of texts, and then
of all of them. -/
theorem fieldErrors?_eq_some_iff {value : Json} {fieldErrors : FieldErrors} :
    fieldErrors? value = some fieldErrors ↔ value = ofFieldErrors fieldErrors := by
  have hentry (member : String × Json) (entry : String × List String) :
      ((texts? member.2).map fun texts => (member.1, texts)) = some entry ↔
        member = (entry.1, ofTexts entry.2) := by
    obtain ⟨name, errors⟩ := member
    obtain ⟨field, texts⟩ := entry
    simp [Option.map_eq_some_iff, texts?_eq_some_iff, and_comm]
  cases value with
  | object members =>
    rw [ofFieldErrors, Json.object.injEq]
    exact mapM_eq_some_iff_eq_map hentry
  | _ => simp [fieldErrors?, Json.members?, ofFieldErrors]

/-! ## What is found in a body -/

/-- The body is read as an object with the member. -/
def BodyHas (body name : String) (value : Json) : Prop :=
  ∃ members : Entries Json,
    Json.parse? body = some (.object members) ∧ members.get? name = some value

variable {body message : String} {errors : Json} {fieldErrors : FieldErrors} {status : Nat}

theorem message?_of_bodyHas (h : BodyHas body "message" (.text message)) :
    message? body = some message := by
  obtain ⟨members, hbody, hmessage⟩ := h
  simp only [message?, bodyMembers?, hbody, Option.bind_some, Json.members?, hmessage, words?]

theorem bodyFieldErrors_of_bodyHas (h : BodyHas body "errors" errors) :
    bodyFieldErrors body = (fieldErrors? errors).getD [] := by
  obtain ⟨members, hbody, herrors⟩ := h
  simp only [bodyFieldErrors, bodyMembers?, hbody, Option.bind_some, Json.members?, herrors]

/-- What is made of a refusal other than one of the input. -/
def refused (status : Nat) (message : String) : Outcome Payload :=
  if status = 401 ∨ status = 403 then .unauthorized message else .serverError message

theorem ofResponse_refused (hsuccess : status ≠ 200) (hinvalid : status ≠ 422) (body : String) :
    ofResponse status body = refused status ((message? body).getD (fallback status)) := by
  rw [ofResponse, if_neg hsuccess, if_neg hinvalid, refused]

theorem ofResponse_invalid (hmessage : BodyHas body "message" (.text message))
    (herrors : BodyHas body "errors" errors) :
    ofResponse 422 body = .invalid message ((fieldErrors? errors).getD []) := by
  have houtcome : ofResponse 422 body =
      .invalid ((message? body).getD (fallback 422)) (bodyFieldErrors body) := rfl
  rw [houtcome, message?_of_bodyHas hmessage, bodyFieldErrors_of_bodyHas herrors, Option.getD_some]

/-- Of a text that cannot be read nothing is told. -/
theorem bodyMembers?_of_unreadable (h : Json.parse? body = none) : bodyMembers? body = none := by
  rw [bodyMembers?, h, Option.bind_none]

theorem ofResponse_unreadable (h : Json.parse? body = none) :
    ofResponse 422 body = .invalid "Validation error" [] := by
  have houtcome : ofResponse 422 body =
      .invalid ((message? body).getD (fallback 422)) (bodyFieldErrors body) := rfl
  rw [houtcome, message?, bodyFieldErrors, bodyMembers?_of_unreadable h]
  rfl

theorem ofResponse_refused_unreadable (h : Json.parse? body = none) (hsuccess : status ≠ 200)
    (hinvalid : status ≠ 422) : ofResponse status body = refused status (fallback status) := by
  rw [ofResponse_refused hsuccess hinvalid, message?, bodyMembers?_of_unreadable h]
  rfl

theorem fieldErrors?_of_isMalformed (h : errors.IsMalformed) : fieldErrors? errors = none := by
  rw [Option.eq_none_iff_forall_ne_some]
  intro fieldErrors hread
  exact h.ne_ofFieldErrors fieldErrors (fieldErrors?_eq_some_iff.1 hread)

end Outcome

/-! ## What is found in the text of an object -/

namespace Json

variable {members read : List (String × Json)}

theorem rereadMembers?_names (h : rereadMembers? members = some read) :
    read.map Prod.fst = members.map Prod.fst := by
  induction members generalizing read with
  | nil =>
    cases h
    rfl
  | cons member rest ih =>
    obtain ⟨first, others, -, hothers, rfl⟩ := rereadMembers?_cons_eq h
    rw [List.map_cons, List.map_cons, ih hothers]

theorem get?_of_rereadMembers? (h : rereadMembers? members = some read) (name : String) :
    Entries.get? name read = (Entries.get? name members).bind reread? := by
  induction members generalizing read with
  | nil =>
    cases h
    rfl
  | cons member rest ih =>
    obtain ⟨key, value⟩ := member
    obtain ⟨first, others, hfirst, hothers, rfl⟩ := rereadMembers?_cons_eq h
    rw [Entries.get?_cons, Entries.get?_cons, ih hothers]
    split
    · exact hfirst.symm
    · rfl

/-- The reader takes the text of the value: its containers are not nested too deeply, and none of
its numbers is too large. -/
def IsLegible (value : Json) : Prop :=
  value.depth ≤ Reader.maxDepth ∧ (reread? value).isSome = true

theorem itemsPlain_texts (texts : List String) : itemsPlain (texts.map text) := by
  induction texts with
  | nil => trivial
  | cons first rest ih => exact ⟨trivial, ih⟩

theorem isPlain_ofFieldErrors {fieldErrors : FieldErrors} (h : fieldErrors.Sorted) :
    (ofFieldErrors fieldErrors).IsPlain := by
  refine ⟨List.pairwise_map.2 h, ?_⟩
  clear h
  induction fieldErrors with
  | nil => trivial
  | cons first rest ih => exact ⟨itemsPlain_texts first.2, ih⟩

end Json

namespace Outcome

open Json (IsLegible IsMalformed ofFieldErrors)

/-- Where no name stands twice, every plain member of an object is found in its text, whatever else
the object holds. -/
theorem bodyHas_render {members : Entries Json} (hlegible : IsLegible (.object members))
    (hnodup : (members.map Prod.fst).Nodup) {name : String} {value : Json}
    (hvalue : members.get? name = some value) (hplain : value.IsPlain) :
    BodyHas (Json.render (.object members)) name value := by
  obtain ⟨hdepth, hread⟩ := hlegible
  obtain ⟨got, hgot⟩ := Option.isSome_iff_exists.1 hread
  obtain ⟨read, hmembers, rfl⟩ := Option.map_eq_some_iff.1 hgot
  refine ⟨Entries.ofPairs read, Json.parse?_render_of_reread? hgot hdepth, ?_⟩
  have hnames : (read.map Prod.fst).Nodup := by
    rwa [Json.rereadMembers?_names hmembers]
  rw [Entries.get?_ofPairs hnames, Json.get?_of_rereadMembers? hmembers, hvalue, Option.bind_some,
    Json.reread?_of_isPlain value hplain]

/-- The text of an object with a message and field errors is taken for a refusal with just these,
whatever else the object holds, as long as the reader takes the text. In any text that is read as an
object with a message, malformed field errors count as none at all, and beside every status but two
the message is all that is taken, for the status alone decides what kind of refusal it is. A text
that the reader does not take has neither a message nor field errors. -/
theorem ofResponse_faithful :
    (∀ (members : Entries Json) (message : String) (fieldErrors : FieldErrors),
      (members.map Prod.fst).Nodup → fieldErrors.Sorted → IsLegible (.object members) →
      members.get? "message" = some (.text message) →
      members.get? "errors" = some (ofFieldErrors fieldErrors) →
        ofResponse 422 (Json.render (.object members)) = .invalid message fieldErrors) ∧
      (∀ body message, BodyHas body "message" (.text message) →
        (∀ fieldErrors, BodyHas body "errors" (ofFieldErrors fieldErrors) →
          ofResponse 422 body = .invalid message fieldErrors) ∧
        ∀ errors, BodyHas body "errors" errors → errors.IsMalformed →
          ofResponse 422 body = .invalid message []) ∧
      (∀ status body, status ≠ 200 → status ≠ 422 →
        (∃ said, ofResponse status body = refused status said) ∧
        ∀ message, BodyHas body "message" (.text message) →
          ofResponse status body = refused status message) ∧
      ∀ body, Json.parse? body = none →
        ofResponse 422 body = .invalid "Validation error" [] ∧
        ∀ status, status ≠ 200 → status ≠ 422 →
          ofResponse status body = refused status (fallback status) := by
  have hinvalid {body message : String} {fieldErrors : FieldErrors}
      (hmessage : BodyHas body "message" (.text message))
      (herrors : BodyHas body "errors" (ofFieldErrors fieldErrors)) :
      ofResponse 422 body = .invalid message fieldErrors := by
    rw [ofResponse_invalid hmessage herrors, fieldErrors?_eq_some_iff.2 rfl, Option.getD_some]
  refine ⟨?_, ?_, ?_, ?_⟩
  · intro members message fieldErrors hnodup hsorted hlegible hmessage herrors
    exact hinvalid (bodyHas_render hlegible hnodup hmessage trivial)
      (bodyHas_render hlegible hnodup herrors (Json.isPlain_ofFieldErrors hsorted))
  · intro body message hmessage
    refine ⟨fun fieldErrors herrors => hinvalid hmessage herrors, ?_⟩
    intro errors herrors hmalformed
    rw [ofResponse_invalid hmessage herrors, fieldErrors?_of_isMalformed hmalformed,
      Option.getD_none]
  · intro status body hsuccess hother
    refine ⟨⟨_, ofResponse_refused hsuccess hother body⟩, ?_⟩
    intro message hmessage
    rw [ofResponse_refused hsuccess hother, message?_of_bodyHas hmessage, Option.getD_some]
  · intro body hunreadable
    exact ⟨ofResponse_unreadable hunreadable,
      fun status => ofResponse_refused_unreadable hunreadable⟩

/-- A message and an error at the address are told beside a number that is no integer, and beside
another status the message alone; if one of the errors is no text, none of them are told. Of a page
that is no JSON nothing is told. -/
theorem ofResponse_faithful_email :
    let members : Entries Json :=
      [("code", .number ⟨false, 3, -1⟩), ("errors", ofFieldErrors [("email", ["taken"])]),
        ("message", .text "no")]
    let mixed := "\x7b\"message\":\"no\",\"errors\":\x7b\"email\":[\"taken\",1]\x7d\x7d"
    ofResponse 422 (Json.render (.object members)) = .invalid "no" [("email", ["taken"])] ∧
      ofResponse 422 mixed = .invalid "no" [] ∧ ofResponse 409 mixed = .serverError "no" ∧
      ofResponse 422 "<html>" = .invalid "Validation error" [] := by
  intro members mixed
  obtain ⟨hrender, hinvalid, hother, hunreadable⟩ := ofResponse_faithful
  have hmixed : Json.parse? mixed = some (.object [("errors", .object [("email",
      .array [.text "taken", .integer 1])]), ("message", .text "no")]) := by
    simp only [mixed]
    rfl
  have hmessage : BodyHas mixed "message" (.text "no") := ⟨_, hmixed, rfl⟩
  refine ⟨?_, ?_, ?_, ?_⟩
  · exact hrender members "no" [("email", ["taken"])] (by decide) (List.pairwise_singleton ..)
      ⟨by decide, by decide +kernel⟩ rfl rfl
  · refine (hinvalid mixed "no" hmessage).2 _ ⟨_, hmixed, rfl⟩ ?_
    intro errors herrors
    cases herrors
    refine ⟨_, List.mem_singleton_self _, ?_⟩
    rintro (_ | ⟨first, _ | ⟨second, rest⟩⟩) heq <;> cases heq
  · exact (hother 409 mixed (by decide) (by decide)).2 "no" hmessage
  · have hpage : Json.parse? "<html>" = none := Option.isNone_iff_eq_none.1 (by decide)
    exact (hunreadable "<html>" hpage).1

/-- Arrays within each other. -/
def nested : Nat → Json
  | 0 => .array []
  | n + 1 => .array [nested n]

/-- Beside 127 arrays within each other, or beside a number of a thousand digits, the text of an
object with a message and field errors is refused as a whole, and the refusal has neither. -/
theorem ofResponse_illegible :
    let fieldErrors : FieldErrors := [("email", ["taken"])]
    let members : Entries Json :=
      [("errors", ofFieldErrors fieldErrors), ("message", .text "no"), ("trace", nested 126)]
    let huge := "\x7b\"errors\":\x7b\"email\":[\"taken\"]\x7d,\"message\":\"no\",\"size\":1e999\x7d"
    (members.map Prod.fst).Nodup ∧ fieldErrors.Sorted ∧
      ofResponse 422 (Json.render (.object members)) = .invalid "Validation error" [] ∧
      ofResponse 422 huge = .invalid "Validation error" [] ∧
      Outcome.invalid "Validation error" [] ≠ (.invalid "no" fieldErrors : Outcome Payload) := by
  intro fieldErrors members huge
  have hdeep : Json.parse? (Json.render (.object members)) = none := by
    rw [Json.parse?, Json.render, String.toList_ofList, ← Option.isNone_iff_eq_none]
    decide +kernel
  have hhuge : Json.parse? huge = none := by
    rw [← Option.isNone_iff_eq_none]
    decide +kernel
  refine ⟨by decide, List.pairwise_singleton .., ofResponse_unreadable hdeep,
    ofResponse_unreadable hhuge, ?_⟩
  intro heq
  exact absurd (Outcome.invalid.inj heq).1 (by decide)

end Outcome

end PanelClient
