import PanelClient.CommandLine.Run
import PanelClient.Proofs.Backend.Request
import PanelClient.Proofs.Text.Trim

/-!
# Accepted configurations

What the check of a configuration looks at (`Config.check_eq_ok_iff`), and what is used of it
afterwards, which is not the same. The check looks at the base address without the blanks around it
and asks for its protocol, but requests are made of the address as it stands, and the slashes at its
end are dropped, those of the protocol among them if nothing else follows (`Config.url_iff`).
It asks that no timeout is zero, but has no bound for their sum, so that the durations of an
exchange may not exist (`CommandLine.breaks_off_iff`); the program breaks off for no other reason
(`CommandLine.run_eq_error_iff`).
-/

namespace PanelClient

namespace Config

/-! ## What is accepted -/

theorem hasProtocol_iff {url : String} :
    hasProtocol url = true ↔ ∃ protocol ∈ protocols, protocol.toList <+: url.toList := by
  simp only [hasProtocol, List.any_eq_true, List.isPrefixOf_iff_prefix]

/-- A configuration is accepted if its base address begins with a known protocol, apart from blanks,
and none of the timeouts is zero. -/
theorem check_eq_ok_iff {config : Config} :
    config.check = .ok () ↔ hasProtocol (Text.trim config.baseUrl) = true ∧
      0 < config.timeouts.connect ∧ 0 < config.timeouts.read ∧ 0 < config.timeouts.write := by
  have hcheck : config.check = .ok () ↔ config.objection? = none := by
    unfold check
    split
    · next hnone => simp [hnone]
    · next hsome => simp [hsome]
  rw [hcheck, objection?]
  by_cases hprotocol : hasProtocol (Text.trim config.baseUrl) = true
  · simp [hprotocol, namedTimeouts, Nat.pos_iff_ne_zero]
  · simp [hprotocol]

/-! ## Addresses without slashes at their end -/

/-- The address begins with a protocol, and something else than slashes follows. -/
def ExceedsProtocol (url : String) : Prop :=
  ∃ protocol ∈ protocols, ∃ rest, url.toList = protocol.toList ++ rest ∧ ∃ c ∈ rest, c ≠ '/'

theorem protocol_eq {protocol : String} (h : protocol ∈ protocols) :
    ∃ scheme, protocol.toList = scheme ++ ['/', '/'] ∧ '/' ∉ scheme := by
  simp only [protocols, List.mem_cons, List.not_mem_nil, or_false] at h
  rcases h with rfl | rfl
  · exact ⟨"http:".toList, by decide, by decide⟩
  · exact ⟨"https:".toList, by decide, by decide⟩

theorem path_eq (endpoint : Endpoint) :
    ∃ c rest, endpoint.path.toList = '/' :: c :: rest ∧ c ≠ '/' := by
  cases endpoint <;> exact ⟨_, _, rfl, by decide⟩

/-- Where a slash stands in a protocol, it is the first of two or the last. -/
theorem eq_of_append_slash {scheme base tail : List Char} (hscheme : '/' ∉ scheme)
    (h : scheme ++ ['/', '/'] = base ++ '/' :: tail) : tail = ['/'] ∨ base = scheme ++ ['/'] := by
  -- The slash is one of the two, or it stands before them, where there is none.
  rcases List.append_eq_append_iff.1 h with ⟨between, hbase, hslashes⟩ | ⟨between, hbase, htail⟩
  · rcases between with _ | ⟨c, _ | ⟨d, more⟩⟩
    · left
      simpa using hslashes.symm
    · right
      simp only [List.cons_append, List.nil_append, List.cons.injEq] at hslashes
      rw [hbase, ← hslashes.1]
    · simp at hslashes
  · rcases between with _ | ⟨c, more⟩
    · left
      simpa using htail
    · simp only [List.cons_append, List.cons.injEq] at htail
      rw [hbase, ← htail.1] at hscheme
      simp at hscheme

/-- A path does not make a protocol of an address that has none. -/
theorem protocol_prefix_append_iff {protocol : String} (hprotocol : protocol ∈ protocols)
    {base rest : List Char} {c : Char} (hlast : base.getLast? ≠ some '/') (hc : c ≠ '/') :
    protocol.toList <+: base ++ '/' :: c :: rest ↔ protocol.toList <+: base := by
  obtain ⟨scheme, heq, hscheme⟩ := protocol_eq hprotocol
  rw [heq]
  constructor
  · rintro ⟨behind, hbehind⟩
    rcases List.append_eq_append_iff.1 hbehind with ⟨between, hbase, -⟩ | ⟨between, hover, hpath⟩
    · exact ⟨between, hbase.symm⟩
    · rcases between with _ | ⟨d, more⟩
      · rw [List.append_nil] at hover
        exact ⟨[], by rw [hover, List.append_nil]⟩
      · obtain ⟨rfl, hmore⟩ := List.cons.inj hpath
        rcases eq_of_append_slash hscheme hover with rfl | hbase
        · exact absurd (List.cons.inj hmore).1 hc
        · rw [hbase] at hlast
          simp at hlast
  · intro hbase
    exact hbase.trans (List.prefix_append ..)

/-- The protocol outlasts the slashes that are dropped exactly if something else follows it. -/
theorem exceedsProtocol_iff {url : String} :
    ExceedsProtocol url ↔ hasProtocol (Client.dropSlashes url) = true := by
  obtain ⟨slashes, hurl, hlast⟩ := Client.dropSlashes_eq url
  rw [hasProtocol_iff]
  constructor
  · rintro ⟨protocol, hprotocol, rest, hrest, c, hmem, hc⟩
    refine ⟨protocol, hprotocol, ?_⟩
    rw [hrest] at hurl
    rcases List.append_eq_append_iff.1 hurl with ⟨between, hbase, -⟩ | ⟨between, -, hslashes⟩
    · exact ⟨between, hbase.symm⟩
    · have hall : c ∈ List.replicate slashes '/' := by
        rw [hslashes]
        exact List.mem_append_right between hmem
      exact absurd (List.eq_of_mem_replicate hall) hc
  · rintro ⟨protocol, hprotocol, behind, hbehind⟩
    obtain ⟨scheme, heq, -⟩ := protocol_eq hprotocol
    refine ⟨protocol, hprotocol, behind ++ List.replicate slashes '/', ?_, ?_⟩
    · rw [hurl, ← hbehind, List.append_assoc]
    · rcases List.eq_nil_or_concat behind with rfl | ⟨init, c, rfl⟩
      · rw [← hbehind, heq] at hlast
        simp at hlast
      · refine ⟨c, by simp, ?_⟩
        rintro rfl
        rw [← hbehind] at hlast
        simp at hlast

/-- The two differ by slashes at the end only if there are no blanks around the address. -/
theorem trim_eq_of_dropSlashes_eq {url : String}
    (h : Client.dropSlashes url = Client.dropSlashes (Text.trim url)) : Text.trim url = url := by
  have htrims := Text.trims_trim url
  obtain ⟨slashes, hurl, -⟩ := Client.dropSlashes_eq url
  obtain ⟨fewer, htrim, -⟩ := Client.dropSlashes_eq (Text.trim url)
  rw [← h] at htrim
  have hfewer : fewer ≤ slashes := by
    obtain ⟨before, behind, hsplit, -, -⟩ := htrims.split
    have hlength := congrArg List.length hsplit
    rw [hurl, htrim] at hlength
    simp only [List.length_append, List.length_replicate] at hlength
    omega
  have hslash : Text.isBlankChar '/' = false := by decide
  -- Each end is a slash or that of the trimmed address, so the address is trimmed itself.
  refine (Text.Trims.eq_trim ⟨⟨[], [], by simp, rfl, rfl⟩, ?_, ?_⟩).symm
  · intro c hc
    rw [hurl] at hc
    cases hbase : (Client.dropSlashes url).toList with
    | nil =>
      rw [hbase, List.nil_append] at hc
      rw [List.eq_of_mem_replicate (List.mem_of_mem_head? hc)]
      exact hslash
    | cons first rest =>
      apply htrims.head
      rw [htrim, hbase]
      rwa [hbase] at hc
  · intro c hc
    by_cases hnone : slashes = 0
    · apply htrims.last
      rw [htrim, show fewer = slashes by omega, ← hurl]
      exact hc
    · rw [hurl, List.getLast?_append, List.getLast?_replicate, if_neg hnone, Option.some_or] at hc
      cases hc
      exact hslash

/-- What is looked at when a configuration is checked is the base address without the blanks around
it, but requests are made of the address as it stands. So whether or not a configuration is
accepted, its requests go where the address without such blanks says exactly if there are none, and
have a protocol exactly if the address begins with it and something else than slashes follows. -/
theorem url_iff (config : Config) (session : Session) (endpoint : Endpoint)
    (body : Option (Entries Json)) :
    let request := (Client.ofUrl config.baseUrl).request session ⟨endpoint.path, body⟩
    (config.check = .ok () ↔ hasProtocol (Text.trim config.baseUrl) = true ∧
        0 < config.timeouts.connect ∧ 0 < config.timeouts.read ∧ 0 < config.timeouts.write) ∧
      (request.url = Client.dropSlashes (Text.trim config.baseUrl) ++ endpoint.path ↔
        Text.trim config.baseUrl = config.baseUrl) ∧
      (hasProtocol request.url = true ↔ ExceedsProtocol config.baseUrl) := by
  intro request
  have hurl : request.url = Client.dropSlashes config.baseUrl ++ endpoint.path := rfl
  refine ⟨check_eq_ok_iff, ?_, ?_⟩
  · rw [hurl, String.append_left_inj]
    constructor
    · exact trim_eq_of_dropSlashes_eq
    · intro htrim
      rw [htrim]
  · obtain ⟨-, -, hlast⟩ := Client.dropSlashes_eq config.baseUrl
    obtain ⟨c, rest, hpath, hc⟩ := path_eq endpoint
    rw [exceedsProtocol_iff, hurl, hasProtocol_iff, hasProtocol_iff, String.toList_append, hpath]
    constructor
    · rintro ⟨protocol, hprotocol, hprefix⟩
      exact ⟨protocol, hprotocol, (protocol_prefix_append_iff hprotocol hlast hc).1 hprefix⟩
    · rintro ⟨protocol, hprotocol, hprefix⟩
      exact ⟨protocol, hprotocol, (protocol_prefix_append_iff hprotocol hlast hc).2 hprefix⟩

/-- A base address with a blank at its end is accepted, and the blank is part of all addresses. -/
theorem url_with_blank :
    let config : Config := { baseUrl := "http://panel.test/api/v1 " }
    let request := (Client.ofUrl config.baseUrl).request ⟨.memory []⟩ ⟨Endpoint.plans.path, none⟩
    config.check = .ok () ∧ request.url = "http://panel.test/api/v1 /user/plan/fetch" ∧
      request.url ≠ Client.dropSlashes (Text.trim config.baseUrl) ++ Endpoint.plans.path := by
  decide

/-- An address that is nothing but a protocol is accepted, and what is requested has none. -/
example :
    let config : Config := { baseUrl := "http://" }
    let request := (Client.ofUrl config.baseUrl).request ⟨.memory []⟩ ⟨Endpoint.plans.path, none⟩
    config.check = .ok () ∧ hasProtocol request.url = false := by
  decide

end Config

/-! ## Timeouts -/

namespace Http

theorem addSeconds?_eq_none_iff {a b : Nat} : addSeconds? a b = none ↔ maxSeconds < a + b := by
  rw [addSeconds?, ite_eq_right_iff]
  simp

namespace Timeouts

variable (timeouts : Timeouts)

theorem request?_eq_none_iff :
    timeouts.request? = none ↔ maxSeconds < timeouts.read + timeouts.write :=
  addSeconds?_eq_none_iff

/-- There is no limit for the whole exchange if there is none once it is connected, or if the
connection takes too long on top of that; either way the three are too long together. -/
theorem total?_eq_none_iff : timeouts.total? = none ↔
    maxSeconds < timeouts.connect + (timeouts.read + timeouts.write) := by
  rw [total?]
  by_cases hrequest : maxSeconds < timeouts.read + timeouts.write
  · rw [timeouts.request?_eq_none_iff.2 hrequest, Option.bind_none]
    exact iff_of_true rfl (by omega)
  · have hsum : timeouts.request? = some (timeouts.read + timeouts.write) :=
      if_pos (by omega)
    rw [hsum, Option.bind_some, addSeconds?_eq_none_iff]

end Timeouts

end Http

namespace CommandLine

variable {config : Config} {network : Network} {files : Files} {message : String}

/-- With its session at hand, a command breaks off exactly if its durations do not exist. -/
theorem runWith_eq_error_iff {command : Command} :
    runWith config network files command = .error message ↔
      (∃ store, FileStore.openAt (config.sessionPath.getD Files.sessionPath)
        (.holding (files.spot (config.sessionPath.getD Files.sessionPath))) = .ok store) ∧
      config.timeouts.total? = none ∧ message = Http.overflowMessage := by
  simp only [runWith]
  cases FileStore.openAt (config.sessionPath.getD Files.sessionPath)
    (.holding (files.spot (config.sessionPath.getD Files.sessionPath))) with
  | error reason => simp
  | ok store =>
    cases config.timeouts.total? with
    | none => simp [eq_comm]
    | some seconds => simp

/-- A configuration is used only if it is accepted. -/
theorem check_of_load {disk : Disk} (h : Config.load disk = .ok config) :
    config.check = .ok () := by
  unfold Config.load at h
  split at h
  · cases h
  · cases h
    decide
  · next text _ =>
    simp only [Config.ofText] at h
    split at h
    · cases h
    · split at h
      · next hnone =>
        cases h
        rw [Config.check, hnone]
      · cases h

/-- The program breaks off for one reason only, whatever it is asked to do: it was asked to run a
command, its configuration was loaded and so accepted, its session is at hand, and the timeouts are
too long together. -/
theorem run_eq_error_iff {arguments : List String} :
    run arguments network files = .error message ↔
      ∃ invocation config, ask arguments = .run invocation ∧
        Config.load (.holding (files.spot (invocation.config.getD Files.configPath))) = .ok config ∧
        config.check = .ok () ∧
        (∃ store, FileStore.openAt (config.sessionPath.getD Files.sessionPath)
          (.holding (files.spot (config.sessionPath.getD Files.sessionPath))) = .ok store) ∧
        Http.maxSeconds <
          config.timeouts.connect + (config.timeouts.read + config.timeouts.write) ∧
        message = Http.overflowMessage := by
  unfold run
  constructor
  · intro h
    split at h
    · cases h
    · cases h
    · cases h
    · next invocation hasked =>
      split at h
      · cases h
      · next config hload =>
        obtain ⟨hstore, hnone, rfl⟩ := runWith_eq_error_iff.1 h
        exact ⟨invocation, config, hasked, hload, check_of_load hload, hstore,
          config.timeouts.total?_eq_none_iff.1 hnone, rfl⟩
  · rintro ⟨invocation, config, hasked, hload, -, hstore, hlong, rfl⟩
    simp only [hasked, hload]
    exact runWith_eq_error_iff.2 ⟨hstore, config.timeouts.total?_eq_none_iff.2 hlong, rfl⟩

/-- The durations of an exchange may not exist although the configuration is accepted: the three
timeouts have no bound but the one below. A command whose session is at hand breaks off exactly if
they are too long together. -/
theorem breaks_off_iff (config : Config) (network : Network) (files : Files) (command : Command) :
    (config.check = .ok () ↔ Config.hasProtocol (Text.trim config.baseUrl) = true ∧
        0 < config.timeouts.connect ∧ 0 < config.timeouts.read ∧ 0 < config.timeouts.write) ∧
      (config.timeouts.request? = none ↔
        Http.maxSeconds < config.timeouts.read + config.timeouts.write) ∧
      (config.timeouts.total? = none ↔ Http.maxSeconds <
        config.timeouts.connect + (config.timeouts.read + config.timeouts.write)) ∧
      ((∃ message, runWith config network files command = .error message) ↔
        (∃ store, FileStore.openAt (config.sessionPath.getD Files.sessionPath)
          (.holding (files.spot (config.sessionPath.getD Files.sessionPath))) = .ok store) ∧
        Http.maxSeconds <
          config.timeouts.connect + (config.timeouts.read + config.timeouts.write)) := by
  refine ⟨Config.check_eq_ok_iff, config.timeouts.request?_eq_none_iff,
    config.timeouts.total?_eq_none_iff, ?_⟩
  simp only [runWith_eq_error_iff, exists_and_left, exists_eq, and_true,
    config.timeouts.total?_eq_none_iff]

/-- Two timeouts of 2⁶³ seconds are accepted, and their sum does not exist. -/
theorem accepted_without_durations :
    let config : Config :=
      { baseUrl := "http://panel.test", timeouts := ⟨10, 0x8000000000000000, 0x8000000000000000⟩ }
    config.check = .ok () ∧ config.timeouts.request? = none ∧ config.timeouts.total? = none := by
  decide

end CommandLine

end PanelClient
