import PanelClient.Proofs.Controller.Service

/-!
# The errands of a controller

Whatever a controller sends or hands on it does when a program comes to a wait, so the errands of a
run, each with the session of its moment, tell all of it (`steps_adds`). While a
program is served that ensures what it waits for, each errand is one that it may wait for, after the
answers it had been told by then (`Stands.tracked_steps`).
-/

namespace PanelClient

variable {ρ σ : Type}

namespace Errand

/-- The request of an errand, if it is to make a call. -/
def request? (client : Client) : Errand × Session → Option Http.Request
  | (.exchange call, session) => some (client.request session call)
  | _ => none

/-- What is handed on with an errand, by name and address. -/
def handover? : Errand × Session → Option (String × String)
  | (.handover name url, _) => some (name, url)
  | _ => none

end Errand

namespace Scene

variable (scene : Scene σ)

@[simp] theorem update_handedOn (change : σ → σ) :
    (scene.update change).handedOn = scene.handedOn := by
  unfold update; split <;> rfl

@[simp] theorem takeTick_sent (onTick : Nat → σ → σ) :
    (scene.takeTick onTick).sent = scene.sent := by
  unfold takeTick
  split
  · rfl
  · dsimp only
    split <;> simp

@[simp] theorem takeTick_handedOn (onTick : Nat → σ → σ) :
    (scene.takeTick onTick).handedOn = scene.handedOn := by
  unfold takeTick
  split
  · rfl
  · dsimp only
    split <;> simp

@[simp] theorem emit_handedOn (effect : Effect) :
    (scene.emit effect).handedOn = scene.handedOn := by
  unfold emit; split <;> rfl

/-- What one scene has sent and handed on beyond another is what the errands are about. -/
structure Adds (client : Client) (errands : List (Errand × Session)) (scene after : Scene σ) :
    Prop where
  sent : after.sent = scene.sent ++ errands.filterMap (Errand.request? client)
  handedOn : after.handedOn = scene.handedOn ++ errands.filterMap Errand.handover?

theorem Adds.trans {client : Client} {errands more : List (Errand × Session)}
    {first second third : Scene σ} (h : Adds client errands first second)
    (hmore : Adds client more second third) : Adds client (errands ++ more) first third where
  sent := by rw [hmore.sent, h.sent, List.filterMap_append, List.append_assoc]
  handedOn := by rw [hmore.handedOn, h.handedOn, List.filterMap_append, List.append_assoc]

theorem adds_nil {client : Client} {scene after : Scene σ} (hsent : after.sent = scene.sent)
    (hhandedOn : after.handedOn = scene.handedOn) : Adds client [] scene after where
  sent := by rw [hsent, List.filterMap_nil, List.append_nil]
  handedOn := by rw [hhandedOn, List.filterMap_nil, List.append_nil]

end Scene

namespace Program

/-- What a program first waits for, if for anything, and the session then. -/
def errand? : Program σ Unit → Session → Option (Errand × Session)
  | done _, _ => none
  | update _ next, session => next.errand? session
  | emit _ next, session => next.errand? session
  | work change _ next, session => (next session).errand? (change session)
  | exchange call _, session => some (.exchange call, session)
  | handOff name url _, session => some (.handover name url, session)
  | startCooldown next, session => next.errand? session
  | sleep _ _, session => some (.waking, session)
  | crash _, _ => none

/-- What a program sends or hands on before it waits or is done is what it then waits for. -/
theorem advance_adds (setting : Setting) (program : Program σ Unit) (scene : Scene σ) :
    scene.Adds setting.client (program.errand? scene.session).toList
      (program.advance setting scene).1 := by
  induction program generalizing scene with
  | update change next ih =>
    obtain ⟨hsent, hhandedOn⟩ := ih (scene.update change)
    simp only [Scene.update_sent, Scene.update_handedOn, Scene.update_session] at hsent hhandedOn
    exact ⟨hsent, hhandedOn⟩
  | emit effect next ih =>
    obtain ⟨hsent, hhandedOn⟩ := ih (scene.emit effect)
    simp only [Scene.emit_sent, Scene.emit_handedOn, Scene.emit_session] at hsent hhandedOn
    exact ⟨hsent, hhandedOn⟩
  | work change events next ih =>
    obtain ⟨hsent, hhandedOn⟩ := ih scene.session (scene.work change events)
    exact ⟨hsent, hhandedOn⟩
  | startCooldown next ih =>
    obtain ⟨hsent, hhandedOn⟩ := ih (scene.startCountdown setting.cooldownSeconds)
    exact ⟨hsent, hhandedOn⟩
  | exchange call next => exact ⟨rfl, (List.append_nil _).symm⟩
  | handOff name url next => exact ⟨(List.append_nil _).symm, rfl⟩
  | _ => exact ⟨(List.append_nil _).symm, (List.append_nil _).symm⟩

end Program

namespace Controller

variable {c : Controller ρ σ} {move : Move ρ} {job : Job} {program : Program σ Unit}

/-- The errand that a controller comes to with a move, and the session then. -/
def errands (c : Controller ρ σ) (move : Move ρ) : List (Errand × Session) :=
  ((c.program? move).bind fun served => served.2.errand? c.scene.session).toList

theorem errands_of_program (h : c.program? move = some (job, program)) :
    c.errands move = (program.errand? c.scene.session).toList := by
  rw [errands, h]
  rfl

theorem errands_of_no_program (h : c.program? move = none) : c.errands move = [] := by
  rw [errands, h]
  rfl

theorem step_adds (c : Controller ρ σ) (move : Move ρ) :
    c.scene.Adds c.setting.client (c.errands move) (c.step move).scene := by
  cases hprogram : c.program? move with
  | some served =>
    obtain ⟨job, program⟩ := served
    obtain ⟨events, hscene⟩ := c.ready_scene move
    obtain ⟨hsent, hhandedOn⟩ := program.advance_adds (c.ready move).setting (c.ready move).scene
    rw [ready_setting, hscene] at hsent hhandedOn
    rw [errands_of_program hprogram, step_eq_perform hprogram]
    rcases perform_scene (c.ready move) job program with hsame | ⟨-, hsame⟩ <;>
      rw [hsame, ready_setting, hscene] <;> exact ⟨hsent, hhandedOn⟩
  | none =>
    rw [errands_of_no_program hprogram]
    have hdrifts := drifts_of_no_program hprogram
    generalize (c.step move).scene = after at hdrifts ⊢
    cases hdrifts with
    | takeTick => exact Scene.adds_nil (by simp) (by simp)
    | _ => exact Scene.adds_nil rfl rfl

/-- All that is sent and handed on in a run is what its errands are about. -/
theorem steps_adds (c : Controller ρ σ) (moves : List (Move ρ)) :
    c.scene.Adds c.setting.client (c.along errands moves) (c.steps moves).scene := by
  induction moves generalizing c with
  | nil => exact Scene.adds_nil rfl rfl
  | cons move rest ih =>
    have hrest := ih (c.step move)
    rw [step_setting] at hrest
    exact (c.step_adds move).trans hrest

end Controller

/-! ## Errands of a program that is served -/

section Service

variable {wait : Errand → Progress σ → Prop} {post : Progress σ → Prop}

/-- A program that ensures what it waits for comes to an errand that it may wait for. -/
theorem Program.Ensures.errand? {program : Program σ Unit} {p : Progress σ}
    (h : program.Ensures wait (fun _ => post) p) {errand : Errand} {session : Session}
    (herrand : program.errand? p.session = some (errand, session)) :
    ∃ q, wait errand q ∧ q.session = session ∧ q.answers = p.answers := by
  induction program generalizing p with
  | done result => cases herrand
  | update change next ih => exact ih (p := { p with view := change p.view }) h herrand
  | emit effect next ih =>
    exact ih (p := { p with effects := p.effects ++ [effect] }) h herrand
  | work change events next ih => exact ih _ (p := { p with session := change p.session }) h herrand
  | exchange call next =>
    cases herrand
    exact ⟨p, h.1, rfl, rfl⟩
  | handOff name url next =>
    cases herrand
    exact ⟨p, h.1, rfl, rfl⟩
  | startCooldown next ih =>
    exact ih (p := { p with generation := p.generation + 1 }) h herrand
  | sleep milliseconds next =>
    cases herrand
    exact ⟨p, h.1, rfl, rfl⟩
  | crash message => cases herrand

/-- Each errand is one that may be waited for, after the answers that had come by then. -/
def Errand.Follow (wait : Errand → Progress σ → Prop) (answers : List Answer)
    (errands : List (Errand × Session)) : Prop :=
  ∀ k errand session, errands[k]? = some (errand, session) →
    ∃ p, wait errand p ∧ p.session = session ∧ p.answers = answers.take k

theorem Errand.Follow.concat {answers : List Answer} {errands : List (Errand × Session)}
    (h : Errand.Follow wait answers errands) (hlength : errands.length = answers.length)
    {errand? : Option (Errand × Session)}
    (hlast : ∀ errand session, errand? = some (errand, session) →
      ∃ p, wait errand p ∧ p.session = session ∧ p.answers = answers) :
    Errand.Follow wait answers (errands ++ errand?.toList) := by
  intro k errand session hk
  rcases Nat.lt_or_ge k errands.length with hlt | hge
  · rw [List.getElem?_append_left hlt] at hk
    exact h k errand session hk
  · rw [List.getElem?_append_right hge] at hk
    obtain ⟨hindex, hget⟩ := List.getElem?_eq_some_iff.1 hk
    cases errand? with
    | none => cases hindex
    | some last =>
      have hk : k = answers.length := by
        rw [Option.toList_some, List.length_singleton] at hindex
        omega
      subst hk
      obtain ⟨p, hwait, hsession, hanswers⟩ := hlast errand session (by simpa using hget)
      exact ⟨p, hwait, hsession, by rw [hanswers, List.take_length]⟩

/-- What is told after an errand has no part in it. -/
theorem Errand.Follow.told {answers : List Answer} {errands : List (Errand × Session)}
    (h : Errand.Follow wait answers errands) (hlength : errands.length ≤ answers.length + 1)
    (more : List Answer) : Errand.Follow wait (answers ++ more) errands := by
  intro k errand session hk
  obtain ⟨p, hwait, hsession, hanswers⟩ := h k errand session hk
  have hlt : k < errands.length := (List.getElem?_eq_some_iff.1 hk).1
  refine ⟨p, hwait, hsession, ?_⟩
  rw [hanswers, List.take_append_of_le_length (by omega)]

/-- How many errands are not done yet. -/
def Activity.pending : Activity σ → Nat
  | .busy .. => 1
  | _ => 0

@[simp] theorem Activity.pending_waiting : (waiting : Activity σ).pending = 0 := rfl

namespace Controller

variable {c : Controller ρ σ} {move : Move ρ} {job : Job} {program : Program σ Unit}
  {effects : List Effect} {answers : List Answer} {errands : List (Errand × Session)}

theorem pending_of_program (h : c.program? move = some (job, program)) :
    (c.step move).activity.pending = (c.errands move).length := by
  have hhalt (setting : Setting) (program : Program σ Unit) (scene : Scene σ) :
      ((program.advance setting scene).2.activity job).pending =
        (program.errand? scene.session).toList.length := by
    induction program generalizing scene with
    | update change next ih =>
      rw [Program.errand?, ← scene.update_session change]
      exact ih _
    | emit effect next ih =>
      rw [Program.errand?, ← scene.emit_session effect]
      exact ih _
    | work change events next ih => exact ih _ (scene.work change events)
    | startCooldown next ih => exact ih (scene.startCountdown setting.cooldownSeconds)
    | _ => rfl
  obtain ⟨events, hscene⟩ := c.ready_scene move
  rw [errands_of_program h, step_eq_perform h, perform_activity, hhalt, hscene]
  rfl

/-- The errands up to a moment: each may be waited for, and all that were done have an answer. -/
structure Tracked (wait : Errand → Progress σ → Prop) (answers : List Answer)
    (errands : List (Errand × Session)) (c : Controller ρ σ) : Prop where
  follow : Errand.Follow wait answers errands
  length_eq : errands.length = answers.length + c.activity.pending

theorem tracked_of_program (hprogram : c.program? move = some (job, program))
    (h : program.Ensures wait (fun _ => post) (c.scene.progress effects answers))
    (hfollow : Errand.Follow wait answers errands) (hlength : errands.length = answers.length) :
    (c.step move).Tracked wait answers (errands ++ c.errands move) where
  follow := by
    rw [errands_of_program hprogram]
    exact hfollow.concat hlength fun errand session herrand => h.errand? herrand
  length_eq := by rw [List.length_append, hlength, pending_of_program hprogram]

theorem tracked_of_begins {input : Input ρ} (hbegins : c.begins move = [input])
    (h : (c.screen.program input).Ensures wait (fun _ => post) (c.scene.progress [] [])) :
    (c.step move).Tracked wait [] (c.errands move) := by
  cases hprogram : c.program? move with
  | none => simp [begins_of_no_program hprogram] at hbegins
  | some served =>
    obtain ⟨job, program⟩ := served
    rcases turn_cases hprogram with ⟨other, hother, -, rfl, -⟩ | ⟨paused, hnone, -⟩
    · obtain rfl : input = other := by simpa [hbegins] using hother
      have hnone : Errand.Follow wait [] [] := nofun
      exact tracked_of_program hprogram h hnone rfl
    · simp [hbegins] at hnone

theorem Resumes.told_length {paused : Paused σ} (h : Resumes move paused program)
    (hbusy : c.activity = .busy job paused) : (c.told move).length = 1 := by
  cases h <;> simp [told, hbusy]

theorem Stands.tracked_step (h : c.Stands wait post effects answers)
    (htracked : c.Tracked wait answers errands) {paused : Paused σ}
    (hbusy : c.activity = .busy job paused) (hup : (c.step move).scene.tornDown = false) :
    (c.step move).Tracked wait (answers ++ c.told move) (errands ++ c.errands move) := by
  have hlength : errands.length = answers.length + 1 := by
    rw [htracked.length_eq, hbusy]
    rfl
  cases hprogram : c.program? move with
  | none =>
    rw [told_of_no_program hprogram, errands_of_no_program hprogram, List.append_nil,
      List.append_nil]
    refine ⟨htracked.follow, ?_⟩
    rw [(rests_of_no_program hprogram hup).activity]
    exact htracked.length_eq
  | some served =>
    obtain ⟨other, program⟩ := served
    rcases turn_cases hprogram with
      ⟨input, -, -, -, ⟨-, hfresh⟩ | ⟨-, hwaiting⟩⟩ | ⟨resumed, -, hresumed, hresumes⟩
    · rw [hbusy] at hfresh
      cases hfresh
    · rw [hbusy] at hwaiting
      cases hwaiting
    · simp only [Stands, hresumed] at h
      obtain ⟨errand, hleads, -⟩ := h
      refine tracked_of_program hprogram (hresumes.ensures hresumed hleads)
        (htracked.follow.told (Nat.le_of_eq hlength) _) ?_
      rw [List.length_append, hresumes.told_length hresumed, hlength]

/-- Over a run each errand is one that the program may wait for, and as many are answered as the
program has been told answers. -/
theorem Stands.tracked_steps {moves : List (Move ρ)} (h : c.Stands wait post effects answers)
    (htracked : c.Tracked wait answers errands) (hserves : c.Serves moves)
    (hup : (c.steps moves).scene.tornDown = false) :
    (c.steps moves).Tracked wait (answers ++ c.along told moves)
      (errands ++ c.along Controller.errands moves) := by
  induction moves generalizing c effects answers errands with
  | nil =>
    simp only [along, List.append_nil]
    exact htracked
  | cons move rest ih =>
    obtain ⟨⟨job, paused, hbusy⟩, hrest⟩ := hserves
    simp only [along, ← List.append_assoc]
    have hstep : (c.step move).scene.tornDown = false := up_of_steps hup
    exact ih (h.step hbusy hstep) (h.tracked_step htracked hbusy hstep) hrest hup

/-- A turn leaves a screen torn down or not, as it was. -/
theorem tornDown_of_turn (hmove : move.isTurn = true) :
    (c.step move).scene.tornDown = c.scene.tornDown := by
  cases hprogram : c.program? move with
  | none => rw [step_eq_self hmove hprogram]
  | some served =>
    obtain ⟨job, program⟩ := served
    obtain ⟨events, hscene⟩ := c.ready_scene move
    have hready : (c.ready move).scene.tornDown = c.scene.tornDown := by rw [hscene]; rfl
    have hsame := program.advance_tornDown (c.ready move).setting (c.ready move).scene
    rw [step_eq_perform hprogram]
    rcases perform_scene (c.ready move) job program with heq | ⟨-, heq⟩ <;>
      rw [heq] <;> exact hsame.trans hready

theorem Stands.waits_or_ends (h : c.Stands wait post effects answers) :
    c.activity = .waiting ∧ post (c.scene.progress effects answers) ∨
      ∃ job paused errand, c.activity = .busy job paused ∧
        paused.Leads wait post errand (c.scene.progress effects answers) := by
  unfold Stands at h
  split at h
  · next hwaiting => exact .inl ⟨hwaiting, h⟩
  · next job paused hbusy =>
    obtain ⟨errand, hleads, -⟩ := h
    exact .inr ⟨job, paused, errand, hbusy, hleads⟩
  · exact h.elim

theorem emitted_of_tornDown {moves : List (Move ρ)} (h : c.scene.tornDown = true) :
    c.along emitted moves = [] := by
  induction moves generalizing c with
  | nil => rfl
  | cons move rest ih =>
    rw [along, emitted_eq_asked, asked_eq_nil h, ih (tornDown_step h move), List.append_nil]

/-- A program without effects at its waits is over once it has asked for any, and the screen is not
torn down then. -/
theorem Stands.over_of_emitted {moves : List (Move ρ)} (h : c.Stands wait post effects answers)
    (hquiet : ∀ errand p, wait errand p → p.effects = []) (hserves : c.Serves moves)
    (hup : c.scene.tornDown = false) (hemitted : effects ++ c.along emitted moves ≠ []) :
    (c.steps moves).scene.tornDown = false ∧ (c.steps moves).activity = .waiting := by
  induction moves generalizing c effects answers with
  | nil =>
    refine ⟨hup, ?_⟩
    rcases h.waits_or_ends with ⟨hended, -⟩ | ⟨_, _, errand, -, hleads⟩
    · exact hended
    · have hnone : effects = [] := hquiet errand _ hleads.holds
      rw [hnone] at hemitted
      exact absurd rfl hemitted
  | cons move rest ih =>
    obtain ⟨⟨job, paused, hbusy⟩, hrest⟩ := hserves
    have hnone : effects = [] := by
      rcases h.waits_or_ends with ⟨hended, -⟩ | ⟨_, _, errand, -, hleads⟩
      · cases hbusy.symm.trans hended
      · exact hquiet errand _ hleads.holds
    cases htorn : (c.step move).scene.tornDown with
    | false =>
      rw [along, ← List.append_assoc] at hemitted
      exact ih (h.step hbusy htorn) hrest htorn hemitted
    | true =>
      -- a turn does not tear the screen down, and nothing else asks for anything
      have hnow : c.emitted move = [] := by
        cases hprogram : c.program? move with
        | none => exact emitted_of_no_program hprogram
        | some served =>
          have hsame := (tornDown_of_turn (isTurn_of_program hprogram)).trans hup
          cases htorn.symm.trans hsame
      rw [hnone, along, hnow, emitted_of_tornDown htorn] at hemitted
      exact absurd rfl hemitted

/-- A reply that is waited for is told. -/
theorem Stands.replied (h : c.Stands wait post effects answers) {paused : Paused σ}
    (hbusy : c.activity = .busy job paused) {call : Call}
    (hleads : paused.Leads wait post (.exchange call) (c.scene.progress effects answers))
    (hup : c.scene.tornDown = false) (reply : Http.Reply) :
    c.told (.reply reply) = [.reply reply] ∧
      (c.step (.reply reply)).scene.tornDown = false ∧
      (c.step (.reply reply)).Stands wait post (effects ++ c.emitted (.reply reply))
        (answers ++ [.reply reply]) := by
  cases hleads with
  | reply hwait hnext =>
    have htold : c.told (.reply reply) = [.reply reply] := by simp only [told, hbusy]
    have hnext : (c.step (.reply reply)).scene.tornDown = false :=
      (tornDown_of_turn rfl).trans hup
    exact ⟨htold, hnext, htold ▸ h.step hbusy hnext⟩

/-- What the importer says is told. -/
theorem Stands.handedOver (h : c.Stands wait post effects answers) {paused : Paused σ}
    (hbusy : c.activity = .busy job paused) {name url : String}
    (hleads : paused.Leads wait post (.handover name url) (c.scene.progress effects answers))
    (hup : c.scene.tornDown = false) (handover : Handover) :
    c.told (.handover handover) = [.handover handover.failure] ∧
      (c.step (.handover handover)).scene.tornDown = false ∧
      (c.step (.handover handover)).Stands wait post (effects ++ c.emitted (.handover handover))
        (answers ++ [.handover handover.failure]) := by
  cases hleads with
  | handover hwait hnext =>
    have htold : c.told (.handover handover) = [.handover handover.failure] := by
      simp only [told, hbusy]
    have hnext : (c.step (.handover handover)).scene.tornDown = false :=
      (tornDown_of_turn rfl).trans hup
    exact ⟨htold, hnext, htold ▸ h.step hbusy hnext⟩

end Controller

end Service

end PanelClient
