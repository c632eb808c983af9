import PanelClient.Proofs.Controller.Turns
import PanelClient.Screen.Login

/-!
# Inputs and effects in order

Nothing that is submitted to a controller is lost, served twice, or served out of its order, and the
host gets every effect once, in the order in which the programs asked for them. That is an invariant
over what has been accepted, begun, asked for and taken so far (`InOrder`), for the programs of any
screen and whatever the controller selects (`inputs_in_order`).
-/

namespace PanelClient

variable {ρ σ : Type}

namespace Input

/-- Apart from loads, every input is a signal or a request. -/
theorem length_eq_of_load_not_mem {inputs : List (Input ρ)} (h : .load ∉ inputs) :
    inputs.length = (inputs.filterMap request?).length + (inputs.filterMap signal?).length := by
  induction inputs with
  | nil => rfl
  | cons input rest ih =>
    rw [List.mem_cons, not_or] at h
    have hrest := ih h.2
    cases input with
    | load => exact absurd rfl h.1
    | signal taken =>
      simp only [List.length_cons, List.filterMap_cons, request?, signal?]
      omega
    | request taken =>
      simp only [List.length_cons, List.filterMap_cons, request?, signal?]
      omega

end Input

namespace Controller

/-- How many inputs are in hand: the load until it is done, then the input that is being served. -/
def inHand (c : Controller ρ σ) : Nat :=
  match c.activity with
  | .waiting => 0
  | _ => 1

/-- The effects that a move has a program ask for, if the screen is still there to be asked. -/
def asked (c : Controller ρ σ) (move : Move ρ) : List Effect :=
  match c.program? move with
  | some (_, program) => if c.scene.tornDown then [] else program.asks c.scene.session
  | none => []

/-- The job whose program is done with a move. -/
def ends (c : Controller ρ σ) (move : Move ρ) : List Job :=
  match c.program? move with
  | some (job, program) =>
    if (program.advance c.setting (c.ready move).scene).2.isFinished then [job] else []
  | none => []

/-- The effect that the host takes with a move. -/
def taken (c : Controller ρ σ) : Move ρ → List Effect
  | .takeEffect => c.takeEffect.2.toList
  | _ => []

/-- The host hands something over with the move. -/
def Move.submits : Move ρ → Bool
  | .send _ | .notify _ => true
  | _ => false

/-! ## Effects of a move -/

section Effects

variable {c : Controller ρ σ} {move : Move ρ} {job : Job} {program : Program σ Unit}

/-- With a turn nothing is handed over or taken. -/
theorem isTurn_of_program (h : c.program? move = some (job, program)) : move.isTurn = true := by
  cases move <;> first | rfl | cases h

theorem accepts_of_isTurn (h : move.isTurn = true) : c.accepts move = [] := by
  cases move <;> first | rfl | cases h

theorem taken_of_isTurn (h : move.isTurn = true) : c.taken move = [] := by
  cases move <;> first | rfl | cases h

theorem asked_eq_nil (h : c.scene.tornDown = true) (move : Move ρ) : c.asked move = [] := by
  unfold asked
  split
  · rw [if_pos h]
  · rfl

/-- What the host can take before a move and what is asked for with it, is taken with it or can be
taken after it. -/
theorem effects_step (c : Controller ρ σ) (move : Move ρ) :
    c.scene.effects ++ c.asked move = c.taken move ++ (c.step move).scene.effects := by
  cases hprogram : c.program? move with
  | some served =>
    obtain ⟨job, program⟩ := served
    obtain ⟨events, hscene⟩ := c.ready_scene move
    have hafter : (c.step move).scene.effects =
        (program.advance (c.ready move).setting (c.ready move).scene).1.effects := by
      rw [step_eq_perform hprogram]
      rcases perform_scene (c.ready move) job program with hsame | ⟨-, hsame⟩ <;> rw [hsame]
      rfl
    rw [taken_of_isTurn (isTurn_of_program hprogram), hafter, Program.advance_effects, hscene,
      asked, hprogram]
    rfl
  | none =>
    rw [asked, hprogram, List.append_nil]
    cases move with
    | takeEffect =>
      show c.scene.effects = c.scene.effects.head?.toList ++ c.scene.effects.drop 1
      cases c.scene.effects <;> rfl
    | send | notify | tick | stop =>
      simp only [step, send, notify, tick, stop]
      repeat' split
      all_goals rfl
    | signalTeardown => rfl
    | serveTick =>
      simp only [step, serveTick]
      split
      · exact (Scene.takeTick_effects ..).symm
      · rfl
    | _ => rw [step_eq_self rfl hprogram]; rfl

/-- What a move adds to the effects that the host can take is just what is asked for with it. -/
theorem emitted_eq_asked (c : Controller ρ σ) (move : Move ρ) : c.emitted move = c.asked move := by
  cases hprogram : c.program? move with
  | none => rw [emitted_of_no_program hprogram, asked, hprogram]
  | some served =>
    have hstep := c.effects_step move
    rw [taken_of_isTurn (isTurn_of_program hprogram), List.nil_append] at hstep
    rw [emitted, ← hstep, List.drop_left]

end Effects

/-! ## What has come of a run so far -/

/-- What has been accepted, begun, asked for and taken so far accounts for the controller. -/
structure InOrder (accepted begun : List (Input ρ)) (ended : List Job) (asked taken : List Effect)
    (c : Controller ρ σ) : Prop where
  /-- The load counts as submitted, but nobody hands it over. -/
  submitted : c.submitted = accepted.length + 1
  processed : c.processed = ended.length
  load_not_mem : .load ∉ accepted
  requests : accepted.filterMap Input.request? = begun.filterMap Input.request? ++ c.requests
  signals : accepted.filterMap Input.signal? = begun.filterMap Input.signal? ++ c.signals
  effects : asked = taken ++ c.scene.effects
  /-- The load comes first, and only the last input that was begun may still be in hand. -/
  begun : c.scene.tornDown = false →
    c.activity = .fresh ∧ begun = [] ∧ c.processed = 0 ∨
      ∃ inputs, c.activity ≠ .fresh ∧ begun = .load :: inputs ∧ .load ∉ inputs ∧
        begun.length = c.processed + c.inHand

section Steps

variable {accepted begun : List (Input ρ)} {ended : List Job} {asked taken : List Effect}
  {c : Controller ρ σ} {move : Move ρ} {job : Job} {program : Program σ Unit}

theorem inOrder_opening (screen : Screen ρ σ) (setting : Setting) (session : Session) :
    InOrder [] [] [] [] [] (opening screen setting session) where
  submitted := rfl
  processed := rfl
  load_not_mem := List.not_mem_nil
  requests := rfl
  signals := rfl
  effects := rfl
  begun _ := .inl ⟨rfl, rfl, rfl⟩

/-- After a turn, what it was about is in hand or processed. -/
theorem hand_of_turn (hprogram : c.program? move = some (job, program)) :
    (c.step move).activity ≠ .fresh ∧
      (c.step move).processed + (c.step move).inHand = c.processed + 1 := by
  rw [step_eq_perform hprogram, inHand, perform_activity, perform_processed, ready_processed]
  cases (program.advance (c.ready move).setting (c.ready move).scene).2 <;> exact ⟨nofun, rfl⟩

/-- With a turn an input is begun, the load first of all, or the last one goes on. -/
theorem InOrder.begun_of_turn (h : InOrder accepted begun ended asked taken c)
    (hprogram : c.program? move = some (job, program)) (hup : c.scene.tornDown = false) :
    ∃ inputs, (c.step move).activity ≠ .fresh ∧ begun ++ c.begins move = .load :: inputs ∧
      .load ∉ inputs ∧
      (begun ++ c.begins move).length = (c.step move).processed + (c.step move).inHand := by
  obtain ⟨hbusy, hhand⟩ := hand_of_turn hprogram
  rw [hhand]
  rcases turn_cases hprogram with
    ⟨input, hbegins, -, -, ⟨rfl, hfresh⟩ | ⟨hinput, hwaiting⟩⟩ | ⟨paused, hbegins, hpaused, -⟩
  · rcases h.begun hup with ⟨-, rfl, hnone⟩ | ⟨inputs, hnot, -⟩
    · exact ⟨[], hbusy, by simp [hbegins], List.not_mem_nil, by simp [hbegins, hnone]⟩
    · exact absurd hfresh hnot
  · rcases h.begun hup with ⟨hfresh, -⟩ | ⟨inputs, -, rfl, hload, hlength⟩
    · rw [hwaiting] at hfresh
      cases hfresh
    · refine ⟨inputs ++ [input], hbusy, by simp [hbegins], ?_, ?_⟩
      · rw [List.mem_append, List.mem_singleton, not_or]
        exact ⟨hload, hinput.symm⟩
      · rw [hbegins, List.length_append, hlength]
        simp [inHand, hwaiting]
  -- a program that goes on is that of the last input, which is in hand before and after
  · rcases h.begun hup with ⟨hfresh, -⟩ | ⟨inputs, -, rfl, hload, hlength⟩
    · rw [hpaused] at hfresh
      cases hfresh
    · refine ⟨inputs, hbusy, by simp [hbegins], hload, ?_⟩
      rw [hbegins, List.append_nil, hlength]
      simp [inHand, hpaused]

theorem InOrder.of_turn (h : InOrder accepted begun ended asked taken c)
    (hprogram : c.program? move = some (job, program)) :
    InOrder accepted (begun ++ c.begins move) (ended ++ c.ends move) (asked ++ c.asked move) taken
      (c.step move) := by
  obtain ⟨hrequests, hsignals⟩ := ready_queues hprogram
  rw [step_eq_perform hprogram]
  constructor
  case submitted => simpa using h.submitted
  case processed =>
    simp only [perform_processed, ready_processed, ready_setting, h.processed, ends, hprogram,
      List.length_append]
    split <;> rfl
  case load_not_mem => exact h.load_not_mem
  case requests =>
    rw [h.requests, perform_requests, List.filterMap_append, List.append_assoc, ← hrequests]
  case signals =>
    rw [h.signals, perform_signals, List.filterMap_append, List.append_assoc, ← hsignals]
  case effects =>
    have hstep := c.effects_step move
    rw [taken_of_isTurn (isTurn_of_program hprogram), List.nil_append, step_eq_perform hprogram]
      at hstep
    rw [h.effects, List.append_assoc, hstep]
  case begun =>
    intro htorn
    rw [← step_eq_perform hprogram] at htorn ⊢
    exact .inr (h.begun_of_turn hprogram (up_of_step htorn))

theorem InOrder.of_scene (h : InOrder accepted begun ended asked taken c) {scene : Scene σ}
    (heffects : scene.effects = c.scene.effects) (htorn : scene.tornDown = c.scene.tornDown) :
    InOrder accepted begun ended asked taken { c with scene } :=
  { h with
    effects := h.effects.trans (by rw [heffects])
    begun := fun hup => h.begun (htorn.symm.trans hup) }

/-- Every other move changes what is accounted for by what is handed over or taken. -/
theorem InOrder.of_no_program (h : InOrder accepted begun ended asked taken c)
    (hprogram : c.program? move = none) :
    InOrder (accepted ++ c.accepts move) begun ended asked (taken ++ c.taken move)
      (c.step move) := by
  cases move with
  | send request =>
    simp only [accepts, Controller.taken, step, send]
    split
    · exact { h with
        submitted := by simp [h.submitted]
        load_not_mem := by simp [h.load_not_mem]
        requests := by simp [h.requests, Input.request?]
        signals := by simp [h.signals, Input.signal?]
        effects := by simp [h.effects] }
    · simpa using h
  | notify signal =>
    simp only [accepts, Controller.taken, step, notify]
    split
    · exact { h with
        submitted := by simp [h.submitted]
        load_not_mem := by simp [h.load_not_mem]
        requests := by simp [h.requests, Input.request?]
        signals := by simp [h.signals, Input.signal?]
        effects := by simp [h.effects] }
    · simpa using h
  | takeEffect =>
    simp only [accepts, Controller.taken, List.append_nil]
    refine { h with effects := ?_ }
    have hstep := c.effects_step .takeEffect
    rw [Controller.asked, hprogram, List.append_nil] at hstep
    rw [h.effects, List.append_assoc, hstep]
    rfl
  | signalTeardown =>
    simp only [accepts, Controller.taken, List.append_nil]
    exact { h with begun := fun hup => by cases hup }
  | serveTick =>
    simp only [accepts, Controller.taken, List.append_nil, step, serveTick]
    split
    · exact h.of_scene (Scene.takeTick_effects ..) (Scene.takeTick_tornDown ..)
    · exact h
  | tick =>
    simp only [accepts, Controller.taken, List.append_nil, step, tick]
    split
    · exact h.of_scene rfl rfl
    · exact h
  | stop =>
    simp only [accepts, Controller.taken, List.append_nil, step, stop]
    split
    · next htorn =>
      have hlate : ∀ p, c.scene.tornDown = false → p := fun _ hup => absurd hup (by simp [htorn])
      split <;> first | exact h | exact { h with begun := hlate _ }
    · exact h
  | _ =>
    rw [step_eq_self rfl hprogram, accepts_of_isTurn rfl, taken_of_isTurn rfl, List.append_nil,
      List.append_nil]
    exact h

theorem InOrder.step (h : InOrder accepted begun ended asked taken c) (move : Move ρ) :
    InOrder (accepted ++ c.accepts move) (begun ++ c.begins move) (ended ++ c.ends move)
      (asked ++ c.asked move) (taken ++ c.taken move) (c.step move) := by
  cases hprogram : c.program? move with
  | none =>
    have hrest := h.of_no_program hprogram
    simp only [begins_of_no_program hprogram, ends, Controller.asked, hprogram, List.append_nil]
    exact hrest
  | some served =>
    have hrest := h.of_turn hprogram
    have hmove := isTurn_of_program hprogram
    rw [accepts_of_isTurn hmove, taken_of_isTurn hmove, List.append_nil, List.append_nil]
    exact hrest

/-- What was submitted is processed, waits, or is in hand. -/
theorem InOrder.accounts (h : InOrder accepted begun ended asked taken c)
    (hup : c.scene.tornDown = false) :
    c.submitted = c.processed + c.requests.length + c.signals.length + c.inHand := by
  have hrequests := congrArg List.length h.requests
  have hsignals := congrArg List.length h.signals
  rw [List.length_append] at hrequests hsignals
  have haccepted := Input.length_eq_of_load_not_mem h.load_not_mem
  have hsubmitted := h.submitted
  rcases h.begun hup with ⟨hfresh, rfl, hnone⟩ | ⟨inputs, -, rfl, hload, hlength⟩
  · have hhand : c.inHand = 1 := by rw [inHand, hfresh]
    simp only [List.filterMap_nil, List.length_nil] at hrequests hsignals
    omega
  · have hinputs := Input.length_eq_of_load_not_mem hload
    simp only [List.filterMap_cons, Input.request?, Input.signal?, List.length_cons]
      at hrequests hsignals hlength
    omega

/-- What accounts for a controller also does after a run, with what is observed of the run. -/
theorem InOrder.steps (h : InOrder accepted begun ended asked taken c) (moves : List (Move ρ)) :
    InOrder (accepted ++ c.along accepts moves) (begun ++ c.along begins moves)
      (ended ++ c.along ends moves) (asked ++ c.along Controller.asked moves)
      (taken ++ c.along Controller.taken moves) (c.steps moves) := by
  induction moves generalizing accepted begun ended asked taken c with
  | nil =>
    simp only [along, List.append_nil]
    exact h
  | cons move rest ih =>
    simp only [along, ← List.append_assoc]
    exact ih (h.step move)

end Steps

/-! ## Runs -/

theorem along_accepts_eq_nil {moves : List (Move ρ)} (h : ∀ move ∈ moves, move.submits = false)
    (c : Controller ρ σ) : c.along accepts moves = [] := by
  induction moves generalizing c with
  | nil => rfl
  | cons move rest ih =>
    rw [List.forall_mem_cons] at h
    have hmove : c.accepts move = [] := by
      cases move <;> first | rfl | cases h.1
    rw [along, hmove, ih h.2]
    rfl

/-- To take all effects is to take one after the other. -/
theorem takeEffects_eq (c : Controller ρ σ) :
    c.takeEffects =
      (c.steps (List.replicate c.scene.effects.length .takeEffect),
        c.along taken (List.replicate c.scene.effects.length .takeEffect)) := by
  generalize heffects : c.scene.effects = effects
  induction effects generalizing c with
  | nil =>
    have hsame : c.takeEffects = (c, c.scene.effects) := by
      simp only [takeEffects, heffects]
      rw [← heffects]
    rw [hsame, heffects]
    rfl
  | cons effect rest ih =>
    have hnext : (c.step .takeEffect).scene.effects = rest := by
      show c.scene.effects.drop 1 = rest
      rw [heffects]
      rfl
    have htaken : c.taken .takeEffect = [effect] := by
      show c.scene.effects.head?.toList = [effect]
      rw [heffects]
      rfl
    have hfirst : c.takeEffects = ((c.step .takeEffect).takeEffects.1,
        effect :: (c.step .takeEffect).takeEffects.2) := by
      show (_, c.scene.effects) = (_, effect :: (c.step .takeEffect).scene.effects)
      rw [heffects, hnext]
      rfl
    rw [hfirst, ih _ hnext, List.length_cons, List.replicate_succ, along, htaken]
    rfl

/-- What is processed before anything else is submitted includes all that was submitted. -/
theorem InOrder.settled {accepted begun : List (Input ρ)} {ended : List Job}
    {asked taken : List Effect} {c : Controller ρ σ}
    (h : InOrder accepted begun ended asked taken c) (hup : c.scene.tornDown = false)
    (hsettled : c.submitted ≤ c.processed) :
    begun.length = c.processed ∧
      begun.filterMap Input.request? = accepted.filterMap Input.request? ∧
      begun.filterMap Input.signal? = accepted.filterMap Input.signal? := by
  have haccounts := h.accounts hup
  have hrequests : c.requests = [] := List.eq_nil_of_length_eq_zero (by omega)
  have hsignals : c.signals = [] := List.eq_nil_of_length_eq_zero (by omega)
  have hhand : c.inHand = 0 := by omega
  refine ⟨?_, ?_, ?_⟩
  · rcases h.begun hup with ⟨hfresh, -⟩ | ⟨inputs, -, -, -, hlength⟩
    · simp [inHand, hfresh] at hhand
    · rw [hlength, hhand, Nat.add_zero]
  · rw [h.requests, hrequests, List.append_nil]
  · rw [h.signals, hsignals, List.append_nil]

/-- An input is begun when all that were begun before it are processed, the load first of all. -/
theorem InOrder.begins {accepted begun : List (Input ρ)} {ended : List Job}
    {asked taken : List Effect} {c : Controller ρ σ}
    (h : InOrder accepted begun ended asked taken c) (hup : c.scene.tornDown = false)
    {move : Move ρ} {input : Input ρ} (hinput : input ∈ c.begins move) :
    c.program? move = some (input.job, c.screen.program input) ∧
      c.processed = begun.length ∧ (input = .load ↔ begun = []) := by
  cases hprogram : c.program? move with
  | none => simp [begins_of_no_program hprogram] at hinput
  | some served =>
    obtain ⟨job, program⟩ := served
    rcases turn_cases hprogram with
      ⟨other, hbegins, rfl, rfl, hactivity⟩ | ⟨paused, hbegins, -⟩
    · obtain rfl : input = other := by simpa [hbegins] using hinput
      refine ⟨rfl, ?_⟩
      rcases h.begun hup with ⟨hfresh, rfl, hnone⟩ | ⟨inputs, hnot, rfl, -, hlength⟩
      · rcases hactivity with ⟨rfl, -⟩ | ⟨-, hwaiting⟩
        · exact ⟨hnone, by simp⟩
        · rw [hfresh] at hwaiting
          cases hwaiting
      · rcases hactivity with ⟨-, hfresh⟩ | ⟨hload, hwaiting⟩
        · exact absurd hfresh hnot
        · refine ⟨?_, by simp [hload]⟩
          rw [hlength, inHand, hwaiting]
          rfl
    · simp [hbegins] at hinput

/-- A controller that waits can turn to the first of the requests and to the first signal. -/
theorem begins_of_waiting {c : Controller ρ σ} (h : c.activity = .waiting) :
    (∀ request ∈ c.requests.head?, .request request ∈ c.begins .serveRequest) ∧
      ∀ signal ∈ c.signals.head?, .signal signal ∈ c.begins .serveSignal := by
  constructor
  · intro request hrequest
    simp [Controller.begins, h, Option.mem_def.1 hrequest]
  · intro signal hsignal
    simp [Controller.begins, h, Option.mem_def.1 hsignal]

/-- In every run, the requests and the signals that are accepted are begun in their order, each of
them once, and those that are not begun yet wait; the host takes the effects, one by one or all at
once, in the order in which they are asked for. Before teardown, what was submitted is processed,
waits, or is in hand; an input is begun when all before it are processed, and the first of them is
the load; a controller that waits can turn to either queue. Once as much is processed as was
submitted at some point, with nothing submitted meanwhile, all that was submitted is. -/
theorem inputs_in_order (screen : Screen ρ σ) (setting : Setting) (session : Session)
    (moves : List (Move ρ)) :
    let opening := Controller.opening screen setting session
    let c := opening.steps moves
    let accepted := opening.along accepts moves
    let begun := opening.along begins moves
    accepted.filterMap Input.request? = begun.filterMap Input.request? ++ c.requests ∧
    accepted.filterMap Input.signal? = begun.filterMap Input.signal? ++ c.signals ∧
    c.processed = (opening.along ends moves).length ∧
    opening.along asked moves = opening.along taken moves ++ c.scene.effects ∧
    c.takeEffects =
      (c.steps (List.replicate c.scene.effects.length .takeEffect),
        c.along taken (List.replicate c.scene.effects.length .takeEffect)) ∧
    (c.scene.tornDown = false →
      c.submitted = c.processed + c.requests.length + c.signals.length + c.inHand ∧
      ∀ move, ∀ input ∈ c.begins move,
        c.program? move = some (input.job, c.screen.program input) ∧
        c.processed = begun.length ∧ (input = .load ↔ begun = [])) ∧
    (c.activity = .waiting →
      (∀ request ∈ c.requests.head?, .request request ∈ c.begins .serveRequest) ∧
      ∀ signal ∈ c.signals.head?, .signal signal ∈ c.begins .serveSignal) ∧
    ∀ more, (∀ move ∈ more, move.submits = false) →
      let later := c.steps more
      let begunLater := opening.along begins (moves ++ more)
      later.scene.tornDown = false → c.submitted ≤ later.processed →
        begunLater.length = later.processed ∧
        begunLater.filterMap Input.request? = accepted.filterMap Input.request? ∧
        begunLater.filterMap Input.signal? = accepted.filterMap Input.signal? := by
  intro opening c accepted begun
  have h : InOrder accepted begun (opening.along ends moves) (opening.along asked moves)
      (opening.along taken moves) c := (inOrder_opening screen setting session).steps moves
  refine ⟨h.requests, h.signals, h.processed, h.effects, takeEffects_eq c,
    fun hup => ⟨h.accounts hup, fun move input => h.begins hup⟩, begins_of_waiting, ?_⟩
  intro more hmore later begunLater hup hsettled
  have hlater := h.steps more
  rw [along_accepts_eq_nil hmore, List.append_nil, ← along_append] at hlater
  refine hlater.settled hup ?_
  rw [hlater.submitted, ← h.submitted]
  exact hsettled

/-- Two requests and a signal are submitted to the login screen before it has loaded, and the signal
is served between the requests. -/
theorem inputs_in_order_of_login :
    let opening := Controller.opening (Login.screen ⟨"https://panel.example"⟩)
      ⟨⟨"https://panel.example"⟩, 60⟩ ⟨.memory []⟩
    let moves : List (Move Login.Request) :=
      [.send .openRegister, .notify .resumed, .send .openForgotPassword, .start, .serveRequest]
    let more : List (Move Login.Request) := [.serveSignal, .serveRequest]
    let c := opening.steps moves
    c.submitted = c.processed + c.requests.length + c.signals.length + c.inHand ∧
      (c.submitted, c.processed, c.requests, c.signals) =
        (4, 2, [.openForgotPassword], [.resumed]) ∧
      (opening.along begins (moves ++ more)).filterMap Input.request? =
        [.openRegister, .openForgotPassword] := by
  intro opening moves more c
  obtain ⟨-, -, -, -, -, haccounts, -, hsettled⟩ := inputs_in_order
    (Login.screen ⟨"https://panel.example"⟩) ⟨⟨"https://panel.example"⟩, 60⟩ ⟨.memory []⟩ moves
  refine ⟨(haccounts rfl).1, rfl, ?_⟩
  exact (hsettled more (by simp [more, Move.submits]) rfl (by decide)).2.1

end Controller

end PanelClient
