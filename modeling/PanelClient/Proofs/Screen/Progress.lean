import PanelClient.Screen.Program

/-!
# What a program comes to

What holds whenever a program waits and when it is done, for every answer that it may get
(`Program.Ensures`). A program sees no more of a screen than it has changed itself, so its course
is told by what it has made of the view, the session and the countdown, what it has asked for and
what it has been told on the way (`Progress`). The rules of each instruction are here; what a
controller makes of them is said where programs are served.
-/

namespace PanelClient

/-- What a program waits for. -/
inductive Errand where
  | exchange (call : Call)
  | handover (name url : String)
  | waking

/-- What a program is told when its wait is over. -/
inductive Answer where
  | reply (reply : Http.Reply)
  | handover (failure : Option String)
  | waking

/-- The reply among what a program is told. -/
def Answer.reply? : Answer → Option Http.Reply
  | .reply answer => some answer
  | _ => none

/-- How far a program has come. -/
structure Progress (σ : Type) where
  view : σ
  session : Session
  /-- The effects that it has asked for, in order. -/
  effects : List Effect
  /-- How often the countdown has been started. -/
  generation : Nat
  /-- What it has been told, in order. -/
  answers : List Answer

namespace Progress

variable {σ : Type}

def told (answer : Answer) (p : Progress σ) : Progress σ :=
  { p with answers := p.answers ++ [answer] }

/-- A reply has come, and the session is what was made of it. -/
def replied (reply : Http.Reply) (session : Session) (p : Progress σ) : Progress σ :=
  { p.told (.reply reply) with session }

/-- The replies that a program has been told of. -/
def replies (p : Progress σ) : List Http.Reply := p.answers.filterMap Answer.reply?

theorem replies_of_answers {p : Progress σ} {replies : List Http.Reply}
    (h : p.answers = replies.map .reply) : p.replies = replies := by
  rw [Progress.replies, h, List.filterMap_map]
  exact List.filterMap_some

end Progress

namespace Program

variable {σ α β : Type}

/-- From some progress on, the first condition holds whenever the program waits for something, the
second when it is done, and it does not break off. -/
def Ensures (wait : Errand → Progress σ → Prop) :
    Program σ α → (α → Progress σ → Prop) → Progress σ → Prop
  | done result, post, p => post result p
  | update change next, post, p => Ensures wait next post { p with view := change p.view }
  | emit effect next, post, p => Ensures wait next post { p with effects := p.effects ++ [effect] }
  | work change _ next, post, p =>
    Ensures wait (next p.session) post { p with session := change p.session }
  | exchange call next, post, p =>
    wait (.exchange call) p ∧ ∀ reply, Ensures wait (next reply) post (p.told (.reply reply))
  | handOff name url next, post, p =>
    wait (.handover name url) p ∧
      ∀ failure, Ensures wait (next failure) post (p.told (.handover failure))
  | startCooldown next, post, p =>
    Ensures wait next post { p with generation := p.generation + 1 }
  | sleep _ next, post, p => wait .waking p ∧ Ensures wait next post (p.told .waking)
  | crash _, _, _ => False

section Rules

variable {wait wait' : Errand → Progress σ → Prop} {post post' : α → Progress σ → Prop}
  {p : Progress σ}

theorem Ensures.mono {program : Program σ α} (h : program.Ensures wait post p)
    (hwait : ∀ errand p, wait errand p → wait' errand p)
    (hpost : ∀ result p, post result p → post' result p) : program.Ensures wait' post' p := by
  induction program generalizing p with
  | done result => exact hpost _ _ h
  | update change rest ih => exact ih h
  | emit effect rest ih => exact ih h
  | work change events rest ih => exact ih _ h
  | exchange call rest ih => exact ⟨hwait _ _ h.1, fun reply => ih reply (h.2 reply)⟩
  | handOff name url rest ih => exact ⟨hwait _ _ h.1, fun failure => ih failure (h.2 failure)⟩
  | startCooldown rest ih => exact ih h
  | sleep milliseconds rest ih => exact ⟨hwait _ _ h.1, ih h.2⟩
  | crash message => exact h

@[simp] theorem ensures_bind (program : Program σ α) (next : α → Program σ β)
    (post : β → Progress σ → Prop) (p : Progress σ) :
    (program.bind next).Ensures wait post p ↔
      program.Ensures wait (fun result => (next result).Ensures wait post) p := by
  induction program generalizing p with
  | exchange call rest ih => simp only [Program.bind, Ensures, ih]
  | handOff name url rest ih => simp only [Program.bind, Ensures, ih]
  | sleep milliseconds rest ih => simp only [Program.bind, Ensures, ih]
  | work change events rest ih => exact ih ..
  | _ => first | rfl | next ih => exact ih ..

/-- What the first program ensures is what the second begins with. -/
theorem Ensures.bind {program : Program σ α} {next : α → Program σ β}
    {last : β → Progress σ → Prop} (h : program.Ensures wait post p)
    (hnext : ∀ result q, post result q → (next result).Ensures wait last q) :
    (program.bind next).Ensures wait last p :=
  (ensures_bind ..).2 (h.mono (fun _ _ => id) hnext)

@[simp] theorem ensures_done (result : α) (post : α → Progress σ → Prop) :
    (done result).Ensures wait post p ↔ post result p := Iff.rfl

@[simp] theorem ensures_handOff (name url : String) (next : Option String → Program σ α) :
    (handOff name url next).Ensures wait post p ↔
      wait (.handover name url) p ∧
        ∀ failure, (next failure).Ensures wait post (p.told (.handover failure)) := Iff.rfl

@[simp] theorem ensures_startCooldown (next : Program σ α) :
    (startCooldown next).Ensures wait post p ↔
      next.Ensures wait post { p with generation := p.generation + 1 } := Iff.rfl

end Rules

/-! ## Rules of the instructions -/

section Instructions

variable {wait : Errand → Progress σ → Prop} {post : Unit → Progress σ → Prop} {p : Progress σ}

@[simp] theorem ensures_change (f : σ → σ) :
    (change f).Ensures wait post p ↔ post () { p with view := f p.view } := Iff.rfl

@[simp] theorem ensures_ask (effect : Effect) :
    (ask effect).Ensures wait post p ↔ post () { p with effects := p.effects ++ [effect] } :=
  Iff.rfl

@[simp] theorem ensures_onSession (task : SessionM α) (post : α → Progress σ → Prop) :
    (onSession task).Ensures wait post p ↔
      post (task p.session).value { p with session := (task p.session).session } := Iff.rfl

@[simp] theorem ensures_log (event : Log.Event) : (log event).Ensures wait post p ↔ post () p :=
  Iff.rfl

@[simp] theorem ensures_read (view : Session → α) (post : α → Progress σ → Prop) :
    (read view).Ensures wait post p ↔ post (view p.session) p := Iff.rfl

/-- An operation waits for the reply to its call, and then does to the session what it does. -/
@[simp] theorem ensures_perform (client : Client) (operation : Operation α)
    (post : Outcome α → Progress σ → Prop) :
    (perform client operation).Ensures wait post p ↔
      wait (.exchange operation.call) p ∧
        ∀ reply, post (operation.finish client reply p.session).value
          (p.replied reply (operation.finish client reply p.session).session) := Iff.rfl

section Status

variable [HasStatus σ]

@[simp] theorem ensures_changeStatus (f : Status → Status) :
    (changeStatus f).Ensures wait post p ↔
      post () { p with view := HasStatus.modify f p.view } := Iff.rfl

end Status

end Instructions

end Program

end PanelClient
