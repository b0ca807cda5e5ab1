import HostEngine.Procedure.Trace
/-!
# What holds of every trace of a procedure

`p.Ensures post` says that the exchanges that `p` makes, log events included, and the result that it
ends with satisfy `post`, whatever is replied. It is taken apart along the procedure, and it holds
if and only if `post` holds of all that `p` yields (`ensures_iff`).
-/
set_option autoImplicit false

namespace HostEngine.Procedure

variable {α β : Type}

/-- Whatever is replied, the exchanges of the procedure and its result satisfy the condition. -/
def Ensures : Procedure α → (List Exchange → α → Prop) → Prop
  | done a, post => post [] a
  | request r next, post => ∀ reply, (next reply).Ensures fun trace => post (⟨r, reply⟩ :: trace)

variable {p : Procedure α} {go : α → Procedure β} {post weaker mid : List Exchange → α → Prop}
  {last : List Exchange → β → Prop}

theorem ensures_iff : p.Ensures post ↔ ∀ trace a, Yields p trace a → post trace a := by
  induction p generalizing post with
  | done result =>
    constructor
    · intro ensures trace a yields
      cases yields with
      | done => exact ensures
    · intro all
      exact all [] result (.done result)
  | request r next ih =>
    constructor
    · intro ensures trace a yields
      cases yields with
      | request _ _ reply rest _ yields => exact (ih reply).mp (ensures reply) rest a yields
    · intro all reply
      exact (ih reply).mpr fun trace a yields => all _ a (.request r next reply trace a yields)

theorem Ensures.mono (ensures : p.Ensures post)
    (implies : ∀ trace a, post trace a → weaker trace a) : p.Ensures weaker :=
  ensures_iff.mpr fun trace a yields => implies trace a (ensures_iff.mp ensures trace a yields)

theorem Ensures.bind (first : p.Ensures mid)
    (second : ∀ trace a, mid trace a → (go a).Ensures fun rest => last (trace ++ rest)) :
    (p >>= go).Ensures last := by
  rw [ensures_iff]
  intro trace b yields
  obtain ⟨before, after, a, rfl, hp, hgo⟩ := yields.exists_of_bind
  exact ensures_iff.mp (second before a (ensures_iff.mp first before a hp)) after b hgo

theorem ensures_log_bind {level : Log.Level} {origin : Log.Origin} {message : String}
    {go : Unit → Procedure β}
    (ensures : (go ()).Ensures fun trace => last (⟨.log ⟨level, origin, message⟩, ()⟩ :: trace)) :
    (log level origin message >>= go).Ensures last :=
  fun _ => ensures

/-- One request, after which the result is known, and nothing is logged. -/
theorem ensures_step {r : Request} {go : r.Reply → Procedure β} {f : r.Reply → β}
    (ends : ∀ reply, go reply = done (f reply)) :
    (perform r >>= go).Ensures fun trace b => ∃ reply, trace = [⟨r, reply⟩] ∧ b = f reply := by
  intro reply
  show (go reply).Ensures _
  rw [ends]
  exact ⟨reply, rfl, rfl⟩

end HostEngine.Procedure
