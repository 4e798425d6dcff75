import MelodyAutomation.Proofs.SessionContracts
import MelodyAutomation.Proofs.Stage.Script

/-!
# Moves

Whatever is done with an instrument comes down to five moves: it is started, writes
a schedule, waits, is stopped, and its modulating oscillators are silenced. On a
tape a move carries out a script, which is decided by the time and by whether the
instrument plays. A play is two steps, since others may come between its beginning
and its end; every step is a sequence of moves.
-/

namespace MelodyAutomation

variable {R : Type}

/-! ## Attempts in a row -/

/-- The results of attempts that are made until one is refused. -/
def Attempt.granted {α : Type} : List (Attempt R α) → List α
  | .ok result :: rest => result :: granted rest
  | _ => []

/-- Where nothing is refused, everything is granted. -/
theorem Attempt.map_granted
    {α : Type}
    {attempts : List (Attempt R α)}
    (all : attempts.all Except.isOk = true) :
    (granted attempts).map .ok = attempts := by
  induction attempts with
  | nil => rfl
  | cons attempt rest hypothesis =>
      rw [List.all_cons, Bool.and_eq_true] at all
      obtain ⟨result, rfl⟩ := exists_of_isOk all.1
      simp [granted, hypothesis all.2]

/-- What is granted is one of the results. -/
theorem Attempt.mem_of_mem_granted
    {α : Type}
    {attempts : List (Attempt R α)}
    {result : α}
    (member : result ∈ granted attempts) :
    .ok result ∈ attempts := by
  induction attempts with
  | nil => cases member
  | cons attempt rest hypothesis =>
      cases attempt with
      | error failure => cases member
      | ok first =>
          rcases List.mem_cons.1 member with rfl | later
          · exact List.mem_cons_self
          · exact List.mem_cons_of_mem _ (hypothesis later)

/-! ## Commands -/

/-- The command for a write. -/
def Command.ofWrite : Socket × Event R → Command R
  | (socket, .set value time) => .set socket value time
  | (socket, .ramp value time) => .ramp socket value time

namespace Command

@[simp] theorem write?_ofWrite (write : Socket × Event R) :
    (ofWrite write).write? = some write := by
  obtain ⟨socket, value | value⟩ := write <;> rfl

@[simp] theorem target_ofWrite (write : Socket × Event R) :
    (ofWrite write).target = write.1.node := by
  obtain ⟨socket, value | value⟩ := write <;> rfl

/-- A write does not count for a ledger. -/
@[simp] theorem enter_ofWrite (ledger : Ledger) (write : Socket × Event R) :
    ledger.enter (ofWrite write) = ledger := by
  obtain ⟨socket, value | value⟩ := write <;> rfl

end Command

/-- What an active primitive is told; an inactive one is told nothing. -/
def Primitive.told (primitive : Primitive) (command : Node → Command R) :
    List (Command R) :=
  if primitive.active then [command primitive.node] else []

namespace Stage

/-- Make writes until one is refused. -/
def writeAll [Scalar R] (writes : List (Attempt R (Socket × Event R))) :
    Session (Stage R) R Unit :=
  writes.forM fun attempt => do
    let write ← attempt
    perform (.ofWrite write)

/-- A stage on which it was noted whether an instrument plays. -/
def noted (stage : Stage R) (number : Nat) (playing : Bool) : Stage R :=
  { stage with
    playing := fun other =>
      if other = number then playing else stage.playing other }

theorem noted_self (stage : Stage R) (number : Nat) :
    stage.noted number (stage.playing number) = stage := by
  have same : (fun other => if other = number then stage.playing number
      else stage.playing other) = stage.playing := by
    funext other
    split
    next equal => rw [equal]
    next => rfl
  rw [noted, same]

theorem reaches_setPlaying (stage : Stage R) (number : Nat) (playing : Bool) :
    (setPlaying number playing : Session (Stage R) R Unit).Reaches stage ()
      (stage.noted number playing) :=
  ⟨rfl, rfl⟩

variable [Scalar R]

theorem performAll_append (first second : List (Command R)) :
    performAll (first ++ second) =
      performAll first >>= fun _ => performAll second := by
  simp [performAll]

theorem start_eq (primitive : Primitive) :
    (start primitive : Session (Stage R) R Unit) =
      performAll (primitive.told .start) := by
  unfold start Primitive.told
  split <;> simp [performAll]

theorem stop_eq (primitive : Primitive) (time : Option (Value R)) :
    stop primitive time =
      performAll (primitive.told fun node => .stop node time) := by
  unfold stop Primitive.told
  split <;> simp [performAll]

theorem connect_eq (primitive : Primitive) (inlet : Inlet) :
    (connect primitive inlet : Session (Stage R) R Unit) =
      performAll (primitive.told fun node => .connect node inlet) := by
  unfold connect Primitive.told
  split <;> simp [performAll]

theorem forM_performAll
    {α : Type}
    (script : α → List (Command R))
    (items : List α) :
    (items.forM fun item => performAll (script item)) =
      performAll (items.flatMap script) := by
  induction items with
  | nil => rfl
  | cons item rest hypothesis =>
      rw [List.flatMap_cons, performAll_append, ← hypothesis]
      rfl

/-- On a tape exactly those writes are made that are granted. -/
theorem run_writeAll
    {stage : Stage R}
    (onTape : stage.OnTape)
    (writes : List (Attempt R (Socket × Event R))) :
    ((writeAll writes).run stage).1.outcome.isOk = writes.all Except.isOk ∧
      ((writeAll writes).run stage).2 =
        stage.performed ((Attempt.granted writes).map .ofWrite) := by
  induction writes generalizing stage with
  | nil => simp [writeAll, Attempt.granted, Except.isOk, Except.toBool]
  | cons attempt rest hypothesis =>
      cases attempt with
      | error failure => simp [writeAll, Attempt.granted, Session.run_bind_eq,
          Session.liftM_attempt, Logged.ofAttempt, Except.isOk, Except.toBool]
      | ok write =>
          have first : ((liftM (.ok write : Attempt R (Socket × Event R))) >>=
              fun write => perform (.ofWrite write)).Reaches stage ()
                (stage.performed [.ofWrite write]) := by
            have ran := reaches_performAll onTape [Command.ofWrite write]
            exact Session.reaches_bind.2 ⟨write, stage,
              Session.reaches_attempt.2 ⟨rfl, rfl⟩, by simpa [performAll] using ran⟩
          have continued := first.run_bind fun _ => writeAll rest
          obtain ⟨outcome, final⟩ := hypothesis (onTape.performed _)
          refine ⟨?_, ?_⟩
          · rw [writeAll, List.forM_eq_forM, List.forM_cons]
            exact (congrArg Except.isOk continued.1).trans (by
              rw [outcome]
              rfl)
          · rw [writeAll, List.forM_eq_forM, List.forM_cons]
            exact continued.2.trans (by
              rw [final, performed_performed]
              rfl)

theorem reaches_writeAll
    {stage : Stage R}
    (onTape : stage.OnTape)
    {writes : List (Attempt R (Socket × Event R))}
    (all : writes.all Except.isOk = true) :
    (writeAll writes).Reaches stage ()
      (stage.performed ((Attempt.granted writes).map .ofWrite)) := by
  obtain ⟨outcome, final⟩ := run_writeAll onTape writes
  obtain ⟨⟨⟩, finished⟩ := Attempt.exists_of_isOk (outcome.trans all)
  exact ⟨finished, final⟩

theorem writeAll_singleton (write : Attempt R (Socket × Event R)) :
    writeAll [write] = liftM write >>= fun write => perform (.ofWrite write) := by
  simp [writeAll]

theorem writeAll_append (first second : List (Attempt R (Socket × Event R))) :
    writeAll (first ++ second) =
      writeAll first >>= fun _ => writeAll second := by
  simp [writeAll]

theorem forM_writeAll
    {α : Type}
    (writes : α → List (Attempt R (Socket × Event R)))
    (items : List α) :
    (items.forM fun item => writeAll (writes item)) =
      writeAll (items.flatMap writes) := by
  induction items with
  | nil => rfl
  | cons item rest hypothesis =>
      rw [List.flatMap_cons, writeAll_append, ← hypothesis]
      rfl

end Stage

/-! ## What is written -/

section

variable [Scalar R]

/-- The write of a segment that is the first of its block: it is set at its start,
relative to a time. -/
def Segment.setAfter (now : Value R) (segment : Segment R) :
    Attempt R (Event R) := do
  let begin ← now.add segment.start
  .ok (.set segment.value begin)

/-- The write of any other segment: a ramp that reaches its end. -/
def Segment.rampAfter (now : Value R) (segment : Segment R) :
    Attempt R (Event R) := do
  let begin ← now.add segment.start
  let time ← begin.add segment.ramp
  .ok (.ramp (Instrument.rampValue segment.value) time)

/-- The writes of a block, relative to a time. -/
def Block.eventsAfter (now : Value R) : Block R → List (Attempt R (Event R))
  | [] => []
  | first :: rest => first.setAfter now :: rest.map (Segment.rampAfter now)

/-- Writes to a socket, if there is one. -/
def Socket.writes (socket : Option Socket) (events : List (Attempt R (Event R))) :
    List (Attempt R (Socket × Event R)) :=
  match socket with
  | none => []
  | some own => events.map (Except.map (Prod.mk own))

omit [Scalar R] in
theorem Socket.writes_append
    (socket : Option Socket)
    (first second : List (Attempt R (Event R))) :
    writes socket (first ++ second) =
      writes socket first ++ writes socket second := by
  cases socket <;> simp [writes]

omit [Scalar R] in
theorem Socket.writes_flatMap
    {α : Type}
    (socket : Option Socket)
    (events : α → List (Attempt R (Event R)))
    (items : List α) :
    writes socket (items.flatMap events) =
      items.flatMap fun item => writes socket (events item) := by
  induction items with
  | nil => cases socket <;> rfl
  | cons item rest hypothesis =>
      rw [List.flatMap_cons, writes_append, hypothesis, List.flatMap_cons]

end

namespace Instrument

variable [Scalar R]

/-- The last segment of whatever fades out: from now on down to nothing. -/
def fading : Segment R := ⟨.int 0, release, .int 0⟩

/-- The writes of a schedule, relative to a time. -/
def scheduleWrites (instrument : Instrument R) (schedule : Schedule R)
    (now : Value R) : List (Attempt R (Socket × Event R)) :=
  schedule.blocks.entries.flatMap fun entry =>
    Socket.writes (instrument.socket? entry.1)
      (entry.2.flatMap (Block.eventsAfter now))

/-- The writes with which an instrument fades out. -/
def fadeWrites (instrument : Instrument R) (now : Value R) :
    List (Attempt R (Socket × Event R)) :=
  Socket.writes (instrument.socket? .oscillatorGain) [fading.rampAfter now]

omit [Scalar R] in
/-- What is known to succeed goes on at once. -/
theorem liftM_ok_bind
    {S α β : Type}
    (value : α)
    (next : α → Session S R β) :
    (liftM (.ok value : Attempt R α) : Session S R α) >>= next = next value :=
  pure_bind value next

theorem writeSegment_set
    (socket : Option Socket)
    (segment : Segment R)
    (now : Value R) :
    writeSegment socket segment.value segment.start segment.ramp true now =
      Stage.writeAll (Socket.writes socket [segment.setAfter now]) := by
  cases socket with
  | none => rfl
  | some own =>
      rw [Socket.writes, List.map_singleton, Stage.writeAll_singleton,
        Segment.setAfter, writeSegment]
      cases now.add segment.start <;> rfl

theorem writeSegment_ramp
    (socket : Option Socket)
    (segment : Segment R)
    (now : Value R) :
    writeSegment socket segment.value segment.start segment.ramp false now =
      Stage.writeAll (Socket.writes socket [segment.rampAfter now]) := by
  cases socket with
  | none => rfl
  | some own =>
      rw [Socket.writes, List.map_singleton, Stage.writeAll_singleton,
        Segment.rampAfter, writeSegment]
      cases now.add segment.start with
      | error failure => rfl
      | ok begin =>
          rw [liftM_ok_bind, Attempt.ok_bind]
          cases begin.add segment.ramp <;> rfl

theorem writeBlock_eq
    (socket : Option Socket)
    (now : Value R)
    (block : Block R) :
    writeBlock socket now block =
      Stage.writeAll (Socket.writes socket (Block.eventsAfter now block)) := by
  cases block with
  | nil => cases socket <;> rfl
  | cons first rest =>
      have ramps : (rest.forM fun segment => writeSegment socket segment.value
          segment.start segment.ramp false now) = Stage.writeAll
            (Socket.writes socket (rest.map (Segment.rampAfter now))) := by
        simp only [writeSegment_ramp, Stage.forM_writeAll]
        rw [← Socket.writes_flatMap, ← List.map_eq_flatMap]
      rw [writeBlock, writeSegment_set, ramps, ← Stage.writeAll_append,
        ← Socket.writes_append]
      rfl

/-- A schedule is applied by making its writes. -/
theorem applySchedule_eq
    (instrument : Instrument R)
    (schedule : Schedule R) :
    instrument.applySchedule schedule = get >>= fun stage =>
      Stage.writeAll
        (instrument.scheduleWrites schedule (.real stage.nowMs)) := by
  have blocks (target : Target) (now : Value R) (blocks : List (Block R)) :
      blocks.forM (writeBlock (instrument.socket? target) now) =
        Stage.writeAll (Socket.writes (instrument.socket? target)
          (blocks.flatMap (Block.eventsAfter now))) := by
    rw [Socket.writes_flatMap, ← Stage.forM_writeAll]
    exact congrArg (List.forM blocks) (funext (writeBlock_eq _ now))
  simp only [applySchedule, blocks, Stage.forM_writeAll]
  rfl

/-! ## What is told -/

omit [Scalar R] in
/-- The script that starts an instrument. -/
def startScript (instrument : Instrument R) : List (Command R) :=
  instrument.oscillator.told .start ++ (instrument.noise.told .start ++
    instrument.modulators.flatMap fun entry => entry.2.told .start)

omit [Scalar R] in
/-- The script that stops the sources of an instrument, the oscillator when it has
faded out. -/
def muteScript (instrument : Instrument R) (silence : Option (Value R)) :
    List (Command R) :=
  instrument.oscillator.told (fun node => .stop node silence) ++
    instrument.noise.told fun node => .stop node none

/-- The script that stops an instrument which plays. -/
def stopScript (instrument : Instrument R) (now : Value R) :
    List (Command R) :=
  (Attempt.granted (instrument.fadeWrites now)).map .ofWrite ++
    instrument.muteScript (now.add release).toOption

omit [Scalar R] in
/-- The script that silences the modulating oscillators of an instrument. -/
def silenceScript (instrument : Instrument R) : List (Command R) :=
  instrument.modulators.flatMap fun entry =>
    entry.2.told fun node => .stop node none

/-- One thing that is done with an instrument at once. -/
inductive Move (R : Type)
  | start
  | stop
  | silence
  | write (schedule : Schedule R)
  | wait (reading : R)

namespace Move

/-- The script that a move carries out. -/
def script (instrument : Instrument R) (stage : Stage R) :
    Move R → List (Command R)
  | start => instrument.startScript
  | stop =>
      if stage.playing instrument.number then
        instrument.stopScript (.real stage.nowMs)
      else []
  | silence => instrument.silenceScript
  | write schedule =>
      (Attempt.granted
        (instrument.scheduleWrites schedule (.real stage.nowMs))).map .ofWrite
  | wait _ => []

/-- What a move leaves of a stage on a tape. -/
def result (instrument : Instrument R) (stage : Stage R) (move : Move R) :
    Stage R :=
  let told := stage.performed (move.script instrument stage)
  match move with
  | start => told.noted instrument.number true
  | stop => told.noted instrument.number false
  | wait reading => { told with clock := reading }
  | silence | write _ => told

end Move

/-- What moves leave of a stage, one after another. -/
def moved (instrument : Instrument R) (moves : List (Move R))
    (stage : Stage R) : Stage R :=
  moves.foldl (Move.result instrument) stage

@[simp] theorem moved_nil (instrument : Instrument R) (stage : Stage R) :
    instrument.moved [] stage = stage := rfl

@[simp] theorem moved_cons
    (instrument : Instrument R)
    (move : Move R)
    (rest : List (Move R))
    (stage : Stage R) :
    instrument.moved (move :: rest) stage =
      instrument.moved rest (move.result instrument stage) := rfl

theorem moved_append
    (instrument : Instrument R)
    (first second : List (Move R))
    (stage : Stage R) :
    instrument.moved (first ++ second) stage =
      instrument.moved second (instrument.moved first stage) :=
  List.foldl_append

/-! ## What a move does to a stage -/

section

variable (instrument : Instrument R) (stage : Stage R) (move : Move R)

theorem onTape_result
    {stage : Stage R}
    (onTape : stage.OnTape) :
    (move.result instrument stage).OnTape := by
  have told := onTape.performed (move.script instrument stage)
  cases move <;> exact told

theorem onTape_moved
    {stage : Stage R}
    (moves : List (Move R))
    (onTape : stage.OnTape) :
    (instrument.moved moves stage).OnTape := by
  induction moves generalizing stage with
  | nil => exact onTape
  | cons move rest hypothesis =>
      exact hypothesis (onTape_result instrument move onTape)

@[simp] theorem realtime_result :
    (move.result instrument stage).realtime = stage.realtime := by
  cases move <;> exact Stage.realtime_performed _ _

@[simp] theorem timebase_result :
    (move.result instrument stage).timebase = stage.timebase := by
  cases move <;> exact Stage.timebase_performed _ _

/-- A move records what its script says, and nothing else. -/
@[simp] theorem recording?_result :
    (move.result instrument stage).recording? =
      (stage.performed (move.script instrument stage)).recording? := by
  cases move <;> rfl

end

end Instrument
end MelodyAutomation
