import MelodyAutomation.Proofs.Engine.Commands

/-!
# Nodes created on a tape and on a link

A tape and a link number new nodes alike. What a link says when it creates a node
goes to addresses beside all channels, and only if the node is active; so it stays
the image of the tape, and an instrument holds the same of the node.
-/

namespace MelodyAutomation

variable {R : Type} [Scalar R]

/-! ## Creation -/

omit [Scalar R] in
theorem Tape.recordings_create (tape : Tape R) (blueprint : Blueprint R) :
    (tape.create blueprint).2.recordings =
      tape.recordings ++
        [Recording.ofBlueprint tape.recordings.length blueprint] := rfl

omit [Scalar R] in
theorem Tape.Holds.create
    {tape : Tape R}
    {primitive : Primitive}
    (holds : tape.Holds primitive)
    (blueprint : Blueprint R) :
    (tape.create blueprint).2.Holds primitive := by
  obtain ⟨number, recording, found, same⟩ := holds
  have inside := (List.getElem?_eq_some_iff.1 found).1
  refine ⟨number, recording, ?_, same⟩
  rw [Tape.recordings_create, List.getElem?_append_left inside, found]

omit [Scalar R] in
theorem Tape.holds_create (tape : Tape R) (blueprint : Blueprint R) :
    (tape.create blueprint).2.Holds (tape.create blueprint).1 :=
  ⟨tape.recordings.length, _, by simp [Tape.recordings_create], rfl⟩

omit [Scalar R] in
/-- A recording has a lane for every parameter of its node whose initial value is
not null. -/
theorem Recording.lane?_ofBlueprint
    {blueprint : Blueprint R}
    {parameter : Parameter}
    (present : blueprint.initial? parameter ≠ some .null)
    (number : Nat) :
    ((Recording.ofBlueprint number blueprint).lane? parameter).isSome =
      (blueprint.initial? parameter).isSome := by
  cases parameter with
  | frequency =>
      simp only [ofBlueprint, fresh, lane?]
      rcases initial : blueprint.initial? .frequency with _ | (_ | _) <;> simp_all
  | gain =>
      simp only [ofBlueprint, fresh, lane?]
      rcases initial : blueprint.initial? .gain with _ | (_ | _) <;> simp_all

/-- A node that was just created has nothing to say. -/
theorem Recording.messages_ofBlueprint
    (number : Nat)
    (blueprint : Blueprint R)
    (base : String)
    (channel : Channel) :
    (Recording.ofBlueprint number blueprint).messages base channel = [] := by
  cases channel with
  | write parameter =>
      cases parameter with
      | frequency =>
          simp only [messages, lane?, ofBlueprint, fresh]
          rcases blueprint.initial? .frequency with _ | (_ | _) <;> rfl
      | gain =>
          simp only [messages, lane?, ofBlueprint, fresh]
          rcases blueprint.initial? .gain with _ | (_ | _) <;> rfl
  | _ => rfl

namespace Link

/-- A link after everything that announces a new node was delivered. -/
def announced (link : Link R) (home : String) (blueprint : Blueprint R)
    (arguments : List (Value R)) : Link R :=
  let described :=
    if blueprint.isActive then link.delivered (home ++ "/create") arguments
    else link
  match harmonics? blueprint with
  | some amplitudes => described.delivered (home ++ "/wave") amplitudes
  | none => described

omit [Scalar R] in
theorem reaches_takeNumber {link final : Link R} {number : Nat} :
    takeNumber.Reaches link number final ↔
      link.issued = number ∧ { link with issued := link.issued + 1 } = final := by
  simp [Session.Reaches, takeNumber, modifyGet, MonadStateOf.modifyGet,
    Logged.succeed]

/-- What is created over a link, and what is left of it. -/
theorem reaches_create
    {link final : Link R}
    (reachable : link.outage = fun _ => none)
    {blueprint : Blueprint R}
    {primitive : Primitive}
    (created : (create blueprint).Reaches link primitive final) :
    ∃ arguments, creationArguments blueprint = .ok arguments ∧
      primitive =
        { node := .created blueprint.kind link.issued
          active := blueprint.isActive
          hasFrequency := (blueprint.initial? .frequency).isSome
          hasGain := (blueprint.initial? .gain).isSome } ∧
      final =
        { link with issued := link.issued + 1 }.announced
          (Node.address link.base (.created blueprint.kind link.issued))
          blueprint arguments := by
  unfold create at created
  simp only [Session.reaches_bind, Session.reaches_attempt,
    Session.reaches_get, reaches_takeNumber] at created
  obtain ⟨arguments, _, ⟨described, rfl⟩, _, _, ⟨rfl, rfl⟩, _, _,
    ⟨rfl, rfl⟩, created⟩ := created
  refine ⟨arguments, described, ?_⟩
  cases isActive : blueprint.isActive with
  | false =>
      cases harmonics : harmonics? blueprint with
      | none =>
          simp [isActive, harmonics, announced] at created ⊢
          exact ⟨created.1.symm, created.2.symm⟩
      | some amplitudes =>
          simp [isActive, harmonics, announced, reaches_send, reachable]
            at created ⊢
          exact ⟨created.2.symm, created.1.symm⟩
  | true =>
      cases harmonics : harmonics? blueprint with
      | none =>
          simp [isActive, harmonics, announced, reaches_send, reachable]
            at created ⊢
          exact ⟨created.2.symm, created.1.symm⟩
      | some amplitudes =>
          simp [isActive, harmonics, announced, reaches_send, reachable]
            at created ⊢
          obtain ⟨⟨_, waved⟩, same⟩ := created
          exact ⟨same.symm, ((reaches_send rfl).1 waved).symm⟩

/-- What is created over a link has an initial value for every parameter. -/
theorem initial?_ne_null
    {blueprint : Blueprint R}
    {arguments : List (Value R)}
    (described : creationArguments blueprint = .ok arguments)
    (parameter : Parameter) :
    blueprint.initial? parameter ≠ some .null := by
  intro absent
  cases blueprint <;> cases parameter <;>
    simp_all [Blueprint.initial?, creationArguments, Value.toScalar,
      Value.toNumber, Value.number?]

end Link

namespace Image

variable {base : String} {tape : Tape R} {link : Link R}

/-- A node that is created and not mentioned extends the image. -/
theorem extend (image : Image base tape link) (blueprint : Blueprint R) :
    Image base (tape.create blueprint).2
      { link with issued := link.issued + 1 } := by
  -- A recording is one of the earlier ones or the new one at the end.
  have split {number : Nat} {recording : Recording R}
      (found : (tape.create blueprint).2.recordings[number]? = some recording) :
      tape.recordings[number]? = some recording ∨
        number = tape.recordings.length ∧
          recording = Recording.ofBlueprint number blueprint := by
    rw [Tape.recordings_create, List.getElem?_append] at found
    split at found
    · exact .inl found
    · obtain ⟨atEnd, same⟩ := List.getElem?_eq_some_iff.1 found
      have number_eq : number = tape.recordings.length := by
        rw [List.length_singleton] at atEnd
        omega
      subst number_eq
      exact .inr ⟨rfl, by simpa using same.symm⟩
  refine ⟨image.base_eq, image.reachable, ?_, ?_, ?_, ?_⟩
  · simp [Tape.recordings_create, image.issued_eq]
  · intro number recording found
    rcases split found with earlier | ⟨rfl, rfl⟩
    · exact image.numbered number recording earlier
    · exact ⟨blueprint.kind, rfl⟩
  · intro number recording found channel
    rcases split found with earlier | ⟨rfl, rfl⟩
    · exact image.messages_eq number recording earlier channel
    · have silent : ¬ link.Mentions
          (Node.address base (.created blueprint.kind tape.recordings.length)) := by
        intro mentioned
        obtain ⟨recording, found, -, -⟩ :=
          image.active_of_mentions _ _ mentioned
        simp at found
      rw [Recording.messages_ofBlueprint]
      exact congrArg _ (Link.sentTo_of_not_mentions silent channel)
  · intro kind number mentioned
    obtain ⟨recording, found, node, active⟩ :=
      image.active_of_mentions kind number mentioned
    refine ⟨recording, ?_, node, active⟩
    have inside := (List.getElem?_eq_some_iff.1 found).1
    rw [Tape.recordings_create, List.getElem?_append_left inside, found]

/-- What announces a recorded node leaves the image as it is. -/
theorem announced
    (image : Image base tape link)
    {number : Nat}
    {recording : Recording R}
    {blueprint : Blueprint R}
    (found : tape.recordings[number]? = some recording)
    (active : recording.active = blueprint.isActive)
    (arguments : List (Value R)) :
    Image base tape
      (link.announced (recording.node.address base) blueprint arguments) := by
  have address := recording.node.address_part base
  have described (isActive : blueprint.isActive = true) :
      Image base tape
        (link.delivered (recording.node.address base ++ "/create") arguments) := by
    have created := image.delivered_beside ["create"] found
      (active.trans isActive) (by decide)
      (fun channel => by rcases channel with _ | _ | _ | (_ | _) <;> decide)
      arguments
    rwa [← address "create"] at created
  cases blueprint with
  | oscillator waveform frequency gain =>
      cases harmonics : Link.harmonics? (.oscillator waveform frequency gain) with
      | none =>
          simp only [Link.announced, harmonics, Blueprint.isActive, if_true]
          exact described rfl
      | some amplitudes =>
          simp only [Link.announced, harmonics, Blueprint.isActive, if_true]
          have waved := (described rfl).delivered_beside ["wave"] found
            active (by decide)
            (fun channel => by
              rcases channel with _ | _ | _ | (_ | _) <;> decide)
            amplitudes
          rwa [← address "wave"] at waved
  | noise type gain =>
      simp only [Link.announced, Link.harmonics?]
      split
      next isActive => exact described isActive
      next => exact image
  | filter type frequency gain =>
      simp only [Link.announced, Link.harmonics?]
      split
      next isActive => exact described isActive
      next => exact image

/-- A link that creates a node does so as the tape, and goes on mirroring it. -/
theorem create
    (image : Image base tape link)
    {blueprint : Blueprint R}
    {primitive : Primitive}
    {final : Link R}
    (created : (Link.create blueprint).Reaches link primitive final) :
    (tape.create blueprint).1 = primitive ∧
      Image base (tape.create blueprint).2 final := by
  obtain ⟨arguments, described, rfl, rfl⟩ :=
    Link.reaches_create image.reachable created
  have present := Link.initial?_ne_null described
  rw [image.base_eq, image.issued_eq]
  constructor
  · have frequency := Recording.lane?_ofBlueprint (present .frequency)
      tape.recordings.length
    have gain := Recording.lane?_ofBlueprint (present .gain)
      tape.recordings.length
    rw [← frequency, ← gain]
    rfl
  · have found : (tape.create blueprint).2.recordings[tape.recordings.length]? =
        some (Recording.ofBlueprint tape.recordings.length blueprint) := by
      simp [Tape.recordings_create]
    have announced := (image.extend blueprint).announced found rfl arguments
    rwa [image.issued_eq, image.base_eq] at announced

end Image

end MelodyAutomation
