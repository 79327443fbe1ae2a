import Pop3.Connecting
import Pop3.Injection.Calls
import Pop3.Reconnecting.Callback
import Pop3.Reconnecting.Transience

/-!
# The connections of a reconnecting client

While new connections are dialed, the reconnecting client keeps the one it has:
it is replaced only when an attempt has succeeded.  A connection that is still
open then, after a timeout or a refusal, is open beside the new one.
-/

namespace Pop3

open Rust Pop3Client

/-! ## Connections that are not open -/

/-- The connection is not open. -/
def Shut (transport : Transport σ) : Prop := transport.net.isOpen = false

theorem survivesWrites_shut [Server σ] : SurvivesWrites (Shut : Transport σ → Prop) := by
  refine .of_emit (fun _ _ shut => shut) ?_ (fun _ _ => rfl)
  intro transport bytes shut
  rw [Transport.emit, Net.receive_of_closed (by exact shut)]
  exact shut

theorem shut_readUntil
    {transport : Transport σ}
    (shut : Shut transport) :
    Shut (Transport.readUntil transport).2 := by
  unfold Transport.readUntil
  split
  · exact shut
  · split
    · exact shut
    · refine Bool.eq_false_iff.mpr fun isOpen => ?_
      have wasOpen := ((Transport.pollLine_untouched _ _ _).2 isOpen).1
      exact absurd wasOpen (Bool.eq_false_iff.mp shut)

theorem preserves_shut_readLine :
    Preserves Shut (Transport.readLine : TransportM σ Str) := by
  intro transport shut
  exact Transport.finalState_afterWait (motive := Shut)
    (fun _ _ waited => waited) (fun _ _ waited => waited) (fun _ waited => waited)
    (shut_readUntil shut)

theorem survivesSteps_shut [Server σ] : SurvivesSteps (Shut : Transport σ → Prop) :=
  survivesWrites_shut.steps preserves_shut_readLine

theorem preserves_shut_upgradeInPlace (hostname : Str) :
    Preserves Shut (Transport.upgradeInPlace hostname : TransportM σ Unit) := by
  intro transport shut
  rcases Transport.upgradeInPlace_cases hostname transport with
    ⟨error, run, _⟩ | ⟨error, run, _⟩ | ⟨run, _⟩
  · rw [run]
    exact shut
  · rw [run]
    rfl
  · rw [run]
    exact shut

/-! ## The connections at every moment -/

/-- At most one of the connections is open. -/
def AtMostOneOpen (owned : List (Net σ)) : Prop := (owned.filter Net.isOpen).length ≤ 1

instance (owned : List (Net σ)) : Decidable (AtMostOneOpen owned) :=
  inferInstanceAs (Decidable (_ ≤ 1))

theorem atMostOneOpen_singleton (net : Net σ) : AtMostOneOpen [net] :=
  List.length_filter_le _ _

theorem atMostOneOpen_pair {kept net : Net σ} :
    AtMostOneOpen [kept, net] ↔ (kept.isOpen = true → net.isOpen = false) := by
  unfold AtMostOneOpen
  cases keptOpen : kept.isOpen <;> cases isOpen : net.isOpen <;> simp [keptOpen, isOpen]

section Moments

variable [Server σ] [Md5]

/-- The connection of an attempt: as it is dialed, as the greeting and the upgrade leave it,
and as each of the two authentications leaves it. -/
def Pop3ClientBuilder.stages (builder : Pop3ClientBuilder) (username password : Str)
    (dial : Dial σ) : List (Net σ) :=
  (dial builder.hostname builder.effectivePort).toOption.toList ++
    [finalState (builder.established dial none), finalState (builder.connecting dial none),
      finalState (connectingAndAuth builder username password dial none)].filterMap
        (Option.map Transport.net)

/-- A connection that is not open when it is dialed is not open later. -/
theorem Pop3ClientBuilder.shut_stages
    {builder : Pop3ClientBuilder}
    {username password : Str}
    {dial : Dial σ}
    (dialed : ∀ net, dial builder.hostname builder.effectivePort = .ok net →
      net.isOpen = false) :
    ∀ net ∈ builder.stages username password dial, net.isOpen = false := by
  obtain ⟨established, connecting, authenticating⟩ :
      Leaves Shut (builder.established dial) none ∧ Leaves Shut (builder.connecting dial) none ∧
        Leaves Shut (connectingAndAuth builder username password dial) none :=
    leaves_connectingAndAuth
      (fun net found stream encrypted _ => preserves_shut_readLine _ (dialed net found))
      (survivesSteps_shut.authentication preserves_shut_upgradeInPlace) username password
  intro net member
  rcases List.mem_append.mp member with member | member
  · cases found : dial builder.hostname builder.effectivePort with
    | error error => simp [found, Except.toOption] at member
    | ok other =>
        obtain rfl : net = other := by simpa [found, Except.toOption] using member
        exact dialed net found
  · obtain ⟨left, stage, opened⟩ := List.mem_filterMap.mp member
    obtain ⟨transport, rfl, rfl⟩ := Option.map_eq_some_iff.mp opened
    simp only [List.mem_cons, List.not_mem_nil, or_false] at stage
    rcases stage with stage | stage | stage
    · exact established.opened transport stage.symm
    · exact connecting.opened transport stage.symm
    · exact authenticating.opened transport stage.symm

namespace ReconnectingClient

/-- The connections owned while new ones are dialed: the one that is there beside that of
each attempt. -/
def overlaps (reconnecting : ReconnectingClient σ) : List (List (Net σ)) :=
  (List.range' reconnecting.dialed
    ((finalState (doReconnect reconnecting)).dialed - reconnecting.dialed)).flatMap fun number =>
      (reconnecting.builder.stages reconnecting.username reconnecting.password
        (reconnecting.dials number)).map fun net => [reconnecting.client.transport.net, net]

/-- The connections owned from before an operation until after it. -/
def moments (call : Call) (reconnecting : ReconnectingClient σ) : List (List (Net σ)) :=
  [reconnecting.client.transport.net] ::
    (if call.isCommand = true then
      let attempted := attempted call reconnecting
      [attempted.client.transport.net] ::
        (if warrantsReconnect (firstResult call reconnecting) = true then
          attempted.overlaps ++ [[(finalState (doReconnect attempted)).client.transport.net]]
        else [])
    else []) ++ [[(finalState (perform call reconnecting)).client.transport.net]]

/-- The connections owned at every moment of a run. -/
def allMoments : List Call → ReconnectingClient σ → List (List (Net σ))
  | [], reconnecting => [[reconnecting.client.transport.net]]
  | call :: calls, reconnecting =>
      moments call reconnecting ++ allMoments calls (finalState (perform call reconnecting))

/-- If the first attempt leaves the connection open and warrants a reconnect, then none of
the connections dialed is open. -/
def LetsGo (call : Call) (reconnecting : ReconnectingClient σ) : Prop :=
  call.isCommand = true → warrantsReconnect (firstResult call reconnecting) = true →
    (attempted call reconnecting).client.transport.net.isOpen = true →
      ∀ number, reconnecting.dialed ≤ number →
        number < reconnecting.dialed + reconnecting.tries.length →
          ∀ net, reconnecting.dials number reconnecting.builder.hostname
            reconnecting.builder.effectivePort = .ok net → net.isOpen = false

/-- Each attempt dials once. -/
theorem dialed_doReconnect (reconnecting : ReconnectingClient σ) :
    (finalState (doReconnect reconnecting)).dialed =
      reconnecting.dialed + reconnecting.tries.length := by
  have history : finalState reconnecting.dialing = _ :=
    (ReconnectingClientBuilder.retry_eq reconnecting.username reconnecting.password
      reconnecting.maxRetries 0 reconnecting.toReconnectingClientBuilder).1
  cases dialed : reconnecting.dialing with
  | ok client settings =>
      rw [dialed] at history
      rw [doReconnect_of_ok dialed]
      exact congrArg ReconnectingClientBuilder.dialed history
  | error error settings =>
      rw [dialed] at history
      rw [doReconnect_of_error dialed]
      exact congrArg ReconnectingClientBuilder.dialed history

/-- Two connections are open at once exactly if the one that is there is still open when
another is dialed. -/
theorem overlaps_iff (reconnecting : ReconnectingClient σ) :
    (∀ owned ∈ reconnecting.overlaps, AtMostOneOpen owned) ↔
      (reconnecting.client.transport.net.isOpen = true →
        ∀ number, reconnecting.dialed ≤ number →
          number < reconnecting.dialed + reconnecting.tries.length →
            ∀ net, reconnecting.dials number reconnecting.builder.hostname
              reconnecting.builder.effectivePort = .ok net → net.isOpen = false) := by
  have dialed := dialed_doReconnect reconnecting
  constructor
  · intro atMost isOpen number from_ bound net found
    refine atMostOneOpen_pair.mp (atMost _ (List.mem_flatMap.mpr ⟨number, ?_, ?_⟩)) isOpen
    · rw [List.mem_range'_1, dialed]
      omega
    · refine List.mem_map.mpr ⟨net, List.mem_append.mpr (.inl ?_), rfl⟩
      simp [found, Except.toOption]
  · intro letsGo owned member
    obtain ⟨number, inRange, member⟩ := List.mem_flatMap.mp member
    obtain ⟨net, stage, rfl⟩ := List.mem_map.mp member
    rw [List.mem_range'_1, dialed] at inRange
    refine atMostOneOpen_pair.mpr fun isOpen => ?_
    exact Pop3ClientBuilder.shut_stages (letsGo isOpen number inRange.1 (by omega)) net stage

theorem moments_iff (call : Call) (reconnecting : ReconnectingClient σ) :
    (∀ owned ∈ moments call reconnecting, AtMostOneOpen owned) ↔
      LetsGo call reconnecting := by
  have alone (client : Pop3Client σ) : AtMostOneOpen [client.transport.net] :=
    atMostOneOpen_singleton _
  have overlaps := (attempted call reconnecting).overlaps_iff
  unfold moments LetsGo
  by_cases command : call.isCommand = true
  · by_cases warranted : warrantsReconnect (firstResult call reconnecting) = true
    · simp only [command, warranted, ↓reduceIte, List.cons_append, List.forall_mem_cons,
        List.forall_mem_append, alone, overlaps, List.not_mem_nil, false_implies, implies_true,
        true_and, and_true, forall_const]
      rfl
    · simp [command, alone, warranted]
  · simp [alone, command]

/-- The last moment of a run is that of the client it leaves. -/
theorem getLast?_allMoments (calls : List Call) (reconnecting : ReconnectingClient σ) :
    (allMoments calls reconnecting).getLast? =
      some [(performAll calls reconnecting).client.transport.net] := by
  induction calls generalizing reconnecting with
  | nil => rfl
  | cons call calls inductionHypothesis =>
      rw [allMoments, List.getLast?_append, inductionHypothesis]
      rfl

/-- At every moment of a run at most one connection is open, if and only if no connection is
open that is dialed while the one that is there still is. -/
theorem atMostOneOpen_iff (calls : List Call) (reconnecting : ReconnectingClient σ) :
    (∀ owned ∈ allMoments calls reconnecting, AtMostOneOpen owned) ↔
      ∀ before call after, calls = before ++ call :: after →
        LetsGo call (performAll before reconnecting) := by
  induction calls generalizing reconnecting with
  | nil =>
      refine iff_of_true ?_ fun before call after same => ?_
      · simp only [allMoments, List.forall_mem_singleton]
        exact atMostOneOpen_singleton _
      · simp at same
  | cons call calls inductionHypothesis =>
      rw [allMoments, List.forall_mem_append, moments_iff, inductionHypothesis]
      constructor
      · rintro ⟨first, rest⟩ before later after same
        cases before with
        | nil =>
            injection same with same
            exact same ▸ first
        | cons other before =>
            injection same with same tail
            subst same
            exact rest before later after tail
      · intro always
        exact ⟨always [] call calls rfl, fun before later after same =>
          always (call :: before) later after (congrArg (List.cons call) same)⟩

end ReconnectingClient

end Moments

/-- A new connection is dialed while the one that has timed out is still open. -/
theorem exists_two_open :
    ¬∀ (reconnecting : ReconnectingClient Obliging) (calls : List Call),
      (∀ call ∈ calls, call.isCommand = true) →
        ∀ owned ∈ @ReconnectingClient.allMoments _ _ emptyDigest calls reconnecting,
          AtMostOneOpen owned := by
  intro always
  let _ := emptyDigest
  have together : ((ReconnectingClient.allMoments [.noop] (Obliging.silenced ⟨[]⟩)).all
      fun owned => decide (AtMostOneOpen owned)) = false := by
    decide +kernel
  rw [← Bool.not_eq_true, List.all_eq_true] at together
  exact together fun owned member =>
    decide_eq_true
      (always (Obliging.silenced ⟨[]⟩) [.noop] (by simp [Call.isCommand]) owned member)

end Pop3
