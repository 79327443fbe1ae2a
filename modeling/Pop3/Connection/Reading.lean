import Pop3.Connection.Weather

/-!
# Reading through the weather

However a reply arrives, the transport reads the line that its view reads.
-/

namespace Pop3

open Rust

namespace Transport

/-! ## Lines of a byte stream -/

theorem splitFeed_eq_none {bytes : List UInt8} (noFeed : 10 ∉ bytes) :
    splitFeed bytes = none := by
  induction bytes with
  | nil => rfl
  | cons byte bytes inductionHypothesis =>
      simp only [List.mem_cons, not_or] at noFeed
      simp [splitFeed, Ne.symm noFeed.1, inductionHypothesis noFeed.2]

theorem not_mem_of_splitFeed_eq_none
    {bytes : List UInt8}
    (none_eq : splitFeed bytes = none) :
    10 ∉ bytes := by
  induction bytes with
  | nil => simp
  | cons byte bytes inductionHypothesis =>
      unfold splitFeed at none_eq
      split at none_eq
      · contradiction
      · rename_i different
        simp only [Option.map_eq_none_iff] at none_eq
        simp [Ne.symm different, inductionHypothesis none_eq]

/-- The first line is found behind bytes without LF. -/
theorem splitFeed_append
    {front : List UInt8}
    (noFeed : 10 ∉ front)
    (bytes : List UInt8) :
    splitFeed (front ++ bytes) =
      (splitFeed bytes).map fun split => (front ++ split.1, split.2) := by
  induction front with
  | nil => simp
  | cons byte front inductionHypothesis =>
      simp only [List.mem_cons, not_or] at noFeed
      rw [List.cons_append, splitFeed, if_neg (Ne.symm noFeed.1),
        inductionHypothesis noFeed.2, Option.map_map]
      rfl

theorem splitFeed_line
    {line : List UInt8}
    (noFeed : 10 ∉ line)
    (rest : List UInt8) :
    splitFeed (line ++ 10 :: rest) = some (line ++ [10], rest) := by
  rw [splitFeed_append noFeed]
  simp [splitFeed]

theorem splitFeed_eq_some
    {bytes line rest : List UInt8}
    (found : splitFeed bytes = some (line, rest)) :
    ∃ front, 10 ∉ front ∧ line = front ++ [10] ∧ bytes = front ++ 10 :: rest := by
  induction bytes generalizing line with
  | nil => cases found
  | cons byte bytes inductionHypothesis =>
      unfold splitFeed at found
      split at found
      · rename_i feed
        cases found
        exact ⟨[], by simp, by simp [feed], by simp [feed]⟩
      · rename_i different
        obtain ⟨⟨line', rest'⟩, tail, same⟩ := Option.map_eq_some_iff.mp found
        cases same
        obtain ⟨front, noFeed, rfl, rfl⟩ := inductionHypothesis tail
        exact ⟨byte :: front, by simp [Ne.symm different, noFeed], rfl, rfl⟩

/-- What comes later does not change the first line. -/
theorem splitFeed_append_of_eq_some
    {bytes line rest : List UInt8}
    (found : splitFeed bytes = some (line, rest))
    (later : List UInt8) :
    splitFeed (bytes ++ later) = some (line, rest ++ later) := by
  obtain ⟨front, noFeed, rfl, rfl⟩ := splitFeed_eq_some found
  rw [List.append_assoc, List.cons_append, splitFeed_line noFeed]

/-! ## Reading -/

/-- A poll loop finds the next line of everything that is on its way, unless
the deadline fires or the connection is lost. -/
theorem pollLine_cases
    {weather : Weather}
    {ticks : List ReadTick}
    (within : ∀ tick ∈ ticks, tick.Within weather)
    {line : List UInt8}
    (noFeed : 10 ∉ line)
    (net : Net σ) :
    (∃ read buffer wire reads,
      pollLine line net ticks = (read, buffer, { net with wire, reads }) ∧
      View.nextLine net.isOpen (line ++ net.wire) = (read, buffer ++ wire) ∧
      ∀ tick ∈ reads, tick.Within weather) ∨
    (weather.late ∧ ∃ lost after, pollLine line net ticks = (.timedOut lost, [], after) ∧
      after.trace = net.trace) ∨
    (weather.lossy ∧ ∃ read after, pollLine line net ticks = (read, [], after) ∧
      after.isOpen = false ∧ after.wire = []) := by
  induction ticks generalizing line net with
  | nil =>
      left
      unfold pollLine View.nextLine
      rw [splitFeed_append noFeed]
      cases split : splitFeed net.wire with
      | some found => exact ⟨_, _, [], [], rfl, by simp, by simp⟩
      | none =>
          by_cases isOpen : net.isOpen
          · exact ⟨.timedOut (line ++ net.wire), [], [], [],
              by simp [isOpen], by simp [isOpen], by simp⟩
          · exact ⟨.line (line ++ net.wire), [], [], [],
              by simp [isOpen], by simp [isOpen], by simp⟩
  | cons tick ticks inductionHypothesis =>
      have withinRest : ∀ tick ∈ ticks, tick.Within weather :=
        fun other member => within other (by simp [member])
      cases tick with
      | deadline =>
          exact .inr (.inl ⟨within .deadline (by simp), _, _, rfl, rfl⟩)
      | drop loss =>
          have lossy : weather.lossy := within (.drop loss) (by simp)
          refine .inr (.inr ⟨lossy, ?_⟩)
          cases loss <;> exact ⟨_, _, rfl, rfl, rfl⟩
      | arrive count =>
          by_cases empty : net.wire = []
          · left
            unfold pollLine View.nextLine
            rw [splitFeed_append noFeed]
            by_cases isOpen : net.isOpen
            · exact ⟨.timedOut line, [], [], ticks, by simp [empty, isOpen],
                by simp [empty, isOpen, splitFeed], withinRest⟩
            · exact ⟨.line line, [], [], ticks, by simp [empty, isOpen],
                by simp [empty, isOpen, splitFeed], withinRest⟩
          · have parts := List.take_append_drop (count + 1) net.wire
            cases split : splitFeed (net.wire.take (count + 1)) with
            | some found =>
                left
                have whole := splitFeed_append_of_eq_some split
                  (net.wire.drop (count + 1))
                rw [parts] at whole
                refine ⟨.line (line ++ found.1), found.2, net.wire.drop (count + 1),
                  ticks, ?_, ?_, withinRest⟩
                · simp [pollLine, empty, split]
                · simp [View.nextLine, splitFeed_append noFeed, whole]
            | none =>
                have noFeed' : 10 ∉ line ++ net.wire.take (count + 1) := by
                  simp [noFeed, not_mem_of_splitFeed_eq_none split]
                have rest := inductionHypothesis withinRest noFeed'
                  { net with wire := net.wire.drop (count + 1), reads := ticks }
                have step : pollLine line net (.arrive count :: ticks) =
                    pollLine (line ++ net.wire.take (count + 1))
                      { net with wire := net.wire.drop (count + 1), reads := ticks }
                      ticks := by
                  simp [pollLine, empty, split]
                rw [step]
                simpa only [List.append_assoc, parts] using rest

/-- A poll loop takes from what is in flight and from the schedule, unless the schedule has the
connection lost. -/
theorem pollLine_net (line : List UInt8) (net : Net σ) (ticks : List ReadTick) :
    (∃ wire reads, reads <:+ ticks ∧ (pollLine line net ticks).2.2 = { net with wire, reads }) ∨
      ∃ loss reads, .drop loss ∈ ticks ∧
        (pollLine line net ticks).2.2 = { net with reads }.lose := by
  induction ticks generalizing line net with
  | nil =>
      unfold pollLine
      dsimp only
      split
      · exact .inl ⟨_, _, List.suffix_rfl, rfl⟩
      · split <;> exact .inl ⟨_, _, List.suffix_rfl, rfl⟩
  | cons tick ticks inductionHypothesis =>
      have rest : ticks <:+ tick :: ticks := List.suffix_cons tick ticks
      cases tick with
      | deadline => exact .inl ⟨_, _, rest, rfl⟩
      | drop loss => cases loss <;> exact .inr ⟨_, _, List.mem_cons_self, rfl⟩
      | arrive count =>
          unfold pollLine
          dsimp only
          split
          · split <;> exact .inl ⟨_, _, rest, rfl⟩
          · split
            · exact .inl ⟨_, _, rest, rfl⟩
            · rcases inductionHypothesis (line ++ net.wire.take (count + 1))
                { net with wire := net.wire.drop (count + 1), reads := ticks } with
                ⟨wire, reads, suffix, same⟩ | ⟨loss, reads, member, same⟩
              · exact .inl ⟨wire, reads, suffix.trans rest, same⟩
              · exact .inr ⟨loss, reads, List.mem_cons_of_mem _ member, same⟩

/-- What `readLine` makes of one wait for a line. -/
def afterWait : LineRead × Transport σ → EStateM.Result Pop3Error (Transport σ) Str
  | (.timedOut lost, after) => .error .timeout (after.log (.timedOut lost))
  | (.failed error, after) => .error (.io error) after
  | (.line bytes, after) =>
      let after := after.log (.consumed bytes)
      match fromUtf8 bytes with
      | none => .error (.io invalidUtf8) after
      | some line =>
          if bytes.length = 0 then
            .error .connectionClosed { after with isClosed := true }
          else .ok line after

theorem readLine_eq (transport : Transport σ) :
    readLine transport = afterWait (readUntil transport) := rfl

/-- What a wait has left and each entry of the observation keeps, `readLine` keeps. -/
theorem finalState_afterWait
    {motive : Transport σ → Prop}
    (timedOut : ∀ lost after, motive after → motive (after.log (.timedOut lost)))
    (consumed : ∀ bytes after, motive after → motive (after.log (.consumed bytes)))
    (closed : ∀ after, motive after → motive after.setClosed)
    {wait : LineRead × Transport σ}
    (waited : motive wait.2) :
    motive (finalState (afterWait wait)) := by
  obtain ⟨read, after⟩ := wait
  cases read with
  | timedOut lost => exact timedOut lost after waited
  | failed error => exact waited
  | line bytes =>
      have logged := consumed bytes after waited
      unfold afterWait
      dsimp only
      split
      · exact logged
      · split
        · exact closed _ logged
        · exact logged

/-- A line that is read is what a wait has found. -/
theorem exists_of_readLine_ok
    {transport after : Transport σ}
    {line : Str}
    (reads : readLine transport = .ok line after) :
    ∃ bytes middle, readUntil transport = (.line bytes, middle) ∧
      fromUtf8 bytes = some line ∧ bytes ≠ [] ∧ after = middle.log (.consumed bytes) := by
  rw [readLine_eq] at reads
  cases wait : readUntil transport with
  | mk read middle =>
      rw [wait] at reads
      cases read with
      | timedOut lost => cases reads
      | failed error => cases reads
      | line bytes =>
          unfold afterWait at reads
          dsimp only at reads
          split at reads
          · cases reads
          · rename_i text isText
            split at reads
            · cases reads
            · rename_i nonempty
              cases reads
              exact ⟨bytes, middle, rfl, isText, fun empty => nonempty (empty ▸ rfl), rfl⟩

end Transport

section Reading

variable {weather : Weather} {transport : Transport σ} {view : View σ}

theorem Shows.consume
    (shown : Shows weather transport view)
    {buffer wire rest : List UInt8}
    {reads : List ReadTick}
    (pending : buffer ++ wire = rest)
    (within : ∀ tick ∈ reads, tick.Within weather) :
    Shows weather
      { transport with buffer, net := { transport.net with wire, reads } }
      { view with pending := rest } :=
  { shown with pending, reads := within }

theorem Shows.log_consumed
    (shown : Shows weather transport view)
    (bytes : List UInt8) :
    Shows weather (transport.log (.consumed bytes)) view :=
  { shown with
    log := by simpa [Transport.log, Net.log, Event.isNoted] using shown.log }

theorem Shows.log_timedOut
    (shown : Shows weather transport view)
    (lost : List UInt8) :
    Shows weather (transport.log (.timedOut lost))
      { view with log := view.log ++ [.timedOut lost] } :=
  { shown with
    log := by simp [Transport.log, Net.log, Event.isNoted, shown.log] }

theorem Shows.set_isClosed
    (shown : Shows weather transport view) :
    Shows weather { transport with isClosed := true } { view with isClosed := true } :=
  { shown with isClosed := rfl }

/-- A wait that found the next line of the view ends as the view does. -/
theorem Shows.afterWait
    {after : Transport σ}
    {read : Transport.LineRead}
    {rest : List UInt8}
    (next : View.nextLine view.isOpen view.pending = (read, rest))
    (shown : Shows weather after { view with pending := rest }) :
    returned (Transport.afterWait (read, after)) = returned (view.readLine) ∧
      Shows weather (finalState (Transport.afterWait (read, after)))
        (finalState view.readLine) := by
  unfold View.readLine Transport.afterWait
  rw [next]
  cases read with
  | timedOut lost => exact ⟨rfl, shown.log_timedOut lost⟩
  | failed error => exact ⟨rfl, shown⟩
  | line bytes =>
      have logged := shown.log_consumed bytes
      dsimp only
      cases fromUtf8 bytes with
      | none => exact ⟨rfl, logged⟩
      | some line =>
          by_cases empty : bytes.length = 0
          · simp only [empty, ↓reduceIte]
            exact ⟨rfl, logged.set_isClosed⟩
          · simp only [empty, ↓reduceIte]
            exact ⟨rfl, logged⟩

/-- However a wait on a lost connection ends, the connection stays lost. -/
theorem Dead.afterWait
    (dead : Dead transport)
    (read : Transport.LineRead) :
    Dead (finalState (Transport.afterWait (read, transport))) := by
  exact Transport.finalState_afterWait (motive := Dead)
    (fun _ _ dead => ⟨dead.isOpen, dead.pending⟩)
    (fun _ _ dead => ⟨dead.isOpen, dead.pending⟩)
    (fun _ dead => ⟨dead.isOpen, dead.pending⟩) dead

/-- The transport reads the line its view reads. -/
theorem readLine_follows (weather : Weather) :
    Follows (Shows weather) (mishaps weather)
      (Transport.readLine : TransportM σ Str) View.readLine := by
  intro view transport shown
  rw [Transport.readLine_eq]
  unfold Transport.readUntil
  cases buffered : Transport.splitFeed transport.buffer with
  | some split =>
      obtain ⟨line, rest⟩ := split
      have next : View.nextLine view.isOpen view.pending =
          (.line line, rest ++ transport.net.wire) := by
        rw [← shown.pending, View.nextLine, Transport.pending,
          Transport.splitFeed_append_of_eq_some buffered]
      exact .inl (Shows.afterWait next (shown.consume rfl shown.reads))
  | none =>
      have noFeed := Transport.not_mem_of_splitFeed_eq_none buffered
      simp only [shown.stream, ↓reduceIte]
      rcases Transport.pollLine_cases shown.reads noFeed transport.net with
        ⟨read, buffer, wire, reads, polled, next, within⟩ |
        ⟨late, lost, after, polled, trace⟩ |
        ⟨lossy, read, after, polled, isOpen, wire⟩
      · rw [polled]
        have pending : transport.buffer ++ transport.net.wire = view.pending :=
          shown.pending
        rw [shown.isOpen, pending] at next
        exact .inl (Shows.afterWait next (shown.consume rfl within))
      · rw [polled]
        exact .inr (.inl ⟨.timeout, rfl, late, rfl, after.trace, lost, rfl⟩)
      · rw [polled]
        have dead : Dead { transport with buffer := [], net := after } :=
          ⟨isOpen, by simp [Transport.pending, wire]⟩
        exact .inr (.inr ⟨lossy, dead.afterWait read⟩)

end Reading

/-! ## Whole lines -/

/-- The bytes end with LF, if there are any. -/
def IsWhole (bytes : List UInt8) : Prop := ∀ byte ∈ bytes.getLast?, byte = 10

theorem isWhole_nil : IsWhole [] := by simp [IsWhole]

theorem IsWhole.append
    {first second : List UInt8}
    (isWhole : IsWhole first)
    (isWhole' : IsWhole second) :
    IsWhole (first ++ second) := by
  cases second with
  | nil => rwa [List.append_nil]
  | cons byte bytes =>
      intro last found
      rw [List.getLast?_append_of_ne_nil _ (List.cons_ne_nil byte bytes)] at found
      exact isWhole' last found

/-- What is behind a part of whole lines is whole. -/
theorem IsWhole.of_append
    {first second : List UInt8}
    (isWhole : IsWhole (first ++ second)) :
    IsWhole second := by
  cases second with
  | nil => exact isWhole_nil
  | cons byte bytes =>
      intro last found
      apply isWhole last
      rwa [List.getLast?_append_of_ne_nil _ (List.cons_ne_nil byte bytes)]

/-- Whole lines begin with a line. -/
theorem IsWhole.exists_line
    {bytes : List UInt8}
    (isWhole : IsWhole bytes)
    (nonempty : bytes ≠ []) :
    ∃ line rest, Transport.splitFeed bytes = some (line, rest) := by
  cases split : Transport.splitFeed bytes with
  | some found => exact ⟨found.1, found.2, rfl⟩
  | none =>
      have ending := isWhole (bytes.getLast nonempty) (List.getLast?_eq_some_getLast nonempty)
      have member := List.getLast_mem nonempty
      rw [ending] at member
      exact absurd member (Transport.not_mem_of_splitFeed_eq_none split)

end Pop3
