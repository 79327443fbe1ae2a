import Pop3.Connection.Handing
import Pop3.Connection.Readiness

/-!
# What a server hears

A server reacts to the complete lines among the bytes it receives, in order.
So what a send can make it react to is read off the bytes that were handed to
the writer, whatever the schedule of writes.
-/

namespace Pop3

open Rust

/-- The command lines that the server has reacted to. -/
def heardCommands (trace : List Event) : List (List UInt8) :=
  trace.flatMap fun event =>
    match event with
    | .answered command _ => [command]
    | _ => []

theorem heardCommands_append (first second : List Event) :
    heardCommands (first ++ second) = heardCommands first ++ heardCommands second :=
  List.flatMap_append

/-- The lines in these bytes, when an unfinished line came before them. -/
def linesBehind (unfinished : List UInt8) : List UInt8 → List (List UInt8)
  | [] => []
  | byte :: bytes =>
      if byte = 10 then Net.commandOf unfinished :: linesBehind [] bytes
      else linesBehind (unfinished ++ [byte]) bytes

theorem linesBehind_of_noFeed
    {bytes : List UInt8}
    (noFeed : 10 ∉ bytes)
    (unfinished more : List UInt8) :
    linesBehind unfinished (bytes ++ more) = linesBehind (unfinished ++ bytes) more := by
  induction bytes generalizing unfinished with
  | nil => rw [List.nil_append, List.append_nil]
  | cons byte bytes inductionHypothesis =>
      simp only [List.mem_cons, not_or] at noFeed
      rw [List.cons_append, linesBehind, if_neg (Ne.symm noFeed.1),
        inductionHypothesis noFeed.2, List.append_assoc]
      rfl

theorem linesBehind_commandLine
    {command : Str}
    (noFeed : '\n' ∉ command)
    (more : List UInt8) :
    linesBehind [] (utf8 command ++ [13, 10] ++ more) =
      utf8 command :: linesBehind [] more := by
  have noFeed' : 10 ∉ utf8 command ++ [13] := by
    simp [feed_mem_utf8, noFeed]
  have split : utf8 command ++ [13, 10] ++ more =
      (utf8 command ++ [13]) ++ 10 :: more := by simp
  rw [split, linesBehind_of_noFeed noFeed', List.nil_append, linesBehind, if_pos rfl,
    Net.commandOf_append_return]

/-- Where lines of commands break off, some of the commands are complete. -/
theorem linesBehind_begins
    {commands : List Str}
    (noFeed : ∀ command ∈ commands, '\n' ∉ command)
    {bytes : List UInt8}
    (begins : bytes <+: commandLines commands) :
    ∃ heard, heard <+: commands ∧ linesBehind [] bytes = heard.map utf8 := by
  induction commands generalizing bytes with
  | nil =>
      have nothing : bytes = [] := List.prefix_nil.mp begins
      subst nothing
      exact ⟨[], List.prefix_rfl, rfl⟩
  | cons command commands inductionHypothesis =>
      have noFeedHere := noFeed command List.mem_cons_self
      have whole : commandLines (command :: commands) =
          utf8 command ++ [13, 10] ++ commandLines commands := List.flatMap_cons
      rw [whole] at begins
      by_cases short : bytes.length ≤ (utf8 command ++ [13]).length
      · have silent : bytes <+: utf8 command ++ [13] := by
          refine List.prefix_of_prefix_length_le begins ?_ short
          exact ⟨10 :: commandLines commands, by simp⟩
        have noFeed' : 10 ∉ bytes := by
          intro member
          have inside := silent.subset member
          simp [feed_mem_utf8, noFeedHere] at inside
        refine ⟨[], List.nil_prefix, ?_⟩
        rw [← List.append_nil bytes, linesBehind_of_noFeed noFeed']
        rfl
      · have line : utf8 command ++ [13, 10] <+: bytes := by
          refine List.prefix_of_prefix_length_le (List.prefix_append _ _) begins ?_
          simp only [List.length_append, List.length_cons, List.length_nil] at short ⊢
          omega
        obtain ⟨rest, rfl⟩ := line
        rw [List.prefix_append_right_inj] at begins
        obtain ⟨heard, complete, same⟩ := inductionHypothesis
          (fun other member => noFeed other (List.mem_cons_of_mem _ member)) begins
        refine ⟨command :: heard, List.cons_prefix_cons.mpr ⟨rfl, complete⟩, ?_⟩
        rw [linesBehind_commandLine noFeedHere, same]
        rfl

section Hearing

variable [Server σ]

/-- A connected server reacts to the lines in a beginning of what it receives, and
to all of them while it stays connected. -/
theorem Net.heard_receive
    {net : Net σ}
    (isOpen : net.isOpen = true)
    (bytes : List UInt8) :
    ∃ heard rest, bytes = heard ++ rest ∧
      heardCommands (net.receive bytes).trace =
        heardCommands net.trace ++ linesBehind net.inbound heard ∧
      ((net.receive bytes).isOpen = true → rest = [] ∧ ∀ more,
        linesBehind net.inbound (heard ++ more) =
          linesBehind net.inbound heard ++ linesBehind (net.receive bytes).inbound more) := by
  induction bytes generalizing net with
  | nil =>
      exact ⟨[], [], rfl, (List.append_nil _).symm, fun _ => ⟨rfl, fun _ => rfl⟩⟩
  | cons byte bytes inductionHypothesis =>
      have step : net.receive (byte :: bytes) = (net.receiveByte byte).receive bytes := rfl
      rw [step]
      by_cases feed : byte = 10
      · subst feed
        have logged : heardCommands (net.receiveByte 10).trace =
            heardCommands net.trace ++ [commandOf net.inbound] := by
          simp [receiveByte, isOpen, heardCommands]
        have emptied : (net.receiveByte 10).inbound = [] := by
          simp [receiveByte, isOpen]
        cases stays : (net.receiveByte 10).isOpen with
        | true =>
            obtain ⟨heard, rest, same, hears, after⟩ := inductionHypothesis stays
            rw [emptied] at hears after
            refine ⟨10 :: heard, rest, by rw [same, List.cons_append], ?_, fun isOpen' => ?_⟩
            · rw [hears, logged, linesBehind, if_pos rfl, List.append_assoc]
              rfl
            · obtain ⟨complete, onward⟩ := after isOpen'
              refine ⟨complete, fun more => ?_⟩
              rw [List.cons_append, linesBehind, if_pos rfl, onward, linesBehind, if_pos rfl]
              rfl
        | false =>
            rw [receive_of_closed stays]
            refine ⟨[10], bytes, rfl, logged, fun isOpen' => ?_⟩
            rw [stays] at isOpen'
            cases isOpen'
      · rw [receiveByte_of_ne_feed isOpen feed]
        have isOpen' : ({ net with inbound := net.inbound ++ [byte] } : Net σ).isOpen = true :=
          isOpen
        obtain ⟨heard, rest, same, hears, after⟩ := inductionHypothesis isOpen'
        refine ⟨byte :: heard, rest, by rw [same, List.cons_append], ?_, fun isOpen'' => ?_⟩
        · rw [hears, linesBehind, if_neg feed]
        · obtain ⟨complete, onward⟩ := after isOpen''
          refine ⟨complete, fun more => ?_⟩
          rw [List.cons_append, linesBehind, if_neg feed, linesBehind, if_neg feed]
          exact onward more

/-- Since these bytes were written and these commands heard, the server has heard
the lines in a beginning of what was written, and in all of it while it is
connected. -/
def Overhears (written : List UInt8) (heard : List (List UInt8))
    (transport : Transport σ) : Prop :=
  ∃ known rest, writtenBytes transport.net.trace = written ++ known ++ rest ∧
    heardCommands transport.net.trace = heard ++ linesBehind [] known ∧
    (transport.net.isOpen = true → rest = [] ∧ ∀ more,
      linesBehind [] (known ++ more) =
        linesBehind [] known ++ linesBehind transport.net.inbound more)

omit [Server σ] in
theorem overhears_self
    {transport : Transport σ}
    (inbound : transport.net.inbound = []) :
    Overhears (writtenBytes transport.net.trace) (heardCommands transport.net.trace)
      transport := by
  refine ⟨[], [], ?_, (List.append_nil _).symm, fun _ => ⟨rfl, fun more => ?_⟩⟩
  · rw [List.append_nil, List.append_nil]
  · rw [inbound]
    rfl

/-- The server hears what reaches the stream. -/
theorem survivesWrites_overhears (written : List UInt8) (heard : List (List UInt8)) :
    SurvivesWrites (Overhears written heard : Transport σ → Prop) := by
  refine .of_emit (fun _ _ overhears => overhears) ?_ ?_
  · intro transport bytes overhears
    unfold Transport.emit
    obtain ⟨known, rest, whole, hears, connected⟩ := overhears
    generalize logging : ({ transport.net with writes := transport.net.writes.tail }.log
      (.wrote transport.stream bytes) : Net σ) = logged
    have isOpen : logged.isOpen = transport.net.isOpen := logging ▸ rfl
    have inbound : logged.inbound = transport.net.inbound := logging ▸ rfl
    have heardBefore : heardCommands logged.trace = heardCommands transport.net.trace := by
      rw [← logging]
      exact (heardCommands_append _ _).trans (List.append_nil _)
    have writtenNow : writtenBytes (logged.receive bytes).trace =
        written ++ known ++ rest ++ bytes := by
      rw [Transport.writtenBytes_receive, ← logging, ← whole]
      refine (writtenBytes_append _ _).trans ?_
      simp [writtenBytes]
    cases stays : transport.net.isOpen with
    | false =>
        have closed : logged.isOpen = false := isOpen.trans stays
        rw [Net.receive_of_closed closed] at writtenNow ⊢
        refine ⟨known, rest ++ bytes, ?_, heardBefore.trans hears, fun isOpen' => ?_⟩
        · rw [← List.append_assoc]
          exact writtenNow
        · rw [closed] at isOpen'
          cases isOpen'
    | true =>
        obtain ⟨complete, onward⟩ := connected stays
        obtain ⟨more, left, same, hearsMore, after⟩ :=
          Net.heard_receive (isOpen.trans stays) bytes
        rw [inbound] at hearsMore after
        refine ⟨known ++ more, left, ?_, ?_, fun isOpen' => ?_⟩
        · refine writtenNow.trans ?_
          rw [complete, same]
          simp only [List.append_nil, List.append_assoc]
        · refine hearsMore.trans ?_
          rw [heardBefore, hears, onward, List.append_assoc]
        · obtain ⟨completeMore, onwardMore⟩ := after isOpen'
          refine ⟨completeMore, fun further => ?_⟩
          rw [List.append_assoc, onward, onwardMore, onward, List.append_assoc]
  · rintro transport ⟨known, rest, whole, hears, _⟩
    refine ⟨known, rest, whole, hears, fun isOpen => ?_⟩
    cases isOpen

/-- A server that is gone hears nothing more. -/
def Deaf (heard : List (List UInt8)) (transport : Transport σ) : Prop :=
  transport.net.isOpen = false ∧ heardCommands transport.net.trace = heard

theorem survivesWrites_deaf (heard : List (List UInt8)) :
    SurvivesWrites (Deaf heard : Transport σ → Prop) := by
  refine .of_emit (fun _ _ deaf => deaf) ?_ (fun _ deaf => ⟨rfl, deaf.2⟩)
  rintro transport bytes ⟨closed, hears⟩
  rw [Transport.emit, Net.receive_of_closed (by exact closed)]
  exact ⟨closed, (heardCommands_append _ _).trans ((List.append_nil _).trans hears)⟩

end Hearing

end Pop3
