import Pop3.Truncation.Reading

/-!
# A server that is cut off

A server that answers some commands in full, sends a part of the next reply and
closes the connection.  A batch gets the whole replies, and its next item is
read from what is left.
-/

namespace Pop3

open Rust Framing Pop3Client

/-! ## The server -/

/-- A server whose connection ends inside a reply. -/
structure Cutting (σ : Type) where
  server : σ
  /-- How many commands are answered in full. -/
  complete : Nat
  /-- How many bytes of the reply behind them are sent. -/
  kept : Nat

instance [AnsweringServer σ] : Server (Cutting σ) where
  respond state command :=
    let (server, answer) := AnsweringServer.answer state.server command
    let reply := answer.encode (isMultiLine command)
    match state.complete with
    | 0 => ({ state with server }, { bytes := reply.take state.kept, close := true })
    | complete + 1 => ({ state with server, complete }, { bytes := reply })

/-- A connection on which nothing is unread, before the server is cut off. -/
def Dialogue.cutting (complete kept : Nat) (dialogue : Dialogue σ) : View (Cutting σ) where
  server := { server := dialogue.server, complete, kept }
  log := dialogue.log

section Hearing

variable [AnsweringServer σ] (dialogue : Dialogue σ) (kept : Nat)

/-- A command that is answered in full. -/
theorem hear_of_complete
    {multiLine : Bool}
    {command : Str}
    (kind : isMultiLine (utf8 command) = multiLine)
    (complete : Nat)
    (pending : List UInt8) :
    View.hear command { dialogue.cutting (complete + 1) kept with pending } =
      { (dialogue.ask command).2.cutting complete kept with
        pending := pending ++ (dialogue.ask command).1.encode multiLine } := by
  simp [View.hear, Dialogue.cutting, Dialogue.ask, Server.respond, kind]

/-- The command whose reply is cut off. -/
theorem hear_of_cut
    {multiLine : Bool}
    {command : Str}
    (kind : isMultiLine (utf8 command) = multiLine)
    (pending : List UInt8) :
    (View.hear command { dialogue.cutting 0 kept with pending }).isOpen = false ∧
      (View.hear command { dialogue.cutting 0 kept with pending }).pending =
        pending ++ ((dialogue.ask command).1.encode multiLine).take kept := by
  simp [View.hear, Dialogue.cutting, Dialogue.ask, Server.respond, kind]

theorem hear_of_closed [Server τ]
    {view : View τ}
    (closed : view.isOpen = false)
    (command : Str) :
    view.hear command = view := by
  simp [View.hear, closed]

theorem hearAll_of_closed [Server τ]
    {view : View τ}
    (closed : view.isOpen = false)
    (commands : List Str) :
    View.hearAll commands view = view := by
  induction commands with
  | nil => rfl
  | cons command commands inductionHypothesis =>
      rw [View.hearAll, List.foldl_cons, hear_of_closed closed]
      exact inductionHypothesis

/-- Several commands that are all answered in full. -/
theorem hearAll_of_complete
    {multiLine : Bool}
    {commands : List Str}
    (kind : ∀ command ∈ commands, isMultiLine (utf8 command) = multiLine)
    (complete : Nat)
    (pending : List UInt8) :
    View.hearAll commands { dialogue.cutting (commands.length + complete) kept with pending } =
      { (Dialogue.askAll commands dialogue).2.cutting complete kept with
        pending := pending ++
          Dialogue.replies multiLine (Dialogue.askAll commands dialogue).1 } := by
  induction commands generalizing dialogue pending with
  | nil => simp [View.hearAll, Dialogue.askAll, Dialogue.replies]
  | cons command commands inductionHypothesis =>
      have first := kind command List.mem_cons_self
      have count : (command :: commands).length + complete =
          (commands.length + complete) + 1 := by
        rw [List.length_cons]
        omega
      rw [View.hearAll, List.foldl_cons, count, hear_of_complete dialogue kept first]
      refine (inductionHypothesis (dialogue.ask command).2
        (fun other member => kind other (List.mem_cons_of_mem _ member)) _).trans ?_
      simp [Dialogue.askAll, Dialogue.replies]

/-- Several commands, of which one has its reply cut off. -/
theorem hearAll_of_cut
    {multiLine : Bool}
    {commands : List Str}
    (kind : ∀ command ∈ commands, isMultiLine (utf8 command) = multiLine)
    {complete : Nat}
    {answer : Answer}
    (found : (Dialogue.askAll commands dialogue).1[complete]? = some answer)
    (pending : List UInt8) :
    (View.hearAll commands { dialogue.cutting complete kept with pending }).isOpen = false ∧
      (View.hearAll commands { dialogue.cutting complete kept with pending }).pending =
        pending ++ (Dialogue.replies multiLine
          ((Dialogue.askAll commands dialogue).1.take complete) ++
            (answer.encode multiLine).take kept) := by
  induction commands generalizing dialogue complete pending with
  | nil => simp [Dialogue.askAll] at found
  | cons command commands inductionHypothesis =>
      have first := kind command List.mem_cons_self
      rw [View.hearAll, List.foldl_cons]
      cases complete with
      | zero =>
          obtain ⟨closed, left⟩ := hear_of_cut dialogue kept first pending
          have same : (dialogue.ask command).1 = answer := Option.some.inj found
          have rest := hearAll_of_closed closed commands
          rw [View.hearAll] at rest
          rw [rest, ← same]
          exact ⟨closed, left⟩
      | succ complete =>
          rw [hear_of_complete dialogue kept first]
          obtain ⟨closed, left⟩ := inductionHypothesis (dialogue.ask command).2
            (fun other member => kind other (List.mem_cons_of_mem _ member)) found
            (pending ++ (dialogue.ask command).1.encode multiLine)
          refine ⟨closed, left.trans ?_⟩
          rw [List.append_assoc]
          simp [Dialogue.askAll, Dialogue.replies]

end Hearing

/-! ## Items -/

/-- Whatever is behind a reply that is cut off is not read from it: the reader fails
unless that part looks whole. -/
def FailsOnCuts (multiLine : Bool) (receive : Action Pop3Error (View σ) α) : Prop :=
  ∀ (view : View σ) (answer : Answer) (kept : Nat), (multiLine = true → answer.IsPlain) →
    view.isOpen = false → kept < (answer.encode multiLine).length →
    view.pending = (answer.encode multiLine).take kept →
    (Fails (receive view) ↔ ¬LooksWhole multiLine answer (fun _ => true) view.pending)

theorem failsOnCuts_retr :
    FailsOnCuts true (View.readRetrResponse : Action Pop3Error (View σ) Message) := by
  intro view answer kept plain closed proper pending
  have reads : View.readRetrResponse view = (do
      let body ← View.readReply
      ofResult (.ok { data := body }) : Action Pop3Error (View σ) Message) view := by
    simp only [View.readRetrResponse, View.readReply, View.readStatus, bind_assoc]
    rfl
  rw [reads]
  exact fails_readReply_iff (plain rfl) closed proper pending fun body => .ok (Message.mk body)

theorem failsOnCuts_dele :
    FailsOnCuts false (View.readDeleResponse : Action Pop3Error (View σ) Unit) := by
  intro view answer kept _ closed proper pending
  have reads : View.readDeleResponse view = (do
      let text ← View.readStatus
      ofResult ((fun _ => .ok ()) text) : Action Pop3Error (View σ) Unit) view := by
    simp only [View.readDeleResponse, View.readStatus, bind_assoc]
    rfl
  rw [reads]
  exact fails_readStatus_iff closed proper pending fun _ => .ok ()

section Batches

variable [AnsweringServer σ] {multiLine : Bool} {verb : Str}
  {receive : Action Pop3Error (View (Cutting σ)) α} {result : Answer → Except Pop3Error α}
  {kept : Nat} {answer : Answer}

/-- The item behind the whole replies is an error unless what has arrived looks whole. -/
def ReportsCut (multiLine : Bool) (answer : Answer) (kept index : Nat) (items : Items α) : Prop :=
  ∃ item, items[index]? = some item ∧
    (IsError item ↔
      ¬LooksWhole multiLine answer (fun _ => true) ((answer.encode multiLine).take kept))

/-- One command at a time, the items before the cut get their replies. -/
theorem sequentially_reports
    (receives : Receives multiLine receive result)
    (cuts : FailsOnCuts multiLine receive)
    {ideal : UInt32 → Action Pop3Error (View (Cutting σ)) α}
    {ids : List UInt32}
    (asks : ∀ messageId ∈ ids, ∀ view,
      ideal messageId view = receive (view.hear (commandFor verb messageId)))
    (kind : ∀ messageId, isMultiLine (utf8 (commandFor verb messageId)) = multiLine)
    {dialogue : Dialogue σ}
    {index : Nat}
    (found : (Dialogue.askAll (ids.map (commandFor verb)) dialogue).1[index]? = some answer)
    (readable : ∀ earlier ∈
      (Dialogue.askAll (ids.map (commandFor verb)) dialogue).1.take index,
      earlier.IsReadable multiLine)
    (plain : multiLine = true → answer.IsPlain)
    (proper : kept < (answer.encode multiLine).length) :
    ∃ items, returned (sequentially ideal ids (dialogue.cutting index kept)) = .ok items ∧
      ReportsCut multiLine answer kept index items := by
  induction ids generalizing dialogue index with
  | nil => simp [Dialogue.askAll] at found
  | cons messageId ids inductionHypothesis =>
      have first := asks messageId List.mem_cons_self (dialogue.cutting index kept)
      cases index with
      | zero =>
          obtain ⟨closed, left⟩ := hear_of_cut dialogue kept (kind messageId) []
          have same : (dialogue.ask (commandFor verb messageId)).1 = answer :=
            Option.some.inj found
          rw [same, List.nil_append] at left
          have fails := cuts _ answer kept plain closed proper left
          obtain ⟨others, rest⟩ := sequentially_isOk ideal ids
            (finalState (ideal messageId (dialogue.cutting 0 kept)))
          refine ⟨returned (ideal messageId (dialogue.cutting 0 kept)) :: others, ?_, _, rfl, ?_⟩
          · rw [sequentially, bind_of_ok (attempt_apply _ _), bind_of_ok (eq_ok_of_returned rest)]
            rfl
          · rw [first, ← left]
            exact fails
      | succ index =>
          have heard := hear_of_complete dialogue kept (kind messageId) index []
          rw [List.nil_append] at heard
          obtain ⟨_, after⟩ := receives.takes
            { (dialogue.ask (commandFor verb messageId)).2.cutting index kept with
              pending := (dialogue.ask (commandFor verb messageId)).1.encode multiLine }
            (dialogue.ask (commandFor verb messageId)).1 []
            (readable _ List.mem_cons_self) (List.append_nil _).symm
          have onward : finalState (ideal messageId (dialogue.cutting (index + 1) kept)) =
              (dialogue.ask (commandFor verb messageId)).2.cutting index kept := by
            rw [first]
            exact (congrArg (fun view => finalState (receive view)) heard).trans after
          have foundRest : (Dialogue.askAll (ids.map (commandFor verb))
              (dialogue.ask (commandFor verb messageId)).2).1[index]? = some answer := found
          obtain ⟨items, rest, item, isItem, reported⟩ := inductionHypothesis
            (fun other member => asks other (List.mem_cons_of_mem _ member)) foundRest
            fun earlier member => readable earlier (List.mem_cons_of_mem _ member)
          refine ⟨returned (ideal messageId (dialogue.cutting (index + 1) kept)) :: items, ?_,
            item, isItem, reported⟩
          rw [sequentially, bind_of_ok (attempt_apply _ _), onward,
            bind_of_ok (eq_ok_of_returned rest)]
          rfl

omit [AnsweringServer σ] in
/-- The receive phase of the window in which a reply is cut off. -/
theorem drainWindow_reports
    (receives : Receives multiLine receive result)
    (cuts : FailsOnCuts multiLine receive)
    {window : List UInt32}
    {earlier : List Answer}
    (shorter : earlier.length < window.length)
    (readable : ∀ answer ∈ earlier, answer.IsReadable multiLine)
    (plain : multiLine = true → answer.IsPlain)
    (proper : kept < (answer.encode multiLine).length)
    {view : View (Cutting σ)}
    (closed : view.isOpen = false)
    (pending : view.pending =
      Dialogue.replies multiLine earlier ++ (answer.encode multiLine).take kept) :
    ∃ items alive, returned (drainWindow receive window view) = .ok (items, alive) ∧
      (ReportsCut multiLine answer kept earlier.length items ∨
        alive = false ∧ items.length = earlier.length ∧
          ¬LooksWhole multiLine answer (fun _ => true) ((answer.encode multiLine).take kept)) := by
  induction window generalizing earlier view with
  | nil => simp at shorter
  | cons messageId window inductionHypothesis =>
      rw [drainWindow, bind_of_ok (attempt_apply _ _)]
      cases earlier with
      | nil =>
          have fails := cuts view answer kept plain closed proper pending
          rw [pending] at fails
          cases given : returned (receive view) with
          | ok value =>
              have isOk : ¬IsError (.ok value : Except Pop3Error α) := by
                rintro ⟨_, same⟩
                cases same
              have notFailed : ¬Fails (receive view) := by
                rintro ⟨_, same⟩
                rw [given] at same
                cases same
              have reported := iff_of_false isOk fun whole => notFailed (fails.mpr whole)
              obtain ⟨drained, run⟩ :=
                drainWindow_isOk receive window (finalState (receive view))
              dsimp only
              rw [bind_of_ok (eq_ok_of_returned run)]
              exact ⟨_, _, rfl, .inl ⟨_, rfl, reported⟩⟩
          | error error =>
              have whole := fails.mp ⟨error, given⟩
              dsimp only
              split
              · exact ⟨_, _, rfl, .inr ⟨rfl, rfl, whole⟩⟩
              · obtain ⟨drained, run⟩ :=
                  drainWindow_isOk receive window (finalState (receive view))
                rw [bind_of_ok (eq_ok_of_returned run)]
                exact ⟨_, _, rfl, .inl ⟨_, rfl, iff_of_true ⟨error, rfl⟩ whole⟩⟩
      | cons first earlier =>
          have pendingFirst : view.pending = first.encode multiLine ++
              (Dialogue.replies multiLine earlier ++ (answer.encode multiLine).take kept) := by
            rw [pending, Dialogue.replies, List.flatMap_cons, List.append_assoc]
            rfl
          obtain ⟨same, after⟩ := receives.takes view first _
            (readable first List.mem_cons_self) pendingFirst
          obtain ⟨items, alive, run, outcome⟩ := inductionHypothesis
            (Nat.lt_of_succ_lt_succ shorter)
            (fun other member => readable other (List.mem_cons_of_mem _ member))
            (show ({ view with pending := Dialogue.replies multiLine earlier ++
              (answer.encode multiLine).take kept } : View (Cutting σ)).isOpen = false from closed)
            rfl
          have outcome : ∀ item, ReportsCut multiLine answer kept (first :: earlier).length
                (item :: items) ∨ alive = false ∧
              (item :: items).length = (first :: earlier).length ∧
              ¬LooksWhole multiLine answer (fun _ => true)
                ((answer.encode multiLine).take kept) := by
            intro item
            refine outcome.imp id ?_
            rintro ⟨stopped, lengths, whole⟩
            exact ⟨stopped, congrArg Nat.succ lengths, whole⟩
          rw [same, after]
          cases given : result first with
          | ok value =>
              dsimp only
              rw [bind_of_ok (eq_ok_of_returned run)]
              exact ⟨_, _, rfl, outcome _⟩
          | error error =>
              dsimp only
              rw [receives.isServerLevel first error given]
              simp only [Bool.false_eq_true, ↓reduceIte]
              rw [bind_of_ok (eq_ok_of_returned run)]
              exact ⟨_, _, rfl, outcome _⟩

/-- Window by window, the items before the cut get their replies. -/
theorem pipelined_reports
    (receives : Receives multiLine receive result)
    (cuts : FailsOnCuts multiLine receive)
    (kind : ∀ messageId, isMultiLine (utf8 (commandFor verb messageId)) = multiLine)
    {windows : List (List UInt32)}
    {dialogue : Dialogue σ}
    {index : Nat}
    (found : (Dialogue.askAll (windows.flatten.map (commandFor verb)) dialogue).1[index]? =
      some answer)
    (readable : ∀ earlier ∈
      (Dialogue.askAll (windows.flatten.map (commandFor verb)) dialogue).1.take index,
      earlier.IsReadable multiLine)
    (plain : multiLine = true → answer.IsPlain)
    (proper : kept < (answer.encode multiLine).length) :
    ∃ items, returned (pipelined (View.hearWindow verb) receive windows
        (dialogue.cutting index kept)) = .ok items ∧
      ReportsCut multiLine answer kept index items := by
  induction windows generalizing dialogue index with
  | nil => simp [Dialogue.askAll] at found
  | cons window windows inductionHypothesis =>
      have kinds : ∀ command ∈ window.map (commandFor verb),
          isMultiLine (utf8 command) = multiLine := by
        simpa using fun messageId _ => kind messageId
      have lengths := Dialogue.askAll_length (window.map (commandFor verb)) dialogue
      rw [List.length_map] at lengths
      rw [List.flatten_cons, List.map_append, Dialogue.askAll_append] at found readable
      rw [pipelined, bind_of_ok (attempt_apply _ _)]
      dsimp only [View.hearWindow, returned_ok, finalState_ok]
      by_cases inWindow : index < window.length
      · rw [List.getElem?_append_left (lengths.symm ▸ inWindow)] at found
        rw [List.take_append_of_le_length (lengths.symm ▸ inWindow.le)] at readable
        have cut : View.hearAll (window.map (commandFor verb)) (dialogue.cutting index kept) =
          View.hearAll (window.map (commandFor verb))
            { dialogue.cutting index kept with pending := [] } := rfl
        obtain ⟨closed, left⟩ := hearAll_of_cut dialogue kept kinds found []
        rw [← cut] at closed left
        have count : ((Dialogue.askAll (window.map (commandFor verb)) dialogue).1.take
            index).length = index := by
          rw [List.length_take, lengths]
          omega
        obtain ⟨items, alive, run, outcome⟩ := drainWindow_reports receives cuts
          (count.symm ▸ inWindow) readable plain proper closed left
        rw [count] at outcome
        have enough : index < (window :: windows).flatten.length := by
          rw [List.flatten_cons, List.length_append]
          omega
        obtain ⟨more, rest⟩ := pipelined_isOk (View.hearWindow verb) receive windows
          (finalState (drainWindow receive window
            (View.hearAll (window.map (commandFor verb)) (dialogue.cutting index kept))))
        rw [bind_of_ok (eq_ok_of_returned run)]
        rcases outcome with ⟨item, isItem, reported⟩ | ⟨stopped, isShort, whole⟩
        · obtain ⟨within, _⟩ := List.getElem?_eq_some_iff.mp isItem
          split
          · rw [bind_of_ok (eq_ok_of_returned rest)]
            exact ⟨_, rfl, item, by rw [List.getElem?_append_left within, isItem], reported⟩
          · exact ⟨_, rfl, item, by rw [List.getElem?_append_left within, isItem], reported⟩
        · subst stopped
          refine ⟨_, rfl, .error .connectionClosed, ?_, iff_of_true ⟨_, rfl⟩ whole⟩
          rw [List.getElem?_append_right isShort.le, fillUp, List.getElem?_replicate, isShort,
            if_pos (by omega)]
      · obtain ⟨more, rfl⟩ := Nat.exists_eq_add_of_le (Nat.le_of_not_lt inWindow)
        rw [← lengths, List.getElem?_append_right (Nat.le_add_right _ _),
          Nat.add_sub_cancel_left] at found
        rw [← lengths, List.take_length_add_append] at readable
        have heard := hearAll_of_complete dialogue kept kinds more []
        rw [List.length_map, List.nil_append] at heard
        have texts := fun earlier member => readable earlier (List.mem_append_left _ member)
        obtain ⟨items, rest, item, isItem, reported⟩ := inductionHypothesis found
          fun earlier member => readable earlier (List.mem_append_right _ member)
        have begun : View.hearAll (window.map (commandFor verb))
            (dialogue.cutting (window.length + more) kept) = _ := heard
        rw [begun, bind_of_ok (drainWindow_view receives texts lengths (List.append_nil _).symm)]
        simp only [↓reduceIte]
        refine ⟨(Dialogue.askAll (window.map (commandFor verb)) dialogue).1.map result ++ items,
          ?_, item, ?_, reported⟩
        · exact (returned_bind_pure _ _ _).trans (congrArg _ rest)
        · rw [List.getElem?_append_right (by simp [lengths]), List.length_map, lengths,
            Nat.add_sub_cancel_left, isItem]

end Batches

end Pop3
