import Pop3.Framing

/-!
# Lines within lines

A reader that takes a bare LF for the end of a line sees the segments of a line
between its LFs.  The sender has stuffed only the first of them, and only the last is
followed by CR.
-/

namespace Framing

open Rust

/-! ## Segments -/

section Segments

variable {α : Type} {cr lf : α}

/-- Put a CR behind the last segment. -/
def addReturn (cr : α) : List (List α) → List (List α)
  | [] => []
  | [last] => [last ++ [cr]]
  | segment :: rest => segment :: addReturn cr rest

/-- No segment but the last ends with CR. -/
def NoReturns (cr : α) : List (List α) → Prop
  | [] => True
  | [_] => True
  | segment :: rest => segment.getLast? ≠ some cr ∧ NoReturns cr rest

theorem addReturn_cons
    (segment : List α)
    {rest : List (List α)}
    (more : rest ≠ []) :
    addReturn cr (segment :: rest) = segment :: addReturn cr rest := by
  cases rest with
  | nil => exact absurd rfl more
  | cons next rest => rfl

theorem noReturns_cons
    {segment : List α}
    {rest : List (List α)}
    (more : rest ≠ []) :
    NoReturns cr (segment :: rest) ↔ segment.getLast? ≠ some cr ∧ NoReturns cr rest := by
  cases rest with
  | nil => exact absurd rfl more
  | cons next rest => rfl

/-- Every segment ended by LF is the line ended by CR and LF. -/
theorem flatMap_addReturn
    {segments : List (List α)}
    (nonempty : segments ≠ []) :
    (addReturn cr segments).flatMap (· ++ [lf]) = [lf].intercalate segments ++ [cr, lf] := by
  match segments with
  | [] => exact absurd rfl nonempty
  | [last] => simp [addReturn]
  | segment :: next :: rest =>
      rw [addReturn_cons segment (List.cons_ne_nil next rest), List.flatMap_cons,
        flatMap_addReturn (List.cons_ne_nil next rest),
        List.intercalate_cons_of_ne_nil (List.cons_ne_nil next rest)]
      simp

theorem not_mem_addReturn
    {segments : List (List α)}
    (different : lf ≠ cr)
    (noFeed : ∀ segment ∈ segments, lf ∉ segment) :
    ∀ text ∈ addReturn cr segments, lf ∉ text := by
  match segments with
  | [] => simp [addReturn]
  | [last] => simpa [addReturn, different] using noFeed
  | segment :: next :: rest =>
      have tail := not_mem_addReturn different
        (fun other member => noFeed other (List.mem_cons_of_mem segment member))
      rw [addReturn_cons segment (List.cons_ne_nil next rest)]
      intro text member
      rcases List.mem_cons.mp member with rfl | member
      · exact noFeed text (by simp)
      · exact tail text member

/-- A line without CRLF has no CR in front of a bare LF. -/
theorem noReturns_of_noCrlf
    {segments : List (List α)}
    (noCrlf : ¬[cr, lf] <:+: [lf].intercalate segments) :
    NoReturns cr segments := by
  match segments with
  | [] => trivial
  | [_] => trivial
  | segment :: next :: rest =>
      rw [List.intercalate_cons_of_ne_nil (List.cons_ne_nil next rest)] at noCrlf
      rw [noReturns_cons (List.cons_ne_nil next rest)]
      constructor
      · intro ends
        obtain ⟨front, rfl⟩ := List.getLast?_eq_some_iff.mp ends
        exact noCrlf ⟨front, [lf].intercalate (next :: rest), by simp⟩
      · refine noReturns_of_noCrlf fun inTail => noCrlf ?_
        exact inTail.trans (List.suffix_append (segment ++ [lf]) _).isInfix

variable [DecidableEq α]

theorem not_mem_of_mem_splitOn (line : List α) :
    ∀ segment ∈ line.splitOn lf, lf ∉ segment := by
  induction line with
  | nil => simp
  | cons first line inductionHypothesis =>
      rw [List.splitOn_cons_eq_if_modifyHead]
      split
      · simpa using inductionHypothesis
      · rename_i different
        cases split : line.splitOn lf with
        | nil => simp
        | cons head rest =>
            rw [split] at inductionHypothesis
            have notFeed : lf ≠ first := by
              rintro rfl
              simp at different
            simpa [List.modifyHead, notFeed] using inductionHypothesis

theorem noReturns_splitOn
    {line : List α}
    (noCrlf : ¬[cr, lf] <:+: line) :
    NoReturns cr (line.splitOn lf) :=
  noReturns_of_noCrlf (by rwa [List.intercalate_splitOn])

/-- What has no LF goes in front of the first segment. -/
theorem splitOn_append
    {front : List α}
    (noFeed : lf ∉ front)
    (line : List α) :
    (front ++ line).splitOn lf = (line.splitOn lf).modifyHead (front ++ ·) := by
  induction front with
  | nil =>
      rw [List.nil_append]
      generalize line.splitOn lf = segments
      cases segments <;> rfl
  | cons first front inductionHypothesis =>
      obtain ⟨different, absent⟩ := List.ne_and_not_mem_of_not_mem_cons noFeed
      rw [List.cons_append, List.splitOn_cons_eq_if_modifyHead, inductionHypothesis absent,
        if_neg (by simpa using Ne.symm different)]
      generalize line.splitOn lf = segments
      cases segments <;> rfl

theorem splitOn_of_not_mem
    {line : List α}
    (noFeed : lf ∉ line) :
    line.splitOn lf = [line] := by
  have whole := splitOn_append noFeed []
  simpa using whole

end Segments

theorem OctetLine.IsPlain.not_forges {line : OctetLine} (plain : line.IsPlain) :
    ¬line.Forges := by
  simp [Forges, splitOn_of_not_mem plain.2]

/-! ## Text and octets -/

/-- The segments of the octets are the octets of the segments. -/
theorem splitOn_utf8 (text : Str) : (utf8 text).splitOn 10 = (text.splitOn '\n').map utf8 := by
  induction text with
  | nil => rfl
  | cons character text inductionHypothesis =>
      rw [utf8_cons, List.splitOn_cons_eq_if_modifyHead]
      by_cases feed : character = '\n'
      · subst feed
        rw [show String.utf8EncodeChar '\n' = [10] from by decide, List.singleton_append,
          List.splitOn_cons_eq_if_modifyHead, inductionHypothesis]
        rfl
      · have absent : 10 ∉ String.utf8EncodeChar character := fun member =>
          feed (eq_of_asciiByte_mem (by decide) member)
        rw [splitOn_append absent, inductionHypothesis, if_neg (by simpa using feed)]
        cases text.splitOn '\n' <;> simp [utf8_cons]

/-- Stuffing a line stuffs its first segment. -/
theorem splitOn_stuff
    {line first : Str}
    {rest : List Str}
    (split : line.splitOn '\n' = first :: rest) :
    (stuff line).splitOn '\n' = stuff first :: rest := by
  cases line with
  | nil =>
      simp only [List.splitOn_nil, List.cons.injEq] at split
      simp [stuff, ← split.1, ← split.2]
  | cons character line =>
      by_cases dot : character = '.'
      · subst dot
        have again := split
        rw [List.splitOn_cons_eq_if_modifyHead] at split
        cases tail : line.splitOn '\n' with
        | nil => exact absurd tail (List.splitOn_ne_nil '\n' line)
        | cons head others =>
            simp only [tail, List.modifyHead] at split
            obtain ⟨rfl, rfl⟩ : '.' :: head = first ∧ others = rest := by
              simpa using split
            rw [stuff, List.splitOn_cons_eq_if_modifyHead, again]
            simp [stuff]
      · have plain : stuff (character :: line) = character :: line := by
          unfold stuff
          split
          · rename_i same
            simp only [List.cons.injEq] at same
            exact absurd same.1 dot
          · rfl
        have plainFirst : stuff first = first := by
          rcases stuff_eq first with ⟨same, _⟩ | ⟨more, rfl, _⟩
          · exact same
          · rw [List.splitOn_cons_eq_if_modifyHead] at split
            cases tail : line.splitOn '\n' with
            | nil => exact absurd tail (List.splitOn_ne_nil '\n' line)
            | cons head others =>
                rw [tail] at split
                by_cases feed : character = '\n'
                · simp [feed] at split
                · simp [feed] at split
                  exact absurd split.1.1 dot
        rw [plain, plainFirst, split]

theorem stuffOctets_eq (octets : List UInt8) :
    stuffOctets octets = octets ∧ octets.head? ≠ some 46 ∨
      ∃ rest, octets = 46 :: rest ∧ stuffOctets octets = 46 :: 46 :: rest := by
  unfold stuffOctets
  split
  · exact .inr ⟨_, rfl, rfl⟩
  · rename_i other
    left
    refine ⟨rfl, ?_⟩
    cases octets with
    | nil => simp
    | cons head tail =>
        intro dotted
        simp only [List.head?_cons, Option.some.injEq] at dotted
        subst dotted
        exact other tail rfl

/-- Stuffing changes the first segment only, which is no single dot then. -/
theorem splitOn_stuffOctets (octets : List UInt8) :
    ∃ first, (stuffOctets octets).splitOn 10 = first :: (octets.splitOn 10).tail ∧
      first ≠ [46] := by
  have nonempty := List.splitOn_ne_nil (10 : UInt8) octets
  rcases stuffOctets_eq octets with ⟨same, noDot⟩ | ⟨rest, rfl, dotted⟩
  · rw [same]
    refine ⟨_, (List.cons_head_tail nonempty).symm, fun dot => noDot ?_⟩
    have whole : [10].intercalate (octets.splitOn 10) = octets := List.intercalate_splitOn 10
    rw [← List.cons_head_tail nonempty, dot] at whole
    rw [← whole]
    cases (octets.splitOn 10).tail <;> rfl
  · rw [dotted, List.splitOn_cons_eq_if_modifyHead, List.splitOn_cons_eq_if_modifyHead]
    cases segments : rest.splitOn 10 with
    | nil => exact absurd segments (List.splitOn_ne_nil 10 rest)
    | cons head tail => exact ⟨46 :: 46 :: head, by simp, by simp⟩

end Framing
