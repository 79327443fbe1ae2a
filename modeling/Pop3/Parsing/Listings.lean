import Mathlib.Algebra.Group.Nat.Defs
import Mathlib.Data.List.Forall2
import Pop3.Response
import Pop3.Rust.Action
import Pop3.Rust.Fields

/-!
# The language of listings

Which lines the listing parsers accept, and with which values.
-/

namespace Pop3

open Rust

/-- A collected listing has one value for each line, in order. -/
theorem mapM_eq_ok_iff
    {parse : α → Except ε β}
    {items : List α}
    {values : List β} :
    items.mapM parse = .ok values ↔
      List.Forall₂ (fun item value => parse item = .ok value) items values := by
  induction items generalizing values with
  | nil =>
      rw [List.mapM_nil, List.forall₂_nil_left_iff]
      constructor
      · intro collected
        cases collected
        rfl
      · rintro rfl
        rfl
  | cons item items inductionHypothesis =>
      rw [List.mapM_cons, List.forall₂_cons_left_iff]
      constructor
      · intro collected
        cases parsed : parse item with
        | error _ =>
            rw [parsed] at collected
            cases collected
        | ok value =>
            cases others : items.mapM parse with
            | error _ =>
                rw [parsed, others] at collected
                cases collected
            | ok rest =>
                rw [parsed, others] at collected
                cases collected
                exact ⟨value, rest, rfl, inductionHypothesis.mp others, rfl⟩
      · rintro ⟨value, rest, parsed, others, rfl⟩
        rw [parsed, inductionHypothesis.mpr others]
        rfl

/-- One value of a type that fits for each item, or none for the whole list. -/
theorem exists_mapM_iff
    {parse : α → Except ε β}
    {items : List α} :
    (∃ values, items.mapM parse = .ok values) ↔
      ∀ item ∈ items, ∃ value, parse item = .ok value := by
  constructor
  · rintro ⟨values, collected⟩ item member
    have paired := mapM_eq_ok_iff.mp collected
    clear collected
    induction paired with
    | nil => cases member
    | cons first _ inductionHypothesis =>
        rcases List.mem_cons.mp member with rfl | member
        · exact ⟨_, first⟩
        · exact inductionHypothesis member
  · intro accepted
    induction items with
    | nil => exact ⟨[], rfl⟩
    | cons item items inductionHypothesis =>
        obtain ⟨value, parsed⟩ := accepted item (by simp)
        obtain ⟨values, collected⟩ := inductionHypothesis
          fun other member => accepted other (by simp [member])
        exact ⟨value :: values,
          mapM_eq_ok_iff.mpr (.cons parsed (mapM_eq_ok_iff.mp collected))⟩

/-! ## Numbers -/

theorem okOr_eq_ok_iff {value : Option α} {error : ε} {result : α} :
    okOr value error = .ok result ↔ value = some result := by
  cases value <;> simp [okOr]

theorem parseU32_eq_some_iff {text : Str} {number : UInt32} :
    parseU32 text = some number ↔ IsUnsigned text number.toNat := by
  rw [parseU32, Option.map_eq_some_iff]
  constructor
  · rintro ⟨value, parsed, rfl⟩
    obtain ⟨spelled, bounded⟩ := parseUnsigned_eq_some_iff.mp parsed
    rwa [UInt32.toNat_ofNat_of_lt' bounded]
  · intro spelled
    exact ⟨number.toNat, parseUnsigned_eq_some_iff.mpr ⟨spelled, number.toNat_lt_size⟩,
      UInt32.ofNat_toNat⟩

theorem parseU64_eq_some_iff {text : Str} {number : UInt64} :
    parseU64 text = some number ↔ IsUnsigned text number.toNat := by
  rw [parseU64, Option.map_eq_some_iff]
  constructor
  · rintro ⟨value, parsed, rfl⟩
    obtain ⟨spelled, bounded⟩ := parseUnsigned_eq_some_iff.mp parsed
    rwa [UInt64.toNat_ofNat_of_lt' bounded]
  · intro spelled
    exact ⟨number.toNat, parseUnsigned_eq_some_iff.mpr ⟨spelled, number.toNat_lt_size⟩,
      UInt64.ofNat_toNat⟩

/-! ## Lines -/

/-- The line is a message number and a size, and nothing else. -/
def IsScan (line : Str) (messageId size : Nat) : Prop :=
  ∃ idStr sizeStr, Spells [idStr, sizeStr] line ∧
    IsUnsigned idStr messageId ∧ IsUnsigned sizeStr size

/-- The line is a message number and a unique id, and nothing else. -/
def IsIdentification (line : Str) (messageId : Nat) (uniqueId : Str) : Prop :=
  ∃ idStr, Spells [idStr, uniqueId] line ∧ IsUnsigned idStr messageId

/-- The line is the name of a capability and its arguments. -/
def IsCapability (line : Str) (capability : Capability) : Prop :=
  capability.name ≠ [] ∧ Spells (capability.name :: capability.arguments) line

theorem parseListEntry_eq_ok_iff {line : Str} {entry : ListEntry} :
    parseListEntry line = .ok entry ↔ IsScan line entry.messageId.toNat entry.size.toNat := by
  simp only [IsScan, ← splitWhitespace_eq_iff, ← parseU32_eq_some_iff, ← parseU64_eq_some_iff]
  rw [parseListEntry]
  simp only [splitWhitespace_trim, bind_eq_ok_iff, okOr_eq_ok_iff]
  rcases splitWhitespace line with _ | ⟨idStr, _ | ⟨sizeStr, _ | ⟨extra, others⟩⟩⟩
  · simp
  · simp
  · constructor
    · rintro ⟨_, first, _, second, messageId, parsedId, size, parsedSize, whole⟩
      cases first
      cases second
      cases whole
      exact ⟨_, _, rfl, parsedId, parsedSize⟩
    · rintro ⟨_, _, same, parsedId, parsedSize⟩
      cases same
      exact ⟨_, rfl, _, rfl, _, parsedId, _, parsedSize, rfl⟩
  · constructor
    · rintro ⟨_, _, _, _, _, _, _, _, whole⟩
      cases whole
    · rintro ⟨_, _, same, _⟩
      cases same

theorem parseUidlEntry_eq_ok_iff {line : Str} {entry : UidlEntry} :
    parseUidlEntry line = .ok entry ↔
      IsIdentification line entry.messageId.toNat entry.uniqueId := by
  simp only [IsIdentification, ← splitWhitespace_eq_iff, ← parseU32_eq_some_iff]
  rw [parseUidlEntry]
  simp only [splitWhitespace_trim, bind_eq_ok_iff, okOr_eq_ok_iff]
  rcases splitWhitespace line with _ | ⟨idStr, _ | ⟨uniqueId, _ | ⟨extra, others⟩⟩⟩
  · simp
  · simp
  · constructor
    · rintro ⟨_, first, _, second, messageId, parsedId, whole⟩
      cases first
      cases second
      cases whole
      exact ⟨_, rfl, parsedId⟩
    · rintro ⟨_, same, parsedId⟩
      cases same
      exact ⟨_, rfl, _, rfl, _, parsedId, rfl⟩
  · constructor
    · rintro ⟨_, _, _, _, _, _, whole⟩
      cases whole
    · rintro ⟨_, same, _⟩
      cases same

/-- Nothing is returned for a listing of which one line fails. -/
theorem exists_error_iff {result : Except ε α} :
    (∃ error, result = .error error) ↔ ¬∃ value, result = .ok value := by
  cases result <;> simp

theorem exists_scan_iff {line : Str} :
    (∃ entry, parseListEntry line = .ok entry) ↔
      ∃ messageId size, messageId ≤ 2 ^ 32 - 1 ∧ size ≤ 2 ^ 64 - 1 ∧
        IsScan line messageId size := by
  constructor
  · rintro ⟨entry, parsed⟩
    exact ⟨_, _, Nat.le_pred_of_lt entry.messageId.toNat_lt,
      Nat.le_pred_of_lt entry.size.toNat_lt, parseListEntry_eq_ok_iff.mp parsed⟩
  · rintro ⟨messageId, size, idBound, sizeBound, scan⟩
    refine ⟨⟨.ofNat messageId, .ofNat size⟩, parseListEntry_eq_ok_iff.mpr ?_⟩
    rwa [UInt32.toNat_ofNat_of_lt' (Nat.lt_succ_of_le idBound),
      UInt64.toNat_ofNat_of_lt' (Nat.lt_succ_of_le sizeBound)]

theorem exists_identification_iff {line : Str} :
    (∃ entry, parseUidlEntry line = .ok entry) ↔
      ∃ messageId uniqueId, messageId ≤ 2 ^ 32 - 1 ∧
        IsIdentification line messageId uniqueId := by
  constructor
  · rintro ⟨entry, parsed⟩
    exact ⟨_, _, Nat.le_pred_of_lt entry.messageId.toNat_lt,
      parseUidlEntry_eq_ok_iff.mp parsed⟩
  · rintro ⟨messageId, uniqueId, idBound, identification⟩
    refine ⟨⟨.ofNat messageId, uniqueId⟩, parseUidlEntry_eq_ok_iff.mpr ?_⟩
    rwa [UInt32.toNat_ofNat_of_lt' (Nat.lt_succ_of_le idBound)]

/-! ## Bodies -/

/-- The lines of a body that are not empty. -/
def nonEmptyLines (body : Str) : List Str := (lines body).filter (!·.isEmpty)

/-- The lines of a body that are not all whitespace. -/
def nonBlankLines (body : Str) : List Str :=
  (lines body).filter fun line => !line.all isWhitespace

theorem isBlank_iff_all {text : Str} : IsBlank text ↔ text.all isWhitespace = true :=
  List.all_eq_true.symm

/-- A line that is not blank is a capability. -/
theorem isCapability_of_not_isBlank {line : Str} (notBlank : ¬IsBlank line) :
    IsCapability line
      { name := (splitWhitespace (trim line))[0]?.getD []
        arguments := (splitWhitespace (trim line)).drop 1 } := by
  have spelled := spells_splitWhitespace line
  rw [splitWhitespace_trim]
  cases fields : splitWhitespace line with
  | nil =>
      rw [fields, spells_nil_iff] at spelled
      exact absurd spelled notBlank
  | cons name arguments =>
      rw [fields] at spelled
      exact ⟨(spelled.isToken name (by simp)).nonempty, spelled⟩

/-- A capability list has one capability for each line that is not blank. -/
theorem parseCapa_capabilities (body : Str) :
    List.Forall₂ IsCapability (nonBlankLines body) (parseCapa body) := by
  have trimmed : (!·.isEmpty) ∘ trim = fun line => !line.all isWhitespace := by
    funext line
    rw [Bool.eq_iff_iff]
    simp [trim_eq_nil_iff, isBlank_iff_all]
  rw [parseCapa, List.filter_map, trimmed, List.map_map, nonBlankLines,
    List.forall₂_map_right_iff, List.forall₂_same]
  intro line member
  refine isCapability_of_not_isBlank ?_
  rw [isBlank_iff_all]
  simpa using (List.mem_filter.mp member).2

/-- What goes wrong goes wrong in parsing. -/
def OnlyParse (result : Except Pop3Error α) : Prop :=
  ∀ error, result = .error error → ∃ message, error = .parse message

namespace OnlyParse

theorem ok (value : α) : OnlyParse (.ok value) :=
  fun _ fails => nomatch fails

theorem parse (message : Str) : OnlyParse (.error (.parse message) : Except Pop3Error α) := by
  rintro _ ⟨⟩
  exact ⟨message, rfl⟩

theorem bind
    {result : Except Pop3Error α}
    {next : α → Except Pop3Error β}
    (first : OnlyParse result)
    (rest : ∀ value, OnlyParse (next value)) :
    OnlyParse (result >>= next) := by
  cases result with
  | ok value => exact rest value
  | error error =>
      rintro _ ⟨⟩
      exact first error rfl

theorem ofOption (value : Option α) (message : Str) :
    OnlyParse (okOr value (.parse message)) := by
  cases value with
  | none => exact parse message
  | some value => exact ok value

theorem mapM
    {parseItem : α → Except Pop3Error β}
    (each : ∀ item, OnlyParse (parseItem item))
    (items : List α) :
    OnlyParse (items.mapM parseItem) := by
  induction items with
  | nil => exact ok []
  | cons item items inductionHypothesis =>
      rw [List.mapM_cons]
      exact bind (each item) fun _ => bind inductionHypothesis fun _ => ok _

end OnlyParse

theorem onlyParse_parseStat (text : Str) : OnlyParse (parseStat text) :=
  .bind (.ofOption _ _) fun _ => .bind (.ofOption _ _) fun _ => .bind (.ofOption _ _) fun _ =>
    .bind (.ofOption _ _) fun _ => .ok _

theorem onlyParse_parseListEntry (line : Str) : OnlyParse (parseListEntry line) := by
  refine .bind (.ofOption _ _) fun _ => .bind (.ofOption _ _) fun _ => .bind (.ofOption _ _) fun _ =>
    .bind (.ofOption _ _) fun _ => ?_
  split
  · exact .parse _
  · exact .ok _

theorem onlyParse_parseUidlEntry (line : Str) : OnlyParse (parseUidlEntry line) := by
  refine .bind (.ofOption _ _) fun _ => .bind (.ofOption _ _) fun _ => .bind (.ofOption _ _) fun _ => ?_
  split
  · exact .parse _
  · exact .ok _

/-- A listing is accepted when each of its lines is, with the values of its
lines in order; otherwise nothing is returned.  A capability list is never
rejected. -/
theorem listing_exact (body : Str) :
    (∀ entries, parseListMulti body = .ok entries ↔
      List.Forall₂ (fun line (entry : ListEntry) =>
        IsScan line entry.messageId.toNat entry.size.toNat) (nonEmptyLines body) entries) ∧
    ((∃ error, parseListMulti body = .error error) ↔
      ¬∀ line ∈ nonEmptyLines body, ∃ messageId size, messageId ≤ 2 ^ 32 - 1 ∧
        size ≤ 2 ^ 64 - 1 ∧ IsScan line messageId size) ∧
    (∀ entries, parseUidlMulti body = .ok entries ↔
      List.Forall₂ (fun line (entry : UidlEntry) =>
        IsIdentification line entry.messageId.toNat entry.uniqueId)
        (nonEmptyLines body) entries) ∧
    ((∃ error, parseUidlMulti body = .error error) ↔
      ¬∀ line ∈ nonEmptyLines body, ∃ messageId uniqueId, messageId ≤ 2 ^ 32 - 1 ∧
        IsIdentification line messageId uniqueId) ∧
    List.Forall₂ IsCapability (nonBlankLines body) (parseCapa body) := by
  refine ⟨?_, ?_, ?_, ?_, parseCapa_capabilities body⟩
  · intro entries
    simp only [← parseListEntry_eq_ok_iff]
    exact mapM_eq_ok_iff
  · rw [exists_error_iff]
    simp only [← exists_scan_iff]
    exact not_congr exists_mapM_iff
  · intro entries
    simp only [← parseUidlEntry_eq_ok_iff]
    exact mapM_eq_ok_iff
  · rw [exists_error_iff]
    simp only [← exists_identification_iff]
    exact not_congr exists_mapM_iff

end Pop3
