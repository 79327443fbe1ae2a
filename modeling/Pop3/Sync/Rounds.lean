import Mathlib.Data.Set.Insert

/-!
# Following a collection that changes

A collection of identified things changes from round to round: some go, and what is
gone does not return.  Whoever remembers what was handed out, and forgets only what
is gone, hands out nothing twice.
-/

namespace Sync

variable {ι : Type}

/-- From round to round, whatever has been there before is still there or does not
return. -/
def Evolves (used present : Set ι) : List (Set ι) → Prop
  | [] => True
  | next :: later =>
      (∀ item ∈ next, item ∈ used → item ∈ present) ∧ Evolves (used ∪ next) next later

/-- One round hands out things that are there and were not seen, each once; it
remembers them, and forgets nothing that is there. -/
structure Round (present seen : Set ι) (handed : List ι) (seen' : Set ι) : Prop where
  nodup : handed.Nodup
  fresh : ∀ item ∈ handed, item ∈ present ∧ item ∉ seen
  recorded : ∀ item ∈ handed, item ∈ seen'
  kept : ∀ item ∈ present, item ∈ seen → item ∈ seen'

/-- A round that hands out nothing and forgets at most what is gone. -/
theorem Round.nothing
    {present seen seen' : Set ι}
    (kept : ∀ item ∈ present, item ∈ seen → item ∈ seen') :
    Round present seen [] seen' where
  nodup := List.nodup_nil
  fresh := by simp
  recorded := by simp
  kept

/-- Rounds in a row, with what each of them hands out. -/
inductive Rounds : Set ι → List (Set ι) → List (List ι) → Prop
  | nil {seen : Set ι} : Rounds seen [] []
  | cons {present seen seen' : Set ι} {handed : List ι} {later : List (Set ι)}
      {rest : List (List ι)} :
      Round present seen handed seen' → Rounds seen' later rest →
        Rounds seen (present :: later) (handed :: rest)

/-- What has been handed out so far was there, once, and is seen if it still is there. -/
structure Recorded (used present seen : Set ι) (handed : List ι) : Prop where
  nodup : handed.Nodup
  used : ∀ item ∈ handed, item ∈ used
  seen : ∀ item ∈ handed, item ∈ present → item ∈ seen

theorem Recorded.round
    {used present next seen seen' : Set ι}
    {handed more : List ι}
    (recorded : Recorded used present seen handed)
    (evolves : ∀ item ∈ next, item ∈ used → item ∈ present)
    (round : Round next seen more seen') :
    Recorded (used ∪ next) next seen' (handed ++ more) := by
  have still : ∀ item ∈ handed, item ∈ next → item ∈ seen := fun item member there =>
    recorded.seen item member (evolves item there (recorded.used item member))
  constructor
  · refine List.nodup_append.mpr ⟨recorded.nodup, round.nodup, ?_⟩
    rintro item member _ again rfl
    obtain ⟨there, unseen⟩ := round.fresh item again
    exact unseen (still item member there)
  · intro item member
    rcases List.mem_append.mp member with before | now
    · exact .inl (recorded.used item before)
    · exact .inr (round.fresh item now).1
  · intro item member there
    rcases List.mem_append.mp member with before | now
    · exact round.kept item there (still item before there)
    · exact round.recorded item now

theorem Recorded.rounds
    {used present seen : Set ι}
    {handed : List ι}
    {later : List (Set ι)}
    {rest : List (List ι)}
    (recorded : Recorded used present seen handed)
    (evolves : Evolves used present later)
    (rounds : Rounds seen later rest) :
    (handed ++ rest.flatten).Nodup := by
  induction rounds generalizing used present handed with
  | nil =>
      rw [List.flatten_nil, List.append_nil]
      exact recorded.nodup
  | cons round _ inductionHypothesis =>
      rw [List.flatten_cons, ← List.append_assoc]
      exact inductionHypothesis (recorded.round evolves.1 round) evolves.2

/-- In all rounds together, nothing is handed out twice. -/
theorem Rounds.nodup
    {seen : Set ι}
    {later : List (Set ι)}
    {rest : List (List ι)}
    (evolves : Evolves ∅ ∅ later)
    (rounds : Rounds seen later rest) :
    rest.flatten.Nodup := by
  have recorded : Recorded ∅ ∅ seen ([] : List ι) := ⟨List.nodup_nil, by simp, by simp⟩
  exact recorded.rounds evolves rounds

/-! ## At moments -/

/-- Whatever is there at two moments is there at each moment between them. -/
def NeverReturns (present : Nat → Set ι) : Prop :=
  ∀ first middle last, first ≤ middle → middle ≤ last →
    ∀ item, item ∈ present first → item ∈ present last → item ∈ present middle

theorem evolves_of_neverReturns
    {present : Nat → Set ι}
    (neverReturns : NeverReturns present)
    {used : Set ι}
    {moment : Nat}
    {later : List Nat}
    (sorted : (moment :: later).Pairwise (· ≤ ·))
    (known : ∀ item ∈ used, ∃ earlier ≤ moment, item ∈ present earlier) :
    Evolves used (present moment) (later.map present) := by
  induction later generalizing used moment with
  | nil => trivial
  | cons next later inductionHypothesis =>
      obtain ⟨first, rest⟩ := List.pairwise_cons.mp sorted
      have onward : moment ≤ next := first next List.mem_cons_self
      refine ⟨fun item there before => ?_, inductionHypothesis rest fun item either => ?_⟩
      · obtain ⟨earlier, upTo, was⟩ := known item before
        exact neverReturns earlier moment next upTo onward item was there
      · rcases either with before | now
        · obtain ⟨earlier, upTo, was⟩ := known item before
          exact ⟨earlier, upTo.trans onward, was⟩
        · exact ⟨next, le_rfl, now⟩

/-- Rounds at moments that may coincide or leave moments out. -/
theorem Rounds.nodup_of_neverReturns
    {present : Nat → Set ι}
    (neverReturns : NeverReturns present)
    {moments : List Nat}
    (sorted : moments.Pairwise (· ≤ ·))
    {seen : Set ι}
    {handed : List (List ι)}
    (rounds : Rounds seen (moments.map present) handed) :
    handed.flatten.Nodup := by
  refine rounds.nodup ?_
  cases moments with
  | nil => trivial
  | cons moment later =>
      refine ⟨fun _ _ used => used, evolves_of_neverReturns neverReturns sorted ?_⟩
      rintro item (none | now)
      · exact none.elim
      · exact ⟨moment, le_rfl, now⟩

end Sync
