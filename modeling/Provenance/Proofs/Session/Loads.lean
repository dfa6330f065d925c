import Provenance.Proofs.Session.History

/-!
# Only the latest load counts

Loads may overlap, and their results arrive in any order.  A history tells which tickets
were issued and which load was the last one to bring relations while its ticket was the
latest.  This module shows that a session holds the relations of that load and of no
other.

Main results:

- Theorem `Session.isCurrent_iff`: a ticket is current exactly as long as no later one has
  been issued.
- Theorem `Session.data_ofHistory`: the relations of a session are those of one load, the
  one that its history singles out.
-/

namespace Provenance

namespace Session

/-! ## What a history says about loads -/

/-- The tickets issued in a history, the latest one first. -/
def issued : List SessionEvent → List LoadTicket
  | [] => []
  | .beginLoad reload :: earlier => ((ofHistory earlier).beginLoad reload).2 :: issued earlier
  | _ :: earlier => issued earlier

/-- Only tickets that were issued before are handed in. -/
def Honest : List SessionEvent → Prop
  | [] => True
  | .finishLoad ticket _ :: earlier => ticket ∈ issued earlier ∧ Honest earlier
  | _ :: earlier => Honest earlier

/-- The documents of the last load that succeeded while its ticket was the latest. -/
def lastLoaded : List SessionEvent → Option Documents
  | [] => none
  | .finishLoad ticket (.ok docs) :: earlier =>
    if (issued earlier).head? = some ticket then some docs else lastLoaded earlier
  | _ :: earlier => lastLoaded earlier

/-! ## Numbers of tickets -/

theorem ofNat_succ (n : Nat) : UInt64.ofNat (n + 1) = UInt64.ofNat n + 1 := by
  rw [UInt64.ofNat_add]
  rfl

/-- A session counts the tickets that it has issued. -/
theorem latest_ofHistory (history : List SessionEvent) :
    (ofHistory history).loads.latest = UInt64.ofNat (issued history).length := by
  induction history with
  | nil => rfl
  | cons event earlier ih =>
      cases event with
      | dispatch task => exact ih
      | runPending =>
          simp only [ofHistory, after, loads_runPending, issued]
          exact ih
      | beginLoad reload =>
          simp only [ofHistory, after, beginLoad, LoadTracker.begin, issued, List.length_cons]
          rw [ofNat_succ, ih]
      | finishLoad ticket result =>
          simp only [ofHistory, after, loads_finishLoad, issued]
          exact ih

/-- The number of a ticket tells how many tickets had been issued by then. -/
theorem number_of_issued {history : List SessionEvent} {newer older : List LoadTicket}
    {ticket : LoadTicket} (h : issued history = newer ++ ticket :: older) :
    ticket.number = UInt64.ofNat (older.length + 1) := by
  induction history generalizing newer with
  | nil =>
      simp [issued] at h
  | cons event earlier ih =>
      cases event with
      | dispatch task => exact ih h
      | runPending => exact ih h
      | beginLoad reload =>
          simp only [issued] at h
          cases newer with
          | nil =>
              rw [List.nil_append, List.cons.injEq] at h
              obtain ⟨rfl, rfl⟩ := h
              simp only [beginLoad, LoadTracker.begin]
              rw [latest_ofHistory, ofNat_succ]
          | cons latest newer =>
              rw [List.cons_append, List.cons.injEq] at h
              exact ih h.2
      | finishLoad other result => exact ih h

/-- The latest ticket is current, however many loads have begun. -/
theorem isCurrent_of_head? {history : List SessionEvent} {ticket : LoadTicket}
    (h : (issued history).head? = some ticket) :
    (ofHistory history).loads.isCurrent ticket = true := by
  obtain ⟨older, hissued⟩ := List.head?_eq_some_iff.1 h
  have hsplit : issued history = [] ++ ticket :: older := hissued
  have hnumber : ticket.number = UInt64.ofNat (older.length + 1) := number_of_issued hsplit
  rw [LoadTracker.isCurrent, beq_iff_eq, latest_ofHistory, hnumber, hissued, List.length_cons]

/-- With fewer than `2 ^ 64` loads, a ticket is current exactly as long as no later one has
been issued. -/
theorem isCurrent_iff {history : List SessionEvent} (few : (issued history).length < UInt64.size)
    {newer older : List LoadTicket} {ticket : LoadTicket}
    (h : issued history = newer ++ ticket :: older) :
    (ofHistory history).loads.isCurrent ticket = true ↔ newer = [] := by
  have hlength : (issued history).length = newer.length + (older.length + 1) := by
    rw [h, List.length_append, List.length_cons]
  have hlatest :
      (ofHistory history).loads.latest.toNat = newer.length + (older.length + 1) := by
    rw [latest_ofHistory, hlength]
    exact UInt64.toNat_ofNat_of_lt' (by omega)
  have hnumber : ticket.number.toNat = older.length + 1 := by
    rw [number_of_issued h]
    exact UInt64.toNat_ofNat_of_lt' (by omega)
  rw [LoadTracker.isCurrent, beq_iff_eq, ← UInt64.toNat_inj, hlatest, hnumber,
    ← List.length_eq_zero_iff]
  omega

/-- A ticket that was issued is current exactly if it is the latest one. -/
theorem isCurrent_iff_head? {history : List SessionEvent}
    (few : (issued history).length < UInt64.size) {ticket : LoadTicket}
    (h : ticket ∈ issued history) :
    (ofHistory history).loads.isCurrent ticket = true ↔
      (issued history).head? = some ticket := by
  constructor
  · intro hcurrent
    obtain ⟨newer, older, hsplit⟩ := List.append_of_mem h
    have hnewer : newer = [] := (isCurrent_iff few hsplit).1 hcurrent
    rw [hsplit, hnewer]
    rfl
  · exact isCurrent_of_head?

/-! ## What a session holds -/

theorem length_issued_le_cons (event : SessionEvent) (earlier : List SessionEvent) :
    (issued earlier).length ≤ (issued (event :: earlier)).length := by
  cases event <;> simp [issued]

/-- A session holds the relations of the last load that succeeded while its ticket was the
latest. -/
theorem data_ofHistory {history : List SessionEvent} (honest : Honest history)
    (few : (issued history).length < UInt64.size) :
    (ofHistory history).data = (lastLoaded history).map Dataset.ofDocuments := by
  induction history with
  | nil => rfl
  | cons event earlier ih =>
      have few' : (issued earlier).length < UInt64.size :=
        Nat.lt_of_le_of_lt (length_issued_le_cons event earlier) few
      cases event with
      | dispatch task => exact ih honest few'
      | runPending =>
          simp only [ofHistory, after, data_runPending, lastLoaded]
          exact ih honest few'
      | beginLoad reload => exact ih honest few'
      | finishLoad ticket result =>
          obtain ⟨hissued, honest⟩ := honest
          have hcurrent := isCurrent_iff_head? few' hissued
          simp only [ofHistory, after]
          rcases (ofHistory earlier).finishLoad_cases ticket result with
            ⟨hold, hfinish⟩ | ⟨hnew, docs, rfl, hfinish⟩ | ⟨-, failure, rfl, hfinish⟩
          · have hhead : ¬ (issued earlier).head? = some ticket := by
              rw [← hcurrent, hold]
              simp
            rw [hfinish, ih honest few']
            cases result with
            | ok docs => simp only [lastLoaded, if_neg hhead]
            | error failure => rfl
          · rw [hfinish]
            simp only [lastLoaded, if_pos (hcurrent.1 hnew)]
            rfl
          · rw [hfinish]
            exact ih honest few'

/-- Loads begin and end in any order, in between tasks.  Finishing a load has an outcome
exactly if no load has begun since; if it has none, the session is what it was; and at every
point the relations are those of the last load that succeeded while its ticket was the
latest. -/
theorem finishLoad_effective_iff_latest (history : List SessionEvent) (honest : Honest history)
    (few : (issued history).length < UInt64.size) :
    (∀ newer ticket older, issued history = newer ++ ticket :: older → ∀ result,
      (((ofHistory history).finishLoad ticket result).2.isSome = true ↔ newer = []) ∧
      (((ofHistory history).finishLoad ticket result).2 = none →
        ((ofHistory history).finishLoad ticket result).1 = ofHistory history)) ∧
    (ofHistory history).data = (lastLoaded history).map Dataset.ofDocuments := by
  refine ⟨?_, data_ofHistory honest few⟩
  intro newer ticket older hsplit result
  rw [← isCurrent_iff few hsplit]
  rcases (ofHistory history).finishLoad_cases ticket result with
    ⟨hold, hfinish⟩ | ⟨hnew, _, -, hfinish⟩ | ⟨hnew, _, -, hfinish⟩
  · simp [hfinish, hold]
  · simp [hfinish, hnew]
  · simp [hfinish, hnew]

/-- Two loads overlap, and the first one is finished before the second one. -/
def overlappingLoads : List SessionEvent :=
  [.finishLoad ⟨2, true⟩ (.ok ⟨[{ sourceTable := some (.str "proceso.p") }], []⟩),
    .finishLoad ⟨1, false⟩ (.ok ⟨[], []⟩),
    .beginLoad true, .runPending, .dispatch .render, .beginLoad false]

/-- When loads overlap, the first one has no effect, neither before nor after the second one
is finished. -/
theorem finishLoad_overlapping :
    Honest overlappingLoads ∧ (issued overlappingLoads).length < UInt64.size ∧
    issued overlappingLoads = [⟨2, true⟩] ++ ⟨1, false⟩ :: [] ∧
    ((ofHistory overlappingLoads).finishLoad ⟨1, false⟩ (.error (.http 404 "fields.json"))).1 =
      ofHistory overlappingLoads ∧
    (ofHistory overlappingLoads).data =
      some (Dataset.ofDocuments ⟨[{ sourceTable := some (.str "proceso.p") }], []⟩) := by
  have honest : Honest overlappingLoads := by
    simp [overlappingLoads, Honest, issued, ofHistory, after, beginLoad, LoadTracker.begin,
      LoadTracker.initial, initial, dispatch]
  have hissued : issued overlappingLoads = [⟨2, true⟩] ++ ⟨1, false⟩ :: [] := by rfl
  have few : (issued overlappingLoads).length < UInt64.size := by
    rw [hissued]
    decide
  obtain ⟨heffect, hdata⟩ := finishLoad_effective_iff_latest overlappingLoads honest few
  obtain ⟨hsome, hnone⟩ := heffect _ _ _ hissued (.error (.http 404 "fields.json"))
  refine ⟨honest, few, hissued, ?_, ?_⟩
  · apply hnone
    rw [← Option.not_isSome_iff_eq_none, hsome]
    simp
  · rw [hdata]
    rfl

end Session

end Provenance
