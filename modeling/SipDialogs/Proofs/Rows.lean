-- SUMMARY: What a record says of a dialog, and what a dialog's record leaves out.
import SipDialogs.Record

/-! # Records and what they are read as

A record is read if its phase is known, its start time is an instant and it names a Call-ID, and
then it is the record of what it was read as. Conversely a snapshot with a Call-ID comes back from
its record, but for its flags, its version, its context and the fraction of the second it started
in. Reading and writing are inverse from then on. -/

namespace SipDialogs

/-! ## Phases by number -/

theorem Phase.ofCode?_code (p : Phase) : ofCode? p.code = some p := by
  cases p <;> rfl

theorem Phase.code_of_ofCode? {code : UInt8} {p : Phase} (h : ofCode? code = some p) :
    p.code = code := by
  have hcode := List.find?_some h
  simpa using hcode

theorem Phase.exists_ofCode?_iff {code : UInt8} :
    (∃ p, ofCode? code = some p) ↔ 1 ≤ code ∧ code ≤ 5 := by
  constructor
  · rintro ⟨p, hp⟩
    rw [← code_of_ofCode? hp]
    cases p <;> decide
  · rintro ⟨hleast, hmost⟩
    rw [UInt8.le_iff_toNat_le] at hleast hmost
    have hcode : code = 1 ∨ code = 2 ∨ code = 3 ∨ code = 4 ∨ code = 5 := by
      simp only [← UInt8.toNat_inj]
      change 1 ≤ _ at hleast
      change _ ≤ 5 at hmost
      change _ = 1 ∨ _ = 2 ∨ _ = 3 ∨ _ = 4 ∨ _ = 5
      omega
    rcases hcode with rfl | rfl | rfl | rfl | rfl
    · exact ⟨.unconfirmed, rfl⟩
    · exact ⟨.early, rfl⟩
    · exact ⟨.confirmedNa, rfl⟩
    · exact ⟨.confirmed, rfl⟩
    · exact ⟨.deleted, rfl⟩

/-! ## Whole seconds -/

namespace Timestamp

/-- The whole second that an instant is in. -/
def wholeSecond (t : Timestamp) : Timestamp where
  seconds := t.seconds
  nanos := 0
  inRange := t.inRange
  nanos_lt := Nat.zero_lt_of_lt t.nanos_lt

@[simp] theorem wholeSecond_wholeSecond (t : Timestamp) :
    t.wholeSecond.wholeSecond = t.wholeSecond := rfl

theorem ofSeconds?_seconds (t : Timestamp) : ofSeconds? t.seconds = some t.wholeSecond :=
  dif_pos ⟨t.inRange, by decide⟩

theorem eq_of_ofSeconds? {seconds : Int} {t : Timestamp} (h : ofSeconds? seconds = some t) :
    t.seconds = seconds ∧ t.wholeSecond = t := by
  unfold ofSeconds? ofParts? at h
  split at h
  · cases h
    exact ⟨rfl, rfl⟩
  · cases h

theorem exists_ofSeconds?_iff {seconds : Int} :
    (∃ t, ofSeconds? seconds = some t) ↔ ∃ t : Timestamp, t.seconds = seconds := by
  constructor
  · rintro ⟨t, ht⟩
    exact ⟨t, (eq_of_ofSeconds? ht).1⟩
  · rintro ⟨t, rfl⟩
    exact ⟨_, t.ofSeconds?_seconds⟩

/-- Instants in their order. A leap second comes after all of the second it is kept as. -/
instance : LE Timestamp :=
  ⟨fun t u => t.seconds < u.seconds ∨ t.seconds = u.seconds ∧ t.nanos ≤ u.nanos⟩

theorem le_iff {t u : Timestamp} :
    t ≤ u ↔ t.seconds < u.seconds ∨ t.seconds = u.seconds ∧ t.nanos ≤ u.nanos := .rfl

theorem wholeSecond_le (t : Timestamp) : t.wholeSecond ≤ t :=
  .inr ⟨rfl, Nat.zero_le _⟩

/-- The whole second of an instant is the last that is not after it. -/
theorem le_wholeSecond {t u : Timestamp} (hwhole : u.nanos = 0) (h : u ≤ t) :
    u ≤ t.wholeSecond := by
  rw [le_iff] at h ⊢
  rcases h with hlt | ⟨heq, -⟩
  · exact .inl hlt
  · exact .inr ⟨heq, Nat.le_of_eq hwhole⟩

end Timestamp

/-! ## Reading -/

namespace Record

/-- What is reported of a record that cannot be read. -/
def unfit (r : Record) (what : String) : Fault := .persistence (r.key.render ++ ": " ++ what)

/-- What a record says in a phase and with a start time. -/
def said (r : Record) (phase : Phase) (start : Timestamp) : Snapshot where
  key := r.key
  phase := phase
  flags := .none
  start := start
  timeout := r.timeout
  callId := r.callId
  fromUri := r.fromUri
  toUri := r.toUri
  caller := r.callerInfo
  callee := r.calleeInfo

variable {r : Record} {phase : Phase} {start : Timestamp}

theorem toSnapshot_of_phase (hphase : Phase.ofCode? r.phaseCode = none) :
    r.toSnapshot = .error (r.unfit ("unknown state code " ++ toString r.phaseCode.toNat)) := by
  unfold toSnapshot
  rw [hphase]
  rfl

theorem toSnapshot_of_start (hphase : Phase.ofCode? r.phaseCode = some phase)
    (hstart : Timestamp.ofSeconds? r.startSecond = none) :
    r.toSnapshot = .error (r.unfit ("bad start time " ++ toString r.startSecond)) := by
  unfold toSnapshot
  rw [hphase, hstart]
  rfl

theorem toSnapshot_of_callId (hphase : Phase.ofCode? r.phaseCode = some phase)
    (hstart : Timestamp.ofSeconds? r.startSecond = some start) (hid : r.callId = "") :
    r.toSnapshot = .error (r.unfit "empty callid") := by
  have hempty : r.callId.isEmpty = true := String.isEmpty_iff.2 hid
  unfold toSnapshot
  rw [hphase, hstart]
  dsimp only
  rw [if_pos hempty]
  rfl

theorem toSnapshot_of_fit (hphase : Phase.ofCode? r.phaseCode = some phase)
    (hstart : Timestamp.ofSeconds? r.startSecond = some start) (hid : r.callId ≠ "") :
    r.toSnapshot = .ok (r.said phase start) := by
  have hnamed : ¬ r.callId.isEmpty = true := fun h => hid (String.isEmpty_iff.1 h)
  unfold toSnapshot
  rw [hphase, hstart]
  dsimp only
  rw [if_neg hnamed]
  rfl

/-- What a record that was read said, and that there was nothing wrong with it. -/
theorem toSnapshot_eq_ok {s : Snapshot} (h : r.toSnapshot = .ok s) :
    ∃ phase start, Phase.ofCode? r.phaseCode = some phase ∧
      Timestamp.ofSeconds? r.startSecond = some start ∧ r.callId ≠ "" ∧
      s = r.said phase start := by
  cases hphase : Phase.ofCode? r.phaseCode with
  | none =>
    rw [toSnapshot_of_phase hphase] at h
    cases h
  | some phase =>
    cases hstart : Timestamp.ofSeconds? r.startSecond with
    | none =>
      rw [toSnapshot_of_start hphase hstart] at h
      cases h
    | some start =>
      by_cases hid : r.callId = ""
      · rw [toSnapshot_of_callId hphase hstart hid] at h
        cases h
      · rw [toSnapshot_of_fit hphase hstart hid] at h
        cases h
        exact ⟨phase, start, rfl, rfl, hid, rfl⟩

/-- Every column of a record is in what it says. -/
theorem ofSnapshot_said (hphase : phase.code = r.phaseCode)
    (hstart : start.seconds = r.startSecond) :
    ofSnapshot (r.said phase start) = r := by
  unfold ofSnapshot said
  rw [hphase, hstart]
  rfl

/-- A record that was read is the record of what it was read as. -/
theorem ofSnapshot_of_toSnapshot {s : Snapshot} (h : r.toSnapshot = .ok s) : ofSnapshot s = r := by
  obtain ⟨phase, start, hphase, hstart, -, rfl⟩ := toSnapshot_eq_ok h
  exact ofSnapshot_said (Phase.code_of_ofCode? hphase) (Timestamp.eq_of_ofSeconds? hstart).1

/-- How a record is read. Of what is wrong with it, the first is reported. -/
structure Reading (r : Record) : Prop where
  readable : (∃ s, r.toSnapshot = .ok s) ↔
    (1 ≤ r.phaseCode ∧ r.phaseCode ≤ 5) ∧ (∃ t : Timestamp, t.seconds = r.startSecond) ∧
      r.callId ≠ ""
  phase : ¬ (1 ≤ r.phaseCode ∧ r.phaseCode ≤ 5) →
    r.toSnapshot = .error (r.unfit ("unknown state code " ++ toString r.phaseCode.toNat))
  start : 1 ≤ r.phaseCode ∧ r.phaseCode ≤ 5 → (¬ ∃ t : Timestamp, t.seconds = r.startSecond) →
    r.toSnapshot = .error (r.unfit ("bad start time " ++ toString r.startSecond))
  callId : 1 ≤ r.phaseCode ∧ r.phaseCode ≤ 5 → (∃ t : Timestamp, t.seconds = r.startSecond) →
    r.callId = "" → r.toSnapshot = .error (r.unfit "empty callid")
  back : ∀ s, r.toSnapshot = .ok s → ofSnapshot s = r

theorem reading (r : Record) : r.Reading where
  readable := by
    rw [← Phase.exists_ofCode?_iff, ← Timestamp.exists_ofSeconds?_iff]
    constructor
    · rintro ⟨s, hs⟩
      obtain ⟨phase, start, hphase, hstart, hid, -⟩ := toSnapshot_eq_ok hs
      exact ⟨⟨phase, hphase⟩, ⟨start, hstart⟩, hid⟩
    · rintro ⟨⟨phase, hphase⟩, ⟨start, hstart⟩, hid⟩
      exact ⟨_, toSnapshot_of_fit hphase hstart hid⟩
  phase hunknown := by
    rw [← Phase.exists_ofCode?_iff, ← Option.ne_none_iff_exists', Decidable.not_not] at hunknown
    exact toSnapshot_of_phase hunknown
  start hknown hoff := by
    obtain ⟨phase, hphase⟩ := Phase.exists_ofCode?_iff.2 hknown
    rw [← Timestamp.exists_ofSeconds?_iff, ← Option.ne_none_iff_exists', Decidable.not_not] at hoff
    exact toSnapshot_of_start hphase hoff
  callId hknown hon hid := by
    obtain ⟨phase, hphase⟩ := Phase.exists_ofCode?_iff.2 hknown
    obtain ⟨start, hstart⟩ := Timestamp.exists_ofSeconds?_iff.2 hon
    exact toSnapshot_of_callId hphase hstart hid
  back _ := ofSnapshot_of_toSnapshot

end Record

/-! ## Writing and reading back -/

namespace Snapshot

/-- What a record can hold of a snapshot. -/
def stored (s : Snapshot) : Snapshot :=
  { s with flags := .none, version := 0, context := none, start := s.start.wholeSecond }

theorem said_stored (s : Snapshot) :
    (Record.ofSnapshot s).said s.phase s.start.wholeSecond = s.stored := rfl

@[simp] theorem stored_stored (s : Snapshot) : s.stored.stored = s.stored := rfl

@[simp] theorem ofSnapshot_stored (s : Snapshot) :
    Record.ofSnapshot s.stored = Record.ofSnapshot s := rfl

theorem toSnapshot_ofSnapshot {s : Snapshot} (hid : s.callId ≠ "") :
    (Record.ofSnapshot s).toSnapshot = .ok s.stored := by
  rw [← said_stored]
  exact Record.toSnapshot_of_fit s.phase.ofCode?_code s.start.ofSeconds?_seconds hid

/-- What a snapshot comes back as from its record. -/
structure Return (s : Snapshot) : Prop where
  once : (Record.ofSnapshot s).toSnapshot = .ok s.stored
  again : (Record.ofSnapshot s.stored).toSnapshot = .ok s.stored
  record : Record.ofSnapshot s.stored = Record.ofSnapshot s
  whole : s.stored.start.nanos = 0
  not_after : s.stored.start ≤ s.start
  last : ∀ t : Timestamp, t.nanos = 0 → t ≤ s.start → t ≤ s.stored.start

theorem return_of_callId {s : Snapshot} (hid : s.callId ≠ "") : s.Return where
  once := toSnapshot_ofSnapshot hid
  again := by
    rw [ofSnapshot_stored]
    exact toSnapshot_ofSnapshot hid
  record := s.ofSnapshot_stored
  whole := rfl
  not_after := s.start.wholeSecond_le
  last _ := Timestamp.le_wholeSecond

end Snapshot

/-- Reading and writing are inverse up to what a record cannot hold. -/
theorem Record.reads_back :
    (∀ r : Record, r.Reading) ∧ ∀ s : Snapshot, s.callId ≠ "" → s.Return :=
  ⟨reading, fun _ => Snapshot.return_of_callId⟩

/-- A dialog that started half a second before 1970 and has been changed and asked about since. -/
def Snapshot.antedated : Snapshot where
  key := ⟨3, 7⟩
  phase := .confirmed
  flags := .changed
  start := ⟨-1, 500000000, by decide, by decide⟩
  timeout := 3600
  callId := "abc"
  fromUri := "sip:a"
  toUri := "sip:b"
  caller := { tag := "t1", routeSet := "<sip:p;lr>", bindAddr := some "udp:10.0.0.1:5060" }
  callee := { tag := "t2", contact := "sip:b@c", cseq := "7" }
  version := 4
  context := some []

theorem Record.reads_back_antedated :
    Snapshot.antedated.callId ≠ "" ∧ (ofSnapshot .antedated).Reading ∧
      Snapshot.antedated.Return ∧ Snapshot.antedated.stored.start.seconds = -1 :=
  ⟨by decide, reads_back.1 _, reads_back.2 .antedated (by decide), rfl⟩

end SipDialogs
