-- SUMMARY: A node at work: what it loads, what waits for its worker, and what the worker carries.
import SipDialogs.Proofs.Runs
import SipDialogs.Proofs.Delivery
import SipDialogs.Proofs.Rows

/-! # Nodes at work

A node is opened: it loads a store into a new registry and starts its worker. From then until it is
stopped, operations alternate with the worker, which may carry as few writes at a time as it likes.
This module says what both of them leave behind; what a mode makes of it is said elsewhere. -/

namespace SipDialogs

/-- A store that does what it is asked for, and does not call back. -/
structure Environment.Serves (env : Environment ε) : Prop where
  stores : env.Stores
  idle : ∀ c (r : Registry ε), r.Idle (env.store c r).2

/-- A store that may fail to do what it is asked for, but does not panic and does not call back. -/
structure Environment.Steady (env : Environment ε) : Prop where
  answers : ∀ c (r : Registry ε), (env.store c r).1 ≠ .panicked
  idle : ∀ c (r : Registry ε), r.Idle (env.store c r).2

theorem Environment.Serves.steady {env : Environment ε} (h : env.Serves) : env.Steady where
  answers c r := by
    rw [h.stores]
    exact Outcome.noConfusion
  idle := h.idle

theorem Environment.quiet_serves : Environment.quiet.Serves :=
  ⟨fun _ _ => rfl, fun _ r => .refl r⟩

/-! ## Carrying writes -/

/-- A write decides only what is remembered under its own key. -/
theorem Versions.accept_get?_of_ne (v : Versions) (linked : Bool) {w : Write} {key : Key}
    (hne : key ≠ w.key) : (v.accept linked w).2.get? key = v.get? key := by
  unfold accept
  split
  · rw [Assoc.get?_erase, if_neg hne]
  · rw [Assoc.get?_erase, if_neg hne]
  · split
    · rfl
    · rw [Assoc.get?_set, if_neg hne]

/-- Of a destroyed dialog nothing is remembered. -/
theorem Versions.accept_get?_final (v : Versions) (linked : Bool) {w : Write}
    (h : w.isFinal = true) : (v.accept linked w).2.get? w.key = none := by
  cases w with
  | save record version => cases h
  | remove key version destroyed =>
    obtain rfl : destroyed = true := h
    exact (Assoc.get?_erase ..).trans (if_pos rfl)

namespace Node

variable {env : Environment ε}

theorem callStore_idle (henv : env.Steady) (n : Node ε) {c : Call}
    (hc : ∀ o s notice, c ≠ .observed o s notice) :
    n.registry.Idle (n.callStore env c).2.registry :=
  (Registry.Idle.record n.registry hc).trans (henv.idle c _)

/-- The worker has carried something: what it remembers and what is stored may have changed, and
time has gone by. -/
structure Carried (worker : Worker) (n : Node ε) (worker' : Worker) (n' : Node ε) : Prop where
  worker : worker' = { worker with applied := worker'.applied }
  idle : n.registry.Idle n'.registry

namespace Carried

variable {worker worker' worker'' : Worker} {n n' n'' : Node ε}

theorem refl (worker : Worker) (n : Node ε) : Carried worker n worker n :=
  ⟨rfl, .refl _⟩

theorem trans (h : Carried worker n worker' n') (h' : Carried worker' n' worker'' n'') :
    Carried worker n worker'' n'' := by
  refine ⟨?_, h.idle.trans h'.idle⟩
  rw [h'.worker, h.worker]

theorem alive (h : Carried worker n worker' n') (halive : worker.alive = true) :
    worker'.alive = true := by
  rw [h.worker]
  exact halive

theorem mailbox (h : Carried worker n worker' n') : worker'.mailbox = worker.mailbox := by
  rw [h.worker]

theorem mode (h : Carried worker n worker' n') : worker'.mode = worker.mode := by
  rw [h.worker]

end Carried

theorem carry_carried (henv : env.Steady) (w : Write) (worker : Worker) (n : Node ε) :
    Carried worker n (carry env w worker n).1 (carry env w worker n).2 := by
  have hcall : ∀ o s notice, w.call ≠ .observed o s notice := by cases w <;> simp [Write.call]
  have hidle := callStore_idle henv n hcall
  have hanswer : (n.callStore env w.call).1 ≠ .panicked := henv.answers _ _
  unfold carry
  dsimp only
  split
  · generalize n.callStore env w.call = called at hidle hanswer ⊢
    obtain ⟨outcome, m⟩ := called
    cases outcome with
    | done | failed reason => exact ⟨rfl, hidle⟩
    | panicked => exact absurd rfl hanswer
  · exact ⟨rfl, .refl _⟩

/-- What holds of the writes that are left holds at the end, if each that is carried keeps it so. -/
theorem carryAll_induction (henv : env.Steady) {P : List Write → Worker → Node ε → Prop}
    (hcarry : ∀ w ws worker n, P (w :: ws) worker n →
      P ws (carry env w worker n).1 (carry env w worker n).2)
    {ws : List Write} {worker : Worker} {n : Node ε} (halive : worker.alive = true)
    (h : P ws worker n) : P [] (carryAll env ws worker n).1 (carryAll env ws worker n).2 := by
  induction ws generalizing worker n with
  | nil => exact h
  | cons w ws ih =>
    have halive' : (carry env w worker n).1.alive = true :=
      (carry_carried henv w worker n).alive halive
    rw [carryAll]
    dsimp only
    rw [if_pos halive']
    exact ih halive' (hcarry w ws worker n h)

theorem carryAll_carried (henv : env.Steady) (ws : List Write) {worker : Worker} {n : Node ε}
    (halive : worker.alive = true) :
    Carried worker n (carryAll env ws worker n).1 (carryAll env ws worker n).2 := by
  refine carryAll_induction henv (P := fun _ worker' n' => Carried worker n worker' n') ?_ halive
    (.refl worker n)
  intro w ws worker' n' h
  exact h.trans (carry_carried henv w worker' n')

/-- What is remembered and what is stored is what it takes to know of a dialog when
it is settled. -/
theorem Settled.congr {key : Key} {done done' : List Write} {applied applied' : Versions}
    {store store' : Store} (h : Settled key done applied store)
    (hdone : ∀ w, w ∈ done' ↔ w ∈ done) (happlied : applied'.get? key = applied.get? key)
    (hstore : store'.get? key = store.get? key) : Settled key done' applied' store' := by
  rcases h with ⟨rfl, hnone⟩ | ⟨newest, hmem, hmax, hversion, heffect⟩
  · refine .inl ⟨List.eq_nil_iff_forall_not_mem.2 fun w hw => ?_, happlied.trans hnone⟩
    have hmem := (hdone w).1 hw
    cases hmem
  · exact .inr ⟨newest, (hdone newest).2 hmem, fun w hw => hmax w ((hdone w).1 hw),
      happlied.trans hversion, hstore.trans heffect⟩

/-- What the worker has made of the store that it found, now that `done` has been carried: each
linked dialog is settled, and where nothing was carried nothing has changed. -/
structure Copied (before : Store) (linked : Key → Bool) (done : List Write) (applied : Versions)
    (store : Store) : Prop where
  settled : ∀ key, linked key = true → Settled key (done.filter (·.key = key)) applied store
  untouched : ∀ key, done.filter (·.key = key) = [] →
    applied.get? key = none ∧ store.get? key = before.get? key

theorem Copied.nil (store : Store) (linked : Key → Bool) : Copied store linked [] {} store :=
  ⟨fun _ _ => .inl ⟨rfl, rfl⟩, fun _ _ => ⟨rfl, rfl⟩⟩

theorem Copied.carry (henv : env.Serves) {before : Store} {done : List Write} {worker : Worker}
    {n : Node ε} {w : Write}
    (h : Copied before n.registry.table.isLinked done worker.applied n.store)
    (hw : n.registry.table.isLinked w.key = true → w.isFinal = false) :
    Copied before n.registry.table.isLinked (done ++ [w]) (Node.carry env w worker n).1.applied
      (Node.carry env w worker n).2.store := by
  constructor
  · intro key hlinked
    have hbefore := h.settled key hlinked
    rw [List.filter_append]
    by_cases hkey : w.key = key
    · have hcarried := hbefore.carry henv.stores hkey (hw (by rw [hkey]; exact hlinked)) hlinked
      refine hcarried.congr (fun q => ?_) rfl rfl
      simp [hkey, or_comm]
    · refine hbefore.congr (fun q => by simp [hkey]) ?_ ?_
      · rw [carry_applied]
        exact Versions.accept_get?_of_ne _ _ (Ne.symm hkey)
      · exact carry_get?_of_ne worker n (Ne.symm hkey)
  · intro key hnone
    rw [List.filter_append, List.append_eq_nil_iff] at hnone
    obtain ⟨hdone, hlast⟩ := hnone
    have hne : key ≠ w.key := by
      rintro rfl
      simp at hlast
    obtain ⟨happlied, hstore⟩ := h.untouched key hdone
    refine ⟨?_, ?_⟩
    · rw [carry_applied, Versions.accept_get?_of_ne _ _ hne]
      exact happlied
    · rw [carry_get?_of_ne worker n hne]
      exact hstore

/-- Nothing is stored of a dialog that is not linked, unless its removal is still waiting. -/
def Withdrawn (waiting : List Write) (n : Node ε) : Prop :=
  ∀ key, n.registry.table.isLinked key = false →
    n.store.get? key = none ∨ ∃ q ∈ waiting, q.key = key ∧ q.isFinal = true

/-- A removal that is carried withdraws the record, or leaves it to another one that waits. -/
theorem Withdrawn.carry (henv : env.Serves) {q : Write} {waiting : List Write} {n : Node ε}
    (h : Withdrawn (q :: waiting) n) (worker : Worker) :
    Withdrawn waiting (carry env q worker n).2 := by
  intro key hunlinked
  rw [(carry_carried henv.steady q worker n).idle.table] at hunlinked
  rcases h key hunlinked with hnone | ⟨p, hp, hkey, hfinal⟩
  · exact .inl (carry_get?_unlinked henv.stores hunlinked hnone worker)
  · rcases List.mem_cons.1 hp with rfl | hp
    · cases p with
      | save record version => cases hfinal
      | remove k version destroyed =>
        obtain rfl : destroyed = true := hfinal
        obtain rfl : k = key := hkey
        exact .inl (carry_get?_final henv.stores k version worker n)
    · exact .inr ⟨p, hp, hkey, hfinal⟩

end Node

/-! ## What reaches a mailbox -/

/-- What a moment leaves in the mailboxes. -/
def Moment.posts : Moment → Array Mailbox → Array Mailbox
  | heard o s n, boxes =>
    match o.role with
    | .client => boxes
    | .writer mailbox realtime =>
      match Write.ofNotice? realtime s n with
      | some w => boxes.modify mailbox (·.post w)
      | none => boxes
  | _, boxes => boxes

theorem Registry.hear_mailboxes (r : Registry ε) (o : Observer) (s : Snapshot) (n : Notice) :
    (r.hear o s n).mailboxes = (Moment.heard o s n).posts r.mailboxes := by
  unfold hear Moment.posts
  dsimp only
  cases o.role with
  | client => rfl
  | writer mailbox realtime =>
    dsimp only
    cases Write.ofNotice? realtime s n <;> rfl

theorem Step.mailboxes {c c' : Scene ε} {m : Moment} (h : Step c m c') :
    c'.registry.mailboxes = m.posts c.registry.mailboxes := by
  cases h with
  | idle h => exact h.mailboxes
  | hear r ho hn => exact r.hear_mailboxes ..
  | _ => rfl

namespace Registry

/-- Whoever hears of every dialog is code outside of the registry. -/
def NoWriter (r : Registry ε) : Prop := ∀ o ∈ r.observers, o.role = .client

/-- Whoever hears of every dialog, but for `w`, is code outside of the registry. -/
def OnlyWriter (r : Registry ε) (w : Observer) : Prop :=
  ∀ o ∈ r.observers, o.role = .client ∨ o = w

variable {r r' : Registry ε} {w : Observer}

theorem NoWriter.later (h : r.NoWriter) (hlater : r.Later r') : r'.NoWriter := fun o ho => by
  rcases hlater.added o ho with ho | ⟨hrole, -⟩
  · exact h o ho
  · exact hrole

theorem OnlyWriter.later (h : r.OnlyWriter w) (hlater : r.Later r') : r'.OnlyWriter w :=
  fun o ho => by
    rcases hlater.added o ho with ho | ⟨hrole, -⟩
    · exact h o ho
    · exact .inl hrole

end Registry

/-- Without writers, nothing is posted. -/
theorem Step.mailboxes_of_noWriter {c c' : Scene ε} {m : Moment} (h : Step c m c')
    (hclients : c.registry.NoWriter) : c'.registry.mailboxes = c.registry.mailboxes := by
  rw [h.mailboxes]
  cases h with
  | hear r ho hn =>
    have hrole := ho.elim id (hclients _)
    simp [Moment.posts, hrole]
  | _ => rfl

/-- The writes that a writer of this role asks for, one for each notice that has one. -/
def asked (realtime : Bool) (heard : List News) : List Write :=
  heard.filterMap fun told => Write.ofNotice? realtime told.1 told.2

theorem asked_append (realtime : Bool) (heard heard' : List News) :
    asked realtime (heard ++ heard') = asked realtime heard ++ asked realtime heard' :=
  List.filterMap_append

theorem queued_append (heard heard' : List News) :
    queued (heard ++ heard') = queued heard ++ queued heard' := asked_append true heard heard'

/-- Of what a writer hears, the writes that it asks for are posted. -/
theorem Step.posted {c c' : Scene ε} {m : Moment} (h : Step c m c') {w : Observer}
    (hw : c.registry.OnlyWriter w) {mailbox : Nat} {realtime : Bool}
    (hrole : w.role = .writer mailbox realtime) {ws : List Write}
    (hbox : c.registry.mailboxes[mailbox]? = some ⟨ws, true⟩) :
    c'.registry.mailboxes[mailbox]? = some ⟨ws ++ asked realtime (w.heard [m]), true⟩ := by
  have hquiet : m.posts c.registry.mailboxes = c.registry.mailboxes →
      asked realtime (w.heard [m]) = [] →
      c'.registry.mailboxes[mailbox]? = some ⟨ws ++ asked realtime (w.heard [m]), true⟩ := by
    intro hposts hasked
    rw [h.mailboxes, hposts, hbox, hasked, List.append_nil]
  cases h with
  | @hear r o ho s n limbo hn =>
    rcases ho.elim .inl (hw o) with hclient | rfl
    · refine hquiet (by simp [Moment.posts, hclient]) ?_
      have hne : o ≠ w := by
        rintro rfl
        rw [hrole] at hclient
        cases hclient
      simp [Observer.heard, Moment.heardBy?, hne, asked]
    · cases hasked : Write.ofNotice? realtime s n with
      | none =>
        refine hquiet (by simp [Moment.posts, hrole, hasked]) ?_
        by_cases htopic : n.topic = .introspect
        · simp [Observer.heard, Moment.heardBy?, htopic, asked]
        · simp [Observer.heard, Moment.heardBy?, htopic, asked, hasked]
      | some q =>
        have htopic : n.topic ≠ .introspect := by
          cases n with
          | introspect => cases hasked
          | _ => simp [Notice.topic]
        have hone : asked realtime (o.heard [.heard o s n]) = [q] := by
          simp [Observer.heard, Moment.heardBy?, htopic, asked, hasked]
        have hposts : (Moment.heard o s n).posts r.mailboxes
            = r.mailboxes.modify mailbox (·.post q) := by
          simp [Moment.posts, hrole, hasked]
        rw [Registry.hear_mailboxes, hposts, hone, Array.getElem?_modify, if_pos rfl, hbox]
        rfl
  | _ => exact hquiet rfl rfl

namespace Path

variable {c c' : Scene ε} {ms : List Moment}

theorem mailboxes_of_noWriter (h : Path c ms c') (hclients : c.registry.NoWriter) :
    c'.registry.mailboxes = c.registry.mailboxes := by
  induction h with
  | nil => rfl
  | cons hstep _ ih =>
    rw [ih (hclients.later hstep.later), hstep.mailboxes_of_noWriter hclients]

theorem posted (h : Path c ms c') {w : Observer} (hw : c.registry.OnlyWriter w) {mailbox : Nat}
    {realtime : Bool} (hrole : w.role = .writer mailbox realtime) {ws : List Write}
    (hbox : c.registry.mailboxes[mailbox]? = some ⟨ws, true⟩) :
    c'.registry.mailboxes[mailbox]? = some ⟨ws ++ asked realtime (w.heard ms), true⟩ := by
  induction h generalizing ws with
  | nil => simpa [asked] using hbox
  | @cons c₀ c₁ c₂ m ms hstep _ ih =>
    have hrest := ih (hw.later hstep.later) (hstep.posted hw hrole hbox)
    rw [← List.singleton_append, Observer.heard_append, asked_append, ← List.append_assoc]
    exact hrest

/-- In realtime mode everything that is told is asked for. -/
theorem waiting (h : Path c ms c') {w : Observer} (hw : c.registry.OnlyWriter w) {mailbox : Nat}
    (hrole : w.role = .writer mailbox true) {ws : List Write}
    (hbox : c.registry.mailboxes[mailbox]? = some ⟨ws, true⟩) :
    c'.registry.mailboxes[mailbox]? = some ⟨ws ++ queued (w.heard ms), true⟩ :=
  h.posted hw hrole hbox

end Path

/-! ## Loading -/

/-- The dialog that a record describes, if it describes one that is live. -/
def Record.dialog? (record : Record) : Option Dialog :=
  if record.isDeleted then none else record.toSnapshot.toOption.map Dialog.ofSnapshot

theorem Record.dialog?_eq_some {record : Record} {d : Dialog} :
    record.dialog? = some d ↔
      ¬ record.isDeleted ∧ ∃ s, record.toSnapshot = .ok s ∧ Dialog.ofSnapshot s = d := by
  unfold dialog?
  by_cases hdeleted : record.isDeleted
  · simp [hdeleted]
  · cases hread : record.toSnapshot <;> simp [hdeleted, Except.toOption]

theorem Record.of_dialog? {record : Record} {d : Dialog} (h : record.dialog? = some d) :
    d.key = record.key ∧ d.phase.code = record.phaseCode ∧ d.phase ≠ .deleted := by
  obtain ⟨hlive, s, hs, rfl⟩ := dialog?_eq_some.1 h
  obtain ⟨phase, start, hphase, -, -, rfl⟩ := toSnapshot_eq_ok hs
  have hcode := Phase.code_of_ofCode? hphase
  refine ⟨rfl, hcode, ?_⟩
  intro hdeleted
  change phase = .deleted at hdeleted
  subst hdeleted
  exact hlive (by simp [isDeleted, ← hcode])

namespace Node

/-- A record is passed over, or its dialog is linked. -/
theorem restoreRecord_cases (r : Registry ε) (record : Record) :
    restoreRecord r record = (false, r) ∨
    ∃ s d t, record.dialog? = some d ∧ r.table.restore s = .ok (d, t) ∧
      restoreRecord r record = (true, { r with table := t }) := by
  unfold restoreRecord Record.dialog?
  by_cases hdeleted : record.isDeleted
  · simp [hdeleted]
  · cases hsnapshot : record.toSnapshot with
    | error e => simp [hdeleted]
    | ok s =>
      cases hrestore : r.table.restore s with
      | error e => simp [hdeleted, Registry.restore, hrestore]
      | ok linked =>
        obtain ⟨d, t⟩ := linked
        have hd := (Table.restore_links hrestore).2
        refine .inr ⟨s, d, t, ?_, hrestore, ?_⟩
        · simp [hdeleted, Except.toOption, hd]
        · simp [hdeleted, Registry.restore, hrestore]

/-- What loading records leaves behind. -/
structure Loads (r : Registry ε) (records : List Record) (count : Nat) (r' : Registry ε) :
    Prop where
  table : ∃ t, r' = { r with table := t }
  sound : r.Sound → r'.Sound
  kept : ∀ key d, r.table.find? key = some d → r'.table.find? key = some d
  source : ∀ key d, r'.table.find? key = some d → r.table.find? key = some d ∨
    ∃ record ∈ records, record.key = key ∧ record.dialog? = some d
  count_le : count ≤ records.length
  complete : count = records.length → ∀ record ∈ records, ∃ d, record.dialog? = some d ∧
    r'.table.find? record.key = some d

theorem restoreAll_loads (records : List Record) (r : Registry ε) :
    Loads r records (restoreAll records r).1 (restoreAll records r).2 := by
  induction records generalizing r with
  | nil => exact ⟨⟨r.table, rfl⟩, id, fun _ _ => id, fun _ _ => .inl, Nat.le_refl _,
      fun _ _ h => (by cases h)⟩
  | cons record records ih =>
    unfold restoreAll
    rcases restoreRecord_cases r record with hpassed | ⟨s, d, t, hd, hrestore, hlinked⟩
    · rw [hpassed]
      dsimp only
      rw [if_neg Bool.false_ne_true]
      have hrest := ih r
      refine ⟨hrest.table, hrest.sound, hrest.kept, fun key e he => ?_,
        Nat.le_succ_of_le hrest.count_le, fun hcount => ?_⟩
      · refine (hrest.source key e he).imp id ?_
        rintro ⟨other, hother, hkey⟩
        exact ⟨other, List.mem_cons_of_mem _ hother, hkey⟩
      · have hle := hrest.count_le
        rw [hcount, List.length_cons] at hle
        exact absurd hle (Nat.not_succ_le_self _)
    · rw [hlinked]
      dsimp only
      rw [if_pos rfl]
      have hrest := ih { r with table := t }
      obtain ⟨hlinks, -⟩ := Table.restore_links hrestore
      obtain ⟨hkey, -⟩ := Record.of_dialog? hd
      have hstep := Step.restore hrestore []
      have hfind := fun key => hlinks.find? key
      obtain ⟨t', ht'⟩ := hrest.table
      refine ⟨⟨t', ht'⟩, fun hsound => hrest.sound (hstep.sound hsound), fun key e he => ?_,
        fun key e he => ?_, Nat.succ_le_succ hrest.count_le, fun hcount => ?_⟩
      · refine hrest.kept key e ?_
        dsimp only
        rw [hfind, if_neg, he]
        rintro rfl
        rw [hlinks.fresh] at he
        cases he
      · rcases hrest.source key e he with he | ⟨other, hother, heq⟩
        · dsimp only at he
          rw [hfind] at he
          split at he
          next heq =>
            cases he
            exact .inr ⟨record, List.mem_cons_self, by rw [heq, hkey], hd⟩
          next => exact .inl he
        · exact .inr ⟨other, List.mem_cons_of_mem _ hother, heq⟩
      · refine List.forall_mem_cons.2 ⟨⟨d, hd, ?_⟩, hrest.complete (Nat.succ_inj.1 hcount)⟩
        refine hrest.kept record.key d ?_
        dsimp only
        rw [hfind, if_pos hkey.symm]

end Node

/-! ## Opening -/

/-- Nothing is done to a registry, but time goes by and observers may be registered. -/
abbrev Registry.Waits (r r' : Registry ε) : Prop := Runs (fun _ _ => False) r r'

/-- What waiting leaves as it is. -/
structure Registry.Waited (r r' : Registry ε) : Prop where
  table : r'.table = r.table
  mailboxes : r'.mailboxes = r.mailboxes
  later : r.Later r'
  sound : r.Sound → r'.Sound

theorem Registry.Waits.waited {r r' : Registry ε} (h : r.Waits r') : r.Waited r' := by
  induction h with
  | idle h =>
    refine ⟨h.table, h.mailboxes, .of_eq h.observers h.nextSerial, fun hsound => ?_⟩
    exact hsound.congr h.table h.observers h.nextSerial
  | enlist r name topics =>
    exact ⟨rfl, rfl, r.later_observe .., fun hsound => hsound.observe ..⟩
  | step h => exact h.elim
  | trans _ _ ih ih' =>
    exact ⟨ih'.table.trans ih.table, ih'.mailboxes.trans ih.mailboxes, ih.later.trans ih'.later,
      fun hsound => ih'.sound (ih.sound hsound)⟩

/-- The topics that a writer subscribes to. -/
def writerTopics : List Topic := [.created, .stateChanged, .destroyed]

namespace Node

/-- A node that has loaded `store` into a new registry, with `count` dialogs of it, and has started
its worker in `mode`. -/
inductive Opened (mode : PersistenceMode) (store : Store) (count : Nat) : Node ε → Prop where
  | intro {config : Config} {start : Timestamp} {hasTimer : Bool} {e : ε} {r₀ r₁ r₂ : Registry ε}
      {env : Environment ε} {loaded n : Node ε} {clock : Nat} {updatePeriod : UInt32}
      (hcreate : Registry.create config start hasTimer e = .ok r₀) (hbefore : r₀.Waits r₁)
      (henv : env.Serves)
      (hload : load { registry := r₁, store } env = (.ok count, loaded))
      (hbetween : loaded.registry.Waits r₂)
      (hstart : Node.start { registry := r₂, store := loaded.store, clock } env
        { mode, updatePeriod } = (.ok (), n)) : Opened mode store count n

/-- What an opened node starts with. -/
structure Ready (mode : PersistenceMode) (store : Store) (count : Nat) (worker : Worker)
    (n : Node ε) : Prop where
  employed : n.worker = some worker
  alive : worker.alive = true
  works : worker.mode = mode
  applied : worker.applied = {}
  stored : n.store = store
  sound : n.registry.Sound
  mailbox : n.registry.mailboxes[worker.mailbox]? = some ⟨[], true⟩
  source : ∀ key d, n.registry.table.find? key = some d →
    ∃ record ∈ store.records, record.key = key ∧ record.dialog? = some d
  complete : count = store.records.length → ∀ record ∈ store.records,
    ∃ d, record.dialog? = some d ∧ n.registry.table.find? record.key = some d
  noWriter : mode.removesOnDestroy = false → n.registry.NoWriter
  writer : mode.removesOnDestroy = true → ∃ w ∈ n.registry.observers,
    w.role = .writer worker.mailbox (mode == .realtime) ∧ w.topics = writerTopics ∧
      w.serial < n.registry.nextSerial ∧ n.registry.OnlyWriter w

/-- A store that answers has all of its records restored, in order. -/
theorem load_eq_ok {env : Environment ε} (henv : env.Serves) {n loaded : Node ε} {count : Nat}
    (h : load n env = (.ok count, loaded)) :
    ∃ r, n.registry.Idle r ∧ restoreAll n.store.records r = (count, loaded.registry) ∧
      loaded.store = n.store := by
  have hidle := callStore_idle henv.steady n (c := .loaded) fun _ _ _ => by simp
  have hdone : (n.callStore env .loaded).1 = .done := henv.stores ..
  have hstore : (n.callStore env .loaded).2.store = n.store := rfl
  unfold load at h
  generalize n.callStore env .loaded = called at h hidle hdone hstore
  obtain ⟨outcome, m⟩ := called
  obtain rfl : outcome = .done := hdone
  dsimp only at hstore
  cases h
  exact ⟨m.registry, hidle, by rw [← hstore], hstore⟩

theorem load_loads {env : Environment ε} (henv : env.Serves) {n loaded : Node ε} {count : Nat}
    (h : load n env = (.ok count, loaded)) :
    ∃ r, n.registry.Idle r ∧ Loads r n.store.records count loaded.registry ∧
      loaded.store = n.store := by
  obtain ⟨r, hidle, hrestored, hstore⟩ := load_eq_ok henv h
  have hloads := restoreAll_loads n.store.records r
  rw [hrestored] at hloads
  exact ⟨r, hidle, hloads, hstore⟩

theorem Opened.ready {mode : PersistenceMode} {store : Store} {count : Nat} {n : Node ε}
    (h : Opened mode store count n) : ∃ worker, Ready mode store count worker n := by
  obtain ⟨hcreate, hbefore, henv, hload, hbetween, hstart⟩ := h
  rename_i config start hasTimer e r₀ r₁ r₂ env loaded clock updatePeriod
  obtain ⟨htable₀, -, hobservers₀, -⟩ := Registry.create_eq_ok hcreate
  have hsound₀ := Registry.create_sound hcreate
  have hwaited := hbefore.waited
  obtain ⟨r, hidle, hloads, hstore⟩ := load_loads henv hload
  have hwaited' := hbetween.waited
  -- what is linked comes from the records
  have htable : r.table = r₀.table := hidle.table.trans hwaited.table
  have hempty : ∀ key, r.table.find? key = none := fun key => by
    rw [htable, Table.find?_create htable₀]
  have hsound : r₂.Sound := hwaited'.sound (hloads.sound
    ((hwaited.sound hsound₀).congr hidle.table hidle.observers hidle.nextSerial))
  -- nobody but clients has been registered
  have hclients : r₂.NoWriter := by
    have hnone : r₀.NoWriter := by
      unfold Registry.NoWriter
      rw [hobservers₀]
      exact List.forall_mem_nil _
    obtain ⟨t, ht⟩ := hloads.table
    have hlater : r.Later loaded.registry := .of_eq (by rw [ht]) (by rw [ht])
    exact ((((hnone.later hwaited.later).later (.of_eq hidle.observers hidle.nextSerial)).later
      hlater)).later hwaited'.later
  have hsource : ∀ key d, r₂.table.find? key = some d →
      ∃ record ∈ store.records, record.key = key ∧ record.dialog? = some d := by
    intro key d hd
    rw [hwaited'.table] at hd
    rcases hloads.source key d hd with hd | hrecord
    · rw [hempty] at hd
      cases hd
    · exact hrecord
  have hcomplete : count = store.records.length → ∀ record ∈ store.records,
      ∃ d, record.dialog? = some d ∧ r₂.table.find? record.key = some d := by
    rw [hwaited'.table]
    exact hloads.complete
  have hmailbox : (r₂.mailboxes.push {})[r₂.mailboxes.size]? = some ⟨[], true⟩ := by simp
  unfold Node.start at hstart
  cases hvalid : PersistenceConfig.validate { mode, updatePeriod } with
  | error e => simp [hvalid] at hstart
  | ok _ =>
    simp only [hvalid, stop] at hstart
    have hsound' : Registry.Sound { r₂ with mailboxes := r₂.mailboxes.push {} } :=
      hsound.congr rfl rfl rfl
    cases hremoves : mode.removesOnDestroy with
    | false =>
      simp only [hremoves, if_neg Bool.false_ne_true] at hstart
      cases hstart
      exact ⟨_, rfl, rfl, rfl, rfl, hstore, hsound', hmailbox, hsource, hcomplete,
        fun _ => hclients, fun hmode => absurd hmode (by simp [hremoves])⟩
    | true =>
      simp only [hremoves] at hstart
      cases hstart
      refine ⟨_, rfl, rfl, rfl, rfl, hstore, hsound'.observe .., hmailbox, hsource, hcomplete,
        fun hmode => absurd hmode (by simp [hremoves]), fun _ =>
          ⟨_, List.mem_append_right _ List.mem_cons_self, rfl, rfl, Nat.lt_succ_self _, ?_⟩⟩
      intro o ho
      rcases List.mem_append.1 ho with ho | ho
      · exact .inl (hclients o ho)
      · exact .inr (List.mem_singleton.1 ho)

/-- A node of one bucket that has loaded a store in quiet surroundings, and writes in this mode. -/
def quietNode (mode : PersistenceMode) (store : Store) : Node Unit :=
  (Node.start (load { registry := .blank, store } .quiet).2 .quiet { mode }).2

theorem quietNode_opened (mode : PersistenceMode) (store : Store) :
    Opened mode store (restoreAll store.records (Registry.blank.record .loaded)).1
      (quietNode mode store) := by
  have hload : load { registry := .blank, store } .quiet
      = (.ok (restoreAll store.records (Registry.blank.record .loaded)).1,
        (load { registry := .blank, store } .quiet).2) := rfl
  have hstart : Node.start (load { registry := .blank, store } .quiet).2 .quiet { mode }
      = (.ok (), quietNode mode store) := by cases mode <;> rfl
  exact .intro Registry.create_blank (.refl _) Environment.quiet_serves hload (.refl _) hstart

/-! ## Working -/

/-- Carries what waits in the mailbox, but no more than `count` writes. -/
def consume (env : Environment ε) (count : Nat) (worker : Worker) (n : Node ε) :
    Worker × Node ε :=
  match n.registry.mailboxes[worker.mailbox]? with
  | some box =>
    let mailboxes := n.registry.mailboxes.modify worker.mailbox
      ({ · with waiting := box.waiting.drop count })
    carryAll env (box.waiting.take count) worker
      { n with registry := { n.registry with mailboxes } }
  | none => (worker, n)

/-- Lets the worker carry what waits for it, but no more than `count` writes. -/
def work (n : Node ε) (env : Environment ε) (count : Nat) : Node ε :=
  match n.worker with
  | none => n
  | some worker =>
    let (worker, n) := whileAlive (consume env count) worker n
    keepWorker worker n

/-- What may become of a node by operations within a conduct while its worker carries whatever it
likes of its mail, and is allowed to settle from time to time. -/
inductive Works (C : Conduct) : Node ε → Node ε → Prop where
  | act {n : Node ε} {r : Registry ε} (h : Registry.RunsIn C n.registry r) :
      Works C n { n with registry := r }
  | work (n : Node ε) {env : Environment ε} (henv : env.Serves) (count : Nat) :
      Works C n (n.work env count)
  | settle (n : Node ε) {env : Environment ε} (henv : env.Serves) (seconds : Nat) :
      Works C n (n.settle env seconds)
  | trans {n n' n'' : Node ε} : Works C n n' → Works C n' n'' → Works C n n''

/-- What happens to the dialogs of a node meanwhile. -/
inductive Passes (C : Conduct) : Node ε → List Moment → Node ε → Prop where
  | act {n : Node ε} {r : Registry ε} {ms : List Moment} (h : Course C [] n.registry ms r) :
      Passes C n ms { n with registry := r }
  | work (n : Node ε) {env : Environment ε} (henv : env.Serves) (count : Nat) :
      Passes C n [] (n.work env count)
  | settle (n : Node ε) {env : Environment ε} (henv : env.Serves) (seconds : Nat) :
      Passes C n [] (n.settle env seconds)
  | trans {n n' n'' : Node ε} {ms ms' : List Moment} :
      Passes C n ms n' → Passes C n' ms' n'' → Passes C n (ms ++ ms') n''

/-- A node whose worker is alive and has this mail before it. -/
structure Employs (worker : Worker) (waiting : List Write) (n : Node ε) : Prop where
  employed : n.worker = some worker
  alive : worker.alive = true
  mailbox : n.registry.mailboxes[worker.mailbox]? = some ⟨waiting, true⟩
  sound : n.registry.Sound

/-- The worker makes no flushes of its own. -/
structure Attended (worker : Worker) (waiting : List Write) (n : Node ε) : Prop
    extends Employs worker waiting n where
  undelayed : worker.mode ≠ .delayed

/-- The node with this mail in the mailbox. -/
def withWaiting (n : Node ε) (mailbox : Nat) (waiting : List Write) : Node ε :=
  { n with registry := { n.registry with
      mailboxes := n.registry.mailboxes.modify mailbox ({ · with waiting }) } }

variable {worker : Worker} {waiting : List Write} {n : Node ε}

theorem Employs.consume_eq (h : Employs worker waiting n) (count : Nat) :
    consume env count worker n
      = carryAll env (waiting.take count) worker
          (n.withWaiting worker.mailbox (waiting.drop count)) := by
  unfold consume
  rw [h.mailbox]
  rfl

theorem Employs.drain_eq (h : Employs worker waiting n) :
    drain env worker n = consume env waiting.length worker n := by
  rw [h.consume_eq, List.take_length, List.drop_length]
  unfold drain
  rw [h.mailbox]
  rfl

/-- The worker and its node after some of the mail has been carried. -/
theorem Employs.consume (h : Employs worker waiting n) (henv : env.Steady) (count : Nat) :
    Carried worker (n.withWaiting worker.mailbox (waiting.drop count))
      (consume env count worker n).1 (consume env count worker n).2 := by
  rw [h.consume_eq]
  exact carryAll_carried henv _ h.alive

theorem Employs.work_eq (h : Employs worker waiting n) (henv : env.Steady) (count : Nat) :
    n.work env count = { (Node.consume env count worker n).2 with
      worker := some (Node.consume env count worker n).1 } := by
  have halive := (h.consume henv count).alive h.alive
  unfold work
  rw [h.employed]
  simp only [whileAlive, h.alive, if_true, keepWorker, halive]

theorem Attended.settle_eq (h : Attended worker waiting n) (henv : env.Steady) (seconds : Nat) :
    n.settle env seconds = { n.work env waiting.length with
      clock := (n.work env waiting.length).clock + seconds } := by
  have hcarried := h.consume henv waiting.length
  have halive := hcarried.alive h.alive
  have hmode := h.undelayed
  rw [← hcarried.mode] at hmode
  rw [h.work_eq henv]
  unfold settle
  rw [h.employed]
  simp only [whileAlive, h.alive, if_true, h.drain_eq, keepWorker, halive, flushDue, hmode,
    false_and, if_false]

theorem Employs.work (h : Employs worker waiting n) (henv : env.Steady) (count : Nat) :
    Employs (Node.consume env count worker n).1 (waiting.drop count) (n.work env count) := by
  have hcarried := h.consume henv count
  have hidle := hcarried.idle
  rw [h.work_eq henv]
  refine ⟨rfl, hcarried.alive h.alive, ?_, ?_⟩
  · rw [hcarried.mailbox]
    dsimp only
    rw [hidle.mailboxes, withWaiting, Array.getElem?_modify, if_pos rfl, h.mailbox]
    rfl
  · exact h.sound.congr hidle.table hidle.observers hidle.nextSerial

theorem Attended.work (h : Attended worker waiting n) (henv : env.Steady) (count : Nat) :
    Attended (Node.consume env count worker n).1 (waiting.drop count) (n.work env count) := by
  refine ⟨h.toEmploys.work henv count, ?_⟩
  rw [(h.consume henv count).mode]
  exact h.undelayed

theorem Attended.settle (h : Attended worker waiting n) (henv : env.Steady) (seconds : Nat) :
    Attended (Node.consume env waiting.length worker n).1 [] (n.settle env seconds) := by
  have hworked := h.work henv waiting.length
  rw [List.drop_length] at hworked
  rw [h.settle_eq henv]
  exact ⟨⟨hworked.employed, hworked.alive, hworked.mailbox, hworked.sound⟩, hworked.undelayed⟩

/-- What the worker writes before it is stopped: what waits for it, and its last flush. -/
theorem Employs.stop_eq (h : Employs worker waiting n) (henv : env.Steady) :
    n.stop env =
      let flushed := lastFlush env (Node.drain env worker n).1 (Node.drain env worker n).2
      (if flushed.1.alive then .ok () else .error (.persistence "persistence worker failed"),
        { flushed.2.closeMailbox flushed.1.mailbox with worker := none }) := by
  have halive := (h.consume henv waiting.length).alive h.alive
  rw [← h.drain_eq] at halive
  unfold stop
  rw [h.employed]
  simp only [whileAlive, h.alive, if_true, halive]

theorem Employs.drain (h : Employs worker waiting n) (henv : env.Steady) :
    Carried worker (n.withWaiting worker.mailbox []) (Node.drain env worker n).1
      (Node.drain env worker n).2 := by
  have hcarried := h.consume henv waiting.length
  rw [List.drop_length] at hcarried
  rw [h.drain_eq]
  exact hcarried

end Node

/-- An open mailbox stays open. -/
theorem Step.mailbox_open {c c' : Scene ε} {m : Moment} (h : Step c m c') {mailbox : Nat}
    {ws : List Write} (hbox : c.registry.mailboxes[mailbox]? = some ⟨ws, true⟩) :
    ∃ ws', c'.registry.mailboxes[mailbox]? = some ⟨ws', true⟩ := by
  rw [h.mailboxes]
  cases m with
  | heard o s n =>
    unfold Moment.posts
    dsimp only
    split
    · exact ⟨ws, hbox⟩
    · split
      next w hw =>
        rw [Array.getElem?_modify, hbox]
        split
        · exact ⟨ws ++ [w], rfl⟩
        · exact ⟨ws, rfl⟩
      next => exact ⟨ws, hbox⟩
  | _ => exact ⟨ws, hbox⟩

theorem Path.mailbox_open {c c' : Scene ε} {ms : List Moment} (h : Path c ms c') {mailbox : Nat}
    {ws : List Write} (hbox : c.registry.mailboxes[mailbox]? = some ⟨ws, true⟩) :
    ∃ ws', c'.registry.mailboxes[mailbox]? = some ⟨ws', true⟩ := by
  induction h generalizing ws with
  | nil => exact ⟨ws, hbox⟩
  | cons hstep _ ih =>
    obtain ⟨ws', hbox'⟩ := hstep.mailbox_open hbox
    exact ih hbox'

namespace Node

variable {env : Environment ε} {worker : Worker} {waiting : List Write} {n n' : Node ε}
  {C : Conduct}

theorem Employs.act (h : Employs worker waiting n) {ms : List Moment} {r : Registry ε}
    (hms : Course C [] n.registry ms r) :
    ∃ waiting', Employs worker waiting' { n with registry := r } := by
  obtain ⟨waiting', hbox⟩ := hms.path.mailbox_open h.mailbox
  exact ⟨waiting', h.employed, h.alive, hbox, hms.sound h.sound⟩

theorem Attended.act (h : Attended worker waiting n) {ms : List Moment} {r : Registry ε}
    (hms : Course C [] n.registry ms r) :
    ∃ waiting', Attended worker waiting' { n with registry := r } := by
  obtain ⟨waiting', hemployed⟩ := h.toEmploys.act hms
  exact ⟨waiting', hemployed, h.undelayed⟩

/-- However a node works, something happens to its dialogs, and its worker stays in attendance. -/
theorem Works.passes (h : Works C n n') (hattended : Attended worker waiting n) :
    ∃ ms, Passes C n ms n' := by
  suffices hpasses : ∃ ms worker' waiting', Passes C n ms n' ∧ Attended worker' waiting' n' by
    obtain ⟨ms, -, -, hms, -⟩ := hpasses
    exact ⟨ms, hms⟩
  induction h generalizing worker waiting with
  | @act n r hruns =>
    have hcourse : ∃ ms, Course C [] n.registry ms r := hruns.course hattended.sound
    obtain ⟨ms, hms⟩ := hcourse
    obtain ⟨waiting', hattended'⟩ := hattended.act hms
    exact ⟨ms, worker, waiting', .act hms, hattended'⟩
  | work n henv count => exact ⟨[], _, _, .work n henv count, hattended.work henv.steady count⟩
  | settle n henv seconds =>
    exact ⟨[], _, _, .settle n henv seconds, hattended.settle henv.steady seconds⟩
  | trans _ _ ih ih' =>
    obtain ⟨ms, worker', waiting', hms, hattended'⟩ := ih hattended
    obtain ⟨ms', worker'', waiting'', hms', hattended''⟩ := ih' hattended'
    exact ⟨ms ++ ms', worker'', waiting'', hms.trans hms', hattended''⟩

/-! ## Invariants of nodes at work -/

/-- What stays true of a node, of its worker and of the mail before it, given what has happened so
far: operations keep it so, and so does every write that is carried. It speaks of the dialogs, the
observers and the store only. -/
structure Invariant (C : Conduct) (I : List Moment → List Write → Worker → Node ε → Prop) :
    Prop where
  act : ∀ {ms waiting worker n ms' r waiting'}, I ms waiting worker n →
    Attended worker waiting n → Course C [] n.registry ms' r →
    r.mailboxes[worker.mailbox]? = some ⟨waiting', true⟩ →
    I (ms ++ ms') waiting' worker { n with registry := r }
  carry : ∀ {env : Environment ε} {ms w waiting worker n}, env.Serves →
    I ms (w :: waiting) worker n →
    I ms waiting (Node.carry env w worker n).1 (Node.carry env w worker n).2
  aside : ∀ {ms waiting worker n n'}, I ms waiting worker n → n'.store = n.store →
    n'.registry.table = n.registry.table → n'.registry.observers = n.registry.observers →
    n'.registry.nextSerial = n.registry.nextSerial → I ms waiting worker n'

namespace Invariant

variable {I : List Moment → List Write → Worker → Node ε → Prop} {ms ms' : List Moment}

theorem consume (h : Invariant C I) (henv : env.Serves) (hattended : Attended worker waiting n)
    (hI : I ms waiting worker n) (count : Nat) :
    I ms (waiting.drop count) (Node.consume env count worker n).1
      (Node.consume env count worker n).2 := by
  rw [hattended.consume_eq]
  refine carryAll_induction henv.steady
    (P := fun ws worker n => I ms (ws ++ waiting.drop count) worker n)
    (fun w ws worker n hw => h.carry henv hw) hattended.alive ?_
  rw [List.take_append_drop]
  exact h.aside hI rfl rfl rfl rfl

theorem drain (h : Invariant C I) (henv : env.Serves) (hattended : Attended worker waiting n)
    (hI : I ms waiting worker n) :
    I ms [] (Node.drain env worker n).1 (Node.drain env worker n).2 := by
  have hconsumed := h.consume henv hattended hI waiting.length
  rw [List.drop_length] at hconsumed
  rw [hattended.drain_eq]
  exact hconsumed

theorem work (h : Invariant C I) (henv : env.Serves) (hattended : Attended worker waiting n)
    (hI : I ms waiting worker n) (count : Nat) :
    I ms (waiting.drop count) (Node.consume env count worker n).1 (n.work env count) := by
  rw [hattended.work_eq henv.steady]
  exact h.aside (h.consume henv hattended hI count) rfl rfl rfl rfl

theorem passes (h : Invariant C I) (hpasses : Passes C n ms' n')
    (hattended : Attended worker waiting n) (hI : I ms waiting worker n) :
    ∃ worker' waiting', Attended worker' waiting' n' ∧ I (ms ++ ms') waiting' worker' n' := by
  induction hpasses generalizing worker waiting ms with
  | act hms =>
    obtain ⟨waiting', hbox⟩ := hms.path.mailbox_open hattended.mailbox
    exact ⟨worker, waiting', ⟨⟨hattended.employed, hattended.alive, hbox,
      hms.sound hattended.sound⟩, hattended.undelayed⟩, h.act hI hattended hms hbox⟩
  | work n henv count =>
    rw [List.append_nil]
    exact ⟨_, _, hattended.work henv.steady count, h.work henv hattended hI count⟩
  | settle n henv seconds =>
    have hworked := h.work henv hattended hI waiting.length
    rw [List.drop_length] at hworked
    rw [List.append_nil]
    refine ⟨_, _, hattended.settle henv.steady seconds, ?_⟩
    rw [hattended.settle_eq henv.steady]
    exact h.aside hworked rfl rfl rfl rfl
  | trans _ _ ih ih' =>
    obtain ⟨worker', waiting', hattended', hI'⟩ := ih hattended hI
    rw [← List.append_assoc]
    exact ih' hattended' hI'

end Invariant

/-! ## What an opened node is like -/

theorem Ready.employs {mode : PersistenceMode} {store : Store} {count : Nat}
    (h : Ready mode store count worker n) : Employs worker [] n :=
  ⟨h.employed, h.alive, h.mailbox, h.sound⟩

theorem Ready.attended {mode : PersistenceMode} {store : Store} {count : Nat}
    (h : Ready mode store count worker n) (hmode : mode ≠ .delayed) : Attended worker [] n :=
  ⟨h.employs, by rw [h.works]; exact hmode⟩

/-- Whatever is linked was read from a record. -/
theorem Ready.get? {mode : PersistenceMode} {store : Store} {count : Nat}
    (h : Ready mode store count worker n) {key : Key} {d : Dialog}
    (hd : n.registry.table.find? key = some d) :
    ∃ record ∈ store.records, store.get? key = some record := by
  obtain ⟨record, hrecord, hkey, -⟩ := h.source key d hd
  have hsome : (store.get? key).isSome = true := by
    unfold Store.get?
    rw [List.find?_isSome]
    exact ⟨record, hrecord, by simp [hkey]⟩
  obtain ⟨first, hfirst⟩ := Option.isSome_iff_exists.1 hsome
  exact ⟨first, List.mem_of_find?_eq_some hfirst, hfirst⟩

/-- A table with the dialogs that a store describes, one for each record. -/
structure Restores (store : Store) (t : Table) : Prop where
  linked : ∀ key d, t.find? key = some d →
    ∃ record, store.get? key = some record ∧ record.dialog? = some d
  stored : ∀ key record, store.get? key = some record → ∃ d, t.find? key = some d

/-- When every record was linked, the table has the dialogs that the store describes. -/
theorem Ready.restores {mode : PersistenceMode} {store : Store}
    (h : Ready mode store store.records.length worker n) :
    Restores store n.registry.table := by
  have hstored : ∀ key record, store.get? key = some record →
      ∃ d, record.dialog? = some d ∧ n.registry.table.find? key = some d := by
    intro key record hget
    obtain ⟨d, hd, hfind⟩ := h.complete rfl record (List.mem_of_find?_eq_some hget)
    have hkey : record.key = key := by simpa using List.find?_some hget
    exact ⟨d, hd, hkey ▸ hfind⟩
  constructor
  · intro key d hd
    obtain ⟨record, -, hget⟩ := h.get? hd
    obtain ⟨e, he, hfind⟩ := hstored key record hget
    rw [hd] at hfind
    cases hfind
    exact ⟨record, hget, he⟩
  · intro key record hget
    obtain ⟨d, -, hfind⟩ := hstored key record hget
    exact ⟨d, hfind⟩

end Node

end SipDialogs
