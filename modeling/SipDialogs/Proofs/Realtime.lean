-- SUMMARY: In realtime mode the store follows the live dialogs, however far the worker lags behind.
import SipDialogs.Proofs.Service

/-! # Stores that follow the dialogs

In realtime mode every creation, change of phase and destruction asks for a write, and the worker
carries the writes when it gets to them. By then the registry has moved on. What is told of one
dialog has a simple shape: changes with ascending versions while it is linked, then its end. It
follows that, once all writes have been carried, the store holds what was last told of each live
dialog, and nothing else. An observer that calls back can make the writer hear of an end before it
hears of the change that led to it. The store is right all the same, but the worker remembers a
dialog that is gone. -/

namespace SipDialogs

/-! ## What is told of one dialog -/

/-- All there is to tell of these moments. -/
def tidings (ms : List Moment) : List News := ms.filterMap (·.news?)

/-- The part of it that is about one dialog. -/
def about (key : Key) (news : List News) : List News := news.filter (·.1.key = key)

theorem tidings_append (ms ms' : List Moment) :
    tidings (ms ++ ms') = tidings ms ++ tidings ms' := List.filterMap_append

theorem tidings_cons (m : Moment) (ms : List Moment) :
    tidings (m :: ms) = m.news?.toList ++ tidings ms := by
  unfold tidings
  rw [List.filterMap_cons]
  cases m.news? <;> rfl

theorem about_append (key : Key) (news news' : List News) :
    about key (news ++ news') = about key news ++ about key news' := List.filter_append ..

theorem mem_about {key : Key} {news : List News} {x : News} :
    x ∈ about key news ↔ x ∈ news ∧ x.1.key = key := by simp [about]

/-- The news of one moment are about the dialog that it is about. -/
theorem about_news_of_ne {m : Moment} {key : Key} (h : m.key? ≠ some key) :
    about key m.news?.toList = [] := by
  refine List.filter_eq_nil_iff.2 fun x hx => ?_
  have hnews := Moment.key_of_news? (Option.mem_toList.1 hx)
  simp only [decide_eq_true_eq]
  rintro rfl
  exact h hnews

theorem about_news_of_key {m : Moment} {key : Key} (h : m.key? = some key) :
    about key m.news?.toList = m.news?.toList := by
  refine List.filter_eq_self.2 fun x hx => ?_
  have hnews := Moment.key_of_news? (Option.mem_toList.1 hx)
  rw [h] at hnews
  simpa using (Option.some.inj hnews).symm

/-- The dialog of these news is new, or was moved to the phase in which it is shown. -/
def IsLive (x : News) : Prop :=
  (x.2 = .created ∧ x.1.phase ≠ .deleted) ∨ ∃ old event, x.2 = .stateChanged old x.1.phase event

theorem not_isLive_destroyed (s : Snapshot) : ¬IsLive (s, .destroyed) := by
  rintro (⟨h, -⟩ | ⟨_, _, h⟩) <;> cases h

/-- What is kept of a dialog that was last shown like this. -/
def Snapshot.record? (s : Snapshot) : Option Record :=
  if s.phase = .deleted then none else some (Record.ofSnapshot s)

/-- A realtime writer asks for what is to be kept, with the version that was shown. -/
theorem IsLive.write {x : News} (h : IsLive x) :
    ∃ w, Write.ofNotice? true x.1 x.2 = some w ∧ w.version = x.1.version ∧ w.isFinal = false ∧
      w.effect = x.1.record? := by
  obtain ⟨s, n⟩ := x
  rcases h with ⟨hn, hphase⟩ | ⟨old, event, hn⟩
  · dsimp only at hn hphase
    subst hn
    refine ⟨Write.ofSnapshot s, rfl, rfl, rfl, ?_⟩
    rw [Snapshot.record?, if_neg hphase]
    rfl
  · dsimp only at hn
    subst hn
    by_cases hphase : s.phase = .deleted
    · refine ⟨.remove s.key s.version false, ?_, rfl, rfl, ?_⟩
      · simp [Write.ofNotice?, Phase.isDeleted, hphase]
      · rw [Snapshot.record?, if_pos hphase]
        rfl
    · refine ⟨Write.ofSnapshot s, ?_, rfl, rfl, ?_⟩
      · simp [Write.ofNotice?, Phase.isDeleted, hphase]
      · rw [Snapshot.record?, if_neg hphase]
        rfl

/-- How the news of one dialog go on, seen beside what is linked by now. The dialog stood in the
table as `before` when they began. -/
inductive Tale (key : Key) (before : Option Dialog) (t : Table) : List News → Prop where
  | unheard (hbefore : before = none) (hfind : t.find? key = none) : Tale key before t []
  | linked {news : List News} {d : Dialog} (hfind : t.find? key = some d)
      (hlive : ∀ x ∈ news, IsLive x)
      (hrising : news.Pairwise fun x y => x.1.version < y.1.version)
      (hversion : ∀ x ∈ news, x.1.version ≤ d.version)
      (hphase : (news.getLast?.map (·.1.phase)).or (before.map (·.phase)) = some d.phase) :
      Tale key before t news
  | ended {news : List News} {s : Snapshot} (hlive : ∀ x ∈ news, IsLive x)
      (hfind : t.find? key = none) (hspent : t.Spent key) :
      Tale key before t (news ++ [(s, .destroyed)])

namespace Tale

variable {key : Key} {before : Option Dialog} {t t' : Table} {news : List News}

theorem start (key : Key) (t : Table) : Tale key (t.find? key) t [] := by
  cases hfind : t.find? key with
  | none => exact .unheard rfl hfind
  | some d =>
    exact .linked hfind (List.forall_mem_nil _) .nil (List.forall_mem_nil _) rfl

/-- Nothing happens to the dialog. -/
theorem congr (h : Tale key before t news) (hfind : t'.find? key = t.find? key)
    (hspent : t.Spent key → t'.Spent key) : Tale key before t' news := by
  cases h with
  | unheard hbefore hnone => exact .unheard hbefore (hfind.trans hnone)
  | linked hd hlive hrising hversion hphase =>
    exact .linked (hfind.trans hd) hlive hrising hversion hphase
  | ended hlive hnone hgone => exact .ended hlive (hfind.trans hnone) (hspent hgone)

/-- What is told of a linked dialog, and what it is like. -/
theorem of_find? (h : Tale key before t news) {d : Dialog} (hd : t.find? key = some d) :
    (∀ x ∈ news, IsLive x) ∧ (news.Pairwise fun x y => x.1.version < y.1.version) ∧
      (∀ x ∈ news, x.1.version ≤ d.version) ∧
      (news.getLast?.map (·.1.phase)).or (before.map (·.phase)) = some d.phase := by
  cases h with
  | unheard _ hnone =>
    rw [hnone] at hd
    cases hd
  | linked hfind hlive hrising hversion hphase =>
    rw [hfind] at hd
    cases hd
    exact ⟨hlive, hrising, hversion, hphase⟩
  | ended _ hnone _ =>
    rw [hnone] at hd
    cases hd

/-- A change that is not told keeps the phase, and may raise the version. -/
theorem revised (h : Tale key before t news) {d e : Dialog} (hd : t.find? key = some d)
    (he : t'.find? key = some e) (hphase : e.phase = d.phase) (hversion : d.version ≤ e.version) :
    Tale key before t' news := by
  obtain ⟨hlive, hrising, hle, hlast⟩ := h.of_find? hd
  refine .linked he hlive hrising (fun x hx => Nat.le_trans (hle x hx) hversion) ?_
  rw [hphase]
  exact hlast

/-- A change that is told raises the version. -/
theorem moved (h : Tale key before t news) {d e : Dialog} (hd : t.find? key = some d)
    (he : t'.find? key = some e) (hversion : d.version < e.version) {x : News} (hx : IsLive x)
    (hxphase : x.1.phase = e.phase) (hxversion : x.1.version = e.version) :
    Tale key before t' (news ++ [x]) := by
  obtain ⟨hlive, hrising, hle, -⟩ := h.of_find? hd
  refine .linked he ?_ ?_ ?_ ?_
  · exact List.forall_mem_append.2 ⟨hlive, by simpa using hx⟩
  · refine List.pairwise_append.2 ⟨hrising, List.pairwise_singleton _ _, fun y hy z hz => ?_⟩
    rw [List.mem_singleton.1 hz, hxversion]
    exact Nat.lt_of_le_of_lt (hle y hy) hversion
  · refine List.forall_mem_append.2 ⟨fun y hy => ?_, by simp [hxversion]⟩
    exact Nat.le_of_lt (Nat.lt_of_le_of_lt (hle y hy) hversion)
  · simp [hxphase]

/-- A new dialog is told of with its first version. -/
theorem inserted {d : Dialog} (h : Tale d.key before t news) (hfresh : t.find? d.key = none)
    (hnew : ¬t.Spent d.key) (hafter : t'.find? d.key = some d) (hphase : d.phase = .unconfirmed) :
    Tale d.key before t' (news ++ about d.key (Moment.inserted d).news?.toList) := by
  have hmine : about d.key (Moment.inserted d).news?.toList = [(d.snapshot, .created)] :=
    about_news_of_key rfl
  rw [hmine]
  cases h with
  | unheard =>
    refine .linked hafter ?_ (List.pairwise_singleton _ _) ?_ rfl
    · simp [IsLive, Dialog.snapshot, hphase]
    · simp [Dialog.snapshot]
  | linked hd =>
    rw [hfresh] at hd
    cases hd
  | ended _ _ hgone => exact absurd hgone hnew

/-- An event that leads to another phase is told. -/
theorem announced {d : Dialog} {event : Event} {m : Transition} (h : Tale d.key before t news)
    (hd : t.find? d.key = some d) (hafter : t'.find? d.key = some (d.move m)) :
    Tale d.key before t' (news ++ about d.key (Moment.moved d event m false).news?.toList) := by
  obtain ⟨hkey, -, -, hphase, -, hversion, -⟩ := d.move_retains m
  by_cases hsame : d.phase = m.phase
  · have hmine : about d.key (Moment.moved d event m false).news?.toList = [] := by
      simp [about, Moment.news?, hsame]
    rw [hmine, List.append_nil]
    refine h.revised hd hafter (hphase.trans hsame.symm) ?_
    rw [hversion]
    exact Nat.le_add_right _ _
  · have hmine : about d.key (Moment.moved d event m false).news?.toList
        = [((d.move m).snapshot, .stateChanged d.phase m.phase event)] := by
      simp [about, Moment.news?, hsame, Dialog.snapshot, hkey]
    rw [hmine]
    refine h.moved hd hafter ?_ (.inr ⟨d.phase, event, ?_⟩) rfl rfl
    · rw [hversion, if_neg hsame]
      exact Nat.lt_succ_self _
    · simp [Dialog.snapshot, hphase]

/-- A dialog that is unlinked is told of for the last time. -/
theorem released {d : Dialog} {count : Nat} (h : Tale d.key before t news)
    (hd : t.find? d.key = some d) (hspent : t'.Spent d.key)
    (hafter : t'.find? d.key = (Moment.released d count).after?) :
    Tale d.key before t' (news ++ about d.key (Moment.released d count).news?.toList) := by
  by_cases hle : d.refs ≤ count
  · rw [Moment.after?, if_pos hle] at hafter
    have hmine : about d.key (Moment.released d count).news?.toList
        = [(d.lastSnapshot, .destroyed)] := by
      simp [about, Moment.news?, hle]
    rw [hmine]
    exact .ended (h.of_find? hd).1 hafter hspent
  · rw [Moment.after?, if_neg hle] at hafter
    have hmine : about d.key (Moment.released d count).news?.toList = [] := by
      simp [about, Moment.news?, hle]
    rw [hmine, List.append_nil]
    exact h.revised hd hafter rfl (Nat.le_refl _)

/-- Every moment goes on with the tale. -/
theorem step {c c' : Scene ε} {m : Moment} (h : Tale key before c.registry.table news)
    (hstep : Step c m c') (hsound : c.registry.Sound) (hrestored : ∀ d, m ≠ .restored d)
    (hsilent : ∀ d event move, m ≠ .moved d event move true) :
    Tale key before c'.registry.table (news ++ about key m.news?.toList) := by
  have hspent : c.registry.table.Spent key → c'.registry.table.Spent key := hstep.spent
  by_cases hkey : m.key? = some key
  · have hafter := hstep.find?_of_key hkey
    cases m with
    | inserted d =>
      obtain rfl : d.key = key := Option.some.inj hkey
      obtain ⟨hfresh, -, hnew, -⟩ := hstep.of_linked rfl
      have hphase : d.phase = .unconfirmed := by
        cases hstep with
        | insert hinsert =>
          rw [(Table.insert_links hinsert).2]
          rfl
      exact h.inserted hfresh (hnew rfl) hafter hphase
    | restored d => exact absurd rfl (hrestored d)
    | handed d =>
      obtain rfl : d.key = key := Option.some.inj hkey
      rw [show about d.key (Moment.handed d).news?.toList = [] from rfl, List.append_nil]
      exact h.revised (hstep.found rfl) hafter rfl (Nat.le_refl _)
    | revised d e =>
      obtain rfl : d.key = key := Option.some.inj hkey
      have hsame : e.phase = d.phase ∧ d.version ≤ e.version := by
        cases hstep with
        | revise _ he => exact ⟨he.retains.phase, he.retains.version⟩
        | attend _ _ _ => exact ⟨rfl, Nat.le_refl _⟩
      rw [show about d.key (Moment.revised d e).news?.toList = [] from rfl, List.append_nil]
      exact h.revised (hstep.found rfl) hafter hsame.1 hsame.2
    | moved d event move silently =>
      obtain rfl : d.key = key := Option.some.inj hkey
      cases silently with
      | false => exact h.announced (hstep.found rfl) hafter
      | true => exact absurd rfl (hsilent d event move)
    | released d count =>
      obtain rfl : d.key = key := Option.some.inj hkey
      have hd := hstep.found rfl
      exact h.released hd (hspent (hsound.spent hd)) hafter
    | aside | heard | buried => cases hkey
  · rw [about_news_of_ne hkey, List.append_nil]
    exact h.congr (hstep.find?_of_ne hkey) hspent

theorem path {c c' : Scene ε} {ms : List Moment} (hpath : Path c ms c')
    (h : Tale key before c.registry.table news) (hsound : c.registry.Sound)
    (hrestored : ∀ d, .restored d ∉ ms) (hsilent : ∀ d event move, .moved d event move true ∉ ms) :
    Tale key before c'.registry.table (news ++ about key (tidings ms)) := by
  induction hpath generalizing news with
  | nil =>
    rw [show about key (tidings []) = [] from rfl, List.append_nil]
    exact h
  | cons hstep _ ih =>
    have hfirst := h.step hstep hsound
      (fun d hm => hrestored d (by rw [hm]; exact List.mem_cons_self))
      (fun d event move hm => hsilent d event move (by rw [hm]; exact List.mem_cons_self))
    have hrest := ih hfirst (hstep.sound hsound)
      (fun d hd => hrestored d (List.mem_cons_of_mem _ hd))
      (fun d event move hd => hsilent d event move (List.mem_cons_of_mem _ hd))
    rw [tidings_cons, about_append, ← List.append_assoc]
    exact hrest

/-- So does every course that restores nothing and moves nothing silently. -/
theorem course {C : Conduct} (hrestores : C.restores = false) (hsilences : C.silences = false)
    {r r' : Registry ε} {limbo : List Dialog} {ms : List Moment} (hms : Course C limbo r ms r')
    (h : Tale key before r.table news) (hsound : r.Sound) :
    Tale key before r'.table (news ++ about key (tidings ms)) := by
  refine h.path hms.path hsound (fun d hd => ?_) fun d event move hd => ?_
  · rw [(hms.fits _ hd).restores] at hrestores
    cases hrestores
  · rw [(hms.fits _ hd).silences] at hsilences
    cases hsilences

/-- When a dialog is no longer linked, it has been told that it is gone. -/
theorem destroyed_mem {more : List News} (h : Tale key before t news)
    (h' : Tale key before t' (news ++ more)) (hlinked : t.isLinked key = true)
    (hunlinked : t'.isLinked key = false) : ∃ s, (s, Notice.destroyed) ∈ more := by
  obtain ⟨d, hd⟩ := Option.isSome_iff_exists.1 hlinked
  obtain ⟨hlive, -, -, hphase⟩ := h.of_find? hd
  generalize hall : news ++ more = all at h'
  cases h' with
  | unheard hbefore _ =>
    rw [(List.append_eq_nil_iff.1 hall).1, hbefore] at hphase
    cases hphase
  | linked hd' => simp [Table.isLinked, hd'] at hunlinked
  | @ended told s =>
    have hmem : (s, Notice.destroyed) ∈ news ++ more := by
      rw [hall]
      exact List.mem_append_right _ List.mem_cons_self
    rcases List.mem_append.1 hmem with hold | hnew
    · exact absurd (hlive _ hold) (not_isLive_destroyed s)
    · exact ⟨s, hnew⟩

/-- When a dialog is newly linked, nothing had been told of it. -/
theorem unheard_of_linked {more : List News} (h : Tale key before t news)
    (h' : Tale key before t' (news ++ more)) (hunlinked : t.isLinked key = false)
    (hlinked : t'.isLinked key = true) : news = [] := by
  obtain ⟨d, hd⟩ := Option.isSome_iff_exists.1 hlinked
  have hlive := (h'.of_find? hd).1
  cases h with
  | unheard => rfl
  | linked hd' => simp [Table.isLinked, hd'] at hunlinked
  | @ended told s => exact absurd (hlive (s, .destroyed) (by simp)) (not_isLive_destroyed s)

/-- What there is to tell last of a dialog that is not linked is that it is gone. -/
theorem last_destroyed (h : Tale key before t news) (hunlinked : t.isLinked key = false) {x : News}
    (hx : news.getLast? = some x) : x.2 = .destroyed := by
  cases h with
  | unheard => cases hx
  | linked hd => simp [Table.isLinked, hd] at hunlinked
  | @ended told s =>
    rw [List.getLast?_concat] at hx
    rw [← Option.some.inj hx]

end Tale

/-! ## What the writer is left -/

theorem Moment.topic_of_news? {m : Moment} {x : News} (h : m.news? = some x) :
    x.2.topic ∈ writerTopics := by
  cases tells_of_news? h <;> simp [Notice.topic, writerTopics]

/-- A writer in realtime mode subscribes to all there is to tell. -/
theorem Observer.owed_writer {w : Observer} (hw : w.topics = writerTopics) (ms : List Moment) :
    w.owed true ms = tidings ms := by
  refine List.filterMap_congr fun m _ => ?_
  unfold Moment.newsFor?
  cases hnews : m.news? with
  | none => rfl
  | some x =>
    have hwants : w.wants [x.2.topic] = true := by
      simp [Observer.wants, hw, Moment.topic_of_news? hnews]
    rw [Option.filter_some, hwants]
    rfl

/-- The writes of one dialog are those of what was told of it. -/
theorem filter_queued (key : Key) (heard : List News) :
    (queued heard).filter (·.key = key) = queued (about key heard) := by
  induction heard with
  | nil => rfl
  | cons x heard ih =>
    have hcons : ∀ rest : List News, queued (x :: rest) = queued [x] ++ queued rest := fun rest =>
      queued_append [x] rest
    have habout : about key (x :: heard) = about key [x] ++ about key heard :=
      about_append key [x] heard
    rw [hcons, List.filter_append, ih, habout, queued_append]
    congr 1
    cases hasked : Write.ofNotice? true x.1 x.2 with
    | none => by_cases hkey : x.1.key = key <;> simp [queued, about, hasked, hkey]
    | some q =>
      have hq := Write.key_of_ofNotice? hasked
      by_cases hkey : x.1.key = key <;> simp [queued, about, hasked, hkey, hq]

/-- The writes of what was told of a linked dialog are not final. -/
theorem Tale.not_final {key : Key} {before : Option Dialog} {t : Table} {news heard : List News}
    (h : Tale key before t (about key news)) (hheard : heard.Perm news)
    (hlinked : t.isLinked key = true) {w : Write} (hw : w ∈ queued heard) (hkey : w.key = key) :
    w.isFinal = false := by
  obtain ⟨x, hx, hasked⟩ := List.mem_filterMap.1 hw
  obtain ⟨d, hd⟩ := Option.isSome_iff_exists.1 hlinked
  have hmine : x ∈ about key news :=
    mem_about.2 ⟨hheard.mem_iff.1 hx, by rw [← hkey, Write.key_of_ofNotice? hasked]⟩
  obtain ⟨q, hq, -, hfinal, -⟩ := ((h.of_find? hd).1 x hmine).write
  rw [hq] at hasked
  cases hasked
  exact hfinal

/-- If the last write that is asked for is not a final removal, neither were the last news that a
dialog is gone. -/
theorem last_ne_destroyed {news : List News} {earlier : List Write} {q : Write}
    (hq : queued news = earlier ++ [q]) (hfinal : q.isFinal = false) :
    ∃ x, news.getLast? = some x ∧ x.2 ≠ .destroyed := by
  rcases List.eq_nil_or_concat news with rfl | ⟨told, ⟨s, n⟩, rfl⟩
  · simp [queued] at hq
  rw [List.concat_eq_append] at hq ⊢
  refine ⟨(s, n), List.getLast?_concat .., fun hn => ?_⟩
  obtain rfl : n = .destroyed := hn
  rw [queued_append] at hq
  have hlast : [Write.remove s.key s.version true] = [q] :=
    (List.append_inj' hq (by simp [queued, Write.ofNotice?])).2
  rw [← List.singleton_injective hlast] at hfinal
  cases hfinal

/-- When it has been told that a dialog is gone, its final removal is among the writes. -/
theorem final_mem_queued {heard : List News} {s : Snapshot} (h : (s, .destroyed) ∈ heard) :
    ∃ w ∈ queued heard, w.key = s.key ∧ w.isFinal = true :=
  ⟨.remove s.key s.version true, List.mem_filterMap.2 ⟨_, h, rfl⟩, rfl, rfl⟩

namespace Node

/-- The invariant of a node in realtime mode. `w` is the writer, and the node began with the store
`before` and the table `first`. -/
structure Follows (C : Conduct) (before : Store) (first : Table) (w : Observer) (ms : List Moment)
    (waiting : List Write) (worker : Worker) (n : Node ε) : Prop where
  realtime : worker.mode = .realtime
  role : w.role = .writer worker.mailbox true
  topics : w.topics = writerTopics
  registered : w ∈ n.registry.observers ∧ w.serial < n.registry.nextSerial
  only : n.registry.OnlyWriter w
  tale : ∀ key, Tale key (first.find? key) n.registry.table (about key (tidings ms))
  told : (w.heard ms).Perm (tidings ms)
  inOrder : C.callsBack = false → ∀ key, about key (w.heard ms) = about key (tidings ms)
  /-- What was asked for has been carried, or is still waiting. -/
  copied : ∃ done, done ++ waiting = queued (w.heard ms) ∧
    Copied before n.registry.table.isLinked done worker.applied n.store
  /-- Nothing is stored of a dialog that is not linked, unless its removal is still waiting. -/
  withdrawn : ∀ key, n.registry.table.isLinked key = false →
    n.store.get? key = none ∨ ∃ q ∈ waiting, q.key = key ∧ q.isFinal = true
  /-- Nothing is remembered of it, unless some write of it is still waiting, or the last one was not
  its final removal. -/
  forgotten : ∀ key, n.registry.table.isLinked key = false →
    worker.applied.get? key = none ∨ (∃ q ∈ waiting, q.key = key) ∨
      ∃ earlier q, queued (about key (w.heard ms)) = earlier ++ [q] ∧ q.isFinal = false

variable {C : Conduct} {before : Store} {first : Table} {w : Observer} {ms ms' : List Moment}
  {waiting waiting' : List Write} {worker : Worker} {n n' : Node ε} {env : Environment ε}

/-- What has been carried of a dialog that nobody has heard of: nothing. -/
theorem Follows.nothing_done (h : Follows C before first w ms waiting worker n) {key : Key}
    (hnone : about key (tidings ms) = []) {done : List Write}
    (hdone : done ++ waiting = queued (w.heard ms)) : done.filter (·.key = key) = [] := by
  have hheard : about key (w.heard ms) = [] :=
    List.Perm.eq_nil (by rw [← hnone]; exact h.told.filter _)
  have hall : (done ++ waiting).filter (·.key = key) = [] := by
    rw [hdone, filter_queued, hheard]
    rfl
  rw [List.filter_append] at hall
  exact (List.append_eq_nil_iff.1 hall).1

theorem Follows.aside (h : Follows C before first w ms waiting worker n)
    (hstore : n'.store = n.store) (htable : n'.registry.table = n.registry.table)
    (hobservers : n'.registry.observers = n.registry.observers)
    (hserial : n'.registry.nextSerial = n.registry.nextSerial) :
    Follows C before first w ms waiting worker n' := by
  obtain ⟨hmode, hrole, htopics, hregistered, honly, htale, htold, hinOrder, hcopied, hwithdrawn,
    hforgotten⟩ := h
  refine ⟨hmode, hrole, htopics, ?_, ?_, ?_, htold, hinOrder, ?_, ?_, ?_⟩
  · rw [hobservers, hserial]
    exact hregistered
  · unfold Registry.OnlyWriter
    rw [hobservers]
    exact honly
  · rw [htable]
    exact htale
  · rw [htable, hstore]
    exact hcopied
  · rw [htable, hstore]
    exact hwithdrawn
  · rw [htable]
    exact hforgotten

theorem Follows.carry (henv : env.Serves) {q : Write}
    (h : Follows C before first w ms (q :: waiting) worker n) :
    Follows C before first w ms waiting (Node.carry env q worker n).1
      (Node.carry env q worker n).2 := by
  have hcarried := carry_carried henv.steady q worker n
  have hidle := hcarried.idle
  obtain ⟨done, hdone, hcopied⟩ := h.copied
  have hmem : q ∈ queued (w.heard ms) := by
    rw [← hdone]
    exact List.mem_append_right _ List.mem_cons_self
  have hnotFinal : n.registry.table.isLinked q.key = true → q.isFinal = false := fun hlinked =>
    (h.tale q.key).not_final h.told hlinked hmem rfl
  refine ⟨hcarried.mode.trans h.realtime, ?_, h.topics, ?_, ?_, ?_, h.told, h.inOrder, ?_, ?_, ?_⟩
  · rw [hcarried.mailbox]
    exact h.role
  · rw [hidle.observers, hidle.nextSerial]
    exact h.registered
  · unfold Registry.OnlyWriter
    rw [hidle.observers]
    exact h.only
  · rw [hidle.table]
    exact h.tale
  · refine ⟨done ++ [q], by rw [← hdone]; simp, ?_⟩
    rw [hidle.table]
    exact hcopied.carry henv hnotFinal
  · exact Withdrawn.carry henv h.withdrawn worker
  · rw [hidle.table]
    intro key hunlinked
    by_cases hmore : ∃ p ∈ waiting, p.key = key
    · exact .inr (.inl hmore)
    · by_cases hkey : q.key = key
      · -- it is the last write of a dialog that is not linked
        have hlast : (queued (w.heard ms)).filter (·.key = key)
            = done.filter (·.key = key) ++ [q] := by
          have hrest : waiting.filter (·.key = key) = [] :=
            List.filter_eq_nil_iff.2 fun p hp hpkey => hmore ⟨p, hp, by simpa using hpkey⟩
          rw [← hdone, List.filter_append, List.filter_cons, if_pos (by simpa using hkey), hrest]
        rw [filter_queued] at hlast
        cases hfinal : q.isFinal with
        | false => exact .inr (.inr ⟨_, q, hlast, hfinal⟩)
        | true =>
          refine .inl ?_
          rw [carry_applied, ← hkey]
          exact Versions.accept_get?_final _ _ hfinal
      · rcases h.forgotten key hunlinked with hnone | ⟨p, hp, hpkey⟩ | hlast
        · refine .inl ?_
          rw [carry_applied, Versions.accept_get?_of_ne _ _ (Ne.symm hkey)]
          exact hnone
        · rcases List.mem_cons.1 hp with rfl | hp
          · exact absurd hpkey hkey
          · exact absurd ⟨p, hp, hpkey⟩ hmore
        · exact .inr (.inr hlast)

/-- Whatever else is heard of a dialog that is not linked, nothing is remembered of it unless there
is a write of it that waits, or the last one was not its final removal. -/
theorem Follows.still_forgotten (h : Follows C before first w ms waiting worker n) {key : Key}
    (hunlinked : n.registry.table.isLinked key = false) (ms' : List Moment) :
    worker.applied.get? key = none ∨ (∃ q ∈ waiting ++ queued (w.heard ms'), q.key = key) ∨
      ∃ earlier q,
        queued (about key (w.heard (ms ++ ms'))) = earlier ++ [q] ∧ q.isFinal = false := by
  rcases h.forgotten key hunlinked with hnone | ⟨q, hq, hkey⟩ | ⟨earlier, q, hlast, hfinal⟩
  · exact .inl hnone
  · exact .inr (.inl ⟨q, List.mem_append_left _ hq, hkey⟩)
  · -- no write of it comes after the last one, or one is waiting
    rw [Observer.heard_append, about_append, queued_append, hlast]
    cases hmore : queued (about key (w.heard ms')) with
    | nil => exact .inr (.inr ⟨earlier, q, List.append_nil _, hfinal⟩)
    | cons p more =>
      have hp : p ∈ queued (about key (w.heard ms')) := by
        rw [hmore]
        exact List.mem_cons_self
      rw [← filter_queued] at hp
      obtain ⟨hp, hkey⟩ := List.mem_filter.1 hp
      exact .inr (.inl ⟨p, List.mem_append_right _ hp, of_decide_eq_true hkey⟩)

theorem Follows.act (hrestores : C.restores = false) (hsilences : C.silences = false)
    (h : Follows C before first w ms waiting worker n)
    (hattended : Attended worker waiting n) {r : Registry ε} (hms : Course C [] n.registry ms' r)
    (hbox : r.mailboxes[worker.mailbox]? = some ⟨waiting', true⟩) :
    Follows C before first w (ms ++ ms') waiting' worker { n with registry := r } := by
  have hlater := hms.path.later
  have hheard := hms.path.waiting h.only h.role hattended.mailbox
  rw [hbox] at hheard
  obtain rfl : waiting' = waiting ++ queued (w.heard ms') := by simpa using hheard
  have hglobal : n.registry.isGlobal w = true := decide_eq_true h.registered.1
  have htold' := hms.told w h.registered.2
  rw [hglobal, Observer.owed_writer h.topics] at htold'
  have htale : ∀ key,
      Tale key (first.find? key) r.table (about key (tidings ms) ++ about key (tidings ms')) :=
    fun key => .course hrestores hsilences hms (h.tale key) hattended.sound
  have hended : ∀ key, n.registry.table.isLinked key = true → r.table.isLinked key = false →
      ∃ q ∈ queued (w.heard ms'), q.key = key ∧ q.isFinal = true := by
    intro key hlinked hunlinked
    obtain ⟨s, hs⟩ := (h.tale key).destroyed_mem (htale key) hlinked hunlinked
    obtain ⟨htidings, hkey⟩ := mem_about.1 hs
    rw [← hkey]
    exact final_mem_queued (htold'.mem_iff.2 htidings)
  obtain ⟨done, hdone, hcopied⟩ := h.copied
  refine ⟨h.realtime, h.role, h.topics,
    ⟨hlater.kept w h.registered.1, hlater.serial h.registered.2⟩,
    h.only.later hlater, ?_, ?_, ?_, ⟨done, ?_, ?_, hcopied.untouched⟩, ?_, ?_⟩
  · intro key
    rw [tidings_append, about_append]
    exact htale key
  · rw [Observer.heard_append, tidings_append]
    exact h.told.append htold'
  · intro hquiet key
    have horder := hms.inOrder hquiet hrestores w h.registered.2 key
    rw [hglobal, Observer.owed_writer h.topics] at horder
    rw [Observer.heard_append, tidings_append, about_append, about_append, h.inOrder hquiet key]
    exact congrArg _ horder
  · rw [Observer.heard_append, queued_append, ← hdone, List.append_assoc]
  · intro key hlinked
    cases hbefore : n.registry.table.isLinked key with
    | true => exact hcopied.settled key hbefore
    | false =>
      -- it is new, so nothing of it has been carried yet
      have hunheard := (h.tale key).unheard_of_linked (htale key) hbefore hlinked
      have hnothing := h.nothing_done hunheard hdone
      exact .inl ⟨hnothing, (hcopied.untouched key hnothing).1⟩
  · intro key hunlinked
    cases hbefore : n.registry.table.isLinked key with
    | true =>
      obtain ⟨q, hq, hend⟩ := hended key hbefore hunlinked
      exact .inr ⟨q, List.mem_append_right _ hq, hend⟩
    | false =>
      refine (h.withdrawn key hbefore).imp id ?_
      rintro ⟨q, hq, hend⟩
      exact ⟨q, List.mem_append_left _ hq, hend⟩
  · intro key hunlinked
    cases hbefore : n.registry.table.isLinked key with
    | true =>
      obtain ⟨q, hq, hkey, -⟩ := hended key hbefore hunlinked
      exact .inr (.inl ⟨q, List.mem_append_right _ hq, hkey⟩)
    | false => exact h.still_forgotten hbefore ms'

/-! ## Whole runs -/

theorem follows_invariant (hrestores : C.restores = false) (hsilences : C.silences = false) :
    Invariant C (@Follows ε C before first w) where
  act h hattended hms hbox := h.act hrestores hsilences hattended hms hbox
  carry henv h := h.carry henv
  aside h := h.aside

theorem Ready.follows {store : Store} (h : Ready .realtime store store.records.length worker n)
    (C : Conduct) : ∃ w ∈ n.registry.observers, w.topics = writerTopics ∧
      Follows C store n.registry.table w [] [] worker n := by
  obtain ⟨w, hw, hrole, htopics, hserial, honly⟩ := h.writer rfl
  refine ⟨w, hw, htopics, h.works, hrole, htopics, ⟨hw, hserial⟩, honly, fun key => .start key _,
    .refl _, fun _ _ => rfl, ⟨[], rfl, ?_⟩, fun key hunlinked => .inl ?_, fun key _ => .inl ?_⟩
  · rw [h.applied, h.stored]
    exact .nil ..
  · rw [h.stored]
    cases hget : store.get? key with
    | none => rfl
    | some record =>
      obtain ⟨d, hd⟩ := h.restores.stored key record hget
      simp [Table.isLinked, hd] at hunlinked
  · rw [h.applied]
    rfl

end Node

/-- The snapshot that came with the last news of a dialog's creation or of a change of its phase. -/
def lastChange? (key : Key) (news : List News) : Option Snapshot :=
  ((news.filter fun x =>
    x.1.key = key ∧ (x.2.topic = .created ∨ x.2.topic = .stateChanged)).getLast?).map (·.1)

theorem lastChange?_of_live {key : Key} {news : List News} (h : ∀ x ∈ about key news, IsLive x) :
    lastChange? key news = (about key news).getLast?.map (·.1) := by
  unfold lastChange? about
  congr 2
  refine List.filter_congr fun x hx => ?_
  by_cases hkey : x.1.key = key
  · have htopic : x.2.topic = .created ∨ x.2.topic = .stateChanged := by
      rcases h x (mem_about.2 ⟨hx, hkey⟩) with ⟨hn, -⟩ | ⟨_, _, hn⟩
      · exact .inl (by rw [hn]; rfl)
      · exact .inr (by rw [hn]; rfl)
    simp [hkey, htopic]
  · simp [hkey]

/-- A store that follows the dialogs of a table. It was `before` at first, and `news` have been told
since. -/
structure Store.Mirrors (before : Store) (news : List News) (t : Table) (after : Store) :
    Prop where
  /-- There is a record for each live dialog, and no other. -/
  live : ∀ key, (∃ record, after.get? key = some record) ↔
    ∃ d, t.find? key = some d ∧ d.phase ≠ .deleted
  /-- It shows the dialog as it was last told of. If nothing was, it is the one from before. -/
  record : ∀ key d, t.find? key = some d → d.phase ≠ .deleted →
    after.get? key = match lastChange? key news with
      | some s => some (Record.ofSnapshot s)
      | none => before.get? key
  /-- Its phase is the dialog's. -/
  phase : ∀ key record d, after.get? key = some record → t.find? key = some d →
    record.phaseCode = d.phase.code

/-- Observers are told of every change and do not call back, and nothing is restored. -/
def Conduct.told : Conduct := { restores := false, silences := false, callsBack := false }

/-- Observers are told of every change and may call back, and nothing is restored. -/
def Conduct.answering : Conduct := { restores := false, silences := false, callsBack := true }

namespace Node

variable {C : Conduct} {before : Store} {first : Table} {w : Observer} {ms : List Moment}
  {waiting : List Write} {worker : Worker} {n n' : Node ε} {env : Environment ε}

/-- Once everything has been carried, what is stored of a linked dialog is what was last
told of it. -/
theorem Follows.get? (h : Follows C before first w ms [] worker n) {key : Key} {d : Dialog}
    (hd : n.registry.table.find? key = some d) :
    n.store.get? key = match (about key (tidings ms)).getLast? with
      | some x => x.1.record?
      | none => before.get? key := by
  obtain ⟨hlive, hrising, -, -⟩ := (h.tale key).of_find? hd
  obtain ⟨done, hdone, hcopied⟩ := h.copied
  have hlinked : n.registry.table.isLinked key = true := by simp [Table.isLinked, hd]
  rcases List.eq_nil_or_concat (about key (tidings ms)) with hnone | ⟨told, x, hnews⟩
  · rw [hnone]
    exact (hcopied.untouched key (h.nothing_done hnone hdone)).2
  · have hsettled := hcopied.settled key hlinked
    have hperm : (about key (w.heard ms)).Perm (about key (tidings ms)) := h.told.filter _
    rw [List.append_nil] at hdone
    rw [hdone, filter_queued] at hsettled
    rw [List.concat_eq_append] at hnews
    rw [hnews] at hlive hrising hperm ⊢
    obtain ⟨q, hq, hversion, -, heffect⟩ := (hlive x (by simp)).write
    have hmem : q ∈ queued (about key (w.heard ms)) :=
      List.mem_filterMap.2 ⟨x, hperm.mem_iff.2 (by simp), hq⟩
    rcases hsettled with ⟨hnil, -⟩ | ⟨newest, hnewest, hmax, -, hstore⟩
    · rw [hnil] at hmem
      cases hmem
    · obtain ⟨y, hy, hasked⟩ := List.mem_filterMap.1 hnewest
      obtain ⟨q', hq', hversion', -⟩ := (hlive y (hperm.mem_iff.1 hy)).write
      rw [hasked] at hq'
      cases hq'
      have hlatest : x.1.version ≤ y.1.version := by
        rw [← hversion, ← hversion']
        exact hmax q hmem
      have hlast : y = x := by
        rcases List.mem_append.1 (hperm.mem_iff.1 hy) with hearlier | hlast
        · have hlt := (List.pairwise_append.1 hrising).2.2 y hearlier x (by simp)
          exact absurd hlatest (Nat.not_le.2 hlt)
        · exact List.mem_singleton.1 hlast
      subst hlast
      rw [hq] at hasked
      cases hasked
      rw [hstore, heffect]
      simp

theorem Follows.mirrors (h : Follows C before first w ms [] worker n)
    (hfirst : Restores before first) : before.Mirrors (tidings ms) n.registry.table n.store := by
  have hlinked : ∀ key d, n.registry.table.find? key = some d →
      (∃ s, lastChange? key (tidings ms) = some s ∧ s.phase = d.phase ∧
        n.store.get? key = s.record?) ∨
      (lastChange? key (tidings ms) = none ∧ d.phase ≠ .deleted ∧
        ∃ record, before.get? key = some record ∧ record.phaseCode = d.phase.code ∧
          n.store.get? key = some record) := by
    intro key d hd
    have hget := h.get? hd
    obtain ⟨hlive, -, -, hphase⟩ := (h.tale key).of_find? hd
    rw [lastChange?_of_live hlive]
    cases hlast : (about key (tidings ms)).getLast? with
    | some x =>
      rw [hlast] at hget hphase
      exact .inl ⟨x.1, rfl, Option.some.inj hphase, hget⟩
    | none =>
      rw [hlast] at hget hphase
      obtain ⟨e, he, hsame⟩ := Option.map_eq_some_iff.1 hphase
      obtain ⟨record, hrecord, hdescribes⟩ := hfirst.linked key e he
      obtain ⟨-, hcode, hphase⟩ := Record.of_dialog? hdescribes
      rw [← hsame]
      exact .inr ⟨rfl, hphase, record, hrecord, hcode.symm, hget.trans hrecord⟩
  constructor
  · intro key
    constructor
    · rintro ⟨record, hrecord⟩
      cases hd : n.registry.table.find? key with
      | none =>
        rcases h.withdrawn key (by simp [Table.isLinked, hd]) with hnone | ⟨q, hq, -⟩
        · rw [hnone] at hrecord
          cases hrecord
        · cases hq
      | some d =>
        refine ⟨d, rfl, ?_⟩
        rcases hlinked key d hd with ⟨s, -, hphase, hget⟩ | ⟨-, hphase, -⟩
        · rw [hrecord, Snapshot.record?] at hget
          split at hget
          · cases hget
          next hlive => exact hphase ▸ hlive
        · exact hphase
    · rintro ⟨d, hd, hlive⟩
      rcases hlinked key d hd with ⟨s, -, hphase, hget⟩ | ⟨-, -, record, -, -, hget⟩
      · rw [Snapshot.record?, if_neg (hphase ▸ hlive)] at hget
        exact ⟨_, hget⟩
      · exact ⟨record, hget⟩
  · intro key d hd hlive
    rcases hlinked key d hd with ⟨s, hlast, hphase, hget⟩ | ⟨hlast, -, record, hbefore, -, hget⟩
    · rw [hget, hlast, Snapshot.record?, if_neg (hphase ▸ hlive)]
    · rw [hget, hlast, hbefore]
  · intro key record d hrecord hd
    rcases hlinked key d hd with ⟨s, -, hphase, hget⟩ | ⟨-, -, record', -, hcode, hget⟩
    · rw [hrecord, Snapshot.record?] at hget
      split at hget
      · cases hget
      · cases hget
        exact congrArg Phase.code hphase
    · rw [hrecord] at hget
      cases hget
      exact hcode

/-- Without a last flush, what was waiting is all that is still carried. -/
theorem Attended.stop_realtime (h : Attended worker waiting n) (hmode : worker.mode = .realtime)
    (henv : env.Serves) :
    (n.stop env).1 = .ok () ∧ (n.stop env).2.store = (Node.drain env worker n).2.store ∧
      (n.stop env).2.registry.table = (Node.drain env worker n).2.registry.table := by
  have hcarried := h.drain henv.steady
  have hmode' : (Node.drain env worker n).1.mode = .realtime := hcarried.mode.trans hmode
  have halive := hcarried.alive h.alive
  rw [h.stop_eq henv.steady]
  unfold lastFlush
  rw [hmode']
  dsimp only
  rw [if_pos halive]
  exact ⟨rfl, rfl, rfl⟩

/-- Once everything has been carried, what is remembered is linked, or its end was not the last that
the writer heard of it. -/
theorem Follows.remembered (h : Follows C before first w ms [] worker n) {key : Key}
    {version : Nat} (hversion : worker.applied.get? key = some version) :
    n.registry.table.isLinked key = true ∨
      ∃ x, (about key (w.heard ms)).getLast? = some x ∧ x.2 ≠ .destroyed := by
  cases hlinked : n.registry.table.isLinked key with
  | true => exact .inl rfl
  | false =>
    rcases h.forgotten key hlinked with hnone | ⟨q, hq, -⟩ | ⟨_, _, hlast, hfinal⟩
    · rw [hnone] at hversion
      cases hversion
    · cases hq
    · exact .inr (last_ne_destroyed hlast hfinal)

/-- If nobody calls back, what came to the writer last is what there was to tell last. -/
theorem Follows.linked_of_remembered (h : Follows C before first w ms [] worker n)
    (hquiet : C.callsBack = false) {key : Key} {version : Nat}
    (hversion : worker.applied.get? key = some version) :
    n.registry.table.isLinked key = true := by
  rcases h.remembered hversion with hlinked | ⟨x, hx, hne⟩
  · exact hlinked
  · rw [h.inOrder hquiet key] at hx
    by_contra hunlinked
    exact hne ((h.tale key).last_destroyed (Bool.not_eq_true _ ▸ hunlinked) hx)

/-- In realtime mode, a node that loaded all of a store and is stopped in the end leaves in the
store one record for each live dialog, as it was last told of, however the worker lagged behind.
Nothing may be restored meanwhile, and no dialog moved silently. Once the mail is carried the worker
remembers linked dialogs, and those whose end was not the last that its writer heard of them. There
are none of the latter as long as no observer calls back: then what was last told of a dialog is
what came to the writer last. -/
theorem Opened.store_mirrors (hrestores : C.restores = false) (hsilences : C.silences = false)
    {store : Store} (hopened : Opened .realtime store store.records.length n)
    (hworks : Works C n n') (henv : env.Serves) :
    (n'.stop env).1 = .ok () ∧ (∃ ms, Passes C n ms n') ∧
      ∃ w ∈ n.registry.observers, w.topics = writerTopics ∧ ∀ ms, Passes C n ms n' →
        store.Mirrors (tidings ms) (n'.stop env).2.registry.table (n'.stop env).2.store ∧
        (w.heard ms).Perm (tidings ms) ∧
        (∀ worker, n'.worker = some worker → ∀ key version,
          (drain env worker n').1.applied.get? key = some version →
            (drain env worker n').2.registry.table.isLinked key = true ∨
              ∃ x, (about key (w.heard ms)).getLast? = some x ∧ x.2 ≠ .destroyed) ∧
        (C.callsBack = false →
          (∀ key, about key (w.heard ms) = about key (tidings ms)) ∧
          ∀ worker, n'.worker = some worker → ∀ key version,
            (drain env worker n').1.applied.get? key = some version →
              (drain env worker n').2.registry.table.isLinked key = true) := by
  obtain ⟨worker, hready⟩ := hopened.ready
  have hattended := hready.attended (by decide)
  obtain ⟨w, hw, htopics, hfollows⟩ := hready.follows C
  have hinvariant : Invariant C (@Follows ε C store n.registry.table w) :=
    follows_invariant hrestores hsilences
  obtain ⟨ms, hms⟩ := hworks.passes hattended
  obtain ⟨worker', waiting, hattended', hfollows'⟩ := hinvariant.passes hms hattended hfollows
  obtain ⟨hclean, -⟩ := hattended'.stop_realtime hfollows'.realtime henv
  refine ⟨hclean, ⟨ms, hms⟩, w, hw, htopics, fun ms hms => ?_⟩
  obtain ⟨worker', waiting, hattended', hfollows'⟩ := hinvariant.passes hms hattended hfollows
  obtain ⟨-, hstore, htable⟩ := hattended'.stop_realtime hfollows'.realtime henv
  have hdrained := hinvariant.drain henv hattended' hfollows'
  rw [hstore, htable]
  have hemployed : ∀ {worker}, n'.worker = some worker → worker' = worker := fun hworker =>
    Option.some.inj (hattended'.employed.symm.trans hworker)
  refine ⟨hdrained.mirrors hready.restores, hdrained.told, ?_, fun hquiet =>
    ⟨hdrained.inOrder hquiet, ?_⟩⟩
  · intro worker hworker key version hversion
    cases hemployed hworker
    exact hdrained.remembered hversion
  · intro worker hworker key version hversion
    cases hemployed hworker
    exact hdrained.linked_of_remembered hquiet hversion

/-- A store with one dialog in it, from an earlier run. -/
def heirloom : Store := ⟨[Record.ofSnapshot (answeredDialog 1).snapshot]⟩

theorem heirloom_opened :
    Opened .realtime heirloom heirloom.records.length (quietNode .realtime heirloom) :=
  quietNode_opened .realtime heirloom

/-- A second dialog is answered. When the first one is given up, the worker has carried one write
out of two. -/
def lagging : Node Unit :=
  let opened := quietNode .realtime heirloom
  let begun : Node Unit := { opened with
    registry := opened.registry.performAll .quiet
      [.insert { callId := "abc", fromUri := "sip:a", toUri := "sip:b", fromTag := "t1" } 0,
        .processEvent ⟨0, 1⟩ .successResponse] }
  let carried := begun.work .quiet 1
  { carried with registry := carried.registry.performAll .quiet [.release ⟨0, 0⟩ 1] }

theorem lagging_works : Works .told (quietNode .realtime heirloom) lagging := by
  refine .trans (.act (Registry.runsIn_performAll (Environment.quiet_honest _) _ ?_))
    (.trans (.work _ Environment.quiet_serves 1)
      (.act (Registry.runsIn_performAll (Environment.quiet_honest _) _ ?_)))
  · decide
  · decide

/-- The first dialog's record is gone in the end, and the second one's shows
that it was answered. -/
theorem Opened.store_mirrors_lagging :
    (lagging.stop .quiet).1 = .ok () ∧ (lagging.stop .quiet).2.store.get? ⟨0, 0⟩ = none ∧
      ∃ record, (lagging.stop .quiet).2.store.get? ⟨0, 1⟩ = some record ∧
        record.phaseCode = Phase.confirmedNa.code := by
  obtain ⟨hclean, ⟨ms, hms⟩, _, _, _, hmirrors⟩ := Opened.store_mirrors (C := .told) rfl rfl
    heirloom_opened lagging_works Environment.quiet_serves
  obtain ⟨hmirrors, -⟩ := hmirrors ms hms
  have hgone : ((lagging.stop .quiet).2.registry.table.find? ⟨0, 0⟩).isNone := by decide +kernel
  have hanswered : ((lagging.stop .quiet).2.registry.table.find? ⟨0, 1⟩).map (·.phase)
      = some .confirmedNa := by decide +kernel
  obtain ⟨d, hd, hphase⟩ := Option.map_eq_some_iff.1 hanswered
  obtain ⟨record, hrecord⟩ := (hmirrors.live ⟨0, 1⟩).2 ⟨d, hd, by simp [hphase]⟩
  refine ⟨hclean, ?_, record, hrecord, ?_⟩
  · rw [Option.eq_none_iff_forall_ne_some]
    intro record hstored
    obtain ⟨e, he, -⟩ := (hmirrors.live ⟨0, 0⟩).1 ⟨record, hstored⟩
    rw [Option.isNone_iff_eq_none.1 hgone] at he
    cases he
  · rw [hmirrors.phase _ record d hrecord hd, hphase]

/-- An observer that gives a dialog up as soon as it hears that it is deleted. -/
def impatient : Environment Unit :=
  { Environment.quiet with
    observe := fun _ s n r =>
      ((.done, n.context), if s.phase = .deleted then r.release .quiet s.key 1 else r) }

theorem impatient_honest (hcalls : C.callsBack = true)
    (hrelease : ∀ key, (Operation.release key 1).fits C = true) : impatient.Honest C 1 where
  observe o s n r := by
    unfold impatient
    dsimp only
    split
    · exact @Registry.Runs.step Unit _ .quiet (.release s.key 1)
        ⟨hcalls, hrelease s.key, Environment.quiet_honest C⟩ r
    · exact .refl r
  schedule _ _ r := .refl r
  cancel _ r := .refl r

/-- A node with such an observer, which has been there for longer than the writer. -/
def watched : Node Unit :=
  (Node.start
    { registry := Registry.blank.record .loaded |>.observe "watch" [.stateChanged] .client }
    .quiet { mode := .realtime }).2

theorem watched_opened : Opened .realtime {} 0 watched :=
  .intro Registry.create_blank (.refl _) Environment.quiet_serves rfl (.enlist _ _ _) rfl

/-- A dialog fails, and is given up while the observers are told so: the writer hears that it is
gone before it hears that it is deleted. -/
def abandoned : Node Unit :=
  { watched with
    registry := watched.registry.performAll impatient
      [.insert { callId := "abc", fromUri := "sip:a", toUri := "sip:b", fromTag := "t1" } 0,
        .processEvent ⟨0, 0⟩ .failureResponse] }

/-- Once all is carried, the worker remembers a dialog that is not linked. -/
theorem abandoned_remembered :
    Opened .realtime {} 0 watched ∧ Works .answering watched abandoned ∧
      ∃ worker, abandoned.worker = some worker ∧
        (drain .quiet worker abandoned).1.applied.get? ⟨0, 0⟩ = some 1 ∧
        (drain .quiet worker abandoned).2.registry.table.isLinked ⟨0, 0⟩ = false := by
  have hworks : Works .answering watched abandoned :=
    .act (Registry.runsIn_performAll (impatient_honest rfl fun _ => rfl) _ (by decide))
  refine ⟨watched_opened, hworks, _, rfl, ?_, ?_⟩
  · decide +kernel
  · decide +kernel

end Node

end SipDialogs
