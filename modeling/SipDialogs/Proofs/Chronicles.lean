-- SUMMARY: What observers hear of a dialog is its whole story, from the beginning to the end.
import SipDialogs.Proofs.Lives
import SipDialogs.Proofs.Realtime

/-! # Chronicles

As long as nobody calls back, restores dialogs or moves them silently, the story of a dialog is told
as it happens: that it is new, each change of its phase with the phase it was in when it was last
told of, and its end. All who are to hear of a change hear of it in the order in which they are
registered, and the journal of the registry shows that they do. -/

namespace SipDialogs

/-! ## Stories -/

/-- The news of a dialog from its creation on, with the phase and the version that
were shown last. -/
inductive Story : List News → Phase → Nat → Prop where
  | created {s : Snapshot} (hphase : s.phase = .unconfirmed) :
      Story [(s, .created)] .unconfirmed s.version
  | changed {news : List News} {p q : Phase} {v : Nat} (h : Story news p v) {s : Snapshot}
      {event : Event} (hne : p ≠ q) (hphase : s.phase = q) (hversion : v < s.version) :
      Story (news ++ [(s, .stateChanged p q event)]) q s.version

/-- The news of a dialog as they should be: none before it is created, its story so far, or its
story and its end. -/
inductive WellTold : List News → Prop where
  | nothing : WellTold []
  | soFar {news : List News} {p : Phase} {v : Nat} (h : Story news p v) : WellTold news
  | whole {news : List News} {p : Phase} {v : Nat} (h : Story news p v) {s : Snapshot}
      (hphase : s.phase = p) (hversion : v < s.version) : WellTold (news ++ [(s, .destroyed)])

/-- The change of phase that a notice tells of. -/
def Notice.turn? : Notice → Option Turn
  | stateChanged old new _ => some (old, new)
  | _ => none

/-- All there is to know of the dialog under this key, in proper order: that it was created, each
change of its phase, and its end. -/
structure Informed (key : Key) (ms : List Moment) (news : List News) : Prop where
  wellTold : WellTold news
  created : (∃ s, (s, .created) ∈ news) ↔ ∃ d, .inserted d ∈ ms ∧ d.key = key
  changes : news.filterMap (·.2.turn?) = turns key ms
  destroyed : (∃ s, (s, .destroyed) ∈ news) ↔ ∃ m ∈ ms, m.ends key = true

theorem Moment.ends_iff {m : Moment} {key : Key} :
    m.ends key = true ↔ ∃ d, m.ended? = some d ∧ d.key = key := by
  unfold ends
  cases m.ended? <;> simp

/-! ## What there is to tell

Moments that move nothing silently are told of, each as what it is. -/

theorem about_tidings_of_ne {ms : List Moment} {key : Key} (h : ∀ m ∈ ms, m.key? ≠ some key) :
    about key (tidings ms) = [] := by
  induction ms with
  | nil => rfl
  | cons m ms ih =>
    obtain ⟨hfirst, hrest⟩ := List.forall_mem_cons.1 h
    rw [tidings_cons, about_append, about_news_of_ne hfirst, ih hrest]
    rfl

/-- The news tell of the changes of phase. -/
theorem turns_eq {key : Key} {ms : List Moment} (hloud : ∀ d event t, .moved d event t true ∉ ms) :
    (about key (tidings ms)).filterMap (·.2.turn?) = turns key ms := by
  induction ms with
  | nil => rfl
  | cons m ms ih =>
    have hrest := ih fun d event t hm => hloud d event t (List.mem_cons_of_mem _ hm)
    have hfirst : (about key m.news?.toList).filterMap (·.2.turn?) = (m.turn? key).toList := by
      by_cases hkey : m.key? = some key
      case neg => rw [about_news_of_ne hkey, Moment.turn?_of_ne hkey]; rfl
      rw [about_news_of_key hkey]
      cases m with
      | moved d event t silently =>
        cases silently with
        | true => exact absurd List.mem_cons_self (hloud d event t)
        | false =>
          obtain rfl : d.key = key := Option.some.inj hkey
          by_cases hphase : d.phase = t.phase
          · simp [Moment.news?, Moment.turn?, hphase]
          · simp [Moment.news?, Moment.turn?, hphase, Notice.turn?]
      | released d count =>
        by_cases hle : d.refs ≤ count <;> simp [Moment.news?, Moment.turn?, hle, Notice.turn?]
      | inserted d => rfl
      | _ => rfl
    have hcons : turns key (m :: ms) = (m.turn? key).toList ++ turns key ms := by
      unfold turns
      rw [List.filterMap_cons]
      cases m.turn? key <;> rfl
    rw [tidings_cons, about_append, List.filterMap_append, hfirst, hrest, hcons]

theorem mem_about_tidings {key : Key} {ms : List Moment} {x : News} :
    x ∈ about key (tidings ms) ↔ ∃ m ∈ ms, m.news? = some x ∧ x.1.key = key := by
  rw [mem_about, tidings, List.mem_filterMap]
  constructor
  · rintro ⟨⟨m, hm, hx⟩, hkey⟩
    exact ⟨m, hm, hx, hkey⟩
  · rintro ⟨m, hm, hx, hkey⟩
    exact ⟨⟨m, hm, hx⟩, hkey⟩

theorem created_iff {key : Key} {ms : List Moment} :
    (∃ s, (s, Notice.created) ∈ about key (tidings ms)) ↔
      ∃ d, .inserted d ∈ ms ∧ d.key = key := by
  constructor
  · rintro ⟨s, hs⟩
    obtain ⟨m, hm, hnews, hkey⟩ := mem_about_tidings.1 hs
    cases Moment.tells_of_news? hnews with
    | created d => exact ⟨d, hm, hkey⟩
  · rintro ⟨d, hd, hkey⟩
    exact ⟨d.snapshot, mem_about_tidings.2 ⟨_, hd, rfl, hkey⟩⟩

theorem destroyed_iff {key : Key} {ms : List Moment} :
    (∃ s, (s, Notice.destroyed) ∈ about key (tidings ms)) ↔ ∃ m ∈ ms, m.ends key = true := by
  constructor
  · rintro ⟨s, hs⟩
    obtain ⟨m, hm, hnews, hkey⟩ := mem_about_tidings.1 hs
    cases Moment.tells_of_news? hnews with
    | @destroyed d _ hle => exact ⟨_, hm, Moment.ends_iff.2 ⟨d, if_pos hle, hkey⟩⟩
  · rintro ⟨m, hm, hends⟩
    obtain ⟨d, hended, hkey⟩ := Moment.ends_iff.1 hends
    obtain ⟨hnews, -⟩ := Moment.news?_of_ended hended
    exact ⟨d.lastSnapshot, mem_about_tidings.2 ⟨m, hm, hnews, hkey⟩⟩

/-! ## What is told of one dialog -/

/-- A moment of its life goes on with the story of a dialog. -/
theorem Dialog.Change.story {d e : Dialog} {m : Moment} (h : d.Change m e)
    (hloud : ∀ d event t, m ≠ .moved d event t true) {news : List News} {v : Nat}
    (hstory : Story news d.phase v) (hv : v ≤ d.version) :
    ∃ v', Story (news ++ m.news?.toList) e.phase v' ∧ v' ≤ e.version := by
  cases h with
  | revise h =>
    refine ⟨v, ?_, Nat.le_trans hv h.retains.version⟩
    rw [h.retains.phase]
    simpa [Moment.news?] using hstory
  | hand =>
    rw [show (Moment.handed d).news?.toList = [] from rfl, List.append_nil]
    exact ⟨v, hstory, hv⟩
  | attend o =>
    rw [show (Moment.revised d (d.watchedBy o)).news?.toList = [] from rfl, List.append_nil]
    exact ⟨v, hstory, hv⟩
  | @giveBack count hlt =>
    refine ⟨v, ?_, hv⟩
    simpa [Moment.news?, Nat.not_le.2 hlt] using hstory
  | @move event t _ silently =>
    cases silently with
    | true => exact absurd rfl (hloud d event t)
    | false =>
      obtain ⟨-, -, -, hphase, -, hversion, -⟩ := d.move_retains t
      by_cases hsame : d.phase = t.phase
      · refine ⟨v, ?_, ?_⟩
        · rw [hphase, ← hsame]
          simpa [Moment.news?, hsame] using hstory
        · rw [hversion]
          exact Nat.le_trans hv (Nat.le_add_right _ _)
      · have hnews : (Moment.moved d event t false).news?
            = some ((d.move t).snapshot, .stateChanged d.phase t.phase event) := by
          simp [Moment.news?, hsame]
        have hrises : v < (d.move t).snapshot.version := by
          show v < (d.move t).version
          rw [hversion, if_neg hsame]
          exact Nat.lt_succ_of_le hv
        rw [hnews, hphase]
        exact ⟨(d.move t).version, .changed hstory hsame hphase hrises, Nat.le_refl _⟩

/-- All its life goes on with the story of a dialog. -/
theorem Dialog.Lives.story {d e : Dialog} {ms : List Moment} (h : d.Lives ms e)
    (hloud : ∀ d event t, .moved d event t true ∉ ms) {news : List News} {v : Nat}
    (hstory : Story news d.phase v) (hv : v ≤ d.version) :
    ∃ v', Story (news ++ about d.key (tidings ms)) e.phase v' ∧ v' ≤ e.version := by
  induction h generalizing news v with
  | nil d => exact ⟨v, by simpa [about, tidings] using hstory, hv⟩
  | @aside d e m ms hm _ ih =>
    have hrest := fun d event t hmem => hloud d event t (List.mem_cons_of_mem m hmem)
    rw [tidings_cons, about_append, about_news_of_ne hm]
    exact ih hrest hstory hv
  | @change d d' e m ms hm _ ih =>
    have hrest := fun d event t hmem => hloud d event t (List.mem_cons_of_mem m hmem)
    have hfirst : ∀ d event t, m ≠ .moved d event t true := fun d event t heq =>
      hloud d event t (heq ▸ List.mem_cons_self)
    obtain ⟨v', hstory', hv'⟩ := hm.story hfirst hstory hv
    rw [tidings_cons, about_append, about_news_of_key hm.key.2, ← List.append_assoc, ← hm.key.1]
    exact ih hrest hstory' hv'

/-- Nothing happens under a key before a dialog is linked there. -/
theorem Path.first_linked {c c' : Scene ε} {ms : List Moment} (h : Path c ms c') {key : Key}
    (hnone : c.registry.table.find? key = none) (hfinal : ∀ d, .restored d ∉ ms) :
    (∀ m ∈ ms, m.key? ≠ some key) ∨
      ∃ before d after, ms = before ++ .inserted d :: after ∧ d.key = key ∧
        ∀ m ∈ before, m.key? ≠ some key := by
  induction h with
  | nil => exact .inl (List.forall_mem_nil _)
  | @cons c c₁ c₂ m ms hstep _ ih =>
    by_cases hkey : m.key? = some key
    · refine .inr ⟨[], ?_⟩
      rcases hstep.of_key? hkey with ⟨d, hlinked, rfl⟩ | ⟨d, hfind, -⟩
      · rcases Moment.of_linked? hlinked with rfl | rfl
        · exact ⟨d, ms, rfl, rfl, List.forall_mem_nil _⟩
        · exact absurd List.mem_cons_self (hfinal d)
      · rw [hnone] at hfind
        cases hfind
    · have hnone' := (hstep.find?_of_ne hkey).trans hnone
      rcases ih hnone' fun d hd => hfinal d (List.mem_cons_of_mem _ hd) with
        hnever | ⟨before, d, after, rfl, hd, hbefore⟩
      · exact .inl (List.forall_mem_cons.2 ⟨hkey, hnever⟩)
      · exact .inr ⟨m :: before, d, after, rfl, hd, List.forall_mem_cons.2 ⟨hkey, hbefore⟩⟩

/-- A life ends at most once. -/
theorem first_end (key : Key) (ms : List Moment) :
    (∀ m ∈ ms, m.ends key = false) ∨
      ∃ life d count after, ms = life ++ .released d count :: after ∧ d.key = key ∧
        d.refs ≤ count ∧ ∀ m ∈ life, m.ends key = false := by
  induction ms with
  | nil => exact .inl (List.forall_mem_nil _)
  | cons m ms ih =>
    cases hm : m.ends key with
    | true =>
      refine .inr ⟨[], ?_⟩
      obtain ⟨d, hended, hkey⟩ := Moment.ends_iff.1 hm
      cases m with
      | released d' count =>
        simp only [Moment.ended?] at hended
        split at hended
        next hle =>
          cases hended
          exact ⟨d, count, ms, rfl, hkey, hle, List.forall_mem_nil _⟩
        · cases hended
      | _ => cases hended
    | false =>
      rcases ih with hnever | ⟨life, d, count, after, rfl, hd, hle, hlife⟩
      · exact .inl (List.forall_mem_cons.2 ⟨hm, hnever⟩)
      · exact .inr ⟨m :: life, d, count, after, rfl, hd, hle, List.forall_mem_cons.2 ⟨hm, hlife⟩⟩

/-- What has been told of a linked dialog is gone on with, up to its end. -/
theorem Path.wellTold_of_linked {c c' : Scene ε} {ms : List Moment} (h : Path c ms c')
    (hsound : c.registry.Sound) {d : Dialog} (hd : c.registry.table.find? d.key = some d)
    (hfinal : ∀ e, .restored e ∉ ms) (hloud : ∀ e event t, .moved e event t true ∉ ms)
    {news : List News} {v : Nat} (hstory : Story news d.phase v) (hv : v ≤ d.version) :
    WellTold (news ++ about d.key (tidings ms)) := by
  rcases first_end d.key ms with hlasts | ⟨life, e, count, rest, rfl, hkey, hle, hlife⟩
  · obtain ⟨e, -, hlives⟩ := h.lives hd hlasts
    obtain ⟨v', hstory', -⟩ := hlives.story hloud hstory hv
    exact .soFar hstory'
  obtain ⟨c₁, hpath, hend⟩ := h.split
  obtain ⟨e', he', hlives⟩ := hpath.lives hd hlife
  have hloud' : ∀ x event t, .moved x event t true ∉ life := fun x event t hm =>
    hloud x event t (List.mem_append_left _ hm)
  obtain ⟨v', hstory', hv'⟩ := hlives.story hloud' hstory hv
  cases hend with
  | cons hlast hgone =>
    have he := hlast.found rfl
    rw [hkey, he'] at he
    obtain rfl := Option.some.inj he
    -- nothing happens to the dialog from its end on
    have hmine : (Moment.released e' count).key? = some d.key := congrArg some hkey
    have hmissing := (hlast.find?_of_key hmine).trans (if_pos hle)
    have hspent := hlast.spent ((hpath.sound hsound).spent he')
    have hnever : ∀ x, .restored x ∈ rest → x.key ≠ d.key := fun x hx =>
      absurd (List.mem_append_right _ (List.mem_cons_of_mem _ hx)) (hfinal x)
    obtain ⟨-, huntouched⟩ := hgone.untouched hmissing hspent hnever
    have hnews : (Moment.released e' count).news? = some (e'.lastSnapshot, .destroyed) :=
      if_pos hle
    have hwhole : about d.key (tidings (life ++ .released e' count :: rest))
        = about d.key (tidings life) ++ [(e'.lastSnapshot, .destroyed)] := by
      rw [tidings_append, about_append, tidings_cons, about_append, about_news_of_key hmine,
        about_tidings_of_ne huntouched, hnews]
      rfl
    rw [hwhole, ← List.append_assoc]
    exact .whole hstory' rfl (Nat.lt_succ_of_le hv')

/-- A dialog that was not linked before is told of from the beginning to the end. -/
theorem Path.wellTold {c c' : Scene ε} {ms : List Moment} (h : Path c ms c')
    (hsound : c.registry.Sound) {key : Key} (hnone : c.registry.table.find? key = none)
    (hfinal : ∀ d, .restored d ∉ ms) (hloud : ∀ d event t, .moved d event t true ∉ ms) :
    WellTold (about key (tidings ms)) := by
  rcases h.first_linked hnone hfinal with hnever | ⟨before, d, after, rfl, rfl, hbefore⟩
  · rw [about_tidings_of_ne hnever]
    exact .nothing
  obtain ⟨c₀, hpath₀, hrest⟩ := h.split
  cases hrest with
  | cons hstep hafter =>
    have hphase : d.phase = .unconfirmed := by
      cases hstep with
      | insert hinsert =>
        rw [(Table.insert_links hinsert).2]
        rfl
    have hbegin : Story [(d.snapshot, .created)] d.phase d.version := by
      rw [hphase]
      exact .created hphase
    have hmine : (Moment.inserted d).key? = some d.key := rfl
    have htold : about d.key (tidings (before ++ .inserted d :: after))
        = [(d.snapshot, .created)] ++ about d.key (tidings after) := by
      rw [tidings_append, about_append, about_tidings_of_ne hbefore, tidings_cons, about_append,
        about_news_of_key hmine]
      rfl
    rw [htold]
    refine hafter.wellTold_of_linked (hstep.sound (hpath₀.sound hsound)) (hstep.find?_of_key rfl)
      (fun x hx => ?_) (fun x event t hx => ?_) hbegin (Nat.le_refl _)
    · exact hfinal x (List.mem_append_right _ (List.mem_cons_of_mem _ hx))
    · exact hloud x event t (List.mem_append_right _ (List.mem_cons_of_mem _ hx))

/-! ## The journal -/

/-- The news that a call brings to an observer. -/
def Call.newsTo? (o : Observer) : Call → Option News
  | observed g s n => if g = o ∧ n.topic ≠ .introspect then some (s, n) else none
  | _ => none

/-- The news that an observer has been called with, in order. -/
def Registry.newsTo (r : Registry ε) (o : Observer) : List News :=
  r.journal.filterMap (·.newsTo? o)

/-- Whoever is not a writer hears by being called. -/
theorem Step.newsTo {c c' : Scene ε} {m : Moment} (h : Step c m c') {o : Observer}
    (ho : o.role = .client) :
    c'.registry.newsTo o = c.registry.newsTo o ++ (m.heardBy? o).toList := by
  unfold Registry.newsTo
  cases h with
  | idle h =>
    obtain ⟨calls, hcalls, hnone⟩ := h.journal
    have hsilent : calls.filterMap (·.newsTo? o) = [] := by
      refine List.filterMap_eq_nil_iff.2 fun c hc => ?_
      cases c with
      | observed g s n => exact absurd hc (hnone g s n)
      | _ => rfl
    rw [hcalls, List.filterMap_append, hsilent]
    rfl
  | @hear r g hg s n limbo hn =>
    by_cases hmine : g = o ∧ n.topic ≠ .introspect
    · obtain ⟨rfl, htopic⟩ := hmine
      simp [Registry.hear, ho, Registry.record, Call.newsTo?, Moment.heardBy?, htopic]
    · have hnone : (Moment.heard g s n).heardBy? o = none := if_neg hmine
      rw [hnone, Option.toList_none, List.append_nil]
      unfold Registry.hear
      split
      · have hcall : (Call.observed g s n).newsTo? o = none := if_neg hmine
        simp [Registry.record, hcall]
      · split <;> rfl
  | _ => exact (List.append_nil _).symm

theorem Path.newsTo {c c' : Scene ε} {ms : List Moment} (h : Path c ms c') {o : Observer}
    (ho : o.role = .client) : c'.registry.newsTo o = c.registry.newsTo o ++ o.heard ms := by
  induction h with
  | nil => exact (List.append_nil _).symm
  | @cons c c₁ c₂ m ms hstep _ ih =>
    rw [ih, hstep.newsTo ho, List.append_assoc]
    congr 1
    unfold Observer.heard
    rw [List.filterMap_cons]
    cases m.heardBy? o <;> rfl

/-! ## Courses -/

/-- Whoever subscribes to all there is to tell is owed all of it. -/
theorem Observer.owed_of_wants {o : Observer} (ho : ∀ topic ∈ writerTopics, o.wants [topic] = true)
    (ms : List Moment) : o.owed true ms = tidings ms := by
  refine List.filterMap_congr fun m _ => ?_
  cases hnews : m.news? with
  | none => exact Moment.newsFor?_of_none hnews o true
  | some x =>
    have hwants : o.wants [x.2.topic] = true := ho _ (Moment.topic_of_news? hnews)
    rw [Moment.newsFor?, hnews, Option.filter_some, hwants]
    rfl

/-- What is heard along a course that restores nothing, moves nothing silently, and is not called
back into. -/
structure Broadcast (r : Registry ε) (ms : List Moment) (r' : Registry ε) : Prop where
  /-- Every observer that subscribes to all there is to tell knows all of each new dialog. -/
  informed : ∀ o ∈ r.observers, (∀ topic ∈ writerTopics, o.wants [topic] = true) →
    ∀ key, r.table.find? key = none → Informed key ms (about key (o.heard ms))
  /-- What observers hear are the calls in the journal. -/
  called : ∀ o : Observer, o.role = .client → r'.newsTo o = r.newsTo o ++ o.heard ms
  /-- All who are to hear of a change hear of it one after another: those that are registered
  globally, and after them those of the dialog itself. -/
  relayed : r'.observers = r.observers → ∀ key,
    (hearings ms).filter (·.2.1.key = key) = (relays r.observers ms).filter (·.2.1.key = key)

theorem Procession.broadcast {r r' : Registry ε} {ms : List Moment}
    (h : Procession .told [] r ms r') (hsound : r.Sound) : Broadcast r ms r' where
  informed := by
    intro o ho hwants key hnone
    have hfinal : ∀ d, .restored d ∉ ms := fun d hd =>
      Bool.false_ne_true (h.fits _ hd).restores
    have hloud : ∀ d event t, .moved d event t true ∉ ms := fun d event t hd =>
      Bool.false_ne_true (h.fits _ hd).silences
    have hglobal : r.isGlobal o = true := decide_eq_true ho
    have hheard : about key (o.heard ms) = about key (tidings ms) := by
      have hordered := h.inOrder rfl rfl o (hsound.registered o ho) key
      rw [hglobal, Observer.owed_of_wants hwants] at hordered
      exact hordered
    rw [hheard]
    exact ⟨h.path.wellTold hsound hnone hfinal hloud, created_iff, turns_eq hloud, destroyed_iff⟩
  called _ ho := h.path.newsTo ho
  relayed := h.relayed rfl rfl

end SipDialogs
